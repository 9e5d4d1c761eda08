import CapnpDeno.Rpc.Client.WireCalls
import CapnpDeno.Rpc.Server.OutboundCalls
import CapnpDeno.Rpc.Session.SessionCalls

/-!
# The Finish of generated calls

A method of an emitted client calls `callRaw` of its transport, and finishes the question once it
has come back with results, if `onQuestionId` has told its id.  How many Finish frames that makes
for the question depends on the transport: the wire client leaves the Finish to the method, the
session client sends its own before, and the server's client sends its own and tells no id.  None of
the three sends any for an exception.
-/

namespace CapnpDeno

/-! ## RpcWireClient -/

def WireCall.hasSettled (call : WireCall) : Bool :=
  match call.stage with
  | .settled _ => true
  | _ => false

namespace WireCall

variable {call : WireCall} {message : RpcReturnMessage}

theorem stage_of_hasSettled (settled : call.hasSettled = true) :
    ∃ result, call.stage = .settled result := by
  unfold WireCall.hasSettled at settled
  split at settled
  · next result stage => exact ⟨result, stage⟩
  · cases settled

theorem promise_of_answers (got : call.answers = [message]) :
    call.promise = some (.ok message) := by
  unfold answers at got
  split at got
  · next answer promise =>
    cases got
    exact promise
  · cases got

theorem not_isFinish (method : call.isMethod = true) : call.isFinish = false := by
  unfold isMethod at method
  unfold isFinish
  split at method
  · next operation => rw [operation]
  · cases method

end WireCall

namespace RpcWireClient

variable {options : RpcWireClientOptions} {events : List WireEvent} {i : OperationId}
  {questionId : ℕ} {message : RpcReturnMessage}

/-- In the run an emitted method asks the question, gets the Return and settles; no send fails, and
nothing else finishes the question. -/
structure GeneratedCall (options : RpcWireClientOptions) (events : List WireEvent) (i : OperationId)
    (questionId : ℕ) (message : RpcReturnMessage) : Prop where
  smooth : ∀ event ∈ events, event.smooth = true
  call : (Machine.final step (initial options) events).calls[i]?.any
    (fun call => call.isMethod && call.options.finishes && call.hasSettled) = true
  asked : (historyOf i (Machine.shown step (initial options) events)).asked = [questionId]
  delivered : (historyOf i (Machine.shown step (initial options) events)).delivered = [message]
  alone : ∀ call ∈ (Machine.final step (initial options) events).calls, call.isFinish = true →
    call.question ≠ some questionId

theorem attributed {past : List WireEffect} : ∀ e ∈ past, ∀ frame ∈ e.history.finishes,
    frame.isFinishOf questionId = true → e.about.isSome = true := by
  intro e _ frame sent _
  cases e with
  | sentFinish => rfl
  | allocated | recorded | sent | handedOver | arrived | released | delivered | settled | threw
  | closed => cases sent

/-- The question belongs to one operation. -/
theorem Waits.alone {s : RpcWireClient} {call : WireCall} (waits : Waiting s)
    (found : s.calls[i]? = some call) (asked : call.questionId = some questionId)
    (alone : ∀ call ∈ s.calls, call.isFinish = true → call.question ≠ some questionId) (j : ℕ)
    (other : WireCall) (there : s.calls[j]? = some other)
    (question : other.question = some questionId) : j = i := by
  have asks : other.isFinish = false := Bool.eq_false_iff.2 fun finish =>
    alone other (List.mem_of_getElem? there) finish question
  rw [WireCall.question_of_asking asks] at question
  exact waits.distinct j i other call questionId there found question asked

/-- The method sends the only Finish, and only after results. -/
theorem GeneratedCall.finishCount (generated : GeneratedCall options events i questionId message) :
    CallHistory.finishCount WireEffect.history questionId
      (Machine.shown step (initial options) events) =
      if message.isResults then 1 else 0 := by
  obtain ⟨waits, told⟩ := run_told True options events fun _ => generated.smooth
  obtain ⟨call, found, shape⟩ := (Option.any_eq_true _ _).1 generated.call
  rw [Bool.and_eq_true, Bool.and_eq_true] at shape
  obtain ⟨⟨method, finishes⟩, settled⟩ := shape
  have own := told.1 i call found
  have identified : call.questionId = some questionId :=
    Option.toList_eq_singleton_iff.1 (own.asked.symm.trans generated.asked)
  have promise := WireCall.promise_of_answers (own.delivered.symm.trans generated.delivered)
  have asks := WireCall.not_isFinish method
  have question := (WireCall.question_of_asking asks).trans identified
  rw [told.finishCount (fun _ _ own => own.own) found question
    (Waits.alone waits found identified generated.alone)
    attributed]
  obtain ⟨result, stage⟩ := WireCall.stage_of_hasSettled settled
  have stands := own.stands
  rw [stage] at stands
  obtain ⟨-, -, unsettled⟩ | ⟨-, sent⟩ := stands trivial asks
  · cases unsettled.symm.trans promise
  · rw [WireCall.owes_method promise method, finishes, Bool.true_and] at sent
    exact sent

end RpcWireClient

/-! ## SessionRpcClientTransport -/

def SessionCall.hasSettled (call : SessionCall) : Bool :=
  match call.stage with
  | .settled _ => true
  | _ => false

namespace SessionCall

variable {call : SessionCall} {message : RpcReturnMessage}

theorem stage_of_hasSettled (settled : call.hasSettled = true) :
    ∃ result, call.stage = .settled result := by
  unfold hasSettled at settled
  split at settled
  · next result stage => exact ⟨result, stage⟩
  · cases settled

theorem isFinish_of_isMethod (method : call.isMethod = true) : call.isFinish = false := by
  obtain ⟨capabilityIndex, decodeError, operation⟩ := operation_of_isMethod method
  unfold isFinish
  rw [operation]

theorem length_autoFinish {questionId : ℕ} (identified : call.questionId = some questionId) :
    call.autoFinish.length = call.owes.toNat := by
  unfold autoFinish
  rw [identified]
  cases call.owes <;> rfl

theorem owes_answered (unpipelined : ∀ capabilityIndex, call.operation ≠
      .callRawPipelined capabilityIndex)
    (promise : call.promise = some (.ok message)) :
    call.owes = (call.options.finishes && message.isResults && !message.noFinishNeeded) := by
  unfold owes
  split
  · next operation => exact absurd operation (unpipelined _)
  · rw [promise]

theorem owes_method (method : call.isMethod = true) (promise : call.promise = some (.ok message)) :
    call.owes = (call.options.finishes && message.isResults && !message.noFinishNeeded) := by
  refine owes_answered (fun _ operation => ?_) promise
  unfold isMethod at method
  rw [operation] at method
  cases method

theorem succeeds_answered (promise : call.promise = some (.ok message)) :
    call.succeeds = message.isResults := by
  unfold succeeds answers
  rw [promise]
  exact Bool.or_false _

end SessionCall

namespace SessionRpcClientTransport

variable {options : SessionRpcClientTransportOptions} {events : List SessionEvent} {i : OperationId}
  {questionId : ℕ} {message : RpcReturnMessage}

/-- In the run an emitted method asks the question, gets the Return and settles; nothing fails, and
nothing else finishes the question. -/
structure GeneratedCall (options : SessionRpcClientTransportOptions) (events : List SessionEvent)
    (i : OperationId) (questionId : ℕ) (message : RpcReturnMessage) : Prop where
  smooth : ∀ event ∈ events, event.smooth = true
  call : (Machine.final step (initial options) events).calls[i]?.any
    (fun call => call.isMethod && call.options.finishes && call.hasSettled) = true
  asked : (historyOf i (Machine.shown step (initial options) events)).asked = [questionId]
  delivered : (historyOf i (Machine.shown step (initial options) events)).delivered = [message]
  alone : ∀ call ∈ (Machine.final step (initial options) events).calls, call.isFinish = true →
    call.question ≠ some questionId

theorem attributed {past : List SessionEffect} : ∀ e ∈ past, ∀ frame ∈ e.history.finishes,
    frame.isFinishOf questionId = true → e.about.isSome = true := by
  intro e _ frame sent _
  cases e with
  | emittedFinish => rfl
  | allocated | recorded | emitted | handedOver | unsent | registered | arrived | released
  | delivered | settled | threw
    | closed => cases sent

/-- The question belongs to one operation. -/
theorem Waits.alone {s : SessionRpcClientTransport} {call : SessionCall} (waits : Waiting s)
    (found : s.calls[i]? = some call) (asked : call.questionId = some questionId)
    (alone : ∀ call ∈ s.calls, call.isFinish = true → call.question ≠ some questionId) (j : ℕ)
    (other : SessionCall) (there : s.calls[j]? = some other)
    (question : other.question = some questionId) : j = i := by
  have asks : other.isFinish = false := Bool.eq_false_iff.2 fun finish =>
    alone other (List.mem_of_getElem? there) finish question
  rw [SessionCall.question_of_asking asks] at question
  exact waits.distinct j i other call questionId there found question asked

/-- After results the method sends a Finish, and `callRaw` has sent its own before if the Return
needs one. -/
theorem GeneratedCall.finishCount (generated : GeneratedCall options events i questionId message) :
    CallHistory.finishCount SessionEffect.history questionId
      (Machine.shown step (initial options) events) =
      if message.isResults then (!message.noFinishNeeded).toNat + 1 else 0 := by
  have starting : ∀ event ∈ events, event.starts = true := fun event mem =>
    starts_of_smooth (generated.smooth event mem)
  obtain ⟨waits, told⟩ := run_told True True options events (fun _ => starting) fun _ =>
    generated.smooth
  obtain ⟨call, found, shape⟩ := (Option.any_eq_true _ _).1 generated.call
  rw [Bool.and_eq_true, Bool.and_eq_true] at shape
  obtain ⟨⟨method, finishes⟩, settled⟩ := shape
  have own : call.Told True True (historyOf i (Machine.shown step (initial options) events)) :=
    told.1 i call found
  have identified : call.questionId = some questionId :=
    Option.toList_eq_singleton_iff.1 (own.asked.symm.trans generated.asked)
  have promise := SessionCall.promise_of_answers (own.delivered.symm.trans generated.delivered)
  have question :=
    (SessionCall.question_of_asking (SessionCall.isFinish_of_isMethod method)).trans identified
  have owes := SessionCall.owes_method method promise
  have auto := SessionCall.length_autoFinish identified
  rw [finishes, Bool.true_and] at owes
  rw [told.finishCount (fun _ _ own _ => own.own) found question
    (Waits.alone waits found identified generated.alone)
    attributed]
  obtain ⟨result, stage⟩ := SessionCall.stage_of_hasSettled settled
  have stands := own.stands
  rw [stage] at stands
  change if call.returned then _ else _ at stands
  split_ifs at stands with returned
  · obtain ⟨-, before, -, exact, -, sent⟩ := stands
    have results : message.isResults = true :=
      (SessionCall.succeeds_answered promise).symm.trans ((own.returns returned).2 trivial)
    have after : call.methodFinish.length = 1 := by
      unfold SessionCall.methodFinish
      rw [identified]
      rfl
    rw [sent trivial, exact trivial, List.length_append, auto, after, owes, results]
    rfl
  · obtain ⟨ended, fails⟩ := stands
    have failure : message.isResults = false :=
      (SessionCall.succeeds_answered promise).symm.trans (fails trivial method finishes)
    rw [failure, Bool.false_and] at owes
    rw [owes] at auto
    rw [failure]
    obtain ⟨-, -, unsettled, -⟩ | ⟨-, -, sent⟩ := (SessionCall.ended_method method).1 ended
    · cases unsettled.symm.trans promise
    · rw [sent trivial]
      exact auto

end SessionRpcClientTransport

/-! ## RpcServerOutboundClient -/

namespace RpcServerOutboundClient

variable {start : ℕ} {events : List OutboundEvent} {i : CallId} {questionId : ℕ}
  {message : RpcReturnMessage}

/-- The Finish of an emitted method, for the question whose id it has been told. -/
def generatedFinish (options : RpcClientCallOptions) (told : Option ℕ) : List ClientFrame :=
  if options.finishes then told.toList.map fun questionId =>
    finishFrame questionId (options.finish.getD .default)
  else []

/-- `callRaw` of this client never calls `onQuestionId`. -/
def toldQuestionId : Option ℕ := none

/-- In the run a call asks the question, gets the Return and settles; no send fails, and no Finish
for the question comes from outside. -/
structure GeneratedCall (start : ℕ) (events : List OutboundEvent) (i : CallId) (questionId : ℕ)
    (message : RpcReturnMessage) : Prop where
  smooth : ∀ event ∈ events, event.smooth = true
  call : (Machine.final step (initial start) events).calls[i]?.any
    (fun call => call.questionId = questionId && call.options.finishes && call.stage.over) = true
  delivered : (historyOf i (Machine.shown step (initial start) events)).delivered = [message]
  alone : ∀ e ∈ Machine.shown step (initial start) events, e.about = none →
    ∀ frame ∈ e.history.finishes, frame.isFinishOf questionId = false

theorem promise_of_answers {call : OutboundCall} (got : call.answers = [message]) :
    call.promise = some (.ok message) := by
  unfold OutboundCall.answers at got
  split at got
  · next answer promise =>
    cases got
    exact promise
  · cases got

/-- The question belongs to one call. -/
theorem Registered.alone {s : RpcServerOutboundClient} {call : OutboundCall}
    (registered : Registered start s) (found : s.calls[i]? = some call)
    (asked : call.questionId = questionId) (j : CallId) (other : OutboundCall)
    (there : s.calls[j]? = some other) (question : some other.questionId = some questionId) :
    j = i := by
  have first := registered.numbered i call found
  have second := registered.numbered j other there
  have same := Option.some.inj question
  exact Nat.add_left_cancel (second.symm.trans (same.trans (asked.symm.trans first)))

theorem attributed_of_alone {past : List OutboundEffect}
    (alone : ∀ e ∈ past, e.about = none → ∀ frame ∈ e.history.finishes,
      frame.isFinishOf questionId = false) :
    ∀ e ∈ past, ∀ frame ∈ e.history.finishes, frame.isFinishOf questionId = true →
    e.about.isSome = true := by
  intro e mem frame sent finish
  refine Option.isSome_iff_ne_none.2 fun none => ?_
  cases (alone e mem none frame sent).symm.trans finish

/-- The call sends its Finish after results that need one, and the method none. -/
theorem GeneratedCall.finishCount (generated : GeneratedCall start events i questionId message) :
    CallHistory.finishCount OutboundEffect.history questionId
      (Machine.shown step (initial start) events) =
      if message.isResults && !message.noFinishNeeded then 1 else 0 := by
  have opening : ∀ event ∈ events, event.opens = true := fun event mem => by
    have smooth := generated.smooth event mem
    cases event with
    | close => cases smooth
    | callRaw | sendSettles | timeout | inbound | resume | finishSettles | finish | release => rfl
  obtain ⟨registered, told⟩ := run_finishing True True start events (fun _ => opening) fun _ =>
    generated.smooth
  obtain ⟨call, found, shape⟩ := (Option.any_eq_true _ _).1 generated.call
  rw [Bool.and_eq_true, Bool.and_eq_true, decide_eq_true_iff] at shape
  obtain ⟨⟨asked, finishes⟩, settled⟩ := shape
  have own : call.Finishes True True (historyOf i (Machine.shown step (initial start) events)) :=
    told.1 i call found
  have promise := promise_of_answers (own.delivered.symm.trans generated.delivered)
  rw [told.finishCount (fun _ _ own _ sent => ⟨_, rfl, own.own sent⟩) found (congrArg some asked)
    (registered.alone found asked) (attributed_of_alone generated.alone)]
  have auto : call.autoFinish.length = if message.isResults && !message.noFinishNeeded then 1
      else 0 := by
    rw [autoFinish_of_promise promise]
    change (if call.options.finishes && message.isResults && !message.noFinishNeeded then _
      else _ : List _).length = _
    rw [finishes, Bool.true_and]
    split_ifs <;> rfl
  have stands := own.stands
  cases stage : call.stage with
  | settled result =>
    rw [stage] at stands
    obtain ⟨-, -, unanswered⟩ | ⟨-, -, sent, -⟩ := stands
    · cases (unanswered trivial).symm.trans (own.delivered.symm.trans generated.delivered)
    · rw [sent trivial]
      exact auto
  | sending | waiting | finishing =>
    rw [stage] at settled
    cases settled

end RpcServerOutboundClient

/-! ## One Finish for each call -/

/-- A generated call that has gone through is finished as its Return demands just in these cases:
over the wire client if the answer is results that need a Finish or a failure that needs none, over
the session client if it is a failure that needs none, and over the server's client if it is results
or needs none. -/
theorem generated_calls_finished (i questionId : ℕ) (message : RpcReturnMessage) :
    (∀ options events, RpcWireClient.GeneratedCall options events i questionId message →
      (CallHistory.finishCount WireEffect.history questionId
          (Machine.shown RpcWireClient.step (.initial options) events) = finishesDue [message] ↔
        message.isResults = !message.noFinishNeeded)) ∧
    (∀ options events,
      SessionRpcClientTransport.GeneratedCall options events i questionId message →
      (CallHistory.finishCount SessionEffect.history questionId
          (Machine.shown SessionRpcClientTransport.step (.initial options) events) =
            finishesDue [message] ↔
        message.isResults = false ∧ message.noFinishNeeded = true)) ∧
    ∀ start events, RpcServerOutboundClient.GeneratedCall start events i questionId message →
      (CallHistory.finishCount OutboundEffect.history questionId
            (Machine.shown RpcServerOutboundClient.step (.initial start) events) +
          (RpcServerOutboundClient.generatedFinish .default
            RpcServerOutboundClient.toldQuestionId).length =
          finishesDue [message] ↔
        message.isResults = true ∨ message.noFinishNeeded = true) := by
  refine ⟨fun options events generated => ?_, fun options events generated =>
    ?_, fun start events generated => ?_⟩
  · rw [generated.finishCount, finishesDue_cons]
    cases message.isResults <;> cases message.noFinishNeeded <;> decide
  · rw [generated.finishCount, finishesDue_cons]
    cases message.isResults <;> cases message.noFinishNeeded <;> decide
  · rw [generated.finishCount, finishesDue_cons]
    cases message.isResults <;> cases message.noFinishNeeded <;> decide

def generatedOptions : RpcClientCallOptions :=
  { RpcClientCallOptions.default with interfaceId := some 7 }

def sessionOptions : SessionRpcClientTransportOptions := ⟨7, none, none, none, false⟩

/-- The Return of question 1. -/
def resultsReturn (noFinishNeeded : Bool) : RpcReturnMessage :=
  ⟨1, .results (some []) [], false, noFinishNeeded⟩

def exceptionReturn (noFinishNeeded : Bool) : RpcReturnMessage :=
  ⟨1, .exception "boom", false, noFinishNeeded⟩

/-- A generated call over the wire client that gets the Return. -/
def wireGenerated (message : RpcReturnMessage) : List WireEvent :=
  [.start (.method 0 none) generatedOptions, .startSettles none, .resume 0 none, .handOff 0,
    .sendSettles 0 none,
    .inbound (.ret message), .resume 0 none, .resume 0 none, .sendSettles 0 none]

/-- A generated call over the session client that gets the Return. -/
def sessionGenerated (message : RpcReturnMessage) : List SessionEvent :=
  [.start (.method 0 none) generatedOptions, .resume 0 none, .startSettles 0 none,
    .emitSettles 0 none,
    .flushSettles 0 none, .frame (.ret message), .pump, .resume 0 none, .startSettles 0 none,
    .emitSettles 0 none,
    .flushSettles 0 none, .resume 0 none, .resume 0 none, .startSettles 0 none, .emitSettles 0 none,
    .flushSettles 0 none]

/-- A generated call over the server's client that gets the Return. -/
def outboundGenerated (message : RpcReturnMessage) : List OutboundEvent :=
  [.callRaw 0 generatedOptions none, .sendSettles 0 none, .inbound (.ret message)
    (some 0), .resume 0, .finishSettles 0]

theorem generated_calls_finished_once :
    CallHistory.finishCount WireEffect.history 1
        (Machine.shown RpcWireClient.step (.initial .default)
          (wireGenerated (resultsReturn false))) = 1 ∧
      CallHistory.finishCount SessionEffect.history 1
        (Machine.shown SessionRpcClientTransport.step (.initial sessionOptions)
          (sessionGenerated (exceptionReturn true))) = 0 ∧
      CallHistory.finishCount OutboundEffect.history 1
          (Machine.shown RpcServerOutboundClient.step (.initial 1)
            (outboundGenerated (resultsReturn false))) +
        (RpcServerOutboundClient.generatedFinish .default
          RpcServerOutboundClient.toldQuestionId).length = 1 := by
  obtain ⟨wire, -, outbound⟩ := generated_calls_finished 0 1 (resultsReturn false)
  obtain ⟨-, session, -⟩ := generated_calls_finished 0 1 (exceptionReturn true)
  refine ⟨(wire .default (wireGenerated (resultsReturn false)) ?_).2 rfl,
    (session sessionOptions (sessionGenerated (exceptionReturn true)) ?_).2 ⟨rfl, rfl⟩,
    (outbound 1 (outboundGenerated (resultsReturn false)) ?_).2 (.inl rfl)⟩
  · exact ⟨by decide, by decide, by decide, by decide, by decide⟩
  · exact ⟨by decide, by decide, by decide, by decide, by decide⟩
  · exact ⟨by decide, by decide, by decide, by decide⟩

/-- Over the session client results are finished twice, over every client an exception not at
all. -/
theorem generated_calls_doubled_and_missed :
    (SessionRpcClientTransport.GeneratedCall sessionOptions
      (sessionGenerated (resultsReturn false)) 0 1
        (resultsReturn false) ∧
      CallHistory.finishCount SessionEffect.history 1
        (Machine.shown SessionRpcClientTransport.step (.initial sessionOptions)
          (sessionGenerated (resultsReturn false))) = 2) ∧
    (RpcWireClient.GeneratedCall .default (wireGenerated (exceptionReturn false)) 0 1
      (exceptionReturn false) ∧
      CallHistory.finishCount WireEffect.history 1
        (Machine.shown RpcWireClient.step (.initial .default)
          (wireGenerated (exceptionReturn false))) = 0) ∧
    RpcServerOutboundClient.GeneratedCall 1 (outboundGenerated (exceptionReturn false)) 0 1
      (exceptionReturn false) ∧
      CallHistory.finishCount OutboundEffect.history 1
        (Machine.shown RpcServerOutboundClient.step (.initial 1)
          (outboundGenerated (exceptionReturn false))) = 0 := by
  refine ⟨⟨?_, by decide⟩, ⟨?_, by decide⟩, ?_, by decide⟩
  · exact ⟨by decide, by decide, by decide, by decide, by decide⟩
  · exact ⟨by decide, by decide, by decide, by decide, by decide⟩
  · exact ⟨by decide, by decide, by decide, by decide⟩

end CapnpDeno
