import CapnpDeno.Rpc.Client.GeneratedCalls
import CapnpDeno.Rpc.Server.FinishedQuestions

/-!
# The Finish of a call

The session client and the server's client finish a question by themselves once its call has
settled, unless the caller says otherwise.  They do so after a wait that has failed and after
results that need it, and not after an exception, for which the bridge at the other end waits as
well.
-/

namespace CapnpDeno

/-- A Finish is sent after a wait that has failed, and after results that need one. -/
def sendsFinish : List RpcReturnMessage → Bool
  | [] => true
  | message :: _ => message.isResults && !message.noFinishNeeded

theorem sendsFinish_answer (message : RpcReturnMessage) (messages : List RpcReturnMessage) :
    sendsFinish (message :: messages) = (message.isResults && !message.noFinishNeeded) := rfl

/-! ## SessionRpcClientTransport -/

/-- A `callRaw` or a `bootstrap`. -/
def SessionCall.asks (call : SessionCall) : Bool :=
  match call.operation with
  | .bootstrap | .callRaw _ => true
  | _ => false

namespace SessionCall

variable {call : SessionCall} {messages : List RpcReturnMessage}

theorem asks_cases (own : call.asks = true) :
    call.isMethod = false ∧ call.isFinish = false ∧
      ∀ capabilityIndex, call.operation ≠ .callRawPipelined capabilityIndex := by
  unfold asks at own
  unfold isMethod isFinish
  cases operation : call.operation with
  | bootstrap | callRaw => exact ⟨rfl, rfl, nofun⟩
  | callRawPipelined | method | finish =>
    rw [operation] at own
    cases own

theorem owes_asks (own : call.asks = true) (finishes : call.options.finishes = true)
    (got : call.answers = messages) : call.owes = sendsFinish messages := by
  obtain ⟨-, -, unpipelined⟩ := asks_cases own
  subst got
  cases promise : call.promise with
  | none =>
    unfold owes answers
    rw [promise]
    split
    · next operation => exact absurd operation (unpipelined _)
    · exact finishes
  | some outcome =>
    cases outcome with
    | error error =>
      unfold owes answers
      rw [promise]
      split
      · next operation => exact absurd operation (unpipelined _)
      · exact finishes
    | ok message =>
      rw [owes_answered unpipelined promise, finishes, Bool.true_and]
      unfold answers
      rw [promise]
      rfl

end SessionCall

namespace SessionRpcClientTransport

variable {options : SessionRpcClientTransportOptions} {events : List SessionEvent} {i : OperationId}
  {questionId : ℕ} {messages : List RpcReturnMessage}

/-- In the run a `callRaw` or `bootstrap` that finishes by itself has handed over its frame, has got
the Returns (one, or none if its wait has failed) and has settled; the session has started, and
nothing else finishes the question. -/
structure SettledCall (options : SessionRpcClientTransportOptions) (events : List SessionEvent)
    (i : OperationId) (questionId : ℕ) (messages : List RpcReturnMessage) : Prop where
  starts : ∀ event ∈ events, event.starts = true
  call : (Machine.final step (initial options) events).calls[i]?.any
    (fun call => call.asks && call.options.finishes && call.hasSettled) = true
  asked : (historyOf i (Machine.shown step (initial options) events)).asked = [questionId]
  handedOver : (historyOf i (Machine.shown step (initial options) events)).handedOver = true
  delivered : (historyOf i (Machine.shown step (initial options) events)).delivered = messages
  alone : ∀ call ∈ (Machine.final step (initial options) events).calls, call.isFinish = true →
    call.question ≠ some questionId

theorem SettledCall.finishCount (settled : SettledCall options events i questionId messages) :
    CallHistory.finishCount SessionEffect.history questionId
      (Machine.shown step (initial options) events) =
      (sendsFinish messages).toNat := by
  obtain ⟨waits, told⟩ := run_told True False options events (fun _ => settled.starts) False.elim
  obtain ⟨call, found, shape⟩ := (Option.any_eq_true _ _).1 settled.call
  rw [Bool.and_eq_true, Bool.and_eq_true] at shape
  obtain ⟨⟨asks, finishes⟩, ended⟩ := shape
  obtain ⟨method, explicit, -⟩ := SessionCall.asks_cases asks
  have own : call.Told True False (historyOf i (Machine.shown step (initial options) events)) :=
    told.1 i call found
  have identified : call.questionId = some questionId :=
    Option.toList_eq_singleton_iff.1 (own.asked.symm.trans settled.asked)
  have question := (SessionCall.question_of_asking explicit).trans identified
  have auto := SessionCall.length_autoFinish identified
  rw [SessionCall.owes_asks asks finishes (own.delivered.symm.trans settled.delivered)] at auto
  rw [told.finishCount (fun _ _ own _ => own.own) found question
    (Waits.alone waits found identified settled.alone)
    attributed, ← auto]
  obtain ⟨result, stage⟩ := SessionCall.stage_of_hasSettled ended
  have stands := own.stands
  rw [stage] at stands
  change if call.returned then _ else _ at stands
  split_ifs at stands with returned
  · cases method.symm.trans (own.method returned)
  · have ended := stands.1
    unfold SessionCall.Ended at ended
    split at ended
    · next operation =>
      unfold SessionCall.isFinish at explicit
      rw [operation] at explicit
      cases explicit
    · obtain ⟨unsent, -⟩ | ⟨-, -, sent⟩ := ended
      · cases unsent.symm.trans settled.handedOver
      · exact congrArg List.length (sent trivial)

end SessionRpcClientTransport

/-! ## RpcServerOutboundClient -/

namespace RpcServerOutboundClient

variable {start : ℕ} {events : List OutboundEvent} {i : CallId} {questionId : ℕ}
  {messages : List RpcReturnMessage}

/-- In the run a call that finishes by itself has handed over its frame, has got the Returns (one,
or none if its wait has failed) and has settled; the transport stays open, and no Finish for the
question comes from outside. -/
structure SettledCall (start : ℕ) (events : List OutboundEvent) (i : CallId) (questionId : ℕ)
    (messages : List RpcReturnMessage) : Prop where
  opens : ∀ event ∈ events, event.opens = true
  call : (Machine.final step (initial start) events).calls[i]?.any
    (fun call => call.questionId = questionId && call.options.finishes && call.stage.over) = true
  handedOver : (historyOf i (Machine.shown step (initial start) events)).handedOver = true
  delivered : (historyOf i (Machine.shown step (initial start) events)).delivered = messages
  alone : ∀ e ∈ Machine.shown step (initial start) events, e.about = none →
    ∀ frame ∈ e.history.finishes, frame.isFinishOf questionId = false

theorem length_autoFinish {call : OutboundCall} (finishes : call.options.finishes = true)
    (settled : call.promise.isSome = true) (got : call.answers = messages) :
    call.autoFinish.length = (sendsFinish messages).toNat := by
  obtain ⟨outcome, promise⟩ := Option.isSome_iff_exists.1 settled
  subst got
  rw [autoFinish_of_promise promise]
  unfold OutboundCall.answers
  rw [promise]
  cases outcome with
  | error error =>
    change (if call.options.finishes then _ else _ : List ClientFrame).length = 1
    rw [if_pos finishes]
    rfl
  | ok message =>
    change (if call.options.finishes && message.isResults && !message.noFinishNeeded then _
      else _ : List _).length = (message.isResults && !message.noFinishNeeded).toNat
    rw [finishes, Bool.true_and]
    split_ifs with needed
    · rw [needed]
      rfl
    · rw [Bool.eq_false_iff.2 needed]
      rfl

theorem SettledCall.finishCount (settled : SettledCall start events i questionId messages) :
    CallHistory.finishCount OutboundEffect.history questionId
      (Machine.shown step (initial start) events) =
      (sendsFinish messages).toNat := by
  obtain ⟨registered, told⟩ :=
    run_finishing True False start events (fun _ => settled.opens) False.elim
  obtain ⟨call, found, shape⟩ := (Option.any_eq_true _ _).1 settled.call
  rw [Bool.and_eq_true, Bool.and_eq_true, decide_eq_true_iff] at shape
  obtain ⟨⟨asked, finishes⟩, ended⟩ := shape
  have own : call.Finishes True False (historyOf i (Machine.shown step (initial start) events)) :=
    told.1 i call found
  rw [told.finishCount (fun _ _ own _ sent => ⟨_, rfl, own.own sent⟩) found (congrArg some asked)
    (registered.alone found asked) (attributed_of_alone settled.alone)]
  have stands := own.stands
  cases stage : call.stage with
  | settled result =>
    rw [stage] at stands
    obtain ⟨unsent, -⟩ | ⟨-, -, sent, promise⟩ := stands
    · cases unsent.symm.trans settled.handedOver
    · rw [sent trivial]
      exact length_autoFinish finishes promise (own.delivered.symm.trans settled.delivered)
  | sending | waiting | finishing =>
    rw [stage] at ended
    cases ended

end RpcServerOutboundClient

/-! ## Composed with the bridge -/

/-- The number of Finish frames is the one due, and the bridge that got them has no entry left, just
if the wait has failed or the Return is results that need a Finish. -/
theorem finished_iff {frameError : RpcReturnMessage → Option Thrown}
    {options : RpcServerBridgeOptions} {first : List Event} {asking : Event} {rest : List Event}
    {questionId finishes : ℕ} {messages : List RpcReturnMessage}
    (sent : finishes = (sendsFinish messages).toNat)
    (asked : RpcServerBridge.Asked frameError options first asking rest questionId)
    (received : rest.countP (·.finishes questionId) = finishes) :
    (finishes = finishesDue messages ∧
      (Machine.final (RpcServerBridge.step frameError) (.initial options)
        (first ++ asking :: rest)).answerTable.lookup questionId = none) ↔ sendsFinish messages =
          true := by
  rw [asked.entry, received, sent]
  cases messages with
  | nil => exact iff_of_true ⟨rfl, Nat.one_pos⟩ rfl
  | cons message messages =>
    rw [sendsFinish_answer, finishesDue_cons]
    cases message.isResults <;> cases message.noFinishNeeded <;> decide

/-- A call that finishes by itself has sent the Finish that is due, and left no entry at the bridge
that serves it, just if its wait has failed or its Return is results that need a Finish. -/
theorem calls_finished_once (i questionId : ℕ) (messages : List RpcReturnMessage) :
    (∀ options events,
      SessionRpcClientTransport.SettledCall options events i questionId messages →
      ∀ frameError bridgeOptions first asking rest,
        let finishes := CallHistory.finishCount SessionEffect.history questionId
          (Machine.shown SessionRpcClientTransport.step (.initial options) events)
        RpcServerBridge.Asked frameError bridgeOptions first asking rest questionId →
        rest.countP (·.finishes questionId) = finishes →
        ((finishes = finishesDue messages ∧
          (Machine.final (RpcServerBridge.step frameError) (.initial bridgeOptions)
            (first ++ asking :: rest)).answerTable.lookup questionId = none) ↔
              sendsFinish messages = true)) ∧
    ∀ start events, RpcServerOutboundClient.SettledCall start events i questionId messages →
      ∀ frameError bridgeOptions first asking rest,
        let finishes := CallHistory.finishCount OutboundEffect.history questionId
          (Machine.shown RpcServerOutboundClient.step (.initial start) events)
        RpcServerBridge.Asked frameError bridgeOptions first asking rest questionId →
        rest.countP (·.finishes questionId) = finishes →
        ((finishes = finishesDue messages ∧
          (Machine.final (RpcServerBridge.step frameError) (.initial bridgeOptions)
            (first ++ asking :: rest)).answerTable.lookup questionId = none) ↔
              sendsFinish messages = true) := by
  refine ⟨?_, ?_⟩
  · intro options events settled frameError bridgeOptions first asking rest finishes asked received
    exact finished_iff settled.finishCount asked received
  · intro start events settled frameError bridgeOptions first asking rest finishes asked received
    exact finished_iff settled.finishCount asked received

/-- A `callRaw` over the session client that gets the Return. -/
def sessionCall (message : RpcReturnMessage) : List SessionEvent :=
  [.start (.callRaw 0) generatedOptions, .resume 0 none, .startSettles 0 none, .emitSettles 0 none,
    .flushSettles 0 none, .frame (.ret message), .pump, .resume 0 none, .startSettles 0 none,
    .emitSettles 0 none, .flushSettles 0 none]

/-- The bridge registers a capability, and then gets a call of it with the question id 1. -/
def registration : List Event := [.exportCapability ⟨7, none⟩ none 1]

def asking : Event := .handleFrame (.call ⟨1, 7, .importedCap 0⟩ 8)

theorem calls_finished_once_results :
    (CallHistory.finishCount SessionEffect.history 1
        (Machine.shown SessionRpcClientTransport.step (.initial sessionOptions)
          (sessionCall (resultsReturn false))) = 1 ∧
      CallHistory.finishCount OutboundEffect.history 1
        (Machine.shown RpcServerOutboundClient.step (.initial 1)
          (outboundGenerated (resultsReturn false))) = 1) ∧
    (Machine.final (RpcServerBridge.step fun _ => none) (.initial .default)
      (registration ++ asking :: [.handlerSettles 0 (.results ⟨none, none, none, none⟩),
        .completeCall 0, .handleFrame (.finish ⟨1, true⟩)])).answerTable.lookup 1 = none := by
  obtain ⟨session, outbound⟩ := calls_finished_once 0 1 [resultsReturn false]
  have asked : RpcServerBridge.Asked (fun _ => none) .default registration asking
      [.handlerSettles 0 (.results ⟨none, none, none, none⟩), .completeCall 0,
        .handleFrame (.finish ⟨1, true⟩)] 1 :=
    ⟨by decide, by decide, by decide, by decide⟩
  have sessionSettled : SessionRpcClientTransport.SettledCall sessionOptions
      (sessionCall (resultsReturn false)) 0 1 [resultsReturn false] :=
    ⟨by decide, by decide, by decide, by decide, by decide, by decide⟩
  have outboundSettled : RpcServerOutboundClient.SettledCall 1
      (outboundGenerated (resultsReturn false)) 0 1
      [resultsReturn false] :=
    ⟨by decide, by decide, by decide, by decide, by decide⟩
  obtain ⟨first, gone⟩ := (session _ _ sessionSettled _ _ _ _ _ asked (by decide)).2 rfl
  obtain ⟨second, -⟩ := (outbound _ _ outboundSettled _ _ _ _ _ asked (by decide)).2 rfl
  exact ⟨⟨first, second⟩, gone⟩

/-- After an exception that needs a Finish neither client sends any, and the entry stays at the
bridge. -/
theorem exceptions_never_finished :
    (SessionRpcClientTransport.SettledCall sessionOptions (sessionCall (exceptionReturn false)) 0 1
        [exceptionReturn false] ∧
      CallHistory.finishCount SessionEffect.history 1
        (Machine.shown SessionRpcClientTransport.step (.initial sessionOptions)
          (sessionCall (exceptionReturn false))) = 0) ∧
    (RpcServerOutboundClient.SettledCall 1 (outboundGenerated (exceptionReturn false)) 0 1
      [exceptionReturn false] ∧
      CallHistory.finishCount OutboundEffect.history 1
        (Machine.shown RpcServerOutboundClient.step (.initial 1)
          (outboundGenerated (exceptionReturn false))) = 0) ∧
    finishesDue [exceptionReturn false] = 1 ∧
    ((Machine.final (RpcServerBridge.step fun _ => none) (.initial .default)
      (registration ++ asking :: [.handlerSettles 0 (.exception "boom" none),
        .completeCall 0])).answerTable.lookup 1).isSome = true := by
  refine ⟨⟨?_, by decide⟩, ⟨?_, by decide⟩, rfl, by decide⟩
  · exact ⟨by decide, by decide, by decide, by decide, by decide,
      by decide⟩
  · exact ⟨by decide, by decide, by decide, by decide, by decide⟩

end CapnpDeno
