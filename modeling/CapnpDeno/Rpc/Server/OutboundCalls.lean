import CapnpDeno.Lib.Fallible
import CapnpDeno.Rpc.Client.CallHistory
import CapnpDeno.Rpc.Server.ReturnRouting

/-!
# Histories of the outbound client's calls

A call of the server has sent the Finish that it owes once it is over, if the transport is open
then.
-/

namespace CapnpDeno

def OutboundEffect.history : OutboundEffect → CallHistory
  | .sent _ (.finish questionId releaseResultCaps requireEarlyCancellation) =>
    ⟨[], false, [], [.finish questionId releaseResultCaps requireEarlyCancellation]⟩
  | .handedOver _ => ⟨[], true, [], []⟩
  | .delivered _ message => ⟨[], false, [message], []⟩
  | _ => 0

/-- The transport is not closed. -/
def OutboundEvent.opens : OutboundEvent → Bool
  | .close => false
  | _ => true

/-- No send fails, and the transport is not closed. -/
def OutboundEvent.smooth : OutboundEvent → Bool
  | .sendSettles _ (some _) | .close => false
  | _ => true

namespace OutboundCall

/-- The Return that the call got. -/
def answers (call : OutboundCall) : List RpcReturnMessage :=
  match call.promise with
  | some (.ok message) => [message]
  | _ => []

/-- The Finish that the call is to send. -/
def autoFinish (call : OutboundCall) : List ClientFrame :=
  if call.promise.any (owesFinish call.options) then
    [finishFrame call.questionId (call.options.finish.getD .default)]
  else []

variable (opens smooth : Prop)

/-- What the history of a call is at a stage. -/
def Stands (call : OutboundCall) (history : CallHistory) : OutboundStage → Prop
  | .sending => history.handedOver = false ∧ history.finishes = []
  | .waiting => history.handedOver = true ∧ history.finishes = []
  | .finishing _ =>
    history.handedOver = true ∧ history.finishes = call.autoFinish ∧ call.promise.isSome = true
  | .settled _ =>
    history.handedOver = false ∧ history.finishes = [] ∧ (smooth → call.answers = []) ∨
      history.handedOver = true ∧ history.finishes <+: call.autoFinish ∧
        (opens → history.finishes = call.autoFinish) ∧ call.promise.isSome = true

/-- The history of a call. -/
structure Finishes (history : CallHistory) (call : OutboundCall) : Prop where
  delivered : history.delivered = call.answers
  stands : call.Stands opens smooth history call.stage

variable {opens smooth : Prop} {call : OutboundCall} {history : CallHistory}

/-- The call sends no Finish but the one that it is to send. -/
theorem Finishes.within (told : call.Finishes opens smooth history) :
    history.finishes <+: call.autoFinish := by
  have stands := told.stands
  cases stage : call.stage with
  | sending | waiting =>
    rw [stage] at stands
    rw [stands.2]
    exact List.nil_prefix
  | finishing =>
    rw [stage] at stands
    rw [stands.2.1]
  | settled =>
    rw [stage] at stands
    obtain ⟨-, silent, -⟩ | ⟨-, within, -⟩ := stands
    · rw [silent]
      exact List.nil_prefix
    · exact within

theorem Finishes.frame (told : call.Finishes opens smooth history) {frame : ClientFrame}
    (sent : frame ∈ history.finishes) : frame =
      finishFrame call.questionId (call.options.finish.getD .default) := by
  have mem := told.within.subset sent
  unfold autoFinish at mem
  split_ifs at mem
  · exact List.mem_singleton.1 mem
  · cases mem

/-- A Finish of the call is for its own question. -/
theorem Finishes.own (told : call.Finishes opens smooth history) {frame : ClientFrame}
    (sent : frame ∈ history.finishes) : frame.isFinishOf call.questionId = true := by
  rw [told.frame sent, isFinishOf_finishFrame]
  exact decide_eq_true rfl

theorem answers_of_awaits (awaits : call.awaits = true) : call.answers = [] := by
  unfold answers
  rw [RpcServerOutboundClient.promise_of_awaits awaits]

/-- The promise of a call that waits is settled. -/
theorem Finishes.settle (told : call.Finishes opens smooth history) (awaits : call.awaits = true)
    (outcome : Except Thrown RpcReturnMessage) :
    ({ call with timer := false, promise := some outcome } : OutboundCall).Finishes opens smooth
      (history + match outcome with
        | .ok message => ⟨[], false, [message], []⟩
        | .error _ => 0) := by
  have kept {added : CallHistory} (silent : added.finishes = []) (quiet : added.handedOver = false)
      {outcome : Except Thrown RpcReturnMessage} (delivered : added.delivered =
        ({ call with timer := false, promise := some outcome } : OutboundCall).answers) :
      ({ call with timer := false, promise := some outcome } : OutboundCall).Finishes opens smooth
        (history + added) := by
    have same : (history + added).finishes = history.finishes := by
      change history.finishes ++ added.finishes = _
      rw [silent, List.append_nil]
    have handed : (history + added).handedOver = history.handedOver := by
      change (history.handedOver || added.handedOver) = _
      rw [quiet, Bool.or_false]
    refine ⟨?_, ?_⟩
    · change history.delivered ++ added.delivered = _
      rw [told.delivered, answers_of_awaits awaits]
      exact delivered
    · have stands := told.stands
      change Stands opens smooth _ _ call.stage
      cases stage : call.stage with
      | sending | waiting =>
        rw [stage] at stands
        exact ⟨handed.trans stands.1, same.trans stands.2⟩
      | finishing | settled =>
        have unanswered := (Bool.and_eq_true_iff.1 awaits).2
        rw [stage] at unanswered
        cases unanswered
  cases outcome with
  | ok message => exact kept rfl rfl rfl
  | error error => exact kept rfl rfl rfl

end OutboundCall

namespace RpcServerOutboundClient

variable {opens smooth : Prop} {s s' : RpcServerOutboundClient} {event : OutboundEvent}
  {calls : List OutboundCall} {past effects : List OutboundEffect} {start : ℕ} {i : CallId}
  {call : OutboundCall}

variable (opens smooth) in
/-- The history of every call. -/
abbrev Finishing (past : List OutboundEffect) (calls : List OutboundCall) : Prop :=
  CallHistory.Logged OutboundEffect.about OutboundEffect.history
    (fun history call => call.Finishes opens smooth history) past calls

/-- The history of a call in the effects. -/
abbrev historyOf (i : CallId) (effects : List OutboundEffect) : CallHistory :=
  CallHistory.of OutboundEffect.about OutboundEffect.history i effects

/-- A waiter gets what its promise is settled with. -/
theorem Finishing.rejectPromise (told : Finishing opens smooth past calls)
    (found : calls[i]? = some call) (awaits : call.awaits = true) (error : Thrown) :
    Finishing opens smooth (past ++ []) (calls.modify i fun call =>
      { call with timer := false, promise := some (.error error) }) := by
  refine told.quiet found nofun nofun fun history own => ?_
  have settled := own.settle awaits (.error error)
  rw [add_zero] at settled
  exact settled

/-- A call comes to its result, and shows nothing else. -/
theorem Finishing.settle (told : Finishing opens smooth past calls) (found : calls[i]? = some call)
    (result : Except Thrown RpcClientCallResult)
    (stands : ∀ history, call.Finishes opens smooth history →
      call.Stands opens smooth history (.settled result)) :
    Finishing opens smooth (past ++ [.settled i result])
      (calls.modify i fun call => { call with stage := .settled result }) := by
  have silent : (OutboundEffect.settled i result).history = 0 := rfl
  refine told.one found rfl fun history own => ?_
  rw [silent, add_zero]
  exact ⟨own.delivered, stands history own⟩

theorem autoFinish_of_promise {outcome : Except Thrown RpcReturnMessage}
    (promise : call.promise = some outcome) :
    call.autoFinish =
      if owesFinish call.options outcome
        then [finishFrame call.questionId (call.options.finish.getD .default)]
      else [] := by
  unfold OutboundCall.autoFinish
  rw [promise]
  rfl

theorem callFrame_ok {questionId capabilityIndex : ℕ} {options : RpcClientCallOptions}
    {frameError : Option Thrown} {frame : ClientFrame}
    (encoded : callFrame questionId capabilityIndex options frameError = .ok frame) :
    ∃ interfaceId target paramsCapTable, frame =
      .call questionId interfaceId target paramsCapTable := by
  unfold callFrame at encoded
  cases interfaceId : options.interfaceId with
  | none =>
    rw [interfaceId] at encoded
    cases encoded
  | some interfaceId' =>
    rw [interfaceId] at encoded
    obtain ⟨checked, within, encoded⟩ := Fallible.bind_eq_ok.1 encoded
    have same : checked = questionId := by
      unfold ensureU32 at within
      split_ifs at within
      exact (Except.ok.inj within).symm
    cases frameError with
    | some error => cases encoded
    | none =>
      rw [same] at encoded
      exact ⟨_, _, _, (Except.ok.inj encoded).symm⟩

/-- The call, closed, with what it shows. -/
theorem finishes_closeCall (registered : Registered start s) (found : s.calls[i]? = some call)
    {history : CallHistory} (told : call.Finishes opens smooth history) (rough : ¬smooth) :
    (closeCall s.pendingQuestions i call).Finishes opens smooth history := by
  have told : OutboundCall.Finishes opens smooth history
      (if s.pendingQuestions.lookup call.questionId = some i then
        { call with timer := false, promise := some (.error transportClosed) }
      else call) := by
    split_ifs with pending
    · obtain ⟨-, other, there, awaits⟩ := (registered.pending _ _).1 pending
      cases found.symm.trans there
      have rejected := told.settle awaits (.error transportClosed)
      rw [add_zero] at rejected
      exact rejected
    · exact told
  unfold closeCall
  -- from here on the promise does not matter
  generalize (if s.pendingQuestions.lookup call.questionId = some i then
    { call with timer := false, promise := some (.error transportClosed) } else call) =
      closing at told ⊢
  have stands := told.stands
  cases stage : closing.stage with
  | sending =>
    rw [stage] at stands
    simp only [stage]
    exact ⟨told.delivered, .inl ⟨stands.1, stands.2, fun smooth => absurd smooth rough⟩⟩
  | waiting | finishing | settled =>
    simp only [stage]
    exact told

/-- What a step adds to the histories. -/
theorem Finishing.moves (told : Finishing opens smooth past s.calls)
    (registered : Registered start s) (open' : opens → s.closed = false)
    (smoothNow : smooth → event.smooth = true) (moves : Moves s event s' effects) :
    Finishing opens smooth (past ++ effects) s'.calls := by
  cases moves with
  | nothing => exact Heap.Logged.silent told (by simp)
  | outside | threw | forwarded => exact Heap.Logged.silent told (by simp [OutboundEffect.about])
  | refused capabilityIndex options frameError error promise refusal =>
    have none : OutboundCall.answers
        ⟨s.nextQuestionId, options, false, promise, .settled (.error error)⟩ = [] := by
      unfold OutboundCall.answers
      cases promise with
      | none => rfl
      | some outcome =>
        cases outcome with
        | error => rfl
        | ok message => exact absurd rfl (refusal message)
    refine Heap.Logged.append told (by simp [OutboundEffect.about]) ?_
    rw [Heap.log_eq_self (by simp [OutboundEffect.about])]
    exact ⟨none.symm, .inl ⟨rfl, rfl, fun _ => none⟩⟩
  | called capabilityIndex options frameError frame encoded =>
    have asks : (OutboundEffect.sent (some s.calls.length) frame).history = 0 := by
      obtain ⟨interfaceId, target, paramsCapTable, rfl⟩ := callFrame_ok encoded
      rfl
    refine Heap.Logged.append told (by simp [OutboundEffect.about]) ?_
    rw [Heap.log_eq_self (by simp [OutboundEffect.about])]
    change OutboundCall.Finishes opens smooth (OutboundEffect.history _ + 0) _
    rw [asks]
    exact ⟨rfl, rfl, rfl⟩
  | handedOver i call found stands =>
    refine told.one found rfl fun history own => ?_
    have standing := own.stands
    rw [stands] at standing
    refine ⟨?_, Bool.or_true _, ?_⟩
    · change history.delivered ++ [] = _
      rw [List.append_nil]
      exact own.delivered
    · change history.finishes ++ [] = []
      rw [List.append_nil]
      exact standing.2
  | sendFailed i call error found stands =>
    have rough : ¬smooth := fun smooth => by cases smoothNow smooth
    have number : call.questionId = start + i := registered.numbered i call found
    have failed {f : OutboundCall → OutboundCall} (promise : (f call).promise = call.promise)
        (stage : (f call).stage = .settled (.error error)) :
        Finishing opens smooth (past ++ [.settled i (.error error)]) (s.calls.modify i f) := by
      have silent : (OutboundEffect.settled i (.error error)).history = 0 := rfl
      refine told.one found rfl fun history own => ?_
      rw [silent, add_zero]
      have standing := own.stands
      rw [stands] at standing
      refine ⟨own.delivered.trans ?_, ?_⟩
      · unfold OutboundCall.answers
        rw [promise]
      · rw [stage]
        exact .inl ⟨standing.1, standing.2, fun smooth => absurd smooth rough⟩
    unfold RpcServerOutboundClient.settle unregisterQuestion
    cases pending : s.pendingQuestions.lookup call.questionId with
    | none => exact failed rfl rfl
    | some j =>
      have here : j = i :=
        Nat.add_left_cancel (((registered.pending _ j).1 pending).1.symm.trans number)
      subst here
      change Finishing opens smooth _ ((s.calls.modify j _).modify j _)
      rw [List.modify_modify_eq]
      exact failed rfl rfl
  | timedOut i call found running =>
    exact told.rejectPromise found (registered.timers i call found running) _
  | withheld ret answers i pending =>
    obtain ⟨-, call, found, awaits⟩ := (registered.pending _ _).1 pending
    exact told.one found rfl fun history own => own.settle awaits (.ok ret)
  | finishing i call outcome found stands promise owes opened =>
    refine told.one found rfl fun history own => ?_
    have standing := own.stands
    rw [stands] at standing
    refine ⟨?_, ?_, ?_, promise ▸ rfl⟩
    · change history.delivered ++ [] = _
      rw [List.append_nil]
      exact own.delivered
    · change (history.handedOver || false) = true
      rw [standing.1]
      rfl
    · change history.finishes ++ [finishFrame call.questionId (call.options.finish.getD .default)] =
        call.autoFinish
      rw [standing.2, autoFinish_of_promise promise, if_pos owes]
      rfl
  | settled i call outcome found stands promise none =>
    refine told.settle found _ fun history own => ?_
    have standing := own.stands
    rw [stands] at standing
    refine .inr ⟨standing.1, ?_, fun opened => ?_, promise ▸ rfl⟩
    · rw [standing.2]
      exact List.nil_prefix
    · rw [standing.2, autoFinish_of_promise promise, if_neg]
      intro owes
      cases (open' opened).symm.trans (none owes)
  | finished i call result found stands =>
    refine told.settle found _ fun history own => ?_
    have standing := own.stands
    rw [stands] at standing
    exact .inr ⟨standing.1, standing.2.1 ▸ List.prefix_refl _, fun _ => standing.2.1, standing.2.2⟩
  | closed opened =>
    refine Heap.Logged.mapIdx told (fun e mem j same =>
      Heap.about_flatten_mapIdx lostRace_about mem same)
      fun i call found own => ?_
    have quiet : ((Heap.log OutboundEffect.about i s.close.2).map OutboundEffect.history).sum =
        0 := by
      have logged : Heap.log OutboundEffect.about i s.close.2 = lostRace i call :=
        Heap.log_flatten_mapIdx lostRace_about found
      rw [logged]
      unfold lostRace
      split <;> rfl
    rw [List.map_append, List.sum_append, quiet, add_zero]
    exact finishes_closeCall registered found own fun smooth => by cases smoothNow smooth

theorem closed_moves (moves : Moves s event s' effects) (opens : event.opens = true) :
    s'.closed = s.closed := by
  cases moves with
  | closed => cases opens
  | nothing | outside | threw | refused | called | handedOver | timedOut | forwarded | withheld
  | finishing | settled
    | finished => rfl
  | sendFailed i call =>
    unfold RpcServerOutboundClient.settle unregisterQuestion
    split <;> rfl

/-- What holds of every run: the questions of its calls, and their histories. -/
theorem run_finishing (opens smooth : Prop) (start : ℕ) (events : List OutboundEvent)
    (opening : opens → ∀ event ∈ events, event.opens = true)
    (smoothly : smooth → ∀ event ∈ events, event.smooth = true) :
    Registered start (Machine.final step (initial start) events) ∧
      Finishing opens smooth (Machine.shown step (initial start) events)
        (Machine.final step (initial start) events).calls := by
  have always : Machine.Always step
      (fun _ event => (opens → event.opens = true) ∧ (smooth → event.smooth = true))
      (initial start) events :=
    Machine.always_of_mem fun event mem _ =>
      ⟨fun on => opening on event mem, fun on => smoothly on event mem⟩
  suffices run : Registered start (Machine.final step (initial start) events) ∧
      (opens → (Machine.final step (initial start) events).closed = false) ∧
        Finishing opens smooth (Machine.shown step (initial start) events)
          (Machine.final step (initial start) events).calls from ⟨run.1, run.2.2⟩
  refine always.history
    (P := fun past s => Registered start s ∧ (opens → s.closed = false) ∧
      Finishing opens smooth past s.calls)
    (fun past s event ⟨opensNow, smoothNow⟩ ⟨registered, opened, told⟩ => ?_)
    ⟨registered_initial start, fun _ => rfl, Heap.logged_nil⟩
  have moves : Moves s event _ _ := moves_step s event
  exact ⟨registered.moves moves, fun on => (closed_moves moves (opensNow on)).trans (opened on),
    told.moves registered opened smoothNow moves⟩

end RpcServerOutboundClient

end CapnpDeno
