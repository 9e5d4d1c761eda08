import CapnpDeno.Lib.Heap
import CapnpDeno.Rpc.Server.Outbound

/-!
# Return routing

What a step of the outbound client can do, and from it which inbound frames reach the session.  The
interceptor knows its own questions by the pending ones alone: a question that timed out or was
answered already is as foreign to it as one of the WASM peer, and a foreign Return that has the id
of a pending question is taken for its own.
-/

namespace CapnpDeno

/-! ## What a step can do -/

/-- The frame that comes in with the event, and the call it answers. -/
def OutboundEvent.arrival : OutboundEvent → Option (InboundMessage × Option CallId)
  | .inbound message answers => some (message, answers)
  | _ => none

/-- The Return that comes in for an outbound call. -/
def OutboundEvent.answering : OutboundEvent → Option (CallId × RpcReturnMessage)
  | .inbound (.ret message) (some i) => some (i, message)
  | _ => none

/-- The frame that comes in and answers no outbound call. -/
def OutboundEvent.unanswering : OutboundEvent → Option InboundMessage
  | .inbound message none => some message
  | _ => none

/-- The call that the effect is about. -/
def OutboundEffect.about : OutboundEffect → Option CallId
  | .sent sender _ => sender
  | .handedOver i => some i
  | .delivered i _ => some i
  | .settled i _ => some i
  | .toSession _ | .threw _ => none

def OutboundEffect.forwarded : OutboundEffect → Option InboundMessage
  | .toSession message => some message
  | _ => none

def OutboundEffect.withheld : OutboundEffect → Option (CallId × RpcReturnMessage)
  | .delivered i message => some (i, message)
  | _ => none

/-- What a call comes to, once its promise is settled. -/
def resultOf (outcome : Except Thrown RpcReturnMessage) : Except Thrown RpcClientCallResult := do
  let resultMessage ← requireRpcReturnResults (← outcome)
  return toRpcCallResult resultMessage resultMessage.contentBytes

/-- The call goes on to send a Finish, if the transport is open. -/
def owesFinish (options : RpcClientCallOptions) : Except Thrown RpcReturnMessage → Bool
  | .error _ => options.finishes
  | .ok message => options.finishes && message.isResults && !message.noFinishNeeded

theorem resultOf_ok (message : RpcReturnMessage) :
    resultOf (.ok message) = (requireRpcReturnResults message >>= fun resultMessage =>
      pure (toRpcCallResult resultMessage resultMessage.contentBytes)) := rfl

namespace RpcServerOutboundClient

variable {s s' : RpcServerOutboundClient} {event : OutboundEvent} {effects : List OutboundEffect}
  {i : CallId} {call : OutboundCall}

theorem resume_eq (i : CallId) (call : OutboundCall) (outcome : Except Thrown RpcReturnMessage) :
    s.resume i call outcome =
      if owesFinish call.options outcome then s.trySendFinish i call (resultOf outcome)
      else s.settle i (resultOf outcome) := by
  cases outcome with
  | error error => rfl
  | ok message =>
    by_cases results : message.isResults = true
    · have required := requireRpcReturnResults_results results
      have owes : owesFinish call.options (.ok message) =
          (call.options.finishes && !message.noFinishNeeded) := by
        unfold owesFinish
        dsimp only
        rw [results, Bool.and_true]
      rw [owes, resultOf_ok, required]
      unfold resume
      dsimp only
      rw [required]
      rfl
    · have failure : message.isResults = false := Bool.eq_false_iff.2 results
      obtain ⟨error, failed⟩ := requireRpcReturnResults_failure failure
      have owes : owesFinish call.options (.ok message) = false := by
        unfold owesFinish
        dsimp only
        rw [failure, Bool.and_false, Bool.false_and]
      rw [owes, resultOf_ok, failed]
      unfold resume
      dsimp only
      rw [failed]
      rfl

/-- What a step does, what allows it, and its effects. -/
inductive Moves (s : RpcServerOutboundClient) : OutboundEvent → RpcServerOutboundClient →
    List OutboundEffect → Prop
  | nothing (event : OutboundEvent) (quiet : event.arrival = none) : Moves s event s []
  | outside (event : OutboundEvent) (frame : ClientFrame) (quiet : event.arrival = none) :
      Moves s event s [.sent none frame]
  | threw (event : OutboundEvent) (error : Thrown) (quiet : event.arrival = none) :
    Moves s event s [.threw error]
  | refused (capabilityIndex : ℕ) (options : RpcClientCallOptions) (frameError : Option Thrown)
    (error : Thrown)
      (promise : Option (Except Thrown RpcReturnMessage))
      (refusal : ∀ message, promise ≠ some (.ok message)) :
      Moves s (.callRaw capabilityIndex options frameError)
        (s.addCall ⟨s.nextQuestionId, options, false, promise, .settled (.error error)⟩)
        [.settled s.calls.length (.error error)]
  | called (capabilityIndex : ℕ) (options : RpcClientCallOptions) (frameError : Option Thrown)
    (frame : ClientFrame)
      (encoded : callFrame s.nextQuestionId capabilityIndex options frameError = .ok frame)
      (opened : s.closed = false) :
      Moves s (.callRaw capabilityIndex options frameError)
        { s.addCall ⟨s.nextQuestionId, options, timed options, none, .sending⟩ with
          pendingQuestions := s.pendingQuestions.insert s.nextQuestionId s.calls.length }
        [.sent (some s.calls.length) frame]
  | handedOver (i : CallId) (call : OutboundCall) (found : s.calls[i]? = some call)
    (stands : call.stage = .sending) :
      Moves s (.sendSettles i none) (s.updateCall i fun call => { call with stage := .waiting })
      [.handedOver i]
  | sendFailed (i : CallId) (call : OutboundCall) (error : Thrown) (found : s.calls[i]? = some call)
      (stands : call.stage = .sending) :
      Moves s (.sendSettles i (some error))
        ((s.unregisterQuestion call.questionId).settle i (.error error)).1
          [.settled i (.error error)]
  | timedOut (i : CallId) (call : OutboundCall) (found : s.calls[i]? = some call)
    (running : call.timer = true) :
      Moves s (.timeout i) (s.fireTimeout i call) []
  | forwarded (message : InboundMessage) (answers : Option CallId)
      (foreign : ∀ ret, message = .ret ret → s.pendingQuestions.lookup ret.answerId = none) :
      Moves s (.inbound message answers) s [.toSession message]
  | withheld (ret : RpcReturnMessage) (answers : Option CallId) (i : CallId)
      (pending : s.pendingQuestions.lookup ret.answerId = some i) :
      Moves s (.inbound (.ret ret) answers) (s.settlePromise i ret.answerId (.ok ret))
      [.delivered i ret]
  | finishing (i : CallId) (call : OutboundCall) (outcome : Except Thrown RpcReturnMessage)
      (found : s.calls[i]? = some call) (stands : call.stage = .waiting)
      (settled : call.promise = some outcome) (owes : owesFinish call.options outcome = true)
      (opened : s.closed = false) :
      Moves s (.resume i)
      (s.updateCall i fun call => { call with stage := .finishing (resultOf outcome) })
        [.sent (some i) (finishFrame call.questionId (call.options.finish.getD .default))]
  | settled (i : CallId) (call : OutboundCall) (outcome : Except Thrown RpcReturnMessage)
      (found : s.calls[i]? = some call) (stands : call.stage = .waiting)
      (settled : call.promise = some outcome)
      (none : owesFinish call.options outcome = true → s.closed = true) :
      Moves s (.resume i) (s.settle i (resultOf outcome)).1 [.settled i (resultOf outcome)]
  | finished (i : CallId) (call : OutboundCall) (result : Except Thrown RpcClientCallResult)
      (found : s.calls[i]? = some call) (stands : call.stage = .finishing result) :
      Moves s (.finishSettles i) (s.settle i result).1 [.settled i result]
  | closed (opened : s.closed = false) : Moves s .close s.close.1 s.close.2

theorem moves_atCall {act : OutboundCall → RpcServerOutboundClient × List OutboundEffect}
    (quiet : event.arrival = none) (moves : ∀ call, s.calls[i]? = some call →
      Moves s event (act call).1 (act call).2) :
    Moves s event (s.atCall i act).1 (s.atCall i act).2 := by
  unfold atCall
  cases found : s.calls[i]? with
  | none => exact .nothing event quiet
  | some call => exact moves call found

theorem moves_callRaw (capabilityIndex : ℕ) (options : RpcClientCallOptions)
    (frameError : Option Thrown) :
    Moves s (.callRaw capabilityIndex options frameError)
    (s.callRaw capabilityIndex options frameError).1
      (s.callRaw capabilityIndex options frameError).2 := by
  unfold callRaw
  dsimp only
  cases encoded : callFrame s.nextQuestionId capabilityIndex options frameError with
  | error error => exact .refused capabilityIndex options frameError error none nofun
  | ok frame =>
    dsimp only
    split_ifs with opened
    · exact .refused capabilityIndex options frameError _ _ nofun
    · exact .called capabilityIndex options frameError frame encoded (Bool.eq_false_iff.2 opened)

theorem moves_sendFrame (event : OutboundEvent) (quiet : event.arrival = none)
    (frame : ClientFrame) :
    Moves s event (s.sendFrame frame).1 (s.sendFrame frame).2 := by
  unfold sendFrame
  split_ifs
  · exact .threw event _ quiet
  · exact .outside event frame quiet

theorem moves_step (s : RpcServerOutboundClient) (event : OutboundEvent) :
    Moves s event (s.step event).1 (s.step event).2 := by
  cases event with
  | callRaw capabilityIndex options frameError =>
    exact moves_callRaw capabilityIndex options frameError
  | sendSettles i failure =>
    refine moves_atCall rfl fun call found => ?_
    cases stands : call.stage with
    | sending =>
      cases failure with
      | none => exact .handedOver i call found stands
      | some error => exact .sendFailed i call error found stands
    | waiting | finishing result | settled result => exact .nothing _ rfl
  | timeout i =>
    refine moves_atCall rfl fun call found => ?_
    cases running : call.timer with
    | true => exact .timedOut i call found running
    | false => exact .nothing _ rfl
  | inbound message answers =>
    change Moves s _ (s.inbound message).1 (s.inbound message).2
    unfold inbound
    cases message with
    | ret ret =>
      dsimp only
      cases pending : s.pendingQuestions.lookup ret.answerId with
      | some i => exact .withheld ret answers i pending
      | none =>
        refine .forwarded _ answers fun other same => ?_
        cases same
        exact pending
    | undecodable | foreign => exact .forwarded _ answers nofun
  | resume i =>
    refine moves_atCall rfl fun call found => ?_
    cases stands : call.stage with
    | waiting =>
      cases settled : call.promise with
      | none => exact .nothing _ rfl
      | some outcome =>
        dsimp only
        rw [resume_eq]
        cases owes : owesFinish call.options outcome with
        | false =>
          rw [if_neg Bool.false_ne_true]
          exact .settled i call outcome found stands settled (by rw [owes]; exact nofun)
        | true =>
          rw [if_pos rfl]
          unfold trySendFinish
          cases opened : s.closed with
          | true => exact .settled i call outcome found stands settled fun _ => opened
          | false => exact .finishing i call outcome found stands settled owes opened
    | sending | finishing result | settled result => exact .nothing _ rfl
  | finishSettles i =>
    refine moves_atCall rfl fun call found => ?_
    cases stands : call.stage with
    | finishing result => exact .finished i call result found stands
    | sending | waiting | settled result => exact .nothing _ rfl
  | finish questionId options => exact moves_sendFrame _ rfl _
  | release capabilityIndex referenceCount => exact moves_sendFrame _ rfl _
  | close =>
    change Moves s _ (if s.closed then (s, []) else s.close).1 (if s.closed then (s, [])
      else s.close).2
    cases opened : s.closed with
    | true => exact .nothing _ rfl
    | false => exact .closed opened

end RpcServerOutboundClient

/-! ## Pending questions -/

/-- The call has not come past the wait for its Return. -/
def OutboundStage.unanswered : OutboundStage → Bool
  | .sending | .waiting => true
  | _ => false

/-- Neither a Return nor a timeout, a failed send or the close has come to the call. -/
def OutboundCall.awaits (call : OutboundCall) : Bool := call.promise.isNone && call.stage.unanswered

namespace RpcServerOutboundClient

/-- Calls are numbered in order, and the pending questions are those of the calls that await their
Return. -/
structure Registered (start : ℕ) (s : RpcServerOutboundClient) : Prop where
  next : s.nextQuestionId = start + s.calls.length
  numbered : Heap.All (fun i call => call.questionId = start + i) s.calls
  pending : ∀ questionId i, s.pendingQuestions.lookup questionId = some i ↔
    questionId = start + i ∧ ∃ call, s.calls[i]? = some call ∧ call.awaits = true
  timers : Heap.All (fun _ call => call.timer = true → call.awaits = true) s.calls
  closed : s.closed = true → Heap.All (fun _ call => call.awaits = false) s.calls

variable {start : ℕ}

theorem registered_initial (start : ℕ) : Registered start (initial start) where
  next := rfl
  numbered := Heap.all_nil
  pending questionId i := by
    refine ⟨nofun, ?_⟩
    rintro ⟨-, call, found, -⟩
    cases (List.getElem?_nil (i := i)).symm.trans found
  timers := Heap.all_nil
  closed _ := Heap.all_nil

/-- A call is changed, and the pending questions as the change demands. -/
theorem Registered.update (registered : Registered start s) {f : OutboundCall → OutboundCall}
    {pendingQuestions : Table ℕ CallId} (found : s.calls[i]? = some call)
    (number : (f call).questionId = call.questionId)
    (timer : (f call).timer = true → (f call).awaits = true)
    (closed : s.closed = true → (f call).awaits = false)
    (here : ∀ questionId, pendingQuestions.lookup questionId = some i ↔
      questionId = start + i ∧ (f call).awaits = true)
    (others : ∀ questionId j, j ≠ i → (pendingQuestions.lookup questionId = some j ↔
      s.pendingQuestions.lookup questionId = some j)) :
    Registered start { s.updateCall i f with pendingQuestions := pendingQuestions } where
  next := by
    change s.nextQuestionId = start + (s.calls.modify i f).length
    rw [List.length_modify]
    exact registered.next
  numbered := registered.numbered.modify fun other there numbered => by
    cases found.symm.trans there
    rw [number]
    exact numbered
  pending questionId j := by
    change pendingQuestions.lookup questionId = some j ↔
      questionId = start + j ∧ ∃ call, (s.calls.modify i f)[j]? = some call ∧ call.awaits = true
    by_cases same : j = i
    · subst same
      rw [here, Heap.modify_self found]
      simp
    · rw [others questionId j same, registered.pending, Heap.modify_other same]
  timers := registered.timers.modify fun other there _ => by
    cases found.symm.trans there
    exact timer
  closed isClosed := (registered.closed isClosed).modify fun other there _ => by
    cases found.symm.trans there
    exact closed isClosed

/-- A change after which the call awaits its Return as before. -/
theorem Registered.keep (registered : Registered start s) {f : OutboundCall → OutboundCall}
    (found : s.calls[i]? = some call) (number : (f call).questionId = call.questionId)
    (timer : (f call).timer = call.timer) (awaits : (f call).awaits = call.awaits) :
    Registered start (s.updateCall i f) := by
  refine Registered.update registered found number ?_ ?_ ?_ fun _ _ _ => Iff.rfl
  · rw [timer, awaits]
    exact registered.timers i call found
  · intro closed
    rw [awaits]
    exact registered.closed closed i call found
  · intro questionId
    rw [registered.pending, found, awaits]
    simp

/-- A change after which the call awaits no Return. -/
theorem Registered.forget (registered : Registered start s) {f : OutboundCall → OutboundCall}
    (found : s.calls[i]? = some call) (number : (f call).questionId = call.questionId)
    (timer : (f call).timer = false) (awaits : (f call).awaits = false) :
    Registered start
      { s.updateCall i f with pendingQuestions := s.pendingQuestions.erase call.questionId } := by
  have here : call.questionId = start + i := registered.numbered i call found
  refine registered.update found number ?_ (fun _ => awaits)
    (fun questionId => ?_) fun questionId j other => ?_
  · rw [timer]
    exact nofun
  · rw [Table.lookup_erase, awaits]
    split_ifs with same
    · simp
    · rw [registered.pending, here] at *
      exact ⟨fun found => absurd found.1 same, fun found => absurd found.1 same⟩
  · rw [Table.lookup_erase]
    split_ifs with same
    · refine ⟨nofun, fun there => absurd ?_ other⟩
      have number : questionId = start + j := ((registered.pending questionId j).1 there).1
      exact Nat.add_left_cancel (number.symm.trans (same.trans here))
    · exact Iff.rfl

/-- A call is added, and pending if it awaits its Return. -/
theorem Registered.add (registered : Registered start s) {pendingQuestions : Table ℕ CallId}
    (number : call.questionId = s.nextQuestionId) (timer : call.timer = true → call.awaits = true)
    (closed : s.closed = true → call.awaits = false)
    (here : ∀ questionId, pendingQuestions.lookup questionId = some s.calls.length ↔
      questionId = s.nextQuestionId ∧ call.awaits = true)
    (others : ∀ questionId j, j ≠ s.calls.length → (pendingQuestions.lookup questionId = some j ↔
      s.pendingQuestions.lookup questionId = some j)) :
    Registered start { s.addCall call with pendingQuestions := pendingQuestions } where
  next := by
    change s.nextQuestionId + 1 = start + (s.calls ++ [call]).length
    rw [List.length_append, registered.next]
    rfl
  numbered := registered.numbered.append (number.trans registered.next)
  pending questionId j := by
    change pendingQuestions.lookup questionId = some j ↔
      questionId = start + j ∧ ∃ other, (s.calls ++ [call])[j]? = some other ∧ other.awaits = true
    by_cases last : j = s.calls.length
    · subst last
      rw [here, registered.next, Heap.append_self]
      simp
    · rw [others questionId j last, registered.pending]
      refine and_congr_right fun _ => ⟨?_, ?_⟩
      · rintro ⟨other, found, awaits⟩
        exact ⟨other, Heap.append_old found, awaits⟩
      · rintro ⟨other, found, awaits⟩
        exact ⟨other, (Heap.of_append found).resolve_right fun new => last new.1, awaits⟩
  timers := registered.timers.append timer
  closed isClosed := (registered.closed isClosed).append (closed isClosed)

/-- The id of the next call is pending for no call. -/
theorem Registered.fresh (registered : Registered start s) (j : CallId) :
    s.pendingQuestions.lookup s.nextQuestionId ≠ some j := by
  intro there
  obtain ⟨number, other, found, -⟩ := (registered.pending _ j).1 there
  have place : s.calls.length = j := Nat.add_left_cancel (registered.next.symm.trans number)
  exact (Heap.lt_length found).ne' place

theorem awaits_closeCall (registered : Registered start s) (found : s.calls[i]? = some call) :
    (closeCall s.pendingQuestions i call).awaits = false ∧
    (closeCall s.pendingQuestions i call).timer = false := by
  have number : call.questionId = start + i := registered.numbered i call found
  have pending := registered.pending call.questionId i
  unfold closeCall
  by_cases awaits : call.awaits = true
  · rw [if_pos (pending.2 ⟨number, call, found, awaits⟩)]
    cases call.stage <;> exact ⟨rfl, rfl⟩
  · have absent : s.pendingQuestions.lookup call.questionId ≠ some i := fun there => by
      obtain ⟨-, other, same, otherAwaits⟩ := pending.1 there
      cases found.symm.trans same
      exact awaits otherAwaits
    have quiet : call.timer = false := Bool.eq_false_iff.2 fun running =>
      awaits (registered.timers i call found running)
    rw [if_neg absent]
    rw [Bool.not_eq_true] at awaits
    dsimp only
    cases call.stage with
    | sending => exact ⟨Bool.and_false _, quiet⟩
    | waiting | finishing result | settled result => exact ⟨awaits, quiet⟩

theorem questionId_closeCall (pendingQuestions : Table ℕ CallId) (i : CallId)
    (call : OutboundCall) :
    (closeCall pendingQuestions i call).questionId = call.questionId := by
  unfold closeCall
  dsimp only
  split_ifs <;> cases call.stage <;> rfl

/-- What a step keeps. -/
theorem Registered.moves (registered : Registered start s) (moves : Moves s event s' effects) :
    Registered start s' := by
  cases moves with
  | nothing | outside | threw | forwarded => exact registered
  | refused capabilityIndex options frameError error promise refusal =>
    refine Registered.add registered rfl nofun (fun _ => Bool.and_false _)
      (fun questionId => ?_) fun _ _ _ => Iff.rfl
    refine ⟨fun there => ?_, fun there => nomatch there.2.symm.trans (Bool.and_false _)⟩
    obtain ⟨-, other, found, -⟩ := (registered.pending _ _).1 there
    exact absurd (Heap.lt_length found) (Nat.lt_irrefl _)
  | called capabilityIndex options frameError frame encoded opened =>
    refine registered.add rfl (fun _ => rfl) (fun closed => nomatch opened.symm.trans closed)
      (fun questionId => ?_) fun questionId j other => ?_
    · rw [Table.lookup_insert]
      split_ifs with same
      · exact ⟨fun _ => ⟨same, rfl⟩, fun _ => rfl⟩
      · refine ⟨fun there => ?_, fun there => absurd there.1 same⟩
        obtain ⟨-, old, found, -⟩ := (registered.pending _ _).1 there
        exact absurd (Heap.lt_length found) (Nat.lt_irrefl _)
    · rw [Table.lookup_insert]
      split_ifs with same
      · rw [same]
        exact ⟨fun there => absurd (Option.some.inj there).symm other, fun there =>
          absurd there (registered.fresh j)⟩
      · exact Iff.rfl
  | handedOver i call found stands =>
    refine registered.keep found rfl rfl ?_
    unfold OutboundCall.awaits
    rw [stands]
    rfl
  | sendFailed i call error found stands =>
    have number : call.questionId = start + i := registered.numbered i call found
    unfold settle unregisterQuestion
    cases pending : s.pendingQuestions.lookup call.questionId with
    | none =>
      have quiet : call.awaits = false := Bool.eq_false_iff.2 fun awaits => by
        cases pending.symm.trans ((registered.pending _ i).2 ⟨number, call, found, awaits⟩)
      refine registered.keep found rfl rfl ?_
      rw [quiet]
      exact Bool.and_false _
    | some j =>
      have here : j = i :=
        Nat.add_left_cancel (((registered.pending _ j).1 pending).1.symm.trans number)
      subst here
      let ended (call : OutboundCall) : OutboundCall :=
        { call with stage := .settled (.error error) }
      let untimed (call : OutboundCall) : OutboundCall := { call with timer := false }
      have forgot :=
        registered.forget (f := ended ∘ untimed) found rfl rfl (Bool.and_false call.promise.isNone)
      unfold updateCall at forgot ⊢
      rw [← List.modify_modify_eq] at forgot
      exact forgot
  | timedOut i call found running => exact registered.forget found rfl rfl rfl
  | withheld ret answers i pending =>
    obtain ⟨number, call, found, -⟩ := (registered.pending _ _).1 pending
    have same : call.questionId = ret.answerId :=
      (registered.numbered i call found).trans number.symm
    have forgot :=
      registered.forget (f := fun call => { call with timer := false, promise := some (.ok ret) })
      found rfl rfl rfl
    rw [same] at forgot
    exact forgot
  | finishing i call outcome found stands settled =>
    refine registered.keep found rfl rfl ?_
    unfold OutboundCall.awaits
    rw [settled]
    rfl
  | settled i call outcome found stands settled =>
    refine registered.keep found rfl rfl ?_
    unfold OutboundCall.awaits
    rw [settled]
    rfl
  | finished i call result found stands =>
    refine registered.keep found rfl rfl ?_
    unfold OutboundCall.awaits
    rw [stands]
    rfl
  | closed opened =>
    refine ⟨?_, ?_, fun questionId j => ?_, ?_, fun _ => ?_⟩
    · change s.nextQuestionId = start + (s.calls.mapIdx _).length
      rw [List.length_mapIdx]
      exact registered.next
    · exact registered.numbered.mapIdx fun i call _ number =>
        (questionId_closeCall _ i call).trans number
    · refine ⟨nofun, ?_⟩
      rintro ⟨-, other, there, awaits⟩
      change (s.calls.mapIdx _)[j]? = some other at there
      rw [List.getElem?_mapIdx] at there
      obtain ⟨call, found, rfl⟩ := Option.map_eq_some_iff.1 there
      rw [(awaits_closeCall registered found).1] at awaits
      cases awaits
    · refine registered.timers.mapIdx fun i call found _ running => ?_
      rw [(awaits_closeCall registered found).2] at running
      cases running
    · intro j other there
      change (s.calls.mapIdx _)[j]? = some other at there
      rw [List.getElem?_mapIdx] at there
      obtain ⟨call, found, rfl⟩ := Option.map_eq_some_iff.1 there
      exact (awaits_closeCall registered found).1

end RpcServerOutboundClient

/-! ## The history of a call -/

def OutboundStage.over : OutboundStage → Bool
  | .settled _ => true
  | _ => false

/-- The call waits for the inner transport. -/
def OutboundStage.sends : OutboundStage → Bool
  | .sending | .finishing _ => true
  | _ => false

def OutboundEffect.settles : OutboundEffect → Bool
  | .settled _ _ => true
  | _ => false

/-- The Return that the call was settled with. -/
def OutboundCall.answered (i : CallId) (call : OutboundCall) : List (CallId × RpcReturnMessage) :=
  match call.promise with
  | some (.ok message) => [(i, message)]
  | _ => []

/-- The call has settled as often as it is over, and got the Return that its promise holds. -/
def OutboundCall.Told (i : CallId) (log : List OutboundEffect) (call : OutboundCall) : Prop :=
  log.countP OutboundEffect.settles = call.stage.over.toNat ∧
    log.filterMap OutboundEffect.withheld = call.answered i

namespace RpcServerOutboundClient

variable {s s' : RpcServerOutboundClient} {event : OutboundEvent}
  {past effects : List OutboundEffect} {start : ℕ} {i : CallId} {call : OutboundCall}

/-- The history of every call. -/
abbrev Told (past : List OutboundEffect) (s : RpcServerOutboundClient) : Prop :=
  Heap.Logged OutboundEffect.about OutboundCall.Told past s.calls

theorem promise_of_awaits (awaits : call.awaits = true) : call.promise = none := by
  unfold OutboundCall.awaits at awaits
  simpa using (Bool.and_eq_true_iff.1 awaits).1

theorem lostRace_about (i : CallId) (call : OutboundCall) :
    ∀ e ∈ lostRace i call, e.about = some i := by
  unfold lostRace
  cases call.stage with
  | sending => simp [OutboundEffect.about]
  | waiting | finishing result | settled result => exact nofun

/-- The call that has lost its race, told so. -/
theorem told_lostRace {log : List OutboundEffect} (told : call.Told i log) :
    OutboundCall.Told i (log ++ lostRace i call)
      (match call.stage with
        | .sending => { call with stage := .settled (.error transportClosed) }
        | _ => call) := by
  unfold lostRace
  cases stands : call.stage with
  | sending =>
    have before : log.countP OutboundEffect.settles = 0 := by
      rw [told.1, stands]
      rfl
    refine ⟨?_, ?_⟩
    · rw [List.countP_append, before]
      rfl
    · rw [List.filterMap_append, told.2]
      exact List.append_nil _
  | waiting | finishing result | settled result =>
    dsimp only
    rw [List.append_nil]
    exact told

theorem told_closeCall (registered : Registered start s) (found : s.calls[i]? = some call)
    {log : List OutboundEffect} (told : call.Told i log) :
    (closeCall s.pendingQuestions i call).Told i (log ++ lostRace i call) := by
  unfold closeCall
  by_cases pending : s.pendingQuestions.lookup call.questionId = some i
  · obtain ⟨-, other, there, awaits⟩ := (registered.pending _ _).1 pending
    cases found.symm.trans there
    have unsettled : call.promise = none := promise_of_awaits awaits
    have rejected :
        ({ call with timer := false, promise := some (.error transportClosed) } : OutboundCall).Told
        i log := by
      refine ⟨told.1, told.2.trans ?_⟩
      unfold OutboundCall.answered
      rw [unsettled]
    rw [if_pos pending]
    exact told_lostRace rejected
  · rw [if_neg pending]
    exact told_lostRace told

/-- A change of one call, with an effect about it. -/
theorem Told.change (told : Told past s) {f : OutboundCall → OutboundCall} {effect : OutboundEffect}
    (found : s.calls[i]? = some call) (own : effect.about = some i)
    (settles : call.stage.over.toNat + effect.settles.toNat = (f call).stage.over.toNat)
    (answered : call.answered i ++ effect.withheld.toList = (f call).answered i) :
    Told (past ++ [effect]) (s.updateCall i f) := by
  have whole : Heap.log OutboundEffect.about i [effect] = [effect] :=
    Heap.log_eq_self (by simpa using own)
  refine Heap.Logged.modify told found (fun e mem j same => ?_) fun ⟨counted, delivered⟩ => ?_
  · rw [List.mem_singleton.1 mem, own] at same
    exact (Option.some.inj same).symm
  · rw [whole]
    refine ⟨?_, ?_⟩
    · rw [List.countP_append, counted, ← settles]
      cases settles : effect.settles <;> simp [settles]
    · rw [List.filterMap_append, delivered, ← answered]
      cases withheld : effect.withheld <;> simp [withheld]

/-- A change of one call that shows nothing. -/
theorem Told.quiet (told : Told past s) {f : OutboundCall → OutboundCall}
    (found : s.calls[i]? = some call) (stage : (f call).stage = call.stage)
    (answered : (f call).answered i = call.answered i) :
    Told (past ++ []) (s.updateCall i f) := by
  refine Heap.Logged.modify told found nofun fun ⟨counted, delivered⟩ => ?_
  refine ⟨?_, ?_⟩
  · rw [stage]
    simpa [Heap.log] using counted
  · rw [answered]
    simpa [Heap.log] using delivered

theorem answered_of_awaits (i : CallId) (awaits : call.awaits = true) : call.answered i = [] := by
  unfold OutboundCall.answered
  rw [promise_of_awaits awaits]

/-- What a step adds to the histories. -/
theorem Told.moves (told : Told past s) (registered : Registered start s)
    (moves : Moves s event s' effects) :
    Told (past ++ effects) s' := by
  cases moves with
  | nothing => exact Heap.Logged.silent told nofun
  | outside | threw | forwarded => exact Heap.Logged.silent told (by simp [OutboundEffect.about])
  | refused capabilityIndex options frameError error promise refusal =>
    have whole : Heap.log OutboundEffect.about s.calls.length
        [.settled s.calls.length (.error error)] =
        [.settled s.calls.length (.error error)] :=
      Heap.log_eq_self (by simp [OutboundEffect.about])
    refine Heap.Logged.append told (by simp [OutboundEffect.about]) ?_
    rw [whole]
    refine ⟨rfl, ?_⟩
    unfold OutboundCall.answered
    cases promise with
    | none => rfl
    | some outcome =>
      cases outcome with
      | error => rfl
      | ok message => exact absurd rfl (refusal message)
  | called capabilityIndex options frameError frame encoded opened =>
    have whole : Heap.log OutboundEffect.about s.calls.length [.sent (some s.calls.length) frame] =
        [.sent (some s.calls.length) frame] := Heap.log_eq_self (by simp [OutboundEffect.about])
    refine Heap.Logged.append told (by simp [OutboundEffect.about]) ?_
    rw [whole]
    exact ⟨rfl, rfl⟩
  | handedOver i call found stands =>
    exact Told.change told found rfl (by rw [stands]; rfl) (List.append_nil _)
  | sendFailed i call error found stands =>
    have number : call.questionId = start + i := registered.numbered i call found
    have before : call.stage.over.toNat = 0 := by
      rw [stands]
      rfl
    unfold settle unregisterQuestion
    cases pending : s.pendingQuestions.lookup call.questionId with
    | none => exact Told.change told found rfl (by rw [before]; rfl) (List.append_nil _)
    | some j =>
      have here : j = i :=
        Nat.add_left_cancel (((registered.pending _ j).1 pending).1.symm.trans number)
      subst here
      let ended (call : OutboundCall) : OutboundCall :=
        { call with stage := .settled (.error error) }
      let untimed (call : OutboundCall) : OutboundCall := { call with timer := false }
      have changed : Told (past ++ [.settled j (.error error)])
          (s.updateCall j (ended ∘ untimed)) :=
        Told.change told found rfl (by rw [before]; rfl) (List.append_nil _)
      unfold Told updateCall at changed ⊢
      rw [← List.modify_modify_eq] at changed
      exact changed
  | timedOut i call found running =>
    have awaits : call.awaits = true := registered.timers i call found running
    refine Told.quiet told found rfl ?_
    rw [answered_of_awaits i awaits]
    rfl
  | withheld ret answers i pending =>
    obtain ⟨-, call, found, awaits⟩ := (registered.pending _ _).1 pending
    refine Told.change told found rfl (Nat.add_zero _) ?_
    rw [answered_of_awaits i awaits]
    rfl
  | finishing i call outcome found stands =>
    exact Told.change told found rfl (by rw [stands]; rfl) (List.append_nil _)
  | settled i call outcome found stands =>
    exact Told.change told found rfl (by rw [stands]; rfl) (List.append_nil _)
  | finished i call result found stands =>
    exact Told.change told found rfl (by rw [stands]; rfl) (List.append_nil _)
  | closed opened =>
    refine Heap.Logged.mapIdx told (fun e mem j same =>
      Heap.about_flatten_mapIdx lostRace_about mem same)
      fun i call found own => ?_
    have lost : Heap.log OutboundEffect.about i s.close.2 = lostRace i call :=
      Heap.log_flatten_mapIdx lostRace_about found
    rw [lost]
    exact told_closeCall registered found own

/-- What holds of every run, whatever comes in. -/
theorem run_registered (start : ℕ) (events : List OutboundEvent) :
    Registered start (Machine.final step (initial start) events) ∧
      Told (Machine.shown step (initial start) events)
      (Machine.final step (initial start) events) := by
  have always : Machine.Always step (fun _ _ => True) (initial start) events :=
    Machine.always_of_forall (fun _ _ => trivial) events
  refine always.history (P := fun past s => Registered start s ∧ Told past s)
    (fun past s event _ ⟨registered, told⟩ => ?_) ⟨registered_initial start, Heap.logged_nil⟩
  have moves : Moves s event _ _ := moves_step s event
  exact ⟨registered.moves moves, Told.moves told registered moves⟩

/-! ## Routing -/

/-- The call awaits a Return with the id. -/
def expects (call : OutboundCall) (message : InboundMessage) : Bool :=
  call.awaits && message.answerId = some call.questionId

/-- A Return for an outbound call comes while the call awaits it, and no other inbound frame is a
Return that has the id of such a call. -/
def routable (s : RpcServerOutboundClient) : OutboundEvent → Bool
  | .inbound message (some i) => s.calls[i]?.any (expects · message)
  | .inbound message none => s.calls.all fun call => !expects call message
  | _ => true

theorem expects_iff (registered : Registered start s) {message : InboundMessage} :
    s.calls[i]?.any (expects · message) = true ↔
      ∃ ret, message = .ret ret ∧ s.pendingQuestions.lookup ret.answerId = some i := by
  rw [Option.any_eq_true]
  unfold expects
  refine ⟨?_, ?_⟩
  · rintro ⟨call, found, both⟩
    obtain ⟨awaits, same⟩ := Bool.and_eq_true_iff.1 both
    have number : call.questionId = start + i := registered.numbered i call found
    cases message with
    | ret ret =>
      have answers : ret.answerId = call.questionId := Option.some.inj (of_decide_eq_true same)
      exact ⟨ret, rfl, (registered.pending _ _).2 ⟨answers.trans number, call, found, awaits⟩⟩
    | undecodable | foreign => cases of_decide_eq_true same
  · rintro ⟨ret, rfl, pending⟩
    obtain ⟨number, call, found, awaits⟩ := (registered.pending _ _).1 pending
    refine ⟨call, found, Bool.and_eq_true_iff.2 ⟨awaits, decide_eq_true ?_⟩⟩
    exact congrArg some (number.trans (registered.numbered i call found).symm)

/-- No call awaits the frame. -/
theorem unexpected_iff (registered : Registered start s) {message : InboundMessage} :
    (s.calls.all fun call => !expects call message) = true ↔
      ∀ ret, message = .ret ret → s.pendingQuestions.lookup ret.answerId = none := by
  rw [List.all_eq_true]
  refine ⟨fun unexpected ret same => ?_, fun absent call mem => ?_⟩
  · refine Option.eq_none_iff_forall_ne_some.2 fun i pending => ?_
    obtain ⟨call, found, expected⟩ :=
      (Option.any_eq_true _ _).1 ((expects_iff registered).2 ⟨ret, same, pending⟩)
    have refused := unexpected call (List.mem_of_getElem? found)
    rw [expected] at refused
    cases refused
  · obtain ⟨i, found⟩ := List.getElem?_of_mem mem
    refine Bool.not_eq_true' _ ▸ Bool.eq_false_iff.2 fun expected => ?_
    obtain ⟨ret, same, pending⟩ :=
      (expects_iff registered).1 ((Option.any_eq_true _ _).2 ⟨call, found, expected⟩)
    cases (absent ret same).symm.trans pending

/-- A Return goes where it belongs, to the call that it answers or to the session, just under the
condition. -/
theorem routable_iff (registered : Registered start s) (ret : RpcReturnMessage)
    (answers : Option CallId) :
    s.routable (.inbound (.ret ret) answers) = true ↔
      (s.step (.inbound (.ret ret) answers)).2 =
        match answers with
        | some i => [.delivered i ret]
        | none => [.toSession (.ret ret)] := by
  change _ ↔ (s.inbound (.ret ret)).2 = _
  unfold inbound
  cases answers with
  | some i =>
    have expected : s.calls[i]?.any (expects · (.ret ret)) = true ↔ _ := expects_iff registered
    cases pending : s.pendingQuestions.lookup ret.answerId <;> simp_all [routable]
  | none =>
    have unexpected : (s.calls.all fun call => !expects call (.ret ret)) = true ↔ _ :=
      unexpected_iff registered
    cases pending : s.pendingQuestions.lookup ret.answerId <;> simp_all [routable]

/-- One step under the condition, frame by frame. -/
theorem routed_step (registered : Registered start s) (routable : s.routable event = true)
    (moves : Moves s event s' effects) :
    effects.filterMap OutboundEffect.forwarded = event.unanswering.toList ∧
      effects.filterMap OutboundEffect.withheld = event.answering.toList := by
  cases moves with
  | nothing event quiet | outside event frame quiet | threw event error quiet =>
    cases event <;> first | exact ⟨rfl, rfl⟩ | cases quiet
  | forwarded message answers foreign =>
    cases answers with
    | none => cases message <;> exact ⟨rfl, rfl⟩
    | some i =>
      obtain ⟨ret, same, pending⟩ := (expects_iff registered).1 routable
      cases (foreign ret same).symm.trans pending
  | withheld ret answers i pending =>
    cases answers with
    | none => cases ((unexpected_iff registered).1 routable ret rfl).symm.trans pending
    | some j =>
      obtain ⟨_, same, expected⟩ := (expects_iff registered).1 routable
      cases same
      cases pending.symm.trans expected
      exact ⟨rfl, rfl⟩
  | closed opened =>
    have apart : ∀ e ∈ (s.calls.mapIdx lostRace).flatten, e.forwarded = none ∧
        e.withheld = none := by
      intro e mem
      obtain ⟨_, inside, within⟩ := List.mem_flatten.1 mem
      obtain ⟨i, lt, rfl⟩ := List.mem_mapIdx.1 inside
      unfold lostRace at within
      cases stands : (s.calls[i]).stage <;>
        simp_all [OutboundEffect.forwarded, OutboundEffect.withheld]
    exact ⟨List.filterMap_eq_nil_iff.2 fun e mem => (apart e mem).1,
      List.filterMap_eq_nil_iff.2 fun e mem => (apart e mem).2⟩
  | refused | called | handedOver | sendFailed | timedOut | finishing | settled
  | finished => exact ⟨rfl, rfl⟩

theorem routed_run (registered : Registered start s) {events : List OutboundEvent}
    (always : Machine.Always step (fun s event => s.routable event = true) s events) :
    (Machine.shown step s events).filterMap OutboundEffect.forwarded =
        events.filterMap OutboundEvent.unanswering ∧
      (Machine.shown step s events).filterMap OutboundEffect.withheld =
        events.filterMap OutboundEvent.answering := by
  induction events generalizing s with
  | nil => exact ⟨rfl, rfl⟩
  | cons event events ih =>
    have moves : Moves s event _ _ := moves_step s event
    obtain ⟨forwarded, withheld⟩ := routed_step registered always.1 moves
    obtain ⟨restForwarded, restWithheld⟩ := ih (registered.moves moves) always.2
    rw [Machine.shown, List.filterMap_append, List.filterMap_append, forwarded, withheld,
      restForwarded, restWithheld]
    refine ⟨?_, ?_⟩
    · rw [List.filterMap_cons]
      cases event.unanswering <;> rfl
    · rw [List.filterMap_cons]
      cases event.answering <;> rfl

def outboundOptions : RpcClientCallOptions :=
  { RpcClientCallOptions.default with interfaceId := some 0x1234, timeoutMs := some 1000 }

def outboundReturn (answerId : ℕ) : RpcReturnMessage :=
  ⟨answerId, .results (some []) [], false, false⟩

/-- A call with its Return, and then a frame for the session. -/
def answeredCall : List OutboundEvent :=
  [.callRaw 0 outboundOptions none, .sendSettles 0 none,
    .inbound (.ret (outboundReturn 0x4000_0000)) (some 0),
    .resume 0, .finishSettles 0, .inbound .foreign none]

end RpcServerOutboundClient

end CapnpDeno
