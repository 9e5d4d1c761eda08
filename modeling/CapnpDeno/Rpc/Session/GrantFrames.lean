import CapnpDeno.Rpc.Client.WireGrants
import CapnpDeno.Rpc.Session.SessionGrants

/-!
# Grants of SessionRpcClientTransport, from outside

What becomes of grants is told by what comes in, as for the wire client.  The Returns come in
through the queue of the harness, in its order.  The close drops what is recorded; but a call that
is at the middleware by then records its grants all the same, and nothing drops them after that.
-/

namespace CapnpDeno

namespace SessionRpcClientTransport

variable {s s' : SessionRpcClientTransport} {event : SessionEvent}
  {past effects : List SessionEffect} {i : OperationId} {call : SessionCall} {questionId : ℕ}
  {frame : ClientFrame}

/-! ## The queue of the harness -/

/-- The frames that the harness has queued and the pump has not handled. -/
def unread (s : SessionRpcClientTransport) : List InboundMessage :=
  s.responsePump.frame.toList ++ s.frames

/-- The frames that the harness queues. -/
def queued (s : SessionRpcClientTransport) : SessionEvent → List InboundMessage
  | .frame message => if s.queueClosed.isSome then [] else [message]
  | _ => []

/-- The frames that the pump handles. -/
def taken (s : SessionRpcClientTransport) : SessionEvent → List InboundMessage
  | .pump => s.responsePump.frame.toList
  | _ => []

/-- While the pump waits for a frame there is none in the queue. -/
def Dry (s : SessionRpcClientTransport) : Prop := s.responsePump = .reading → s.frames = []

/-- What the harness has queued stays unread. -/
structure Flows (s s' : SessionRpcClientTransport) : Prop where
  unread : s'.unread = s.unread
  dry : Dry s → Dry s'

theorem Flows.after {s'' : SessionRpcClientTransport} (second : Flows s' s'') (first : Flows s s') :
    Flows s s'' :=
  ⟨second.unread.trans first.unread, fun dry => second.dry (first.dry dry)⟩

/-- Neither the queue nor the frame that the pump holds changes. -/
structure Stores (s s' : SessionRpcClientTransport) : Prop where
  frame : s'.responsePump.frame = s.responsePump.frame
  frames : s'.frames = s.frames
  reading : s'.responsePump = .reading → s.responsePump = .reading

namespace Stores

theorem same (pump : s'.responsePump = s.responsePump) (frames : s'.frames = s.frames) :
    Stores s s' :=
  ⟨congrArg _ pump, frames, pump.symm.trans⟩

theorem trans {s'' : SessionRpcClientTransport} (first : Stores s s') (second : Stores s' s'') :
    Stores s s'' :=
  ⟨second.frame.trans first.frame, second.frames.trans first.frames, fun reading =>
    first.reading (second.reading reading)⟩

theorem flows (stores : Stores s s') : Flows s s' := by
  refine ⟨?_, fun dry reading => stores.frames.trans (dry (stores.reading reading))⟩
  unfold unread
  rw [stores.frame, stores.frames]

theorem enter (s : SessionRpcClientTransport) (i : OperationId) (stage : SessionStage) :
    Stores s (s.enter i stage).1 := by
  obtain ⟨opChain, same⟩ := enter_only s i stage
  rw [same]
  exact .same rfl rfl

theorem abortResponsePumpRead (s : SessionRpcClientTransport) :
    Stores s s.abortResponsePumpRead := by
  unfold SessionRpcClientTransport.abortResponsePumpRead
  cases pump : s.responsePump with
  | off | serving | exiting => exact .same rfl rfl
  | reading =>
    refine ⟨?_, rfl, fun _ => pump⟩
    rw [pump]
    rfl
  | read frame aborted =>
    refine ⟨?_, rfl, by simp⟩
    rw [pump]
    cases frame <;> rfl

theorem abortResponsePumpReadIfIdle (s : SessionRpcClientTransport) :
    Stores s s.abortResponsePumpReadIfIdle := by
  unfold SessionRpcClientTransport.abortResponsePumpReadIfIdle
  split_ifs
  · exact .same rfl rfl
  · exact abortResponsePumpRead s

theorem removePendingReturnWaiter (s : SessionRpcClientTransport) (questionId : ℕ)
    (i : OperationId) :
    Stores s (s.removePendingReturnWaiter questionId i) := by
  unfold SessionRpcClientTransport.removePendingReturnWaiter
  split
  · exact .same rfl rfl
  · split
    · have aborted :=
        abortResponsePumpReadIfIdle { s with pendingReturns := s.pendingReturns.erase questionId }
      exact ⟨aborted.frame, aborted.frames, aborted.reading⟩
    · exact .same rfl rfl

theorem rejectAndRemove (s : SessionRpcClientTransport) (i : OperationId) (call : SessionCall)
    (error : Thrown) :
    Stores s (s.rejectAndRemove i call error) := by
  unfold SessionRpcClientTransport.rejectAndRemove
  split
  · rename_i questionId _ _
    have removed := removePendingReturnWaiter (s.settlePromise i (.error error)) questionId i
    dsimp only
    split <;> exact ⟨removed.frame, removed.frames, removed.reading⟩
  · exact .same rfl rfl

theorem rejectAllPendingReturns (s : SessionRpcClientTransport) (error : Thrown) :
    Stores s (s.rejectAllPendingReturns error) := by
  have aborted := abortResponsePumpReadIfIdle { s with pendingReturns := ∅ }
  exact ⟨aborted.frame, aborted.frames, aborted.reading⟩

theorem resolvePendingReturn (s : SessionRpcClientTransport) (message : RpcReturnMessage) :
    Stores s (s.resolvePendingReturn message).1 := by
  unfold SessionRpcClientTransport.resolvePendingReturn
  split
  · exact .same rfl rfl
  · exact .same rfl rfl
  · split
    · have aborted := abortResponsePumpReadIfIdle
        { s with pendingReturns := s.pendingReturns.erase message.answerId }
      exact ⟨aborted.frame, aborted.frames, aborted.reading⟩
    · exact .same rfl rfl

theorem handleReturn (s : SessionRpcClientTransport) (message : RpcReturnMessage) :
    Stores s (s.handleReturn message).1 := by
  have retired : Stores s (s.retireParamCapGrants message).1 := by
    unfold retireParamCapGrants
    split <;> exact .same rfl rfl
  unfold SessionRpcClientTransport.handleReturn
  dsimp only
  split_ifs
  · have resolved := retired.trans (resolvePendingReturn _ message)
    cases same : (s.retireParamCapGrants message).1.resolvePendingReturn message with
    | mk next waiter =>
      rw [same] at resolved
      cases waiter with
      | some => exact resolved
      | none =>
        have waiting : Stores next (next.queueReturn message) := by
          unfold queueReturn
          split_ifs <;> exact .same rfl rfl
        exact resolved.trans waiting
  · exact retired

end Stores

/-- The pump, with no frame in hand, reads on. -/
theorem flows_pumpResponses (idle : s.responsePump.frame = none) : Flows s s.pumpResponses := by
  unfold pumpResponses nextOutboundFrame
  split_ifs
  · cases frames : s.frames with
    | nil =>
      refine ⟨?_, fun _ _ => ?_⟩
      · unfold unread
        rw [idle, frames]
        cases s.queueClosed <;> rfl
      · cases s.queueClosed <;> rfl
    | cons frame rest =>
      refine ⟨?_, fun _ reading => by cases reading⟩
      unfold unread
      rw [idle, frames]
      rfl
  · refine ⟨?_, fun _ reading => by cases reading⟩
    unfold unread
    rw [idle]
    rfl

theorem flows_ensureResponsePump (s : SessionRpcClientTransport) :
    Flows s s.ensureResponsePump := by
  unfold ensureResponsePump
  split
  · rename_i off
    exact flows_pumpResponses (by rw [off]; rfl)
  · exact ⟨rfl, id⟩

theorem flows_awaited (awaited : Awaited s i call questionId s' effects) : Flows s s' := by
  cases awaited with
  | rejected | queued => exact ⟨rfl, id⟩
  | registered => exact (flows_ensureResponsePump _).after ⟨rfl, id⟩

/-- Nothing but the harness and the pump touches the queue. -/
theorem flows_moves (moves : Moves s event s' effects) (other : ∀ message, event ≠ .frame message)
    (idle : event ≠ .pump) : Flows s s' := by
  cases moves with
  | nothing | threw | finishTurn | finishHandedOver | flagged | emitted | handedOver | finishEmitted
  | hooked =>
    exact ⟨rfl, id⟩
  | serveFails failure serving => exact Stores.flows ⟨by rw [serving]; rfl, rfl, by simp⟩
  | begun operation options =>
    unfold start
    dsimp only
    split_ifs <;> exact ⟨rfl, id⟩
  | refused i frameError call error | unasked i failure frameError call error
  | concludes i failure frameError call
    | finishClosed i frameError call finish | finished i call finish =>
    exact (Stores.enter s i _).flows
  | unencoded i call error =>
    have entered := (Stores.enter (s.allocate i) i (concluded call (.error error))).flows
    exact entered.after ⟨rfl, id⟩
  | asked i call | askedAfterHook i call =>
    unfold recordGrants
    split_ifs <;> exact ⟨rfl, id⟩
  | unsent i call frame id error =>
    have entered := (Stores.enter (markReturnObserved
      { s with questionParamCapGrants := s.questionParamCapGrants.erase id } id) i
        (s.afterFailure call id false error)).flows
    exact entered.after ⟨rfl, fun dry => dry⟩
  | emitFailed i call id error | flushFailed i call id error =>
    exact (Stores.enter (s.markReturnObserved id) i _).flows.after ⟨rfl, fun dry => dry⟩
  | flushed i call id =>
    have begun : Flows s (s.toWaiting i call) := by
      unfold toWaiting
      split <;> exact ⟨rfl, fun dry => dry⟩
    exact (flows_awaited (awaitReturn_cases _ i call id)).after begun
  | answered i frameError call id outcome =>
    have observed : Flows s (s.observe call id outcome) := by
      unfold observe
      split
      · exact ⟨rfl, fun dry => dry⟩
      · split <;> exact ⟨rfl, fun dry => dry⟩
    exact (Stores.enter _ i _).flows.after observed
  | returned i frameError call result =>
    unfold afterCallRaw
    split
    · exact (Stores.enter s i _).flows
    · dsimp only
      split
      · split_ifs
        · exact (Stores.enter s i _).flows
        · exact ⟨rfl, id⟩
        · exact (Stores.enter s i _).flows
      · exact ⟨rfl, id⟩
  | finishUnstarted i call finish error | finishUnemitted i call finish error
  | finishUnflushed i call finish error =>
    exact (Stores.enter s i _).flows
  | timedOut i call error => exact (Stores.rejectAndRemove s i call error).flows
  | aborted i call error =>
    have rejected := (Stores.rejectAndRemove
      (s.updateCall i fun call => { call with aborted := call.options.signal }) i call error).flows
    exact rejected.after ⟨rfl, id⟩
  | harness event frames queueClosed pump reads queued =>
    obtain ⟨message, rfl⟩ | ⟨frame, frames⟩ := queued
    · exact absurd rfl (other message)
    · refine Stores.flows ⟨frame, frames, fun reading => ?_⟩
      obtain ⟨waiting, -⟩ | same := reads
      · exact waiting
      · exact same.symm.trans reading
  | received | serves | idles | stops | exits => exact absurd rfl idle
  | pumpsOn failure serving => exact flows_pumpResponses (by rw [serving]; rfl)
  | exported =>
    exact (flows_ensureResponsePump { s with localBridge := true }).after ⟨rfl, id⟩
  | closed =>
    have rejected := Stores.rejectAllPendingReturns
      { s with closed := true, responsePumpStopped := true, localBridge := false } clientClosed
    have aborted := Stores.abortResponsePumpRead
      { rejectAllPendingReturns { s with closed := true, responsePumpStopped := true, localBridge :=
        false } clientClosed
        with expectedReturns := ∅, queuedReturns := ∅, questionParamCapGrants := ∅ }
    have cleared := aborted.flows.after (s := rejectAllPendingReturns
      { s with closed := true, responsePumpStopped := true, localBridge := false } clientClosed)
      ⟨rfl, id⟩
    exact cleared.after (rejected.flows.after ⟨rfl, id⟩)

/-- The pump handles the frame that it holds. -/
theorem taken_pump (s : SessionRpcClientTransport) :
    s.responsePump.frame.toList ++ s.pump.1.unread = s.unread ∧ (Dry s → Dry s.pump.1) := by
  have rest {a b : SessionRpcClientTransport} (idle : a.responsePump.frame = none)
      (frames : a.frames = s.frames) (busy : a.responsePump ≠ .reading) (flows : Flows a b) :
      s.responsePump.frame.toList ++ b.unread = s.unread ∧ (Dry s → Dry b) := by
    refine ⟨?_, fun _ => flows.dry fun reading => absurd reading busy⟩
    rw [flows.unread]
    unfold unread
    rw [idle, frames]
    rfl
  have still (s : SessionRpcClientTransport) : Flows s s := ⟨rfl, id⟩
  cases pump : s.responsePump with
  | off | reading | serving =>
    have same : s.pump.1 = s := by
      unfold SessionRpcClientTransport.pump
      rw [pump]
    rw [same]
    exact ⟨rfl, id⟩
  | exiting =>
    have exits : s.pump.1 = if s.shouldPumpResponses then ensureResponsePump
        { s with responsePump := .off } else { s with responsePump := .off } := by
      unfold SessionRpcClientTransport.pump
      rw [pump]
      rfl
    rw [exits, ← pump]
    split_ifs
    · exact rest (a := { s with responsePump := .off }) rfl rfl
        (by simp) (flows_ensureResponsePump _)
    · exact rest (a := { s with responsePump := .off }) rfl rfl (by simp) (still _)
  | read frame aborted =>
    have reads : s.pump.1 = (s.frameRead aborted frame).1 := by
      unfold SessionRpcClientTransport.pump
      rw [pump]
    rw [reads, ← pump]
    cases frame with
    | error error =>
      have rejected :=
        Stores.rejectAllPendingReturns { s with responsePump := .exiting, responsePumpStopped :=
          true } error
      unfold frameRead
      dsimp only
      split_ifs
      · exact rest (a := { s with responsePump := .exiting }) rfl rfl (by simp) (still _)
      · exact rest (a := { s with responsePump := .exiting, responsePumpStopped := true }) rfl rfl
          (by simp) rejected.flows
    | ok frame =>
      cases frame with
      | undecodable
      | foreign => exact rest (a := { s with responsePump := .serving }) rfl rfl (by simp) (still _)
      | ret message =>
        have handled := Stores.handleReturn { s with responsePump := .serving } message
        exact rest (a := { s with responsePump := .serving }) rfl rfl (by simp)
          ((flows_pumpResponses handled.frame).after handled.flows)

/-- What the pump handles is what the harness has queued, in its order. -/
theorem taken_unread (s : SessionRpcClientTransport) (event : SessionEvent) (dry : Dry s) :
    s.taken event ++ (s.step event).1.unread = s.unread ++ s.queued event ∧
    Dry (s.step event).1 := by
  have other (apart : ∀ message, event ≠ .frame message) (idle : event ≠ .pump)
      (taken : s.taken event = []) (queued : s.queued event = []) :
      s.taken event ++ (s.step event).1.unread = s.unread ++ s.queued event ∧
      Dry (s.step event).1 := by
    have flows := flows_moves (moves_step s event) apart idle
    rw [taken, queued, flows.unread]
    exact ⟨(List.append_nil _).symm, flows.dry dry⟩
  cases event with
  | pump =>
    obtain ⟨took, dries⟩ := taken_pump s
    exact ⟨took.trans (List.append_nil _).symm, dries dry⟩
  | frame message =>
    unfold step enqueueFrame queued taken
    dsimp only
    split_ifs
    · exact ⟨(List.append_nil _).symm, dry⟩
    · cases pump : s.responsePump with
      | reading =>
        refine ⟨?_, fun reading => by cases reading⟩
        unfold unread
        rw [dry pump, pump]
        rfl
      | off | serving | exiting | read =>
        refine ⟨?_, fun reading => by cases reading⟩
        unfold unread
        rw [pump, List.nil_append]
        exact (List.append_assoc _ _ _).symm
  | start | resume | middlewareSettles | startSettles | emitSettles | flushSettles | timeout | abort
  | readFails
    | queueCloses | served | exportCapability | close =>
    exact other (by simp) (by simp) rfl rfl

/-- The Returns that the pump has handled and those that are unread are the ones that the harness
has queued. -/
theorem readings_taken (options : SessionRpcClientTransportOptions) (events : List SessionEvent) :
    Machine.readings step taken (initial options) events ++
      (Machine.final step (initial options) events).unread =
      Machine.readings step queued (initial options) events := by
  exact Machine.readings_queue (P := Dry) (fun s event dry => (taken_unread s event dry).2)
    (fun s event dry => (taken_unread s event dry).1) (fun _ => rfl) events

/-! ## The frames that grant -/

/-- What the frame of a question grants is recorded. -/
theorem recorded_of_grants {asked : ℕ} {grants : ParamCapGrants}
    (granting : (s.askingFrame call asked).grants = some (questionId, grants)) :
    .recorded questionId grants ∈ grantEffects call asked := by
  unfold askingFrame at granting
  unfold grantEffects recordsGrants
  cases calls : SessionOperation.capability call.operation with
  | none =>
    rw [calls] at granting
    cases granting
  | some capabilityIndex =>
    rw [calls] at granting
    unfold ClientFrame.grants at granting
    dsimp only at granting
    split_ifs at granting with hosts
    cases granting
    have hosted : hostsParamCaps call.options = true := hosts
    rw [hosted]
    exact List.mem_singleton_self _

/-- Only an operation whose session is to start hands the frame of its question over. -/
theorem standing_of_emitted (moves : Moves s event s' effects) (mem : .emitted i frame ∈ effects) :
    ∃ call, s.calls[i]? = some call ∧ call.stage = .starting frame := by
  have entered {j : OperationId} {stage : SessionStage} {t : SessionRpcClientTransport}
      (mem : .emitted i frame ∈ (t.enter j stage).2) : ∃ call, s.calls[i]? = some call ∧
      call.stage = .starting frame := by
    unfold enter at mem
    split at mem <;> simp at mem
  cases moves with
  | emitted j call frame' found stands =>
    cases List.mem_singleton.1 mem
    exact ⟨call, found, stands⟩
  | nothing | serves | idles | serveFails | harness | finishTurn | finishHandedOver | flagged
  | timedOut | aborted
    | stops | exits | pumpsOn | exported => cases mem
  | threw | handedOver | finishEmitted | hooked => cases List.mem_singleton.1 mem
  | begun operation options =>
    unfold start at mem
    dsimp only at mem
    split_ifs at mem <;> simp at mem
  | refused | unasked | concludes | finishClosed | finished | emitFailed | flushFailed | answered
  | finishUnstarted
    | finishUnemitted | finishUnflushed => exact entered mem
  | unencoded | unsent => exact entered (List.mem_of_ne_of_mem (by simp) mem)
  | asked j call | askedAfterHook j call =>
    unfold grantEffects at mem
    split_ifs at mem <;> simp at mem
  | flushed j call id =>
    have quiet {t t' : SessionRpcClientTransport} {effects : List SessionEffect}
        (awaited : Awaited t j call id t' effects) :
        .emitted i frame ∉ effects := by
      cases awaited <;> simp
    exact absurd mem (quiet (awaitReturn_cases _ j call id))
  | returned j frameError call result =>
    unfold afterCallRaw at mem
    split at mem
    · exact entered mem
    · dsimp only at mem
      split at mem
      · split_ifs at mem
        · exact entered mem
        · cases mem
        · exact entered mem
      · cases mem
  | received message =>
    unfold handleReturn retireParamCapGrants at mem
    grind
  | closed => simp [close] at mem

/-! ## Runs -/

/-- The question whose call waits for the session to start. -/
def startingQuestion (s : SessionRpcClientTransport) (i : OperationId) : Option ℕ := do
  let call ← s.calls[i]?
  match call.stage with
  | .starting _ => call.questionId
  | _ => none

/-- What a step says of grants: a Return that the pump has read, a call for which the session fails
to start, the close of an open client, and the calls whose grants are recorded. -/
def grantNotes (s : SessionRpcClientTransport) (event : SessionEvent) : List GrantNote :=
  match event with
  | .pump =>
    match s.responsePump.frame with
    | some (.ret message) => [.returned message s.localBridge]
    | _ => []
  | .startSettles i (some _) => ((s.startingQuestion i).map GrantNote.unsent).toList
  | .close => if s.closed then [] else [.closed]
  | event => ((s.step event).2.filterMap SessionEffect.grants.note).filterMap GrantNote.recording

/-- A call that carries capabilities of the client goes on from the middleware after the close. -/
def recordsClosed (s : SessionRpcClientTransport) : SessionEvent → Bool
  | .middlewareSettles i none none =>
    match s.calls[i]? with
    | some call =>
      match call.stage with
      | .onCall => s.closed && recordsGrants call
      | _ => false
    | none => false
  | _ => false

theorem note_handleReturn_only (s : SessionRpcClientTransport) (message : RpcReturnMessage) :
    (s.handleReturn message).2.filterMap SessionEffect.grants.note =
      [.returned message s.localBridge] := by
  have retired : (s.retireParamCapGrants message).2.filterMap SessionEffect.grants.note = [] := by
    unfold retireParamCapGrants
    split
    · rfl
    · dsimp only
      split_ifs <;> rfl
  unfold handleReturn
  dsimp only
  split_ifs
  · cases (s.retireParamCapGrants message).1.resolvePendingReturn message with
    | mk next waiter =>
      cases waiter with
      | none =>
        simp only [List.filterMap_cons, retired]
        rfl
      | some i =>
        simp only [List.cons_append, List.filterMap_cons, List.filterMap_append, retired]
        rfl
  · simp only [List.filterMap_cons, retired]
    rfl

theorem filterMap_enter {stage : SessionStage} :
    (s.enter i stage).2.filterMap SessionEffect.grants.note = [] :=
  List.filterMap_eq_nil_iff.2 fun e mem => (enter_silent e mem).1

theorem note_pump (s : SessionRpcClientTransport) :
    s.pump.2.filterMap SessionEffect.grants.note = s.grantNotes .pump := by
  unfold pump grantNotes
  cases s.responsePump with
  | off | reading | serving | exiting => rfl
  | read frame aborted =>
    cases frame with
    | error error =>
      unfold frameRead
      dsimp only
      split_ifs <;> rfl
    | ok frame =>
      cases frame with
      | undecodable | foreign => rfl
      | ret message => exact note_handleReturn_only { s with responsePump := .serving } message

theorem note_startSettles (s : SessionRpcClientTransport) (i : OperationId) (error : Thrown) :
    (s.step (.startSettles i (some error))).2.filterMap SessionEffect.grants.note =
      s.grantNotes (.startSettles i (some error)) := by
  change (s.atCall i _).2.filterMap _ = ((s.startingQuestion i).map GrantNote.unsent).toList
  unfold atCall startingQuestion
  cases s.calls[i]? with
  | none => rfl
  | some call =>
    change (s.startSettles i (some error) call).2.filterMap _ = _
    unfold startSettles
    cases stands : call.stage with
    | starting frame =>
      cases identified : call.questionId with
      | none => simp [stands, identified]
      | some questionId =>
        have failed :
            (failRequest { s with questionParamCapGrants :=
              s.questionParamCapGrants.erase questionId } i call
            false error).2.filterMap SessionEffect.grants.note = [] := by
          unfold failRequest
          rw [identified]
          exact filterMap_enter
        dsimp only
        rw [List.filterMap_cons, failed]
        simp [stands, identified, SessionEffect.grants]
    | finishStarting finish =>
      refine filterMap_enter.trans ?_
      simp [stands]
    | queued | onCall | emitting | flushing | waiting | finishQueued | finishEmitting
    | finishFlushing | hooks | called
      | settled => simp [stands]

theorem filterMap_note (s : SessionRpcClientTransport) (event : SessionEvent) :
    (s.step event).2.filterMap SessionEffect.grants.note = s.grantNotes event := by
  have only (idle : event ≠ .pump) (starts : ∀ i error, event ≠ .startSettles i (some error))
      (running : event ≠ .close) : (s.step event).2.filterMap SessionEffect.grants.note =
        ((s.step event).2.filterMap SessionEffect.grants.note).filterMap GrantNote.recording := by
    refine (GrantNote.filterMap_recording fun note mem => ?_).symm
    obtain ⟨e, shown, reads⟩ := List.mem_filterMap.1 mem
    cases noted_moves (moves_step s event) shown reads with
    | recorded => rfl
    | returned pumps => exact absurd pumps idle
    | unsent i error call frame questionId failed => exact absurd failed (starts i error)
    | closed closes => exact absurd closes running
  cases event with
  | pump => exact note_pump s
  | startSettles i failure =>
    cases failure with
    | some error => exact note_startSettles s i error
    | none => exact only (by simp) (by simp) (by simp)
  | close =>
    unfold step grantNotes
    dsimp only
    split_ifs <;> rfl
  | start | resume | middlewareSettles | emitSettles | flushSettles | timeout | abort | frame
  | readFails | queueCloses
    | served | exportCapability => exact only (by simp) (by simp) (by simp)

/-- The client, once it is closed, records no grants. -/
def Cleared (s : SessionRpcClientTransport) : Prop := s.closed = true → s.questionParamCapGrants = ∅

theorem Cleared.keep (cleared : Cleared s) (keeps : Keeps s s') : Cleared s' :=
  fun closed => keeps.grants.trans (cleared (keeps.closed.symm.trans closed))

theorem Cleared.erase (cleared : Cleared s) (questionId : ℕ) :
    Cleared { s with questionParamCapGrants := s.questionParamCapGrants.erase questionId } := by
  intro closed
  have empty : s.questionParamCapGrants = ∅ := cleared closed
  change s.questionParamCapGrants.erase questionId = ∅
  rw [empty]
  rfl

theorem Cleared.record (cleared : Cleared s) {stage : SessionStage}
    (free : s.closed = true → recordsGrants call = false) :
    Cleared (((s.recordGrants call questionId).markReturnExpected questionId).goTo i stage) := by
  unfold recordGrants
  split_ifs with records
  · intro closed
    cases records.symm.trans (free closed)
  · exact cleared.keep ⟨rfl, rfl, rfl, rfl⟩

/-- Only an open client records grants, but where a call goes on from the middleware. -/
theorem Cleared.moves (cleared : Cleared s) (moves : Moves s event s' effects)
    (spares : s.recordsClosed event = false) : Cleared s' := by
  have allocated (i : OperationId) : Cleared (s.allocate i) := cleared
  cases moves with
  | nothing | serves | idles | serveFails | harness | finishTurn | finishHandedOver | flagged
  | threw | emitted
    | handedOver | finishEmitted => exact cleared.keep ⟨rfl, rfl, rfl, rfl⟩
  | begun operation options => exact cleared.keep (.start s operation options)
  | refused i | unasked i | concludes i | finishClosed i | finished i | finishUnstarted i
  | finishUnemitted i
    | finishUnflushed i => exact cleared.keep (.enter s i _)
  | hooked i => exact (allocated i).keep ⟨rfl, rfl, rfl, rfl⟩
  | unencoded i => exact (allocated i).keep (.enter _ i _)
  | asked i call found stands free =>
    refine (allocated i).record fun closed => ?_
    cases free.symm.trans closed
  | askedAfterHook i call questionId found stands =>
    refine cleared.record fun closed => ?_
    unfold recordsClosed at spares
    dsimp only at spares
    rw [found] at spares
    dsimp only at spares
    rw [stands, closed] at spares
    exact spares
  | unsent i call frame questionId =>
    have dropped : Cleared (markReturnObserved
        { s with questionParamCapGrants := s.questionParamCapGrants.erase questionId }
          questionId) :=
      cleared.erase questionId
    exact dropped.keep (.enter _ i _)
  | emitFailed i call questionId | flushFailed i call questionId =>
    have observed : Cleared (s.markReturnObserved questionId) := cleared
    exact observed.keep (.enter _ i _)
  | flushed i call questionId =>
    exact cleared.keep ((Keeps.toWaiting s i call).trans (.awaitReturn _ i call questionId))
  | answered i frameError call questionId outcome =>
    exact cleared.keep ((Keeps.observe s call questionId outcome).trans (.enter _ i _))
  | returned i frameError call result => exact cleared.keep (.afterCallRaw s i call result)
  | timedOut i call error => exact cleared.keep (.rejectAndRemove s i call error)
  | aborted i call error =>
    have flagged :
        Cleared (s.updateCall i fun call => { call with aborted := call.options.signal }) := cleared
    exact flagged.keep (.rejectAndRemove _ i call error)
  | received message =>
    have retired :
        Cleared (retireParamCapGrants { s with responsePump := .serving } message).1 := by
      unfold retireParamCapGrants
      split
      · exact cleared
      · exact cleared.erase message.answerId
    exact retired.keep ((keeps_handleReturn _ message).trans (.pumpResponses _))
  | stops error =>
    have stopped : Cleared { s with responsePump := .exiting, responsePumpStopped := true } :=
      cleared
    exact stopped.keep (.rejectAllPendingReturns _ error)
  | exits =>
    have off : Cleared { s with responsePump := .off } := cleared
    split_ifs
    · exact off.keep (.ensureResponsePump _)
    · exact off
  | pumpsOn => exact cleared.keep (.pumpResponses s)
  | exported =>
    have exported : Cleared { s with localBridge := true } := cleared
    exact exported.keep (.ensureResponsePump _)
  | closed =>
    intro _
    unfold close
    obtain ⟨pump, same⟩ := abortResponsePumpRead_only _
    dsimp only
    rw [same]

/-- What the frames that are handed over grant is recorded. -/
structure Keeping (past : List SessionEffect) (s : SessionRpcClientTransport) : Prop where
  starting : ∀ i frame asked questionId grants, Standing s.calls i (.starting frame) asked →
    frame.grants = some (questionId, grants) → .recorded questionId grants ∈ past
  emitted : Machine.Follows SessionEffect.grants.Granted past

theorem Keeping.moves (keeping : Keeping past s) (waiting : Waiting s)
    (moves : Moves s event s' effects) :
    Keeping (past ++ effects) s' := by
  refine ⟨fun i frame asked questionId grants standing granting => ?_, keeping.emitted.append ?_⟩
  · obtain before | readies := standing_moves moves rfl standing
    · exact List.mem_append_left _ (keeping.starting i frame asked questionId grants before
        granting)
    · cases readies with
      | starting call recorded =>
        exact List.mem_append_right _ (recorded _ (recorded_of_grants granting))
  · intro before effect after same frame questionId grants reads granting
    have mem : effect ∈ effects := by
      rw [same]
      exact List.mem_append_right _ List.mem_cons_self
    cases effect with
    | emitted i frame' =>
      cases reads
      obtain ⟨call, found, stands⟩ := standing_of_emitted moves mem
      obtain ⟨asked, identified⟩ := Option.isSome_iff_exists.1
        ((waiting.fit i call found).identified (by rw [stands]; rfl))
      have recorded :=
        keeping.starting i _ asked questionId grants ⟨call, found, stands, identified⟩ granting
      exact ⟨_, List.mem_append_left _ recorded, rfl⟩
    | _ => cases reads

theorem run_keeping (options : SessionRpcClientTransportOptions) (events : List SessionEvent) :
    Waiting (Machine.final step (initial options) events) ∧
      Keeping (Machine.shown step (initial options) events)
      (Machine.final step (initial options) events) := by
  have always : Machine.Always step (fun _ _ => True) (initial options) events :=
    Machine.always_of_forall (fun _ _ => trivial) events
  refine always.history (P := fun past s => Waiting s ∧ Keeping past s)
    (fun past s event _ ⟨waiting, keeping⟩ => ?_) ⟨Numbered.nil _, ?_, Machine.follows_nil⟩
  · have moves := moves_step s event
    exact ⟨waiting.moves moves, keeping.moves waiting moves⟩
  · rintro i frame asked questionId grants ⟨call, found, -⟩
    cases (List.getElem?_nil (i := i)).symm.trans found

theorem run_retired (options : SessionRpcClientTransportOptions) (events : List SessionEvent) :
    GrantsRetired SessionEffect.grants (Machine.readings step grantNotes (initial options) events)
      (Machine.shown step (initial options) events)
      (Machine.final step (initial options) events).questionParamCapGrants :=
  (run_granted options events).2.history.retired (Machine.filterMap_shown filterMap_note _ events)
    (run_keeping options events).2.emitted

end SessionRpcClientTransport

/-- What becomes of the grants of the questions, over both clients and every run.  Returns, and for
the wire client they come in one by one, for the session client in the order of the queue of its
harness, and the close retire what is recorded; nothing is recorded once a client is closed, if no
call that carries capabilities goes on from the middleware after the close of the session client. -/
theorem param_cap_grants_retired (wireOptions : RpcWireClientOptions) (wireEvents : List WireEvent)
    (options : SessionRpcClientTransportOptions) (events : List SessionEvent) :
    let wire := Machine.final RpcWireClient.step (.initial wireOptions) wireEvents
    let session := Machine.final SessionRpcClientTransport.step (.initial options) events
    (GrantsRetired WireEffect.grants
        (Machine.readings RpcWireClient.step RpcWireClient.grantNotes (.initial wireOptions)
          wireEvents)
        (Machine.shown RpcWireClient.step (.initial wireOptions) wireEvents)
        wire.questionParamCapGrants ∧
      (wire.closed = true → wire.questionParamCapGrants = ∅)) ∧
    GrantsRetired SessionEffect.grants
        (Machine.readings SessionRpcClientTransport.step SessionRpcClientTransport.grantNotes
          (.initial options) events)
        (Machine.shown SessionRpcClientTransport.step (.initial options) events)
        session.questionParamCapGrants ∧
      Machine.readings SessionRpcClientTransport.step SessionRpcClientTransport.taken
        (.initial options) events ++ session.unread =
          Machine.readings SessionRpcClientTransport.step SessionRpcClientTransport.queued
            (.initial options) events ∧
      (Machine.Always SessionRpcClientTransport.step
          (fun s event => s.recordsClosed event = false) (.initial options) events →
        session.closed = true → session.questionParamCapGrants = ∅) := by
  refine ⟨⟨RpcWireClient.run_retired wireOptions wireEvents,
    (RpcWireClient.run_keeping wireOptions wireEvents).closed⟩,
    SessionRpcClientTransport.run_retired options events,
    SessionRpcClientTransport.readings_taken options events, fun spares => ?_⟩
  refine spares.invariant (P := SessionRpcClientTransport.Cleared)
    (fun s event spared cleared => ?_) fun _ => rfl
  exact cleared.moves (SessionRpcClientTransport.moves_step s event) spared

/-- A call that grants a reference to capability 0 is at the middleware when the client closes; then
it goes on, and the harness does not take its frame any more. -/
def closedAtMiddleware : List SessionEvent :=
  [.start (.callRaw 7) { RpcClientCallOptions.default with paramsCapTable := some [⟨1, 0⟩] },
    .resume 0 none, .close,
    .middlewareSettles 0 none none, .startSettles 0 none,
      .emitSettles 0 (some (sessionError "rpc session is closed"))]

/-- The grants are recorded all the same, and kept. -/
theorem param_cap_grants_kept :
    ¬∀ options events,
      (Machine.final SessionRpcClientTransport.step (.initial options) events).closed = true →
      (Machine.final SessionRpcClientTransport.step (.initial options)
        events).questionParamCapGrants = ∅ := by
  intro dropped
  have empty := dropped ⟨0, none, none, none, true⟩ closedAtMiddleware (by rfl)
  have kept : ((Machine.final SessionRpcClientTransport.step (.initial ⟨0, none, none, none, true⟩)
      closedAtMiddleware).questionParamCapGrants.lookup 1).isSome = true := by rfl
  rw [empty] at kept
  cases kept

/-- A call that goes on from the middleware in time has its grants dropped by the close. -/
theorem param_cap_grants_retired_closed :
    let events : List SessionEvent :=
      [.start (.callRaw 7) { RpcClientCallOptions.default with paramsCapTable := some [⟨1, 0⟩] },
        .resume 0 none, .middlewareSettles 0 none none, .startSettles 0 none, .close]
    let s :=
      Machine.final SessionRpcClientTransport.step (.initial ⟨0, none, none, none, true⟩) events
    s.closed = true ∧ s.questionParamCapGrants = ∅ := by
  have closed := (param_cap_grants_retired .default [] ⟨0, none, none, none, true⟩
    [.start (.callRaw 7) { RpcClientCallOptions.default with paramsCapTable := some [⟨1, 0⟩] },
      .resume 0 none, .middlewareSettles 0 none none, .startSettles 0 none, .close]).2.2.2
  exact ⟨by rfl, closed (by decide) (by rfl)⟩

end CapnpDeno
