import CapnpDeno.Rpc.Client.ParamCapGrants
import CapnpDeno.Rpc.Client.WireWaiters

/-!
# Grants of RpcWireClient, from outside

What becomes of grants is told here by what comes in, Returns and the close, and by the frames that
the transport is handed: the references that a Call carries are recorded before the transport has
it.
-/

namespace CapnpDeno

namespace RpcWireClient

variable {s s' : RpcWireClient} {event : WireEvent} {past effects : List WireEffect}
  {i : OperationId} {call : WireCall} {frame : ClientFrame}

/-! ## The frames that grant -/

/-- The operation is to hand the frame to the transport. -/
def Handing (calls : List WireCall) (i : OperationId) (frame : ClientFrame) : Prop :=
  ∃ call, calls[i]? = some call ∧ call.stage = .handing frame

/-- No operation comes to hand a frame over. -/
def Unhands (s s' : RpcWireClient) : Prop :=
  ∀ i frame, Handing s'.calls i frame → Handing s.calls i frame

namespace Unhands

theorem same (calls : s'.calls = s.calls) : Unhands s s' := by
  intro i frame handing
  rwa [calls] at handing

theorem trans {s'' : RpcWireClient} (first : Unhands s s') (second : Unhands s' s'') :
    Unhands s s'' :=
  fun i frame handing => first i frame (second i frame handing)

/-- One operation is changed, and does not come to hand a frame over. -/
theorem modify {f : WireCall → WireCall} (calls : s'.calls = s.calls.modify i f)
    (kept : ∀ call frame, (f call).stage = .handing frame → call.stage = .handing frame) :
    Unhands s s' := by
  rintro j frame ⟨call, found, stands⟩
  rw [calls] at found
  obtain ⟨rfl, before, old, rfl⟩ | ⟨-, old⟩ := Heap.of_modify found
  · exact ⟨before, old, kept before frame stands⟩
  · exact ⟨call, old, stands⟩

theorem goTo {stage : WireStage} (s : RpcWireClient) (i : OperationId)
    (elsewhere : ∀ frame, stage ≠ .handing frame) : Unhands s (s.goTo i stage) := by
  apply modify (i := i) (f := fun call => { call with stage := stage })
  · rfl
  · exact fun _ frame stands => absurd stands (elsewhere frame)

theorem waitForReturn (s : RpcWireClient) (questionId : ℕ) (i : OperationId) (call : WireCall) :
    Unhands s (s.waitForReturn questionId i call) := by
  unfold RpcWireClient.waitForReturn
  split_ifs
  · exact modify (i := i) rfl fun _ _ stands => stands
  · exact modify (i := i) rfl fun _ _ stands => stands

theorem reject (s : RpcWireClient) (i : OperationId) (call : WireCall) (error : Thrown) :
    Unhands s (s.reject i call error) := by
  unfold RpcWireClient.reject
  split
  · exact modify (i := i) rfl fun _ _ stands => stands
  · exact same rfl

theorem mapIdx {f : OperationId → WireCall → WireCall} (calls : s'.calls = s.calls.mapIdx f)
    (kept : ∀ i call frame, (f i call).stage = .handing frame → call.stage = .handing frame) :
    Unhands s s' := by
  rintro i frame ⟨call, found, stands⟩
  rw [calls, List.getElem?_mapIdx] at found
  obtain ⟨before, old, rfl⟩ := Option.map_eq_some_iff.1 found
  exact ⟨before, old, kept i before frame stands⟩

theorem rejectAllPending (s : RpcWireClient) (error : Thrown) :
    Unhands s (s.rejectAllPending error) := by
  refine mapIdx rfl fun i call frame stands => ?_
  unfold rejectCall at stands
  split_ifs at stands <;> exact stands

theorem start (s : RpcWireClient) (operation : WireOperation) (options : RpcClientCallOptions) :
    Unhands s (s.start operation options).1 := by
  have added (call : WireCall) (elsewhere : ∀ frame, call.stage ≠ .handing frame)
      (next : RpcWireClient) (calls : next.calls = s.calls ++ [call]) : Unhands s next := by
    rintro i frame ⟨other, found, stands⟩
    rw [calls] at found
    obtain old | ⟨-, rfl⟩ := Heap.of_append found
    · exact ⟨other, old, stands⟩
    · exact absurd stands (elsewhere frame)
  unfold RpcWireClient.start
  dsimp only
  split_ifs
  · refine added _ (fun frame => ?_) _ rfl
    simp
  · refine added _ (fun frame => ?_) _ rfl
    cases operation <;> simp

theorem map {f : WireCall → WireCall} (calls : s'.calls = s.calls.map f)
    (kept : ∀ call frame, (f call).stage = .handing frame → call.stage = .handing frame) :
    Unhands s s' := by
  rintro i frame ⟨call, found, stands⟩
  rw [calls, List.getElem?_map] at found
  obtain ⟨before, old, rfl⟩ := Option.map_eq_some_iff.1 found
  exact ⟨before, old, kept before frame stands⟩

theorem onFrame (s : RpcWireClient) (message : RpcReturnMessage) :
    Unhands s (s.onFrame (.ret message)).1 := by
  have settled :
      Unhands s (s.settleParamCapGrants message.answerId message.releaseParamCaps).1 := by
    unfold settleParamCapGrants
    split <;> exact same rfl
  refine settled.trans ?_
  unfold RpcWireClient.onFrame deliver
  dsimp only
  split
  · exact same rfl
  · split_ifs
    · exact modify rfl fun _ _ stands => stands
    · exact modify rfl fun _ _ stands => stands

end Unhands

/-- The only operation that comes to hand a frame over is one that records what the frame grants. -/
theorem handing_moves (moves : Moves s event s' effects)
    (handing : Handing s'.calls i frame) :
    Handing s.calls i frame ∨ ∃ call questionId, s.prepare call = .ok (questionId, frame) ∧
      ∀ e ∈ grantEffects call questionId, e ∈ effects := by
  have old (unhands : Unhands s s') : Handing s.calls i frame ∨ ∃ call questionId,
      s.prepare call = .ok (questionId, frame) ∧ ∀ e ∈ grantEffects call questionId, e ∈ effects :=
    .inl (unhands i frame handing)
  cases moves with
  | nothing | opened | threw | exported => exact .inl handing
  | begun operation options => exact old (.start s operation options)
  | startFailed error | broken event error => exact old (.rejectAllPending _ _)
  | refused i | finished i | finishFailed i => exact old (.goTo s i (by simp))
  | unencoded i call questionId =>
    have allocated : Unhands s (s.allocate i questionId) :=
      .modify (i := i) rfl fun _ _ stands => stands
    exact old (allocated.trans (.goTo _ i (by simp)))
  | asked j call questionId frame' found stands free prepared =>
    have allocated : Unhands s (s.allocate j questionId) :=
      .modify (i := j) rfl fun _ _ stands => stands
    have recorded : Unhands (s.allocate j questionId)
        ((s.allocate j questionId).recordGrants call questionId) := by
      unfold recordGrants
      split_ifs <;> exact .same rfl
    obtain ⟨changed, there, stage⟩ := handing
    obtain ⟨rfl, before, -, rfl⟩ | ⟨-, before⟩ := Heap.of_modify there
    · cases stage
      exact .inr ⟨call, questionId, prepared, fun e mem => List.mem_cons_of_mem _ mem⟩
    · have waiting := (allocated.trans recorded).trans (.waitForReturn _ questionId j call)
      exact .inl (waiting i frame ⟨changed, before, stage⟩)
  | handedOff i | handedOver i => exact old (.goTo s i (by simp))
  | sendFailed i call error error' =>
    exact old ((Unhands.reject s i call error).trans (.goTo _ i (by simp)))
  | answered i frameError call questionId outcome =>
    refine old (.goTo s i fun frame stands => ?_)
    have past := (past_afterWait call questionId outcome).1
    rw [stands] at past
    cases past
  | finishSent i frameError call finish found stands free =>
    unfold sendFinish at handing
    rw [free] at handing
    exact .inl (Unhands.goTo _ _ (by simp) _ _ handing)
  | timedOut i call error => exact old (.reject s i call error)
  | flagged i => exact old (.modify (i := i) rfl fun _ _ stands => stands)
  | aborted i call error =>
    have flagged : Unhands s (s.updateCall i fun call =>
        { call with aborted := call.options.signal }) :=
      .modify (i := i) rfl fun _ _ stands => stands
    exact old (flagged.trans (.reject _ i call error))
  | returned message => exact old (.onFrame s message)
  | closed =>
    refine old ((Unhands.rejectAllPending s clientClosed).trans (.map (f := loseRace) rfl ?_))
    intro call frame stands
    unfold loseRace at stands
    split at stands
    · cases stands
    · cases stands
    · exact stands

/-- Only an operation that is to hand a frame over sends one. -/
theorem handing_of_sent (moves : Moves s event s' effects) (mem : .sent i frame ∈ effects) :
    Handing s.calls i frame := by
  have absent {effects : List WireEffect}
      (silent : ∀ e ∈ effects, ∃ j result, e = .settled j result)
      (mem : .sent i frame ∈ effects) : Handing s.calls i frame := by
    obtain ⟨j, result, same⟩ := silent _ mem
    cases same
  cases moves with
  | handedOff j call frame' found stands =>
    cases List.mem_singleton.1 mem
    exact ⟨call, found, stands⟩
  | nothing | opened | startFailed | timedOut | flagged | aborted | broken | exported => cases mem
  | refused | sendFailed | finishFailed | finished | handedOver
  | threw => cases List.mem_singleton.1 mem
  | begun operation options =>
    unfold start at mem
    dsimp only at mem
    split_ifs at mem
    · cases List.mem_singleton.1 mem
    · cases mem
  | unencoded j => simp at mem
  | asked j call questionId =>
    unfold grantEffects at mem
    split_ifs at mem <;> simp at mem
  | answered j frameError call questionId outcome =>
    unfold enter at mem
    dsimp only at mem
    split at mem
    · cases List.mem_singleton.1 mem
    · cases mem
  | finishSent j frameError call finish found stands free =>
    unfold sendFinish at mem
    rw [free] at mem
    cases List.mem_singleton.1 mem
  | returned message =>
    unfold onFrame settleParamCapGrants deliver at mem
    dsimp only at mem
    grind
  | closed =>
    rcases List.mem_cons.1 mem with same | later
    · cases same
    · exact absent (fun e mem => lostRaces_settled mem) later

/-- What the frame of a question grants is recorded. -/
theorem recorded_of_grants {asked questionId : ℕ} {grants : ParamCapGrants}
    (prepared : s.prepare call = .ok (asked, frame))
    (granting : frame.grants = some (questionId, grants)) :
    .recorded questionId grants ∈ grantEffects call asked := by
  have plain {make : ℕ → ClientFrame}
      (asks : (do let questionId ← s.allocQuestionId; return (questionId, make questionId)) =
        Except.ok (asked, frame)) :
      frame = make asked := by
    obtain ⟨allocated, -, same⟩ := Fallible.bind_eq_ok.1 asks
    cases same
    rfl
  unfold prepare at prepared
  unfold grantEffects recordsGrants
  cases operation : call.operation with
  | callRaw capabilityIndex | method capabilityIndex =>
    rw [operation] at prepared
    obtain ⟨interfaceId, -, prepared⟩ := Fallible.bind_eq_ok.1 prepared
    obtain ⟨-, -, prepared⟩ := Fallible.bind_eq_ok.1 prepared
    rw [plain prepared] at granting
    unfold ClientFrame.grants at granting
    dsimp only at granting ⊢
    split_ifs at granting with hosts
    cases granting
    have hosted : hostsParamCaps call.options = true := hosts
    rw [if_pos hosted]
    exact List.mem_singleton_self _
  | bootstrap | finish =>
    rw [operation] at prepared
    rw [plain prepared] at granting
    cases granting

/-! ## Runs -/

/-- What a step says of grants: a Return that comes in, the close of an open client, and the calls
whose grants are recorded. -/
def grantNotes (s : RpcWireClient) (event : WireEvent) : List GrantNote :=
  match event with
  | .inbound (.ret message) => [.returned message s.localBridge]
  | .close => if s.closed then [] else [.closed]
  | event => ((s.step event).2.filterMap WireEffect.grants.note).filterMap GrantNote.recording

/-- Only Returns and the close say anything else of grants than that they are recorded. -/
theorem recording_moves (moves : Moves s event s' effects) :
    (∃ message, event = .inbound (.ret message)) ∨ event = .close ∨
      ∀ e ∈ effects, ∀ note, WireEffect.grants.note e = some note → note.recording = some note := by
  cases moves with
  | returned message => exact .inl ⟨message, rfl⟩
  | closed => exact .inr (.inl rfl)
  | nothing | opened | startFailed | timedOut | flagged | aborted | broken
  | exported => exact .inr (.inr (by simp))
  | refused | sendFailed | finishFailed | finished | handedOff | handedOver | threw | unencoded =>
    exact .inr (.inr (by simp [WireEffect.grants]))
  | begun operation options =>
    refine .inr (.inr ?_)
    unfold start
    dsimp only
    split_ifs <;> simp [WireEffect.grants]
  | asked j call questionId =>
    refine .inr (.inr ?_)
    unfold grantEffects
    split_ifs <;> simp [WireEffect.grants, GrantNote.recording]
  | answered j frameError call questionId outcome =>
    refine .inr (.inr ?_)
    unfold enter
    dsimp only
    split <;> simp [WireEffect.grants]
  | finishSent j frameError call finish found stands free =>
    refine .inr (.inr ?_)
    unfold sendFinish
    rw [free]
    simp [WireEffect.grants]

theorem note_onFrame (message : RpcReturnMessage) :
    (s.onFrame (.ret message)).2.filterMap WireEffect.grants.note =
      [.returned message s.localBridge] := by
  have retired : (s.settleParamCapGrants message.answerId message.releaseParamCaps).2.filterMap
      WireEffect.grants.note = [] := by
    unfold settleParamCapGrants
    split
    · rfl
    · dsimp only
      split_ifs <;> rfl
  have delivered (s : RpcWireClient) : (s.deliver message).2.filterMap WireEffect.grants.note =
      [] := by
    unfold deliver
    split <;> rfl
  unfold onFrame
  dsimp only
  simp only [List.cons_append, List.filterMap_cons, List.filterMap_append, retired, delivered]
  rfl

theorem note_close : s.close.2.filterMap WireEffect.grants.note = [.closed] := by
  have lost : (s.calls.mapIdx lostRace).flatten.filterMap WireEffect.grants.note = [] := by
    refine List.filterMap_eq_nil_iff.2 fun e mem => ?_
    obtain ⟨i, result, rfl⟩ := lostRaces_settled mem
    rfl
  change GrantNote.closed :: (s.calls.mapIdx lostRace).flatten.filterMap WireEffect.grants.note = _
  rw [lost]

/-- What the effects of a step say of grants is what comes in and what is recorded. -/
theorem filterMap_note (s : RpcWireClient) (event : WireEvent) :
    (s.step event).2.filterMap WireEffect.grants.note = s.grantNotes event := by
  have only (apart : ∀ message, event ≠ .inbound (.ret message)) (running : event ≠ .close) :
      (s.step event).2.filterMap WireEffect.grants.note =
        ((s.step event).2.filterMap WireEffect.grants.note).filterMap GrantNote.recording := by
    refine (GrantNote.filterMap_recording fun note mem => ?_).symm
    obtain ⟨e, shown, reads⟩ := List.mem_filterMap.1 mem
    obtain ⟨message, rfl⟩ | rfl | recording := recording_moves (moves_step s event)
    · exact absurd rfl (apart message)
    · exact absurd rfl running
    · exact recording e shown note reads
  cases event with
  | inbound message =>
    cases message with
    | ret message => exact note_onFrame message
    | undecodable | foreign => exact only (by simp) (by simp)
  | close =>
    unfold step grantNotes
    dsimp only
    split_ifs
    · rfl
    · exact note_close
  | start | startSettles | resume | handOff | sendSettles | timeout | abort | callbackFails
  | exportCapability =>
    exact only (by simp) (by simp)

/-- Only an open client records grants. -/
theorem emptied_moves (moves : Moves s event s' effects) (closed : s'.closed = true)
    (empty : s.closed = true → s.questionParamCapGrants = ∅) : s'.questionParamCapGrants = ∅ := by
  have rejected (i : OperationId) (call : WireCall) (error : Thrown)
      (closed : (s.reject i call error).closed = true) :
      (s.reject i call error).questionParamCapGrants = ∅ := by
    unfold reject at closed ⊢
    split at closed <;> exact empty closed
  cases moves with
  | nothing | opened | startFailed | flagged | broken | exported | threw => exact empty closed
  | begun operation options =>
    unfold start at closed ⊢
    dsimp only at closed ⊢
    split_ifs at closed ⊢ <;> exact empty closed
  | refused | finishFailed | finished | handedOff | handedOver | unencoded
  | answered => exact empty closed
  | asked i call questionId frame found stands free =>
    unfold recordGrants waitForReturn at closed
    split_ifs at closed <;> cases closed.symm.trans (unready_open free)
  | sendFailed i call error error' => exact rejected i call error closed
  | finishSent i frameError call finish found stands free =>
    unfold sendFinish at closed ⊢
    rw [free] at closed ⊢
    exact empty closed
  | timedOut i call error => exact rejected i call error closed
  | aborted i call error =>
    unfold reject at closed ⊢
    split at closed <;> exact empty closed
  | returned message =>
    have same : (s.onFrame (.ret message)).1.closed = s.closed := by
      unfold onFrame settleParamCapGrants deliver
      grind [settleWaiter, updateCall]
    have ended :=
      (deliver_grants (s := (s.settleParamCapGrants message.answerId message.releaseParamCaps).1)
        message).1
    refine Eq.trans ended ?_
    unfold settleParamCapGrants
    rw [empty (same.symm.trans closed)]
    exact empty (same.symm.trans closed)
  | closed => rfl

/-- What a client keeps and sends: nothing is kept once it is closed, and what its frames grant is
recorded. -/
structure Keeping (past : List WireEffect) (s : RpcWireClient) : Prop where
  closed : s.closed = true → s.questionParamCapGrants = ∅
  handing : ∀ i frame questionId grants, Handing s.calls i frame →
    frame.grants = some (questionId, grants) →
    .recorded questionId grants ∈ past
  sent : Machine.Follows WireEffect.grants.Granted past

theorem Keeping.moves (keeping : Keeping past s) (moves : Moves s event s' effects) :
    Keeping (past ++ effects) s' := by
  refine ⟨fun closed => emptied_moves moves closed keeping.closed, ?_, keeping.sent.append ?_⟩
  · intro i frame questionId grants handing granting
    obtain before | ⟨call, asked, prepared, recorded⟩ := handing_moves moves handing
    · exact List.mem_append_left _ (keeping.handing i frame questionId grants before granting)
    · exact List.mem_append_right _ (recorded _ (recorded_of_grants prepared granting))
  · intro before effect after same frame questionId grants reads granting
    have mem : effect ∈ effects := by
      rw [same]
      exact List.mem_append_right _ List.mem_cons_self
    cases effect <;> cases reads
    have recorded := keeping.handing _ frame questionId grants (handing_of_sent moves mem) granting
    exact ⟨_, List.mem_append_left _ recorded, rfl⟩

/-- What holds of every run. -/
theorem run_keeping (options : RpcWireClientOptions) (events : List WireEvent) :
    Keeping (Machine.shown step (initial options) events)
    (Machine.final step (initial options) events) := by
  have always : Machine.Always step (fun _ _ => True) (initial options) events :=
    Machine.always_of_forall (fun _ _ => trivial) events
  refine always.history (P := Keeping)
    (fun _ s event _ keeping => keeping.moves (moves_step s event))
    ⟨fun _ => rfl, ?_, Machine.follows_nil⟩
  rintro i frame questionId grants ⟨call, found, -⟩
  cases (List.getElem?_nil (i := i)).symm.trans found

theorem run_retired (options : RpcWireClientOptions) (events : List WireEvent) :
    GrantsRetired WireEffect.grants (Machine.readings step grantNotes (initial options) events)
      (Machine.shown step (initial options) events)
      (Machine.final step (initial options) events).questionParamCapGrants :=
  (run_granted options events).retired (Machine.filterMap_shown filterMap_note _ events)
    (run_keeping options events).sent

end RpcWireClient

end CapnpDeno
