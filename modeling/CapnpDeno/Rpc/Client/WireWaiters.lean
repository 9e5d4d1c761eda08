import CapnpDeno.Lib.Numbered
import CapnpDeno.Rpc.Client.WireMoves

/-!
# Waiters of the wire client's calls

The pending Returns are those of the operations that wait, and every question id belongs to one
operation.
-/

namespace CapnpDeno

/-! ## Waiters -/

/-- The frame of the operation is on its way or handed over, and its Return is not there. -/
def WireStage.asking : WireStage → Bool
  | .handing _ | .sending | .waiting => true
  | _ => false

namespace WireCall

/-- Nothing has come to the waiter of the operation. -/
def awaits (call : WireCall) : Bool := call.stage.asking && call.promise.isNone

/-- A timer runs and a signal is heard only in the wait, and a question gets its id when it is
asked. -/
structure Fit (call : WireCall) : Prop where
  watched : call.timer = true ∨ call.listening = true → call.awaits = true
  ready : call.stage = .ready → call.questionId = none ∧ call.promise = none
  identified : call.stage.asking = true → call.questionId.isSome = true

variable {call : WireCall}

theorem awaits_iff : call.awaits = true ↔ call.stage.asking = true ∧ call.promise = none := by
  unfold awaits
  rw [Bool.and_eq_true, Option.isNone_iff_eq_none]

theorem awaits_of_promise (settled : call.promise.isSome = true) : call.awaits = false := by
  refine Bool.eq_false_iff.2 fun awaits => ?_
  rw [(awaits_iff.1 awaits).2] at settled
  cases settled

theorem awaits_of_stage (idle : call.stage.asking = false) : call.awaits = false := by
  unfold awaits
  rw [idle]
  rfl

theorem Fit.identified_of_awaits (fit : call.Fit) (awaits : call.awaits = true) :
    ∃ questionId, call.questionId = some questionId :=
  Option.isSome_iff_exists.1 (fit.identified (awaits_iff.1 awaits).1)

end WireCall

namespace RpcWireClient

variable {s s' : RpcWireClient} {event : WireEvent} {effects : List WireEffect}
  {calls : List WireCall} {pendingReturns : Table ℕ OperationId} {next questionId : ℕ}
  {i : OperationId} {call : WireCall}

/-- The waiters of the operations, and the ids of their questions. -/
abbrev Waits (calls : List WireCall) (pendingReturns : Table ℕ OperationId) (next : ℕ) : Prop :=
  Numbered WireCall.Fit WireCall.questionId WireCall.awaits id calls pendingReturns next

abbrev Waiting (s : RpcWireClient) : Prop := Waits s.calls s.pendingReturns s.nextQuestionId

namespace Waits

/-- The waiter of a question. -/
theorem of_pending (waits : Waits calls pendingReturns next)
    (pending : pendingReturns.lookup questionId = some i) :
    ∃ call, calls[i]? = some call ∧ call.questionId = some questionId ∧ call.awaits = true := by
  obtain ⟨j, call, rfl, waiter⟩ := (waits.pending questionId i).1 pending
  exact ⟨call, waiter⟩

theorem lookup (waits : Waits calls pendingReturns next) (found : calls[i]? = some call)
    (identified : call.questionId = some questionId) :
    pendingReturns.lookup questionId = if call.awaits then some i else none :=
  Numbered.lookup waits found identified

/-- An operation comes to a stage at which it waits as before. -/
theorem goTo (waits : Waits calls pendingReturns next) (found : calls[i]? = some call)
    {stage : WireStage} (same : stage.asking = call.stage.asking) (begun : stage ≠ .ready) :
    Waits (calls.modify i fun call => { call with stage := stage }) pendingReturns next := by
  have fit := waits.fit i call found
  have awaits : ({ call with stage := stage } : WireCall).awaits = call.awaits := by
    unfold WireCall.awaits
    rw [same]
  refine waits.keep found rfl ⟨fun watched => ?_, fun ready => absurd ready begun, fun asking =>
    ?_⟩ awaits
  · rw [awaits]
    exact fit.watched watched
  · exact fit.identified (same.symm.trans asking)

/-- An operation whose waiter is gone, or that has none, comes past its wait. -/
theorem goPast (waits : Waits calls pendingReturns next) (found : calls[i]? = some call)
    {stage : WireStage} (idle : call.awaits = false) (past : stage.asking = false)
    (begun : stage ≠ .ready) :
    Waits (calls.modify i fun call => { call with stage := stage }) pendingReturns next := by
  have fit := waits.fit i call found
  have quiet : ({ call with stage := stage } : WireCall).awaits = false :=
    WireCall.awaits_of_stage past
  refine waits.keep found rfl ⟨fun watched => ?_, fun ready => absurd ready begun, fun asking => ?_⟩
    (quiet.trans idle.symm)
  · cases idle.symm.trans (fit.watched watched)
  · cases past.symm.trans asking

/-- The promise of an operation that waits is settled. -/
theorem settle (waits : Waits calls pendingReturns next) (found : calls[i]? = some call)
    (identified : call.questionId = some questionId) (awaits : call.awaits = true)
    (outcome : Except Thrown RpcReturnMessage) :
    Waits (calls.modify i fun call =>
      { call with timer := false, listening := false, promise := some outcome })
      (pendingReturns.erase questionId) next := by
  have fit := waits.fit i call found
  refine waits.forget found identified rfl ⟨nofun, fun ready => ?_, fit.identified⟩
    (WireCall.awaits_of_promise rfl)
  have ready : call.stage = .ready := ready
  have asking := (WireCall.awaits_iff.1 awaits).1
  rw [ready] at asking
  cases asking

theorem fit_rejectCall (waits : Waits calls pendingReturns next) (found : calls[i]? = some call)
    (error : Thrown) :
    (rejectCall pendingReturns error i call).Fit ∧
      (rejectCall pendingReturns error i call).awaits = false ∧
      (rejectCall pendingReturns error i call).questionId = call.questionId := by
  have fit := waits.fit i call found
  unfold rejectCall
  split_ifs with pending
  · refine ⟨⟨nofun, fun ready => ?_, fit.identified⟩, WireCall.awaits_of_promise rfl, rfl⟩
    have ready : call.stage = .ready := ready
    rw [(fit.ready ready).1] at pending
    cases pending
  · have quiet : call.awaits = false := Bool.eq_false_iff.2 fun awaits => by
      obtain ⟨questionId, identified⟩ := fit.identified_of_awaits awaits
      refine pending ?_
      rw [identified, Option.bind_some, waits.lookup found identified, if_pos awaits]
    exact ⟨fit, quiet, rfl⟩

/-- All waiters are rejected. -/
theorem rejectAll (waits : Waits calls pendingReturns next) (error : Thrown) :
    Waits (calls.mapIdx (rejectCall pendingReturns error)) ∅ next :=
  waits.forgetAll fun _ _ found => waits.fit_rejectCall found error

/-- The question of an operation gets an id, and its promise is rejected at once or its frame is not
sent. -/
theorem allocate (waits : Waits calls pendingReturns next) (found : calls[i]? = some call)
    (stands : call.stage = .ready) {f : WireCall → WireCall}
    (identified : (f call).questionId = some next) (begun : (f call).stage ≠ .ready)
    (unwatched : (f call).timer = false ∧ (f call).listening = false)
    (idle : (f call).awaits = false) : Waits (calls.modify i f) pendingReturns (next + 1) := by
  refine Numbered.allocate waits found identified ⟨?_, fun ready => absurd ready begun,
    fun _ => ?_⟩ idle ((waits.fit i call found).ready stands).1
  · rw [unwatched.1, unwatched.2]
    exact nofun
  · rw [identified]
    rfl

/-- The question of an operation gets an id, and the operation waits for its Return. -/
theorem allocateWaiting (waits : Waits calls pendingReturns next) (found : calls[i]? = some call)
    (stands : call.stage = .ready) {f : WireCall → WireCall}
    (identified : (f call).questionId = some next) (asking : (f call).stage.asking = true)
    (promise : (f call).promise = call.promise) :
    Waits (calls.modify i f) (pendingReturns.insert next i) (next + 1) := by
  have ready := (waits.fit i call found).ready stands
  have awaits : (f call).awaits = true := WireCall.awaits_iff.2 ⟨asking, promise.trans ready.2⟩
  refine Numbered.allocateWaiting waits found identified ⟨fun _ => awaits, fun again => ?_, fun _ =>
    ?_⟩ awaits ready.1
  · rw [again] at asking
    cases asking
  · rw [identified]
    rfl

end Waits

/-! ## Steps -/

/-- The waiter of an operation that is in its wait, or has come past it, is rejected if it is
registered. -/
theorem reject_cases (waits : Waiting s) (found : s.calls[i]? = some call)
    (asking : call.stage.asking = true) (error : Thrown) :
    call.awaits = false ∧ s.reject i call error = s ∨
      ∃ questionId, call.questionId = some questionId ∧ call.awaits = true ∧
        s.reject i call error = s.settleWaiter questionId i (.error error) := by
  obtain ⟨questionId, identified⟩ :=
    Option.isSome_iff_exists.1 ((waits.fit i call found).identified asking)
  unfold reject
  rw [identified]
  cases promise : call.promise with
  | none => exact .inr ⟨questionId, rfl, WireCall.awaits_iff.2 ⟨asking, promise⟩, rfl⟩
  | some outcome => exact .inl ⟨WireCall.awaits_of_promise (promise ▸ rfl), rfl⟩

theorem Waits.begun (waits : Waiting s) (operation : WireOperation)
    (options : RpcClientCallOptions) :
    Waiting (s.start operation options).1 := by
  unfold start
  dsimp only
  split_ifs
  · exact waits.append rfl ⟨nofun, nofun, nofun⟩
  · refine waits.append rfl ⟨nofun, fun _ => ⟨rfl, rfl⟩, ?_⟩
    cases operation <;> exact nofun

theorem recordGrants_only (s : RpcWireClient) (call : WireCall) (questionId : ℕ) :
    ∃ grants, s.recordGrants call questionId = { s with questionParamCapGrants := grants } := by
  unfold recordGrants
  split_ifs <;> exact ⟨_, rfl⟩

theorem settleParamCapGrants_only (s : RpcWireClient) (questionId : ℕ) (release : Bool) :
    ∃ grants, (s.settleParamCapGrants questionId release).1 =
      { s with questionParamCapGrants := grants } := by
  unfold settleParamCapGrants
  split <;> exact ⟨_, rfl⟩

theorem Waits.asked (waits : Waiting s) (found : s.calls[i]? = some call)
    (stands : call.stage = .ready) (frame : ClientFrame) :
    Waiting
      (((((s.allocate i s.nextQuestionId).recordGrants call s.nextQuestionId).waitForReturn
        s.nextQuestionId i
      call)).goTo i (.handing frame)) := by
  obtain ⟨grants, same⟩ := recordGrants_only (s.allocate i s.nextQuestionId) call s.nextQuestionId
  have unwatched : call.awaits = false := WireCall.awaits_of_stage (by rw [stands]; rfl)
  have still := (waits.fit i call found).watched.mt (by rw [unwatched]; exact nofun)
  rw [same]
  unfold waitForReturn
  split_ifs
  · change Waits (((s.calls.modify i _).modify i _).modify i _) _ _
    rw [List.modify_modify_eq, List.modify_modify_eq]
    refine Waits.allocate waits found stands rfl nofun ⟨?_, ?_⟩ (WireCall.awaits_of_promise rfl)
    · exact Bool.eq_false_iff.2 fun timer => still (.inl timer)
    · exact Bool.eq_false_iff.2 fun listening => still (.inr listening)
  · change Waits (((s.calls.modify i _).modify i _).modify i _) _ _
    rw [List.modify_modify_eq, List.modify_modify_eq]
    exact Waits.allocateWaiting waits found stands rfl rfl rfl

/-- The operation comes past its wait, if there has been one. -/
theorem Waits.past (waits : Waiting s) (found : s.calls[i]? = some call)
    (idle : call.awaits = false) {stage : WireStage} (past : stage.asking = false)
    (begun : stage ≠ .ready) : Waiting (s.goTo i stage) :=
  waits.goPast found idle past begun

theorem past_afterWait (call : WireCall) (questionId : ℕ)
    (outcome : Except Thrown RpcReturnMessage) :
    (afterWait call questionId outcome).asking = false ∧ afterWait call questionId outcome ≠
      .ready := by
  unfold afterWait answer
  split
  · dsimp only
    split
    · split
      · split_ifs <;> exact ⟨rfl, nofun⟩
      · exact ⟨rfl, nofun⟩
    · split
      · exact ⟨rfl, nofun⟩
      · split_ifs <;> exact ⟨rfl, nofun⟩
    · exact ⟨rfl, nofun⟩
  · split_ifs <;> exact ⟨rfl, nofun⟩

theorem Waits.rejected (waits : Waiting s) (found : s.calls[i]? = some call)
    (awaits : call.awaits = true) (error : Thrown) : Waiting (s.reject i call error) := by
  obtain ⟨idle, -⟩ | ⟨questionId, identified, -, same⟩ :=
    reject_cases waits found (WireCall.awaits_iff.1 awaits).1 error
  · cases idle.symm.trans awaits
  · rw [same]
    exact Waits.settle waits found identified awaits _

theorem Waits.returned (waits : Waiting s) (message : RpcReturnMessage) :
    Waiting (s.onFrame (.ret message)).1 := by
  obtain ⟨grants, same⟩ := settleParamCapGrants_only s message.answerId message.releaseParamCaps
  change Waiting ((s.settleParamCapGrants message.answerId message.releaseParamCaps).1.deliver
    message).1
  rw [same]
  unfold deliver
  cases pending : s.pendingReturns.lookup message.answerId with
  | none => exact waits
  | some i =>
    obtain ⟨call, found, identified, awaits⟩ := Waits.of_pending waits pending
    dsimp only
    split_ifs <;> exact Waits.settle waits found identified awaits _

theorem fit_loseRace (fit : call.Fit) (idle : call.awaits = false) :
    (loseRace call).Fit ∧ (loseRace call).awaits = false ∧ (loseRace call).questionId =
      call.questionId := by
  have lost {result : Except Thrown ClientAnswer} :
      ({ call with stage := .settled result } : WireCall).Fit ∧
        ({ call with stage := .settled result } : WireCall).awaits = false ∧
        ({ call with stage := .settled result } : WireCall).questionId = call.questionId := by
    refine ⟨⟨fun watched => ?_, nofun, nofun⟩, WireCall.awaits_of_stage rfl, rfl⟩
    cases idle.symm.trans (fit.watched watched)
  unfold loseRace
  split
  · exact lost
  · exact lost
  · exact ⟨fit, idle, rfl⟩

theorem calls_close (s : RpcWireClient) :
    s.close.1.calls = s.calls.mapIdx fun i call =>
      loseRace (rejectCall s.pendingReturns clientClosed i call) :=
  List.ext_getElem? fun i => by
    simp only [close, rejectAllPending, List.getElem?_map, List.getElem?_mapIdx, Option.map_map]
    rfl

theorem Waits.closed (waits : Waiting s) : Waiting s.close.1 := by
  change Waits s.close.1.calls _ _
  rw [calls_close]
  refine waits.forgetAll fun i call found => ?_
  obtain ⟨fit, idle, same⟩ := Waits.fit_rejectCall waits found clientClosed
  obtain ⟨lost, quiet, kept⟩ := fit_loseRace fit idle
  exact ⟨lost, quiet, kept.trans same⟩

theorem Waits.moves (waits : Waiting s) (moves : Moves s event s' effects) : Waiting s' := by
  cases moves with
  | nothing | opened | threw | exported => exact waits
  | startFailed | broken => exact Waits.rejectAll waits _
  | begun operation options => exact waits.begun operation options
  | refused i frameError call error found stands =>
    exact waits.past found (WireCall.awaits_of_stage (by rw [stands]; rfl)) rfl nofun
  | unencoded i call questionId frame error found stands free prepared =>
    rw [prepare_ok prepared]
    have unwatched : call.awaits = false := WireCall.awaits_of_stage (by rw [stands]; rfl)
    have still := (waits.fit i call found).watched.mt (by rw [unwatched]; exact nofun)
    change Waits ((s.calls.modify i _).modify i _) _ _
    rw [List.modify_modify_eq]
    refine Waits.allocate waits found stands rfl nofun ⟨?_, ?_⟩ (WireCall.awaits_of_stage rfl)
    · exact Bool.eq_false_iff.2 fun timer => still (.inl timer)
    · exact Bool.eq_false_iff.2 fun listening => still (.inr listening)
  | asked i call questionId frame found stands free prepared started =>
    rw [prepare_ok prepared]
    exact waits.asked found stands frame
  | handedOff i call frame found stands => exact Waits.goTo waits found (by rw [stands]; rfl) nofun
  | handedOver i call found stands => exact Waits.goTo waits found (by rw [stands]; rfl) nofun
  | sendFailed i call error error' found stands =>
    obtain ⟨idle, same⟩ | ⟨questionId, identified, awaits, same⟩ :=
      reject_cases waits found (by rw [stands]; rfl) error
    · rw [same]
      exact waits.past found idle rfl nofun
    · rw [same]
      have rejected : Waiting (s.settleWaiter questionId i (.error error)) :=
        Waits.settle waits found identified awaits _
      exact rejected.past (Heap.modify_self found) (WireCall.awaits_of_promise rfl) rfl nofun
  | answered i frameError call questionId outcome found stands asked promise =>
    obtain ⟨past, begun⟩ := past_afterWait call questionId outcome
    exact waits.past found (WireCall.awaits_of_promise (promise ▸ rfl)) past begun
  | finishFailed i frameError call finish error found stands unready =>
    exact waits.past found (WireCall.awaits_of_stage (by rw [stands]; rfl)) rfl nofun
  | finishSent i frameError call finish found stands free =>
    unfold sendFinish
    rw [free]
    exact Waits.past (s := s) waits found (WireCall.awaits_of_stage (by rw [stands]; rfl)) rfl nofun
  | finished i failure call finish result found stands =>
    exact waits.past found (WireCall.awaits_of_stage (by rw [stands]; rfl)) rfl nofun
  | timedOut i call error found running =>
    exact waits.rejected found ((waits.fit i call found).watched (.inl running)) error
  | flagged i call found =>
    have fit := waits.fit i call found
    exact waits.keep found rfl ⟨fit.watched, fit.ready, fit.identified⟩ rfl
  | aborted i call error found listening =>
    have fit := waits.fit i call found
    have flagged :
        Waiting (s.updateCall i fun call => { call with aborted := call.options.signal }) :=
      waits.keep found rfl ⟨fit.watched, fit.ready, fit.identified⟩ rfl
    have awaits : ({ call with aborted := call.options.signal } : WireCall).awaits = true :=
      fit.watched (.inr listening)
    exact flagged.rejected (Heap.modify_self found) awaits error
  | returned message => exact waits.returned message
  | closed free => exact waits.closed

end RpcWireClient

end CapnpDeno
