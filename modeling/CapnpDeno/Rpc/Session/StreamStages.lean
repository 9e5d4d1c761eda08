import CapnpDeno.Rpc.Session.StreamActs

/-!
# Stages of the operations

An operation is in a queue of the drain, holds the drain lock, or has a `callFn` on the stack, just
when its stage says so; the one at hand has left its queue.  It comes only to the stages of its
kind.
-/

namespace CapnpDeno

/-- The wait of an operation in the drain is over, if it was under way. -/
def StreamStage.woken : StreamStage → StreamStage
  | .draining oldest .pending => .draining oldest .resolved
  | stage => stage

namespace StreamSender

variable {ρ : Type} {s s' t : StreamSender ρ} {op other : StreamOpId} {o : StreamOp}
  {call oldest : CallIndex} {lax : Prop} {m m' : StreamMidway ρ} {effects : List (StreamEffect ρ)}

def stageAt (s : StreamSender ρ) (op : StreamOpId) : Option StreamStage := s.ops[op]?.map (·.stage)

def placeAt (s : StreamSender ρ) (op : StreamOpId) : Option StagePlace :=
  (s.stageAt op).map (·.place)

structure Placed (m : StreamMidway ρ) : Prop where
  locked : ∀ op, op ∈ m.sender.drainQueue ↔ m.sender.placeAt op = some .locked
  queue : m.sender.drainQueue.Nodup
  draining : ∀ op, m.sender.drainHolder = some op ↔ m.sender.placeAt op = some .draining
  drained : ∀ op, op ∈ m.sender.handing ↔ m.sender.placeAt op = some .drained ∧ m.hand ≠ some op
  handing : m.sender.handing.Nodup
  calling : ∀ op, op ∈ m.sender.callStack ↔ m.sender.placeAt op = some .calling ∧ m.hand ≠ some op
  stack : m.sender.callStack.Nodup
  running : ∀ op, m.sender.placeAt op = some .running → m.hand = some op
  hand : ∀ op, m.hand = some op → ∃ place, m.sender.placeAt op = some place ∧ place ≠ .locked ∧
    place ≠ .draining

/-! ## Places after a change -/

theorem stageAt_of (found : s.ops[op]? = some o) : s.stageAt op = some o.stage := by
  unfold stageAt
  rw [found]
  rfl

theorem placeAt_of (found : s.ops[op]? = some o) : s.placeAt op = some o.stage.place :=
  congrArg (Option.map _) (stageAt_of found)

theorem op_of_stageAt {stage : StreamStage} (stands : s.stageAt op = some stage) :
    ∃ o, s.ops[op]? = some o ∧ o.stage = stage := Option.map_eq_some_iff.1 stands

theorem stageAt_goTo (found : s.ops[op]? = some o) (stage : StreamStage) (other : StreamOpId) :
    (s.goTo op stage).stageAt other = if other = op then some stage else s.stageAt other := by
  unfold stageAt goTo setOp
  split_ifs with same
  · subst same
    rw [Heap.modify_self found]
    rfl
  · rw [Heap.modify_other same]

theorem placeAt_goTo (found : s.ops[op]? = some o) (stage : StreamStage) (other : StreamOpId) :
    (s.goTo op stage).placeAt other = if other = op then some stage.place else s.placeAt other := by
  unfold placeAt
  rw [stageAt_goTo found]
  split_ifs <;> rfl

/-- A change that leaves the stages as they are. -/
theorem stageAt_setOp (f : StreamOp → StreamOp)
    (same : ∀ o, s.ops[op]? = some o → (f o).stage = o.stage) (other : StreamOpId) :
    (s.setOp op f).stageAt other = s.stageAt other := by
  unfold stageAt setOp
  by_cases here : other = op
  · subst here
    cases found : s.ops[other]? with
    | none => rw [List.getElem?_modify_eq, found]; rfl
    | some o =>
      rw [Heap.modify_self found]
      exact congrArg some (same o found)
  · rw [Heap.modify_other here]

theorem stageAt_notify (s : StreamSender ρ) (other : StreamOpId) :
    s.notifyStateChange.stageAt other =
      if s.drainHolder = some other then (s.stageAt other).map StreamStage.woken
        else s.stageAt other := by
  unfold notifyStateChange
  cases holder : s.drainHolder with
  | none => rw [if_neg nofun]
  | some op =>
    dsimp only
    unfold stageAt setOp
    dsimp only
    split_ifs with same
    · obtain rfl : op = other := Option.some.inj same
      cases found : s.ops[op]? with
      | none => rw [List.getElem?_modify_eq, found]; rfl
      | some o =>
        rw [Heap.modify_self found]
        refine congrArg some ?_
        dsimp only
        split
        · next stands =>
          rw [stands]
          rfl
        · next stays =>
          unfold StreamStage.woken
          split
          · next stands => exact absurd stands (stays _)
          · rfl
    · rw [Heap.modify_other fun here => same (congrArg some here.symm)]

theorem place_woken (stage : StreamStage) : stage.woken.place = stage.place := by
  unfold StreamStage.woken
  split <;> rfl

theorem placeAt_notify (s : StreamSender ρ) (other : StreamOpId) :
    s.notifyStateChange.placeAt other = s.placeAt other := by
  unfold placeAt
  rw [stageAt_notify]
  split_ifs
  · cases s.stageAt other with
    | none => rfl
    | some stage => exact congrArg some (place_woken stage)
  · rfl

/-! ## The acts keep the places -/

theorem Placed.same {s s' : StreamSender ρ} {hand : Option StreamOpId} (placed : Placed ⟨s, hand⟩)
    (places : ∀ op, s'.placeAt op = s.placeAt op) (queue : s'.drainQueue = s.drainQueue)
    (holder : s'.drainHolder = s.drainHolder) (handing : s'.handing = s.handing)
    (stack : s'.callStack = s.callStack) : Placed ⟨s', hand⟩ where
  locked op := by rw [places, queue]; exact placed.locked op
  queue := by rw [queue]; exact placed.queue
  draining op := by rw [places, holder]; exact placed.draining op
  drained op := by rw [places, handing]; exact placed.drained op
  handing := by rw [handing]; exact placed.handing
  calling op := by rw [places, stack]; exact placed.calling op
  stack := by rw [stack]; exact placed.stack
  running op := by rw [places]; exact placed.running op
  hand op := by rw [places]; exact placed.hand op

theorem stageAt_begin (s : StreamSender ρ) (kind : StreamOpKind) (aborted : Option Thrown)
    (other : StreamOpId) :
    ({ s with ops := s.ops ++ [⟨kind, aborted, none, false, .running⟩] } : StreamSender ρ).stageAt
      other = if other = s.ops.length then some .running else s.stageAt other := by
  unfold stageAt
  split_ifs with last
  · rw [last, Heap.append_self]
    rfl
  · by_cases inside : other < s.ops.length
    · rw [List.getElem?_append_left inside]
    · have beyond : s.ops.length < other :=
        Nat.lt_of_le_of_ne (Nat.le_of_not_lt inside) (Ne.symm last)
      rw [List.getElem?_eq_none (by rw [List.length_append]; exact beyond), List.getElem?_eq_none
        beyond.le]

theorem placeAt_begin (s : StreamSender ρ) (kind : StreamOpKind) (aborted : Option Thrown)
    (other : StreamOpId) :
    ({ s with ops := s.ops ++ [⟨kind, aborted, none, false, .running⟩] } : StreamSender ρ).placeAt
      other = if other = s.ops.length then some .running else s.placeAt other := by
  unfold placeAt
  rw [stageAt_begin]
  split_ifs <;> rfl

theorem stageAt_outside {s : StreamSender ρ} : s.stageAt s.ops.length = none := by
  unfold stageAt
  rw [List.getElem?_eq_none (le_refl _)]
  rfl

theorem placeAt_outside {s : StreamSender ρ} : s.placeAt s.ops.length = none :=
  congrArg (Option.map _) stageAt_outside

section Kept

variable (found : s.ops[op]? = some o)

theorem Placed.begin (placed : Placed ⟨s, none⟩) (kind : StreamOpKind) (aborted : Option Thrown) :
    Placed ⟨{ s with ops := s.ops ++ [⟨kind, aborted, none, false, .running⟩] },
      some s.ops.length⟩ := by
  have places := placeAt_begin s kind aborted
  have outside := placeAt_outside (s := s)
  obtain ⟨locked, queue, draining, drained, handing, calling, stack, running, hand⟩ := placed
  constructor <;> dsimp only at * <;> grind

include found

theorem Placed.pick (placed : Placed ⟨s, none⟩) (loose : o.stage.place = .loose) :
    Placed ⟨s, some op⟩ := by
  have place := placeAt_of found
  obtain ⟨locked, queue, draining, drained, handing, calling, stack, running, hand⟩ := placed
  constructor <;> dsimp only at * <;> grind

theorem Placed.pass (placed : Placed ⟨s, none⟩) {rest : List StreamOpId}
    (first : s.handing = op :: rest) (stands : o.stage.place = .drained) (ready : List CallIndex) :
    Placed ⟨{ s with handing := rest, readyResponses := ready }, some op⟩ := by
  have place := placeAt_of found
  have places other :
      ({ s with handing := rest, readyResponses := ready } : StreamSender ρ).placeAt other =
      s.placeAt other := rfl
  obtain ⟨locked, queue, draining, drained, handing, calling, stack, running, hand⟩ := placed
  constructor <;> dsimp only at * <;> grind

theorem Placed.put (placed : Placed ⟨s, some op⟩) {stage : StreamStage}
    (stands : stage.place = .loose ∨ stage.place = .settled) : Placed ⟨s.goTo op stage, none⟩ := by
  have places := placeAt_goTo found stage
  obtain ⟨locked, queue, draining, drained, handing, calling, stack, running, hand⟩ := placed
  constructor <;> dsimp only [goTo, setOp] at * <;> grind

theorem Placed.lock (placed : Placed ⟨s, some op⟩) : Placed ⟨s.withDrainLock op, none⟩ := by
  have places other : (s.withDrainLock op).placeAt other = _ := placeAt_goTo found .locked other
  obtain ⟨locked, queue, draining, drained, handing, calling, stack, running, hand⟩ := placed
  constructor <;> dsimp only [withDrainLock, goTo, setOp, StreamStage.place] at * <;> grind

theorem Placed.finish (placed : Placed ⟨s, none⟩) (holds : s.HoldsDrain op t)
    (result : Except Thrown (Option CallIndex)) : Placed ⟨t.finishDrain op result, none⟩ := by
  have same : t.ops[op]? = some o := by cases holds <;> exact found
  have places other : (t.finishDrain op result).placeAt other = _ :=
    placeAt_goTo same (.drained result) other
  obtain ⟨locked, queue, draining, drained, handing, calling, stack, running, hand⟩ := placed
  cases holds with
  | starts rest free first =>
    have before other : (s.hold op rest).placeAt other = s.placeAt other := rfl
    constructor <;> dsimp only [finishDrain, goTo, setOp, hold, StreamStage.place] at * <;> grind
  | goesOn o' oldest wait found' stands =>
    have place := placeAt_of found'
    rw [stands] at place
    constructor <;> dsimp only [finishDrain, goTo, setOp, StreamStage.place] at * <;> grind

theorem Placed.wait (placed : Placed ⟨s, none⟩) (holds : s.HoldsDrain op t) (wait : StateWait) :
    Placed ⟨t.goTo op (.draining oldest wait), none⟩ := by
  have same : t.ops[op]? = some o := by cases holds <;> exact found
  have places := placeAt_goTo same (.draining oldest wait)
  obtain ⟨locked, queue, draining, drained, handing, calling, stack, running, hand⟩ := placed
  cases holds with
  | starts rest free first =>
    have before other : (s.hold op rest).placeAt other = s.placeAt other := rfl
    constructor <;> dsimp only [goTo, setOp, hold, StreamStage.place] at * <;> grind
  | goesOn o' oldest wait found' stands =>
    have place := placeAt_of found'
    rw [stands] at place
    constructor <;> dsimp only [goTo, setOp, StreamStage.place] at * <;> grind

theorem stageAt_push (params : StreamParams) (other : StreamOpId) :
    (s.push op params).1.stageAt other = if other = op then some (.calling s.calls.length)
      else s.stageAt other := by
  unfold stageAt
  split_ifs with same
  · subst same
    exact congrArg (Option.map _) (Heap.modify_self found)
  · exact congrArg (Option.map _) (Heap.modify_other same)

theorem Placed.push (placed : Placed ⟨s, some op⟩) (params : StreamParams) :
    Placed ⟨(s.push op params).1, none⟩ := by
  have places other : (s.push op params).1.placeAt other =
      if other = op then some .calling else s.placeAt other := by
    unfold placeAt
    rw [stageAt_push found]
    split_ifs <;> rfl
  obtain ⟨locked, queue, draining, drained, handing, calling, stack, running, hand⟩ := placed
  constructor <;> dsimp only [StreamSender.push, setOp] at * <;> grind

theorem Placed.unstack (placed : Placed ⟨s, none⟩) {rest : List StreamOpId}
    (first : s.callStack = op :: rest) (stands : o.stage.place = .calling)
    (places : ∀ op, s'.placeAt op = s.placeAt op) (queue : s'.drainQueue = s.drainQueue)
    (holder : s'.drainHolder = s.drainHolder) (handing : s'.handing = s.handing)
    (stack : s'.callStack = rest) : Placed ⟨s', some op⟩ := by
  have place := placeAt_of found
  obtain ⟨locked, queued, draining, drained, handed, calling, stacked, running, hand⟩ := placed
  constructor <;> dsimp only at * <;> grind

end Kept

theorem Placed.notify {hand : Option StreamOpId} (placed : Placed ⟨s, hand⟩) :
    Placed ⟨s.notifyStateChange, hand⟩ := by
  refine placed.same (placeAt_notify s) ?_ ?_ ?_ ?_ <;> rw [notify_only]

theorem placeAt_setOp (f : StreamOp → StreamOp)
    (same : ∀ o, s.ops[op]? = some o → (f o).stage.place = o.stage.place) (other : StreamOpId) :
    (s.setOp op f).placeAt other = s.placeAt other := by
  unfold placeAt stageAt StreamSender.setOp
  by_cases here : other = op
  · subst here
    cases found : s.ops[other]? with
    | none => rw [List.getElem?_modify_eq, found]; rfl
    | some o =>
      rw [Heap.modify_self found]
      exact congrArg some (same o found)
  · rw [Heap.modify_other here]

theorem Placed.setOp {hand : Option StreamOpId} (placed : Placed ⟨s, hand⟩)
    (f : StreamOp → StreamOp) (same : ∀ o, s.ops[op]? = some o → (f o).stage.place =
      o.stage.place) : Placed ⟨s.setOp op f, hand⟩ :=
  placed.same (placeAt_setOp f same) rfl rfl rfl rfl

theorem Placed.act (act : Act lax m m' effects) (placed : Placed m) : Placed m' := by
  cases act with
  | begin s kind aborted => exact placed.begin kind aborted
  | pick s op o found loose => exact placed.pick found loose
  | pass s op rest o result first found stands =>
    exact placed.pass found first (by rw [stands]; rfl) _
  | take s t op o oldest idle found drains settled =>
    exact (placed.finish found drains.holds (.ok (some oldest))).same (fun _ => rfl) rfl rfl rfl rfl
  | wait s t op o oldest idle found drains unsettled =>
    exact placed.wait found drains.holds .pending
  | finish s t op o result found holds empty => exact placed.finish found holds result
  | lock s op o found allowed => exact placed.lock found
  | put s op o stage found allowed stands awaits => exact placed.put found stands
  | flushed s op o failure found window ready => exact placed.put found (.inr rfl)
  | push s op o params found sends room => exact placed.push found params
  | deliver | skip | own => exact placed.same (fun _ => rfl) rfl rfl rfl rfl
  | remember s hand error =>
    unfold rememberError
    split
    · exact placed
    · exact Placed.notify (placed.same (fun _ => rfl) rfl rfl rfl rfl)
  | throw s hand call rest error first settled =>
    have ready : Placed ⟨{ s with readyResponses := rest }, hand⟩ :=
      placed.same (fun _ => rfl) rfl rfl rfl rfl
    unfold rememberError
    split
    · exact ready
    · exact Placed.notify (ready.same (fun _ => rfl) rfl rfl rfl rfl)
  | note s hand op o failure found =>
    refine placed.setOp _ fun o' found' => ?_
    obtain rfl : o = o' := Option.some.inj (found.symm.trans found')
    rfl
  | grant | release | settle | abandon | reject | signalAborts =>
    exact Placed.notify (placed.same (fun _ => rfl) rfl rfl rfl rfl)
  | attach s op rest o call first found stands =>
    refine placed.unstack found first (by rw [stands]; rfl) (fun other => ?_) ?_ ?_ ?_ ?_
    · exact placeAt_notify _ other
    all_goals rw [notify_only]
    all_goals rfl
  | drop s op rest o call first found stands released =>
    exact placed.unstack found first (by rw [stands]; rfl) (fun _ => rfl) rfl rfl rfl rfl
  | cancel s hand reason =>
    unfold cancelStream
    split_ifs
    · exact placed
    · exact Placed.notify (placed.same (fun _ => rfl) rfl rfl rfl rfl)
  | waitAborts s hand op reason =>
    refine placed.setOp _ fun o found => ?_
    split
    · split
      · next stands => rw [stands]; rfl
      · rfl
    · rfl

/-! ## The stages of a kind -/

def Allowed (s : StreamSender ρ) : Prop := ∀ (op : StreamOpId) (o : StreamOp), s.ops[op]? = some o →
    o.kind.allows o.stage = true

theorem Allowed.setOp (allowed : Allowed s) (f : StreamOp → StreamOp)
    (stays : ∀ o, s.ops[op]? = some o → (f o).kind.allows (f o).stage = true) :
    Allowed (s.setOp op f) := by
  intro other o found
  obtain ⟨rfl, o', found', rfl⟩ | ⟨-, there⟩ := Heap.of_modify found
  · exact stays o' found'
  · exact allowed other o there

theorem Allowed.goTo (allowed : Allowed s) (found : s.ops[op]? = some o) {stage : StreamStage}
    (comes : o.kind.allows o.stage = true → o.kind.allows stage = true) :
    Allowed (s.goTo op stage) := by
  refine allowed.setOp _ fun o' found' => ?_
  obtain rfl : o = o' := Option.some.inj (found.symm.trans found')
  exact comes (allowed op o found)

theorem Allowed.notify (allowed : Allowed s) : Allowed s.notifyStateChange := by
  unfold notifyStateChange
  split
  · refine allowed.setOp _ fun o found => ?_
    have before := allowed _ o found
    split
    · next stands =>
      rw [stands] at before
      cases kind : o.kind <;> (rw [kind] at before; exact before)
    · exact before
  · exact allowed

theorem allows_drain {kind : StreamOpKind} {stage : StreamStage} (oldest : CallIndex)
    (allowed : kind.allows stage = true) (stands : stage.place = .locked ∨ stage.place = .draining)
    (wait : StateWait) (result : Except Thrown (Option CallIndex)) :
    kind.allows (.draining oldest wait) = true ∧ kind.allows (.drained result) = true := by
  cases stage with
  | locked | draining =>
    cases kind with
    | send | waitForCapacity | flush | cancel => exact ⟨rfl, rfl⟩
    | prepare => cases allowed
    | reserveBytes => exact ⟨allowed, allowed⟩
  | running | calling | drained | ticket | encoding | delivering | delivered | returned | admission
  | settled =>
    obtain stands | stands := stands <;> cases stands

theorem Allowed.drain (allowed : Allowed s) (oldest : CallIndex) (placed : Placed ⟨s, none⟩)
    (found : s.ops[op]? = some o) (holds : s.HoldsDrain op t) (wait : StateWait)
    (result : Except Thrown (Option CallIndex)) :
    Allowed (t.goTo op (.draining oldest wait)) ∧ Allowed (t.goTo op (.drained result)) := by
  have same : t.ops = s.ops := by cases holds <;> rfl
  have found' : t.ops[op]? = some o := by rw [same]; exact found
  have before : Allowed t := by
    unfold Allowed
    rw [same]
    exact allowed
  have stands : o.stage.place = .locked ∨ o.stage.place = .draining := by
    have place := placeAt_of found
    cases holds with
    | starts rest free first =>
      have locked := (placed.locked op).1 (by dsimp only; rw [first]; exact List.mem_cons_self)
      exact .inl (Option.some.inj (place.symm.trans locked))
    | goesOn o' oldest wait there stands =>
      obtain rfl : o = o' := Option.some.inj (found.symm.trans there)
      rw [stands]
      exact .inr rfl
  exact ⟨before.goTo found' fun allowed => (allows_drain oldest allowed stands wait result).1,
    before.goTo found' fun allowed => (allows_drain oldest allowed stands wait result).2⟩

theorem Allowed.act (act : Act lax m m' effects) (placed : Placed m) (allowed : Allowed m.sender) :
    Allowed m'.sender := by
  cases act with
  | begin s kind aborted =>
    intro op o found
    obtain there | ⟨-, rfl⟩ := Heap.of_append found
    · exact allowed op o there
    · cases kind <;> rfl
  | take s t op o oldest idle found drains settled =>
    exact (allowed.drain oldest placed found drains.holds .pending (.ok (some oldest))).2
  | wait s t op o oldest idle found drains unsettled =>
    exact (allowed.drain oldest placed found drains.holds .pending (.ok none)).1
  | finish s t op o result found holds empty =>
    exact (allowed.drain 0 placed found holds .pending result).2
  | lock s op o found comes => exact allowed.goTo found comes
  | put s op o stage found comes stands awaits => exact allowed.goTo found comes
  | flushed s op o failure found window ready =>
    exact allowed.goTo found fun _ => allows_settled o.kind failure
  | push s op o params found sends room =>
    refine allowed.setOp _ fun o' found' => ?_
    obtain rfl : o = o' := Option.some.inj (found.symm.trans found')
    dsimp only
    rw [sends]
    rfl
  | pick | pass | deliver | skip | own | drop => exact allowed
  | remember s hand error =>
    unfold rememberError
    split
    · exact allowed
    · exact Allowed.notify allowed
  | throw s hand call rest error first settled =>
    unfold rememberError
    split
    · exact allowed
    · exact Allowed.notify allowed
  | note s hand op o failure found => exact allowed.setOp _ fun _ _ => allowed op o found
  | grant | release | settle | abandon | reject | signalAborts
  | attach => exact Allowed.notify allowed
  | cancel s hand reason =>
    unfold cancelStream
    split_ifs
    · exact allowed
    · exact Allowed.notify allowed
  | waitAborts s hand op reason =>
    refine allowed.setOp _ fun o found => ?_
    have before := allowed op o found
    split
    · next waits _ =>
      split
      · dsimp only
        rw [waits]
        rfl
      · exact before
    · exact before

end StreamSender

end CapnpDeno
