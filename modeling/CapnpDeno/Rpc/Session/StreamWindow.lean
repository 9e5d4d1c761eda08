import CapnpDeno.Rpc.Session.StreamStages

/-!
# The window of a stream

The window has its calls in the order of their indices, and no more of them than it may.  A call
whose `callFn` is on the stack is in the window, and so is every call whose promise is pending.
-/

namespace CapnpDeno

/-- What holds of a call, whether it is in the window or not. -/
structure CallSound {ρ : Type} (window : List CallIndex) (call : CallIndex) (c : InFlightCall ρ) :
    Prop where
  attached : c.settled ≠ none → c.attached = true
  pending : c.attached = true → c.settled = none → call ∈ window
  ticket : c.ticket = true → call ∈ window ∧ c.settled = none ∧ c.bytesReserved = false
  admission : c.admission = .pending → c.settled = none ∧ c.bytesReserved = false

theorem CallSound.leave {ρ : Type} {window : List CallIndex} {other call : CallIndex}
    {c : InFlightCall ρ} (sound : CallSound window other c) (distinct : window.Nodup)
    (gone : other = call → (c.attached = true → c.settled ≠ none) ∧ c.ticket = false) :
    CallSound (window.erase call) other c := by
  have stays (there : other ∈ window) (different : other ≠ call) : other ∈ window.erase call :=
    (distinct.mem_erase_iff).2 ⟨different, there⟩
  constructor
  · exact sound.attached
  · intro attached unsettled
    refine stays (sound.pending attached unsettled) fun same => ?_
    exact (gone same).1 attached unsettled
  · intro ticket
    obtain ⟨there, unsettled, unreserved⟩ := sound.ticket ticket
    refine ⟨stays there fun same => ?_, unsettled, unreserved⟩
    rw [(gone same).2] at ticket
    cases ticket
  · exact sound.admission

namespace StreamSender

variable {ρ : Type} {s s' t : StreamSender ρ} {op other : StreamOpId} {o : StreamOp}
  {call oldest : CallIndex} {c : InFlightCall ρ} {hand hand' : Option StreamOpId} {lax : Prop}
  {m m' : StreamMidway ρ} {effects : List (StreamEffect ρ)}

/-- The `callFn` of the call is on the stack, or was until now. -/
def Unattached (s : StreamSender ρ) (call : CallIndex) : Prop :=
  ∃ c, s.calls[call]? = some c ∧ c.attached = false

structure Windowed (m : StreamMidway ρ) : Prop where
  sorted : m.sender.inFlightCalls.Pairwise (· < ·)
  inside : ∀ call ∈ m.sender.inFlightCalls, call < m.sender.calls.length
  short : m.sender.inFlightCalls.length ≤ m.sender.options.maxInFlight
  call : ∀ call c, m.sender.calls[call]? = some c → CallSound m.sender.inFlightCalls call c
  calling : ∀ op call, m.sender.stageAt op = some (.calling call) → m.hand ≠ some op →
    call ∈ m.sender.inFlightCalls ∧ m.sender.Unattached call
  caller : ∀ op other call, m.sender.stageAt op = some (.calling call) → m.hand ≠ some op →
    m.sender.stageAt other = some (.calling call) → m.hand ≠ some other → op = other
  called : ∀ call ∈ m.sender.inFlightCalls, m.sender.Unattached call →
    ∃ op ∈ m.sender.callStack, m.sender.stageAt op = some (.calling call)

/-- A change of the operations, which leaves those whose `callFn` is on the stack. -/
theorem Windowed.ops (windowed : Windowed ⟨s, hand⟩) (calls : s'.calls = s.calls)
    (window : s'.inFlightCalls = s.inFlightCalls) (options : s'.options = s.options)
    (stack : s'.callStack = s.callStack)
    (calling : ∀ op call, s'.stageAt op = some (.calling call) → hand' ≠ some op →
      s.stageAt op = some (.calling call) ∧ hand ≠ some op)
    (called : ∀ op ∈ s.callStack, ∀ call, s.stageAt op = some (.calling call) →
      s'.stageAt op = some (.calling call)) : Windowed ⟨s', hand'⟩ := by
  have unattached call : s'.Unattached call ↔ s.Unattached call := by unfold Unattached; rw [calls]
  constructor <;> dsimp only
  · rw [window]
    exact windowed.sorted
  · rw [window, calls]
    exact windowed.inside
  · rw [window, options]
    exact windowed.short
  · rw [window, calls]
    exact windowed.call
  · intro op call stands free
    obtain ⟨stands, free⟩ := calling op call stands free
    rw [window, unattached]
    exact windowed.calling op call stands free
  · intro op other call stands free stands' free'
    obtain ⟨stands, free⟩ := calling op call stands free
    obtain ⟨stands', free'⟩ := calling other call stands' free'
    exact windowed.caller op other call stands free stands' free'
  · intro call there open'
    rw [window] at there
    rw [unattached] at open'
    obtain ⟨op, member, stands⟩ := windowed.called call there open'
    rw [stack]
    exact ⟨op, member, called op member call stands⟩

/-- A change of the stages that are not on the stack. -/
theorem Windowed.goTo (windowed : Windowed ⟨s, hand⟩) (found : s.ops[op]? = some o)
    (freed : ∀ other, hand = some other → other = op) (off : op ∉ s.callStack) (stage : StreamStage)
    (stands : stage.place ≠ .calling) : Windowed ⟨s.goTo op stage, none⟩ := by
  have stages := stageAt_goTo found stage
  refine windowed.ops rfl rfl rfl rfl (fun other call there _ => ?_) fun other member call there =>
    ?_
  · rw [stages] at there
    split_ifs at there with same
    · cases there
      exact absurd rfl stands
    · exact ⟨there, fun held => same (freed other held)⟩
  · rw [stages, if_neg (by rintro rfl; exact off member)]
    exact there

/-- A change of what the window does not depend on. -/
theorem Windowed.same (windowed : Windowed ⟨s, hand⟩) (calls : s'.calls = s.calls)
    (window : s'.inFlightCalls = s.inFlightCalls) (options : s'.options = s.options)
    (stack : s'.callStack = s.callStack) (ops : s'.ops = s.ops) : Windowed ⟨s', hand⟩ := by
  have stages op : s'.stageAt op = s.stageAt op := by unfold stageAt; rw [ops]
  refine windowed.ops calls window options stack (fun op call stands free => ?_) fun op _ call
    stands => ?_
  · exact ⟨(stages op).symm.trans stands, free⟩
  · exact (stages op).trans stands

theorem stageAt_notify_calling (s : StreamSender ρ) (op : StreamOpId) (call : CallIndex) :
    s.notifyStateChange.stageAt op = some (.calling call) ↔
    s.stageAt op = some (.calling call) := by
  rw [stageAt_notify]
  split_ifs
  · cases s.stageAt op with
    | none => exact Iff.rfl
    | some stage =>
      unfold StreamStage.woken
      constructor <;> intro stands
      · dsimp only [Option.map] at stands
        split at stands
        · cases stands
        · exact stands
      · cases stands
        rfl
  · exact Iff.rfl

theorem Windowed.notify (windowed : Windowed ⟨s, hand⟩) : Windowed ⟨s.notifyStateChange, hand⟩ := by
  refine windowed.ops ?_ ?_ ?_ ?_ (fun op call stands free => ?_) fun op _ call stands => ?_
  iterate 4 rw [notify_only]
  · exact ⟨(stageAt_notify_calling s op call).1 stands, free⟩
  · exact (stageAt_notify_calling s op call).2 stands

/-! ## Changes of the calls -/

theorem Windowed.remember (windowed : Windowed ⟨s, hand⟩) (error : Thrown) :
    Windowed ⟨s.rememberError error, hand⟩ := by
  unfold rememberError
  split
  · exact windowed
  · exact Windowed.notify (windowed.same rfl rfl rfl rfl rfl)

theorem unattached_setCall {f : InFlightCall ρ → InFlightCall ρ}
    (same : ∀ c, (f c).attached = c.attached) (other : CallIndex) :
    (s.setCall call f).Unattached other ↔ s.Unattached other := by
  unfold Unattached setCall
  constructor <;> rintro ⟨c, found, open'⟩
  · obtain ⟨rfl, c', found', rfl⟩ | ⟨-, there⟩ := Heap.of_modify found
    · exact ⟨c', found', (same c').symm.trans open'⟩
    · exact ⟨c, there, open'⟩
  · by_cases here : other = call
    · subst here
      exact ⟨f c, Heap.modify_self found, (same c).trans open'⟩
    · exact ⟨c, (Heap.modify_other here).trans found, open'⟩

theorem Windowed.setCall (windowed : Windowed ⟨s, hand⟩) (f : InFlightCall ρ → InFlightCall ρ)
    (same : ∀ c, (f c).attached = c.attached)
    (sound : ∀ c, s.calls[call]? = some c → CallSound s.inFlightCalls call c →
      CallSound s.inFlightCalls call (f c)) : Windowed ⟨s.setCall call f, hand⟩ := by
  have unattached other : (s.setCall call f).Unattached other ↔ s.Unattached other :=
    unattached_setCall same other
  constructor <;> dsimp only
  · exact windowed.sorted
  · intro other there
    have inside := windowed.inside other there
    rwa [StreamSender.setCall, List.length_modify]
  · exact windowed.short
  · intro other c found
    obtain ⟨rfl, c', found', rfl⟩ | ⟨-, there⟩ := Heap.of_modify found
    · exact sound c' found' (windowed.call other c' found')
    · exact windowed.call other c there
  · intro op other stands free
    rw [unattached]
    exact windowed.calling op other stands free
  · exact windowed.caller
  · intro other there open'
    rw [unattached] at open'
    exact windowed.called other there open'

theorem Windowed.nodup (windowed : Windowed m) : m.sender.inFlightCalls.Nodup :=
  windowed.sorted.imp fun less => Nat.ne_of_lt less

/-- A call leaves the window that is not on the stack. -/
theorem Windowed.leave (windowed : Windowed ⟨s, hand⟩)
    (gone : ∀ c, s.calls[call]? = some c → c.attached = true ∧ c.settled ≠ none ∧ c.ticket = false)
    (n : ℕ) (b : ℤ) :
    Windowed ⟨{ s with totalReceived := n, inFlightBytes := b, inFlightCalls :=
      s.inFlightCalls.erase call }, hand⟩ := by
  have distinct := windowed.nodup
  constructor <;> dsimp only
  · exact windowed.sorted.sublist List.erase_sublist
  · intro other there
    exact windowed.inside other (List.mem_of_mem_erase there)
  · exact List.length_erase_le.trans windowed.short
  · intro other c found
    refine (windowed.call other c found).leave distinct fun same => ?_
    obtain ⟨-, settled, released⟩ := gone c (same ▸ found)
    exact ⟨fun _ => settled, released⟩
  · intro op other stands free
    obtain ⟨there, c, found, open'⟩ := windowed.calling op other stands free
    refine ⟨(distinct.mem_erase_iff).2 ⟨fun same => ?_, there⟩, c, found, open'⟩
    have attached := (gone c (same ▸ found)).1
    rw [open'] at attached
    cases attached
  · exact windowed.caller
  · intro other there open'
    exact windowed.called other (List.mem_of_mem_erase there) open'

/-- The `callFn` of the call throws. -/
theorem Windowed.drop (windowed : Windowed ⟨s, none⟩) (placed : Placed ⟨s, none⟩)
    {rest : List StreamOpId} (first : s.callStack = op :: rest) (found : s.ops[op]? = some o)
    (stands : o.stage = .calling call) (released : ∀ c, s.calls[call]? = some c →
      c.ticket = false) : Windowed ⟨s.dropCall call rest, some op⟩ := by
  have distinct := windowed.nodup
  have here : s.stageAt op = some (.calling call) := by rw [stageAt_of found, stands]
  obtain ⟨there, c, found', open'⟩ := windowed.calling op call here nofun
  have once := placed.stack
  dsimp only at once
  rw [first] at once
  constructor <;> dsimp only [dropCall]
  · exact windowed.sorted.sublist List.erase_sublist
  · intro other there
    exact windowed.inside other (List.mem_of_mem_erase there)
  · exact List.length_erase_le.trans windowed.short
  · intro other c' found
    refine (windowed.call other c' found).leave distinct fun same => ?_
    subst same
    obtain rfl : c' = c := Option.some.inj (found.symm.trans found')
    refine ⟨fun attached => ?_, released c' found⟩
    rw [open'] at attached
    cases attached
  · intro op' other stands' free
    obtain ⟨there', open''⟩ := windowed.calling op' other stands' nofun
    refine ⟨(distinct.mem_erase_iff).2 ⟨fun same => ?_, there'⟩, open''⟩
    subst same
    exact free (congrArg some (windowed.caller op op' other here nofun stands' nofun))
  · intro op' other call' stands' _ stands'' _
    exact windowed.caller op' other call' stands' nofun stands'' nofun
  · intro other there' open''
    obtain ⟨op', member, stands'⟩ := windowed.called other (List.mem_of_mem_erase there') open''
    rw [first] at member
    obtain rfl | member := List.mem_cons.1 member
    · have same : call = other := by
        have stages := here.symm.trans stands'
        cases stages
        rfl
      exact absurd same.symm ((distinct.mem_erase_iff).1 there').1
    · exact ⟨op', member, stands'⟩

/-- The `callFn` of the call returns. -/
theorem Windowed.attach (windowed : Windowed ⟨s, none⟩) {rest : List StreamOpId}
    (first : s.callStack = op :: rest) (found : s.ops[op]? = some o)
    (stands : o.stage = .calling call) :
    Windowed ⟨{ s.setCall call fun c => { c with attached := true } with callStack := rest },
      some op⟩ := by
  have here : s.stageAt op = some (.calling call) := by rw [stageAt_of found, stands]
  obtain ⟨there, c, found', open'⟩ := windowed.calling op call here nofun
  have unattached other (different : other ≠ call) :
      (s.setCall call fun c => { c with attached := true }).Unattached other ↔
      s.Unattached other := by
    unfold Unattached StreamSender.setCall
    dsimp only
    rw [Heap.modify_other different]
  constructor <;> dsimp only
  · exact windowed.sorted
  · intro other there
    have inside := windowed.inside other there
    rwa [StreamSender.setCall, List.length_modify]
  · exact windowed.short
  · intro other c' found
    obtain ⟨rfl, c₀, found₀, rfl⟩ | ⟨-, there⟩ := Heap.of_modify found
    · have sound := windowed.call other c₀ found₀
      exact ⟨fun _ => rfl, fun _ _ => there, sound.ticket, sound.admission⟩
    · exact windowed.call other c' there
  · intro op' other stands' free
    obtain ⟨there', open''⟩ := windowed.calling op' other stands' nofun
    refine ⟨there', (unattached other fun same => ?_).2 open''⟩
    subst same
    exact free (congrArg some (windowed.caller op op' other here nofun stands' nofun))
  · intro op' other call' stands' _ stands'' _
    exact windowed.caller op' other call' stands' nofun stands'' nofun
  · intro other there' open''
    have different : other ≠ call := by
      rintro rfl
      obtain ⟨c', found, closed⟩ := open''
      obtain ⟨-, c₀, -, rfl⟩ | ⟨different, -⟩ := Heap.of_modify found
      · cases closed
      · exact different rfl
    obtain ⟨op', member, stands'⟩ :=
      windowed.called other there' ((unattached other different).1 open'')
    rw [first] at member
    obtain rfl | member := List.mem_cons.1 member
    · have stages := here.symm.trans stands'
      cases stages
      exact absurd rfl different
    · exact ⟨op', member, stands'⟩

/-- A call enters the window. -/
theorem Windowed.push (windowed : Windowed ⟨s, some op⟩) (placed : Placed ⟨s, some op⟩)
    (found : s.ops[op]? = some o) (params : StreamParams)
    (room : s.inFlightCalls.length < s.options.maxInFlight) :
    Windowed ⟨(s.push op params).1, none⟩ := by
  have stages := stageAt_push found params
  have off : op ∉ s.callStack := fun there => ((placed.calling op).1 there).2 rfl
  have old other (inside : other < s.calls.length) : (s.push op params).1.Unattached other ↔
      s.Unattached other := by
    unfold Unattached StreamSender.push
    dsimp only
    rw [List.getElem?_append_left inside]
  constructor
  · exact List.pairwise_append.2 ⟨windowed.sorted, List.pairwise_singleton _ _,
      fun other there last mem => by
      rw [List.mem_singleton.1 mem]
      exact windowed.inside other there⟩
  · intro other there
    have more : (s.push op params).1.calls.length = s.calls.length + 1 := List.length_append
    obtain there | last := List.mem_append.1 there
    · exact more ▸ (windowed.inside other there).trans (Nat.lt_succ_self _)
    · rw [List.mem_singleton.1 last]
      exact more ▸ Nat.lt_succ_self _
  · have more : (s.push op params).1.inFlightCalls.length = s.inFlightCalls.length + 1 :=
      List.length_append
    exact more ▸ room
  · intro other c found
    obtain there | ⟨rfl, rfl⟩ := Heap.of_append found
    · obtain ⟨attached, pending, ticket, admission⟩ := windowed.call other c there
      refine ⟨attached, fun a u => List.mem_append_left _ (pending a u), fun t => ?_, admission⟩
      exact ⟨List.mem_append_left _ (ticket t).1, (ticket t).2⟩
    · refine ⟨fun settled => absurd rfl settled, nofun, fun ticket => ?_, fun admission => ?_⟩
      · refine ⟨List.mem_append_right _ (List.mem_singleton.2 rfl), rfl, ?_⟩
        dsimp only at ticket ⊢
        rw [Bool.and_eq_true, Bool.not_eq_true'] at ticket
        exact ticket.2
      · refine ⟨rfl, ?_⟩
        dsimp only at admission ⊢
        split_ifs at admission with reserved
        rw [Bool.or_eq_true, not_or] at reserved
        exact Bool.eq_false_iff.2 reserved.1
  · intro op' other stands _
    rw [stages] at stands
    split_ifs at stands with same
    · cases stands
      exact ⟨List.mem_append_right _ (List.mem_singleton.2 rfl), _, Heap.append_self, rfl⟩
    · obtain ⟨there, open'⟩ := windowed.calling op' other stands fun held =>
        same (Option.some.inj held).symm
      exact ⟨List.mem_append_left _ there, (old other (windowed.inside other there)).2 open'⟩
  · intro op₁ op₂ other stands₁ _ stands₂ _
    rw [stages] at stands₁ stands₂
    have fresh op' (stands : s.stageAt op' = some (.calling s.calls.length))
        (different : op' ≠ op) : False := by
      have inside :=
        (windowed.calling op' _ stands fun held => different (Option.some.inj held).symm).1
      exact absurd (windowed.inside _ inside) (lt_irrefl _)
    split_ifs at stands₁ with same₁ <;> split_ifs at stands₂ with same₂
    · rw [same₁, same₂]
    · cases stands₁
      exact (fresh op₂ stands₂ same₂).elim
    · cases stands₂
      exact (fresh op₁ stands₁ same₁).elim
    · exact windowed.caller op₁ op₂ other stands₁ (fun held => same₁ (Option.some.inj held).symm)
        stands₂ fun held => same₂ (Option.some.inj held).symm
  · intro other there open'
    obtain there | last := List.mem_append.1 there
    · obtain ⟨op', member, stands⟩ :=
        windowed.called other there ((old other (windowed.inside other there)).1 open')
      refine ⟨op', List.mem_cons_of_mem _ member, ?_⟩
      rw [stages, if_neg (by rintro rfl; exact off member)]
      exact stands
    · rw [List.mem_singleton.1 last]
      refine ⟨op, List.mem_cons_self, ?_⟩
      rw [stages, if_pos rfl]

/-! ## The acts keep the window -/

theorem HoldsDrain.off (placed : Placed ⟨s, none⟩) (holds : s.HoldsDrain op t) :
    op ∉ s.callStack ∧ t.ops = s.ops ∧ t.calls = s.calls ∧ t.inFlightCalls = s.inFlightCalls ∧
      t.options = s.options ∧ t.callStack = s.callStack := by
  cases holds with
  | starts rest free first =>
    refine ⟨fun there => ?_, rfl, rfl, rfl, rfl, rfl⟩
    have calling := ((placed.calling op).1 there).1
    have locked := (placed.locked op).1 (by dsimp only; rw [first]; exact List.mem_cons_self)
    cases calling.symm.trans locked
  | goesOn o oldest wait found stands =>
    refine ⟨fun there => ?_, rfl, rfl, rfl, rfl, rfl⟩
    have calling := ((placed.calling op).1 there).1
    rw [placeAt_of found, stands] at calling
    cases calling

theorem Windowed.hold (windowed : Windowed ⟨s, none⟩) (placed : Placed ⟨s, none⟩)
    (holds : s.HoldsDrain op t) :
    Windowed ⟨t, none⟩ := by
  obtain ⟨-, ops, calls, window, options, stack⟩ := HoldsDrain.off placed holds
  exact windowed.same calls window options stack ops

theorem isFull_false {byteLength : ℤ} (room : s.isFull byteLength = false) :
    s.inFlightCalls.length < s.options.maxInFlight ∧ s.hasByteCapacity byteLength = true := by
  unfold isFull at room
  rw [Bool.or_eq_false_iff, decide_eq_false_iff_not, Bool.not_eq_false'] at room
  exact ⟨Nat.lt_of_not_le room.1, room.2⟩

theorem Windowed.release (windowed : Windowed ⟨s, hand⟩) (call : CallIndex) :
    Windowed ⟨s.releaseEncoding call, hand⟩ :=
  Windowed.notify (windowed.setCall _ (fun _ => rfl)
    fun _ _ sound => ⟨sound.attached, sound.pending, nofun, sound.admission⟩)

theorem Windowed.settle (windowed : Windowed ⟨s, hand⟩) {outcome : StreamCallSettled ρ}
    {decision : Admission → Admission} (found : s.calls[call]? = some c)
    (attached : c.attached = true) (released : c.ticket = false)
    (decides : decision c.admission ≠ .pending) :
    Windowed ⟨s.setCall call fun c => { c with
      settled := some outcome, admission := decision c.admission }, hand⟩ := by
  refine windowed.setCall _ (fun _ => rfl) fun c' found' sound => ?_
  obtain rfl : c = c' := Option.some.inj (found.symm.trans found')
  refine ⟨fun _ => attached, nofun, fun ticket => ?_, fun pending => absurd pending decides⟩
  cases released.symm.trans ticket

theorem grant_released (s : StreamSender ρ) (call : CallIndex) (byteLength : ℤ) :
    (s.grant call byteLength).releaseEncoding call =
      notifyStateChange { s.setCall call fun c => { c with
        byteLength := byteLength, bytesReserved := true, ownsEncoding := false, ticket := false
        admission := c.admission.resolve } with inFlightBytes :=
    s.inFlightBytes + byteLength } := by
  unfold releaseEncoding StreamSender.grant StreamSender.setCall
  dsimp only
  rw [List.modify_modify_eq]
  rfl

/-- The wait's own signal ends only a wait for a change of the state. -/
theorem stageAt_waitAborts (s : StreamSender ρ) (op : StreamOpId) (reason : Thrown)
    (other : StreamOpId) :
    (s.waitAborts op reason).stageAt other = s.stageAt other ∨
      ∃ oldest, s.stageAt other = some (.draining oldest .pending) ∧
        (s.waitAborts op reason).stageAt other = some (.draining oldest (.rejected reason)) := by
  unfold stageAt waitAborts StreamSender.setOp
  by_cases here : other = op
  · subst here
    cases found : s.ops[other]? with
    | none =>
      left
      rw [List.getElem?_modify_eq, found]
      rfl
    | some o =>
      dsimp only
      rw [Heap.modify_self found]
      dsimp only [Option.map]
      split
      · split
        · next oldest stands => exact .inr ⟨oldest, by rw [stands], rfl⟩
        · exact .inl rfl
      · exact .inl rfl
  · left
    dsimp only
    rw [Heap.modify_other here]

theorem stageAt_waitAborts_calling (reason : Thrown) (other : StreamOpId) (call : CallIndex) :
    (s.waitAborts op reason).stageAt other = some (.calling call) ↔
    s.stageAt other = some (.calling call) := by
  obtain same | ⟨oldest, before, after⟩ := stageAt_waitAborts s op reason other
  · rw [same]
  · rw [before, after]
    constructor <;> nofun

theorem Windowed.act (act : Act lax m m' effects) (placed : Placed m) (windowed : Windowed m) :
    Windowed m' := by
  cases act with
  | begin s kind aborted =>
    have stages := stageAt_begin s kind aborted
    refine windowed.ops rfl rfl rfl rfl (fun op call stands _ => ?_) fun op member call stands => ?_
    · rw [stages] at stands
      split_ifs at stands
      · cases stands
      · exact ⟨stands, nofun⟩
    · rw [stages, if_neg]
      · exact stands
      · rintro rfl
        rw [stageAt_outside] at stands
        cases stands
  | pick s op o found loose =>
    exact windowed.ops rfl rfl rfl rfl (fun _ _ stands _ => ⟨stands, nofun⟩) fun _ _ _ stands =>
      stands
  | pass s op rest o result first found stands =>
    exact windowed.ops rfl rfl rfl rfl (fun _ _ stands _ => ⟨stands, nofun⟩) fun _ _ _ stands =>
      stands
  | take s t op o oldest idle found drains settled =>
    obtain ⟨off, ops, calls, -, -, stack⟩ := HoldsDrain.off placed drains.holds
    have held := windowed.hold placed drains.holds
    have left : Windowed ⟨t.takeOldest oldest, none⟩ := by
      refine held.leave (fun c there => ?_) (t.totalReceived + 1) _
      have done : c.settled ≠ none := by
        intro unsettled
        rw [calls] at there
        unfold outcome at settled
        rw [there, Option.bind_some, unsettled] at settled
        cases settled
      have sound := held.call oldest c there
      refine ⟨sound.attached done, done, Bool.eq_false_iff.2 fun ticket => ?_⟩
      exact done (sound.ticket ticket).2.1
    have found' : (t.takeOldest oldest).ops[op]? = some o := by
      have same : (t.takeOldest oldest).ops = s.ops := ops
      rw [same]
      exact found
    have off' : op ∉ (t.takeOldest oldest).callStack := by
      have same : (t.takeOldest oldest).callStack = s.callStack := stack
      rw [same]
      exact off
    exact (left.goTo found' nofun off' (.drained (.ok (some oldest))) nofun).same rfl rfl
      rfl rfl rfl
  | wait s t op o oldest idle found drains unsettled =>
    obtain ⟨off, ops, -, -, -, stack⟩ := HoldsDrain.off placed drains.holds
    exact (windowed.hold placed drains.holds).goTo (by rw [ops]; exact found) nofun
      (by rw [stack]; exact off) _ nofun
  | finish s t op o result found holds empty =>
    obtain ⟨off, ops, -, -, -, stack⟩ := HoldsDrain.off placed holds
    have gone := (windowed.hold placed holds).goTo (by rw [ops]; exact found) nofun
      (by rw [stack]; exact off) (.drained result) nofun
    exact gone.same rfl rfl rfl rfl rfl
  | lock s op o found allowed =>
    have off : op ∉ s.callStack := fun there => ((placed.calling op).1 there).2 rfl
    have gone := windowed.goTo found (fun _ held => (Option.some.inj held).symm) off .locked nofun
    exact gone.same rfl rfl rfl rfl rfl
  | put s op o stage found allowed stands awaits =>
    have off : op ∉ s.callStack := fun there => ((placed.calling op).1 there).2 rfl
    refine windowed.goTo found (fun _ held => (Option.some.inj held).symm) off _ ?_
    obtain stands | stands := stands <;> (rw [stands]; nofun)
  | flushed s op o failure found empty ready =>
    have off : op ∉ s.callStack := fun there => ((placed.calling op).1 there).2 rfl
    exact windowed.goTo found (fun _ held => (Option.some.inj held).symm) off _ nofun
  | push s op o params found sends room =>
    exact windowed.push placed found params (isFull_false room).1
  | deliver | skip => exact windowed.same rfl rfl rfl rfl rfl
  | remember s hand error => exact windowed.remember error
  | throw s hand call rest error first settled =>
    have ready : Windowed ⟨{ s with readyResponses := rest }, hand⟩ :=
      windowed.same rfl rfl rfl rfl rfl
    exact ready.remember error
  | note s hand op o failure found =>
    have stages other : (s.setOp op fun _ => { o with failure := failure }).stageAt other =
        s.stageAt other := by
      refine stageAt_setOp _ (fun o' found' => ?_) other
      obtain rfl : o = o' := Option.some.inj (found.symm.trans found')
      rfl
    refine windowed.ops rfl rfl rfl rfl (fun other call stands free => ?_) fun other _ call
      stands => ?_
    · exact ⟨(stages other).symm.trans stands, free⟩
    · exact (stages other).trans stands
  | grant s op o call byteLength found reserves stands room fits =>
    rw [grant_released]
    have granted : Windowed ⟨s.setCall call fun c => { c with
        byteLength := byteLength, bytesReserved := true, ownsEncoding := false, ticket := false
        admission := c.admission.resolve }, some op⟩ :=
      windowed.setCall _ (fun _ => rfl) fun c _ sound =>
        ⟨sound.attached, sound.pending, nofun, fun pending => absurd pending (resolve_ne_pending _)⟩
    exact Windowed.notify (granted.same rfl rfl rfl rfl rfl)
  | release s hand call => exact windowed.release call
  | own s hand call =>
    exact windowed.setCall _ (fun _ => rfl)
      fun _ _ sound => ⟨sound.attached, sound.pending, sound.ticket, sound.admission⟩
  | settle s hand call c outcome decision found attached unsettled released decides admits =>
    exact Windowed.notify (windowed.settle found attached released (decides _))
  | abandon s hand call c outcome error found attached unsettled released unreserved bounded =>
    have settled : Windowed ⟨s.setCall call fun c => { c with
        settled := some outcome, admission := c.admission.reject error }, hand⟩ :=
      windowed.settle found attached released (reject_ne_pending error c.admission)
    refine Windowed.notify (settled.leave (fun c' there => ?_) s.totalReceived s.inFlightBytes)
    obtain ⟨-, c₀, found₀, rfl⟩ | ⟨different, -⟩ := Heap.of_modify there
    · obtain rfl : c = c₀ := Option.some.inj (found.symm.trans found₀)
      exact ⟨attached, nofun, released⟩
    · exact absurd rfl different
  | attach s op rest o call first found stands =>
    exact Windowed.notify (windowed.attach first found stands)
  | drop s op rest o call first found stands released =>
    exact windowed.drop placed first found stands released
  | reject s hand call error =>
    refine Windowed.notify (windowed.setCall _ (fun _ => rfl) fun c _ sound => ?_)
    exact ⟨sound.attached, sound.pending, sound.ticket, fun pending =>
      absurd pending (reject_ne_pending error _)⟩
  | cancel s hand reason =>
    unfold cancelStream
    split_ifs
    · exact windowed
    · exact Windowed.notify (windowed.same rfl rfl rfl rfl rfl)
  | signalAborts s hand => exact Windowed.notify (windowed.same rfl rfl rfl rfl rfl)
  | waitAborts s hand op reason =>
    refine windowed.ops rfl rfl rfl rfl (fun other call stands free => ⟨?_, free⟩) fun other _ call
      stands => ?_
    · exact (stageAt_waitAborts_calling reason other call).1 stands
    · exact (stageAt_waitAborts_calling reason other call).2 stands

/-! ## What an operation waits for -/

structure Waiting (s : StreamSender ρ) : Prop where
  inside : ∀ op call, s.stageAt op = some (.calling call) → call < s.calls.length
  admission : ∀ op call, s.stageAt op = some (.admission call) → ∃ c, s.calls[call]? = some c ∧
    c.attached = true
  draining : ∀ op oldest wait, s.stageAt op = some (.draining oldest wait) →
    ∃ c, s.calls[oldest]? = some c ∧
    c.attached = true ∧ (wait = .pending → c.settled = none) ∧
    (c.settled = none → s.inFlightCalls.head? = some oldest)

/-- The stage is an earlier one, or a wait for the same call that is over. -/
def StageKept (before after : Option StreamStage) : Prop :=
  after = before ∨ ∃ oldest wait, before = some (.draining oldest .pending) ∧ wait ≠ .pending ∧
    after = some (.draining oldest wait)

theorem StageKept.stays {before after : Option StreamStage} (kept : StageKept before after)
    {stage : StreamStage} (stands : after = some stage) (other : stage.place ≠ .draining) :
    before = some stage := by
  obtain rfl | ⟨oldest, wait, -, -, rfl⟩ := kept
  · exact stands
  · cases stands
    exact absurd rfl other

theorem stageKept_notify (s : StreamSender ρ) (op : StreamOpId) :
    StageKept (s.stageAt op) (s.notifyStateChange.stageAt op) := by
  rw [stageAt_notify]
  split_ifs
  · cases s.stageAt op with
    | none => exact .inl rfl
    | some stage =>
      dsimp only [Option.map]
      unfold StreamStage.woken
      split
      · next oldest => exact .inr ⟨oldest, .resolved, rfl, nofun, rfl⟩
      · exact .inl rfl
  · exact .inl rfl

/-- After a change of the state no wait for one is pending. -/
theorem notify_woken (placed : Placed ⟨s, hand⟩) (op : StreamOpId) (oldest : CallIndex) :
    s.notifyStateChange.stageAt op ≠ some (.draining oldest .pending) := by
  intro stands
  obtain same | ⟨_, wait, _, woken, after⟩ := stageKept_notify s op
  · have place : s.placeAt op = some .draining := by
      unfold placeAt
      rw [← same, stands]
      rfl
    have after : s.notifyStateChange.stageAt op = (s.stageAt op).map StreamStage.woken := by
      rw [stageAt_notify, if_pos ((placed.draining op).2 place)]
    rw [← same, stands] at after
    cases after
  · rw [stands] at after
    cases after
    exact woken rfl

theorem Waiting.ops (waiting : Waiting s) (calls : s'.calls = s.calls)
    (window : s'.inFlightCalls = s.inFlightCalls) (kept : ∀ op stage, s'.stageAt op = some stage →
      stage.place = .calling ∨ stage.place = .draining ∨
      (∃ call, stage = .admission call) → StageKept (s.stageAt op) (s'.stageAt op)) :
      Waiting s' where
  inside op call stands := by
    rw [calls]
    exact waiting.inside op call ((kept op _ stands (.inl rfl)).stays stands nofun)
  admission op call stands := by
    rw [calls]
    exact waiting.admission op call ((kept op _ stands (.inr (.inr ⟨call, rfl⟩))).stays
      stands nofun)
  draining op oldest wait stands := by
    rw [calls, window]
    obtain same | ⟨oldest', wait', before, over', after⟩ := kept op _ stands (.inr (.inl rfl))
    · exact waiting.draining op oldest wait (same.symm.trans stands)
    · rw [stands] at after
      cases after
      obtain ⟨c, found, attached, -, head⟩ := waiting.draining op oldest .pending before
      exact ⟨c, found, attached, fun pending => absurd pending over', head⟩

theorem Waiting.goTo (waiting : Waiting s) (found : s.ops[op]? = some o) (stage : StreamStage)
    (stands : stage.place ≠ .calling ∧ stage.place ≠ .draining ∧ ∀ call, stage ≠ .admission call) :
    Waiting (s.goTo op stage) := by
  have stages := stageAt_goTo found stage
  refine waiting.ops rfl rfl fun other stage' there place => ?_
  rw [stages] at there ⊢
  split_ifs at there ⊢ with same
  · cases there
    obtain place | place | ⟨call, place⟩ := place
    · exact absurd place stands.1
    · exact absurd place stands.2.1
    · exact absurd place (stands.2.2 call)
  · exact .inl rfl

theorem Waiting.notify (waiting : Waiting s) : Waiting s.notifyStateChange :=
  waiting.ops (by rw [notify_only]) (by rw [notify_only]) fun op _ _ _ => stageKept_notify s op

theorem Waiting.remember (waiting : Waiting s) (error : Thrown) :
    Waiting (s.rememberError error) := by
  unfold rememberError
  split
  · exact waiting
  · exact Waiting.notify (waiting.ops rfl rfl fun _ _ _ _ => .inl rfl)

/-- A change of a call that does not settle. -/
theorem Waiting.setCall (waiting : Waiting s) (f : InFlightCall ρ → InFlightCall ρ)
    (same : ∀ c, (f c).settled = c.settled)
    (stays : ∀ c, c.attached = true → (f c).attached = true) :
    Waiting (s.setCall call f) where
  inside op other stands := by
    have inside := waiting.inside op other stands
    rwa [StreamSender.setCall, List.length_modify]
  admission op other stands := by
    obtain ⟨c, found, attached⟩ := waiting.admission op other stands
    by_cases here : other = call
    · subst here
      exact ⟨f c, Heap.modify_self found, stays c attached⟩
    · exact ⟨c, (Heap.modify_other here).trans found, attached⟩
  draining op oldest wait stands := by
    obtain ⟨c, found, attached, pending, head⟩ := waiting.draining op oldest wait stands
    by_cases here : oldest = call
    · subst here
      refine ⟨f c, Heap.modify_self found, stays c attached, fun waits => ?_, fun unsettled => ?_⟩
      · rw [same]
        exact pending waits
      · rw [same] at unsettled
        exact head unsettled
    · exact ⟨c, (Heap.modify_other here).trans found, attached, pending, head⟩

theorem head_erase {window : List CallIndex} (head : window.head? = some oldest)
    (other : oldest ≠ call) :
    (window.erase call).head? = some oldest := by
  cases window with
  | nil => cases head
  | cons first rest =>
    cases head
    rw [List.erase_cons_tail (by simpa using other)]
    rfl

/-- A call settles, and leaves the window perhaps. -/
theorem Waiting.settle (waiting : Waiting s) (placed : Placed ⟨s, hand⟩)
    {outcome : StreamCallSettled ρ} {decision : Admission → Admission} {window : List CallIndex}
    (heads : ∀ oldest, oldest ≠ call → s.inFlightCalls.head? = some oldest →
      window.head? = some oldest) :
    Waiting (s.settleCall call outcome decision window) := by
  have stages op : StageKept (s.stageAt op)
      ((s.settleCall call outcome decision window).stageAt op) :=
    stageKept_notify _ op
  have settled {other : CallIndex} {c : InFlightCall ρ} (found : s.calls[other]? = some c)
      (attached : c.attached = true) :
      ∃ c', (s.settleCall call outcome decision window).calls[other]? = some c' ∧
      c'.attached = true ∧
        (c'.settled = none → other ≠ call ∧ c.settled = none) := by
    unfold settleCall
    rw [notify_only]
    by_cases here : other = call
    · subst here
      exact ⟨_, Heap.modify_self found, attached, nofun⟩
    · exact ⟨c, (Heap.modify_other here).trans found, attached, fun unsettled => ⟨here, unsettled⟩⟩
  constructor
  · intro op other stands
    have inside := waiting.inside op other ((stages op).stays stands nofun)
    unfold settleCall StreamSender.setCall
    rw [notify_only]
    dsimp only
    rwa [List.length_modify]
  · intro op other stands
    obtain ⟨c, found, attached⟩ := waiting.admission op other ((stages op).stays stands nofun)
    obtain ⟨c', found', attached', -⟩ := settled found attached
    exact ⟨c', found', attached'⟩
  · intro op oldest wait stands
    have before : ∃ wait', s.stageAt op = some (.draining oldest wait') := by
      obtain same | ⟨oldest', wait', before, -, after⟩ := stages op
      · exact ⟨wait, same.symm.trans stands⟩
      · rw [stands] at after
        cases after
        exact ⟨.pending, before⟩
    obtain ⟨wait', before⟩ := before
    obtain ⟨c, found, attached, -, head⟩ := waiting.draining op oldest wait' before
    obtain ⟨c', found', attached', unsettled⟩ := settled found attached
    refine ⟨c', found', attached', fun pending => ?_, fun open' => ?_⟩
    · subst pending
      have placed' : Placed ⟨{ s.setCall call fun c => { c with
          settled := some outcome, admission := decision c.admission } with inFlightCalls :=
            window }, hand⟩ :=
        placed.same (fun _ => rfl) rfl rfl rfl rfl
      exact absurd stands (notify_woken placed' op oldest)
    · obtain ⟨other, open''⟩ := unsettled open'
      have same : (s.settleCall call outcome decision window).inFlightCalls = window := by
        unfold settleCall
        rw [notify_only]
      rw [same]
      exact heads oldest other (head open'')

theorem HoldsDrain.same (holds : s.HoldsDrain op t) :
    t.ops = s.ops ∧ t.calls = s.calls ∧ t.inFlightCalls = s.inFlightCalls ∧
      t.inFlightBytes = s.inFlightBytes ∧
      t.options = s.options := by
  cases holds <;> exact ⟨rfl, rfl, rfl, rfl, rfl⟩

/-- Nobody else is in the drain. -/
theorem HoldsDrain.alone (placed : Placed ⟨s, hand⟩) (holds : s.HoldsDrain op t) {wait : StateWait}
    (stands : s.stageAt other = some (.draining oldest wait)) : other = op := by
  have holder := (placed.draining other).2 (by unfold placeAt; rw [stands]; rfl)
  cases holds with
  | starts rest free first => cases free.symm.trans holder
  | goesOn o oldest' wait' found stands' =>
    have holder' := (placed.draining op).2 (by rw [placeAt_of found, stands']; rfl)
    exact Option.some.inj (holder.symm.trans holder')

theorem outcome_none (found : s.calls[call]? = some c) (unsettled : s.outcome call = none) :
    c.settled = none := by
  unfold outcome at unsettled
  rwa [found] at unsettled

/-- The call in the drain is attached, and the oldest one as long as it is not settled. -/
theorem Drains.settles (windowed : Windowed ⟨s, none⟩) (waiting : Waiting s)
    (idle : s.callStack = []) (drains : s.Drains op oldest t) :
    ∃ c, s.calls[oldest]? = some c ∧ c.attached = true ∧
      (c.settled = none → s.inFlightCalls.head? = some oldest) := by
  cases drains with
  | starts rest free first head =>
    have there : oldest ∈ s.inFlightCalls := List.mem_of_mem_head? head
    have inside := windowed.inside oldest there
    refine ⟨_, List.getElem?_eq_getElem inside, ?_, fun _ => head⟩
    by_contra open'
    obtain ⟨op', member, -⟩ := windowed.called oldest there
      ⟨_, List.getElem?_eq_getElem inside, Bool.eq_false_iff.2 open'⟩
    dsimp only at member
    rw [idle] at member
    cases member
  | goesOn o wait found stands =>
    obtain ⟨c, found', attached, -, head⟩ :=
      waiting.draining op oldest wait (by rw [stageAt_of found, stands])
    exact ⟨c, found', attached, head⟩

theorem HoldsDrain.stages (found : s.ops[op]? = some o) (holds : s.HoldsDrain op t)
    (ops : s'.ops = t.ops) (result : Except Thrown (Option CallIndex)) (other : StreamOpId) :
    (s'.finishDrain op result).stageAt other = if other = op then some (.drained result)
      else s.stageAt other := by
  have same : s'.ops = s.ops := by
    rw [ops]
    cases holds <;> rfl
  have before : s'.stageAt other = s.stageAt other := by unfold stageAt; rw [same]
  rw [← before]
  exact stageAt_goTo (by rw [same]; exact found) (.drained result) other

/-- Then nobody is in the drain. -/
theorem HoldsDrain.ended (placed : Placed ⟨s, hand⟩) (found : s.ops[op]? = some o)
    (holds : s.HoldsDrain op t) (ops : s'.ops = t.ops) {result : Except Thrown (Option CallIndex)}
    {wait : StateWait} :
    (s'.finishDrain op result).stageAt other ≠ some (.draining oldest wait) := by
  intro stands
  rw [HoldsDrain.stages found holds ops] at stands
  split_ifs at stands with different
  · cases stands
  · exact different (HoldsDrain.alone placed holds stands)

theorem Waiting.finish (waiting : Waiting s) (placed : Placed ⟨s, hand⟩)
    (found : s.ops[op]? = some o) (holds : s.HoldsDrain op t) (calls : s'.calls = s.calls)
    (ops : s'.ops = t.ops) (result : Except Thrown (Option CallIndex)) :
    Waiting (s'.finishDrain op result) := by
  have stages := HoldsDrain.stages found holds ops result
  constructor
  · intro other call stands
    rw [stages] at stands
    split_ifs at stands
    · cases stands
    · exact calls ▸ waiting.inside other call stands
  · intro other call stands
    rw [stages] at stands
    split_ifs at stands
    · cases stands
    · exact calls ▸ waiting.admission other call stands
  · intro other oldest wait stands
    exact absurd stands (HoldsDrain.ended placed found holds ops)

theorem Waiting.act (act : Act lax m m' effects) (placed : Placed m) (windowed : Windowed m)
    (waiting : Waiting m.sender) : Waiting m'.sender := by
  cases act with
  | begin s kind aborted =>
    refine waiting.ops rfl rfl fun op stage stands place => ?_
    dsimp only at stands ⊢
    rw [stageAt_begin] at stands ⊢
    split_ifs at stands ⊢
    · cases stands
      obtain place | place | ⟨call, place⟩ := place <;> cases place
    · exact .inl rfl
  | pick | pass | deliver | skip => exact waiting.ops rfl rfl fun _ _ _ _ => .inl rfl
  | take s t op o oldest idle found drains settled =>
    have calls : (t.takeOldest oldest).calls = s.calls := (HoldsDrain.off placed drains.holds).2.2.1
    exact waiting.finish placed found drains.holds calls rfl (.ok (some oldest))
  | finish s t op o result found holds empty =>
    exact waiting.finish placed found holds (HoldsDrain.off placed holds).2.2.1 rfl result
  | wait s t op o oldest idle found drains unsettled =>
    obtain ⟨-, ops, calls, window, -, -⟩ := HoldsDrain.off placed drains.holds
    obtain ⟨c, there, attached, head⟩ := Drains.settles windowed waiting idle drains
    have before other : t.stageAt other = s.stageAt other := by unfold stageAt; rw [ops]
    have stages := stageAt_goTo (s := t) (by rw [ops]; exact found) (.draining oldest .pending)
    constructor <;> dsimp only
    · intro other call stands
      rw [stages, before] at stands
      split_ifs at stands
      · cases stands
      · exact calls ▸ waiting.inside other call stands
    · intro other call stands
      rw [stages, before] at stands
      split_ifs at stands
      · cases stands
      · exact calls ▸ waiting.admission other call stands
    · intro other oldest' wait stands
      rw [stages, before] at stands
      split_ifs at stands with different
      · cases stands
        refine ⟨c, calls ▸ there, attached, fun _ => outcome_none there unsettled, fun open' => ?_⟩
        exact window ▸ head open'
      · exact absurd (HoldsDrain.alone placed drains.holds stands) different
  | lock s op o found allowed =>
    have gone := waiting.goTo found .locked ⟨nofun, nofun, nofun⟩
    exact gone.ops rfl rfl fun _ _ _ _ => .inl rfl
  | put s op o stage found allowed stands awaits =>
    have stages := stageAt_goTo found stage
    by_cases admits : ∃ call, stage = .admission call
    · obtain ⟨call, rfl⟩ := admits
      obtain ⟨calling, attached⟩ := awaits call rfl
      have inside := waiting.inside op call (by rw [stageAt_of found, calling])
      constructor <;> dsimp only
      · intro other call' stands
        rw [stages] at stands
        split_ifs at stands
        · cases stands
        · exact waiting.inside other call' stands
      · intro other call' stands
        rw [stages] at stands
        split_ifs at stands
        · cases stands
          exact ⟨_, List.getElem?_eq_getElem inside, attached _ (List.getElem?_eq_getElem inside)⟩
        · exact waiting.admission other call' stands
      · intro other oldest wait stands
        rw [stages] at stands
        split_ifs at stands
        · cases stands
        · exact waiting.draining other oldest wait stands
    · refine waiting.goTo found stage ⟨?_, ?_, fun call same => admits ⟨call, same⟩⟩ <;>
        obtain stands | stands := stands <;> (rw [stands]; nofun)
  | flushed s op o failure found window ready => exact waiting.goTo found _ ⟨nofun, nofun, nofun⟩
  | push s op o params found sends room =>
    have stages := stageAt_push found params
    have more : (s.push op params).1.calls.length = s.calls.length + 1 := List.length_append
    constructor <;> dsimp only
    · intro other call stands
      rw [stages] at stands
      split_ifs at stands
      · cases stands
        exact more ▸ Nat.lt_succ_self _
      · exact more ▸ (waiting.inside other call stands).trans (Nat.lt_succ_self _)
    · intro other call stands
      rw [stages] at stands
      split_ifs at stands
      · cases stands
      · obtain ⟨c, there, attached⟩ := waiting.admission other call stands
        exact ⟨c, Heap.append_old there, attached⟩
    · intro other oldest wait stands
      rw [stages] at stands
      split_ifs at stands
      · cases stands
      · obtain ⟨c, there, attached, pending, head⟩ := waiting.draining other oldest wait stands
        refine ⟨c, Heap.append_old there, attached, pending, fun unsettled => ?_⟩
        have first := head unsettled
        dsimp only [StreamSender.push]
        rw [List.head?_append, first]
        rfl
  | remember s hand error => exact waiting.remember error
  | throw s hand call rest error first settled =>
    have ready : Waiting { s with readyResponses := rest } :=
      waiting.ops rfl rfl fun _ _ _ _ => .inl rfl
    exact ready.remember error
  | note s hand op o failure found =>
    refine waiting.ops rfl rfl fun other _ _ _ => .inl (stageAt_setOp _ (fun o' found' => ?_) other)
    obtain rfl : o = o' := Option.some.inj (found.symm.trans found')
    rfl
  | grant s op o call byteLength found reserves stands room fits =>
    rw [grant_released]
    have granted : Waiting (s.setCall call fun c => { c with
        byteLength := byteLength, bytesReserved := true, ownsEncoding := false, ticket := false
        admission := c.admission.resolve }) :=
          waiting.setCall _ (fun _ => rfl) fun _ attached => attached
    exact Waiting.notify (granted.ops rfl rfl fun _ _ _ _ => .inl rfl)
  | release s hand call =>
    exact Waiting.notify (waiting.setCall _ (fun _ => rfl) fun _ attached => attached)
  | own s hand call => exact waiting.setCall _ (fun _ => rfl) fun _ attached => attached
  | reject s hand call error =>
    exact Waiting.notify (waiting.setCall _ (fun _ => rfl) fun _ attached => attached)
  | settle s hand call c outcome decision found attached unsettled released decides admits =>
    exact waiting.settle placed fun _ _ head => head
  | abandon s hand call c outcome error found attached unsettled released unreserved bounded =>
    exact waiting.settle placed fun _ other head => head_erase head other
  | attach s op rest o call first found stands =>
    have attached : Waiting (s.setCall call fun c => { c with attached := true }) :=
      waiting.setCall _ (fun _ => rfl) fun _ _ => rfl
    exact Waiting.notify (attached.ops rfl rfl fun _ _ _ _ => .inl rfl)
  | drop s op rest o call first found stands released =>
    obtain ⟨-, c, there, open'⟩ := windowed.calling op call (by rw [stageAt_of found, stands]) nofun
    constructor
    · exact waiting.inside
    · exact waiting.admission
    · intro other oldest wait stands
      obtain ⟨c', there', attached, pending, head⟩ := waiting.draining other oldest wait stands
      refine ⟨c', there', attached, pending, fun unsettled => head_erase (head unsettled) ?_⟩
      rintro rfl
      obtain rfl : c = c' := Option.some.inj (there.symm.trans there')
      cases open'.symm.trans attached
  | cancel s hand reason =>
    unfold cancelStream
    split_ifs
    · exact waiting
    · exact Waiting.notify (waiting.ops rfl rfl fun _ _ _ _ => .inl rfl)
  | signalAborts s hand => exact Waiting.notify (waiting.ops rfl rfl fun _ _ _ _ => .inl rfl)
  | waitAborts s hand op reason =>
    refine waiting.ops rfl rfl fun other _ _ _ => ?_
    obtain same | ⟨oldest, before, after⟩ := stageAt_waitAborts s op reason other
    · exact .inl same
    · exact .inr ⟨oldest, .rejected reason, before, nofun, after⟩

/-! ## Runs -/

structure Sound (m : StreamMidway ρ) : Prop where
  placed : Placed m
  allowed : Allowed m.sender
  windowed : Windowed m
  waiting : Waiting m.sender

theorem Sound.act (sound : Sound m) (act : Act lax m m' effects) : Sound m' where
  placed := sound.placed.act act
  allowed := Allowed.act act sound.placed sound.allowed
  windowed := Windowed.act act sound.placed sound.windowed
  waiting := Waiting.act act sound.placed sound.windowed sound.waiting

theorem sound_initial (options : StreamSenderOptions) :
    Sound ⟨(initial options : StreamSender ρ), none⟩ where
  placed := by constructor <;> simp [initial, placeAt, stageAt]
  allowed _ _ found := by cases found
  windowed := by constructor <;> simp [initial, stageAt]
  waiting := by constructor <;> simp [initial, stageAt]

theorem sound_step (event : StreamEvent ρ) (sound : Sound ⟨s, none⟩) :
    Sound ⟨(s.step event).1, none⟩ :=
  (acts_step s event).invariant (fun _ _ _ act sound => sound.act act) sound

theorem sound_run (options : StreamSenderOptions) (events : List (StreamEvent ρ)) :
    Sound ⟨Machine.final step (initial options) events, none⟩ :=
  Machine.invariant (P := fun s => Sound ⟨s, none⟩)
    (fun _ event sound => sound_step event sound) events
    (sound_initial options)

theorem notify_options (s : StreamSender ρ) : s.notifyStateChange.options = s.options := by
  rw [notify_only]

theorem Act.options (act : Act lax m m' effects) : m'.sender.options = m.sender.options := by
  cases act with
  | begin | pick | pass | lock | put | flushed | push | deliver | skip | note | own | drop
  | waitAborts => rfl
  | take s t op o oldest idle found drains settled => exact (HoldsDrain.same drains.holds).2.2.2.2
  | wait s t op o oldest idle found drains unsettled => exact (HoldsDrain.same drains.holds).2.2.2.2
  | finish s t op o result found holds empty => exact (HoldsDrain.same holds).2.2.2.2
  | grant | release | settle | abandon | attach | reject | signalAborts => exact notify_options _
  | remember | throw =>
    unfold rememberError
    split
    · rfl
    · exact notify_options _
  | cancel s hand reason =>
    unfold cancelStream
    split_ifs
    · rfl
    · exact notify_options _

theorem final_options (s : StreamSender ρ) (events : List (StreamEvent ρ)) :
    (Machine.final step s events).options = s.options := by
  refine Machine.invariant (P := fun t : StreamSender ρ => t.options = s.options)
    (fun t event same => ?_) events rfl
  exact (acts_step t event).invariant (P := fun m => m.sender.options = s.options)
    (fun _ _ _ act same => (Act.options act).trans same) same

/-- Four calls and ten bytes, and no callbacks. -/
def boundedOptions : StreamSenderOptions := ⟨4, some 10, false, false, false, by decide, by simp⟩

end StreamSender

end CapnpDeno
