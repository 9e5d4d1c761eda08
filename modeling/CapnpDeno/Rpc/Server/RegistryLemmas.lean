import CapnpDeno.Rpc.Server.Bridge

/-!
# The registry of exported capabilities

What a lookup finds after a registration is settled, after the holds of an answer have ended and
after a Return has been tracked, and how the hold counts have moved.
-/

namespace CapnpDeno

/-- A reference or a hold keeps the registration. -/
def RegisteredDispatch.Kept (registered : RegisteredDispatch) : Prop :=
  0 < registered.refCount ∨ 0 < registered.answerHoldCount

namespace RpcServerBridge

variable {registry : Registry} {registered : RegisteredDispatch} {c index : ℕ}
  {bootstrap releaseWireRefs : Bool}

/-- The answer holds on a capability, none on one that is not registered. -/
def holdCount (registry : Registry) (c : ℕ) : ℤ :=
  ((registry.lookup c).map (·.answerHoldCount)).getD 0

/-- No reference count is negative. -/
def Counted (registry : Registry) : Prop :=
  ∀ c registered, registry.lookup c = some registered → 0 ≤ registered.refCount

theorem holdCount_eq (found : registry.lookup c = some registered) :
    holdCount registry c = registered.answerHoldCount := by
  unfold holdCount
  rw [found]
  rfl

theorem holdCount_absent (absent : registry.lookup c = none) : holdCount registry c = 0 := by
  unfold holdCount
  rw [absent]
  rfl

theorem holdCount_insert (registry : Registry) (index c : ℕ) (registered : RegisteredDispatch) :
    holdCount (registry.insert index registered) c =
      if c = index then registered.answerHoldCount else holdCount registry c := by
  unfold holdCount
  rw [Table.lookup_insert]
  split_ifs <;> rfl

theorem holdCount_erase (registry : Registry) (index c : ℕ) :
    holdCount (registry.erase index) c = if c = index then 0 else holdCount registry c := by
  unfold holdCount
  rw [Table.lookup_erase]
  split_ifs <;> rfl

theorem Counted.insert (counted : Counted registry) (fresh : 0 ≤ registered.refCount) :
    Counted (registry.insert index registered) := by
  intro c other found
  rw [Table.lookup_insert] at found
  split_ifs at found
  · cases found
    exact fresh
  · exact counted c other found

theorem Counted.erase (counted : Counted registry) (index : ℕ) :
    Counted (registry.erase index) := by
  intro c other found
  rw [Table.lookup_erase] at found
  split_ifs at found
  exact counted c other found

/-! ## Settling a registration -/

/-- A settled registration is either as it was, or kept. -/
theorem lookup_settle {other : RegisteredDispatch}
    (found : (settleRegistration registry index registered).lookup c = some other) :
    (c ≠ index ∧ registry.lookup c = some other) ∨ c = index ∧ other = registered ∧
    registered.Kept := by
  unfold settleRegistration at found
  split_ifs at found with gone
  · rw [Table.lookup_erase] at found
    split_ifs at found with same
    exact .inl ⟨same, found⟩
  · rw [Table.lookup_insert] at found
    split_ifs at found with same
    · cases found
      refine .inr ⟨same, rfl, ?_⟩
      unfold RegisteredDispatch.Kept
      omega
    · exact .inl ⟨same, found⟩

theorem lookup_settle_other (other : c ≠ index) :
    (settleRegistration registry index registered).lookup c = registry.lookup c := by
  unfold settleRegistration
  split_ifs
  · rw [Table.lookup_erase, if_neg other]
  · rw [Table.lookup_insert, if_neg other]

theorem holdCount_settle (held : 0 ≤ registered.answerHoldCount) :
    holdCount (settleRegistration registry index registered) c =
      if c = index then registered.answerHoldCount else holdCount registry c := by
  unfold settleRegistration
  split_ifs with gone same
  · rw [holdCount_erase, if_pos same]
    exact le_antisymm held gone.2
  · rw [holdCount_erase, if_neg same]
  · rw [holdCount_insert, if_pos ‹_›]
  · rw [holdCount_insert, if_neg ‹_›]

theorem Counted.settle (counted : Counted registry) (fresh : 0 ≤ registered.refCount) :
    Counted (settleRegistration registry index registered) := by
  unfold settleRegistration
  split_ifs
  · exact counted.erase index
  · exact counted.insert fresh

/-! ## Ending holds -/

theorem dropHold_refCount (counted : 0 ≤ registered.refCount) :
    0 ≤ (dropHold releaseWireRefs registered).refCount := by
  unfold dropHold
  dsimp only
  split_ifs <;> omega

theorem Counted.releaseHeld (counted : Counted registry) (index : ℕ) :
    Counted (releaseHeld releaseWireRefs registry index) := by
  unfold RpcServerBridge.releaseHeld
  split
  · exact counted
  · exact counted.settle (dropHold_refCount (counted _ _ ‹_›))

theorem Counted.releaseHolds (counted : Counted registry) (held : List ℕ) :
    Counted (held.foldl (RpcServerBridge.releaseHeld releaseWireRefs) registry) := by
  induction held generalizing registry with
  | nil => exact counted
  | cons index held ih => exact ih (counted.releaseHeld index)

/-- What is registered after the end of a hold was registered so before, or is kept. -/
theorem lookup_releaseHeld (found : (releaseHeld releaseWireRefs registry index).lookup c =
      some registered) :
    registry.lookup c = some registered ∨ registered.Kept := by
  unfold releaseHeld at found
  split at found
  · exact .inl found
  · rcases lookup_settle found with ⟨-, there⟩ | ⟨-, rfl, kept⟩
    · exact .inl there
    · exact .inr kept

theorem lookup_releaseHolds (held : List ℕ)
    (found : (held.foldl (releaseHeld releaseWireRefs) registry).lookup c = some registered) :
    registry.lookup c = some registered ∨ registered.Kept := by
  induction held generalizing registry with
  | nil => exact .inl found
  | cons index held ih =>
    rcases ih found with there | kept
    · exact lookup_releaseHeld there
    · exact .inr kept

theorem lookup_releaseHeld_other (other : c ≠ index) :
    (releaseHeld releaseWireRefs registry index).lookup c = registry.lookup c := by
  unfold releaseHeld
  split
  · rfl
  · exact lookup_settle_other other

theorem holdCount_releaseHeld (held : 0 < holdCount registry index) :
    holdCount (releaseHeld releaseWireRefs registry index) c =
      holdCount registry c - if c = index then 1 else 0 := by
  unfold releaseHeld
  split
  · rename_i absent
    rw [holdCount_absent absent] at held
    cases held
  · rename_i registered found
    rw [holdCount_eq found] at held
    rw [holdCount_settle (le_max_right _ _)]
    split_ifs with same
    · rw [same, holdCount_eq found]
      exact max_eq_left (by omega)
    · rw [sub_zero]

theorem count_cons_int (index c : ℕ) (held : List ℕ) :
    ((index :: held).count c : ℤ) = held.count c + if c = index then 1 else 0 := by
  rw [List.count_cons]
  by_cases same : c = index
  · simp [same]
  · simp [same, Ne.symm same]

/-- The holds of an answer end once each, where they are counted. -/
theorem holdCount_releaseHolds (held : List ℕ)
    (enough : ∀ c, (held.count c : ℤ) ≤ holdCount registry c) (c : ℕ) :
    holdCount (held.foldl (releaseHeld releaseWireRefs) registry) c = holdCount registry c -
      held.count c := by
  induction held generalizing registry with
  | nil => exact (sub_zero _).symm
  | cons index held ih =>
    have first : 0 < holdCount registry index := by
      have counted := enough index
      rw [count_cons_int, if_pos rfl] at counted
      omega
    rw [List.foldl_cons, ih, holdCount_releaseHeld first, count_cons_int]
    · omega
    · intro c
      have counted := enough c
      rw [count_cons_int] at counted
      rw [holdCount_releaseHeld first]
      omega

/-! ## Tracking a Return -/

theorem grant_refCount (counted : 0 ≤ registered.refCount) :
    0 ≤ (grant bootstrap registered).refCount := by
  unfold grant
  dsimp only
  split_ifs <;> omega

/-- What one descriptor of a Return does to the registry and to the indexes held. -/
theorem trackDescriptor_cases (bootstrap : Bool) (before : Registry × List ℕ)
    (descriptor : RpcCapDescriptor) :
    (trackDescriptor bootstrap before descriptor = before ∧
        (descriptor.tag ≠ CAP_DESCRIPTOR_TAG_SENDER_HOSTED ∨
          before.1.lookup descriptor.id = none)) ∨
      ∃ registered, descriptor.tag = CAP_DESCRIPTOR_TAG_SENDER_HOSTED ∧
        before.1.lookup descriptor.id = some registered ∧
        trackDescriptor bootstrap before descriptor =
          (before.1.insert descriptor.id (grant bootstrap registered),
            before.2 ++ [descriptor.id]) := by
  unfold trackDescriptor
  split_ifs with foreign
  · exact .inl ⟨rfl, .inl foreign⟩
  · cases found : before.1.lookup descriptor.id with
    | none => exact .inl ⟨rfl, .inr rfl⟩
    | some registered => exact .inr ⟨registered, not_not.1 foreign, rfl, rfl⟩

/-- The rule for `tracked`: what every descriptor keeps of the registry and of the indexes so
far. -/
theorem tracked_induction {P : Registry × List ℕ → Prop} (capTable : List RpcCapDescriptor)
    (start : P (registry, []))
    (kept : ∀ before descriptor, descriptor ∈ capTable → P before →
      P (trackDescriptor bootstrap before descriptor)) :
    P (tracked registry capTable bootstrap) := by
  unfold tracked
  generalize (registry, ([] : List ℕ)) = before at start
  induction capTable generalizing before with
  | nil => exact start
  | cons descriptor capTable ih =>
    refine ih (fun before other mem => kept before other (List.mem_cons_of_mem _ mem)) _ ?_
    exact kept before descriptor List.mem_cons_self start

theorem Counted.tracked (counted : Counted registry) (capTable : List RpcCapDescriptor) :
    Counted (tracked registry capTable bootstrap).1 := by
  refine tracked_induction (P := fun tracked => Counted tracked.1) capTable counted fun before
    descriptor _ counted => ?_
  rcases trackDescriptor_cases bootstrap before descriptor with ⟨same, -⟩ |
    ⟨registered, -, found, same⟩
  · rw [same]
    exact counted
  · rw [same]
    exact counted.insert (grant_refCount (counted _ _ found))

/-- Every index held is a hold counted. -/
theorem holdCount_tracked (capTable : List RpcCapDescriptor) (c : ℕ) :
    holdCount (tracked registry capTable bootstrap).1 c =
      holdCount registry c + (tracked registry capTable bootstrap).2.count c := by
  refine tracked_induction
    (P := fun tracked => holdCount tracked.1 c = holdCount registry c + tracked.2.count c) capTable
    (add_zero _).symm fun before descriptor _ counted => ?_
  rcases trackDescriptor_cases bootstrap before descriptor with ⟨same, -⟩ |
    ⟨registered, -, found, same⟩
  · rw [same]
    exact counted
  · rw [same]
    dsimp only
    have one := count_cons_int descriptor.id c []
    rw [List.count_nil] at one
    rw [holdCount_insert, List.count_append]
    push_cast
    rw [one]
    split_ifs with here
    · rw [here, holdCount_eq found] at counted
      change registered.answerHoldCount + 1 = _
      rw [here]
      omega
    · omega

/-- A capability that is not held is as it was. -/
theorem lookup_tracked_other (capTable : List RpcCapDescriptor)
    (other : c ∉ (tracked registry capTable bootstrap).2) :
    (tracked registry capTable bootstrap).1.lookup c = registry.lookup c := by
  refine tracked_induction
    (P := fun tracked => c ∉ tracked.2 → tracked.1.lookup c = registry.lookup c) capTable
    (fun _ => rfl) (fun before descriptor _ kept => ?_) other
  rcases trackDescriptor_cases bootstrap before descriptor with ⟨same, -⟩ |
    ⟨registered, -, found, same⟩
  · rw [same]
    exact kept
  · rw [same]
    intro unheld
    rw [List.mem_append, List.mem_singleton, not_or] at unheld
    rw [Table.lookup_insert, if_neg unheld.2]
    exact kept unheld.1

/-- Tracking neither registers nor deregisters. -/
theorem trackDescriptor_registers {held : List ℕ} {descriptor : RpcCapDescriptor} :
    ((trackDescriptor bootstrap (registry, held) descriptor).1.lookup c).isSome =
      (registry.lookup c).isSome := by
  rcases trackDescriptor_cases bootstrap (registry, held) descriptor with ⟨same, -⟩ |
    ⟨registered, -, found, same⟩
  · rw [same]
  · rw [same, Table.lookup_insert]
    split_ifs with here
    · rw [here, found]
      rfl
    · rfl

theorem tracked_registers (capTable : List RpcCapDescriptor) :
    ((tracked registry capTable bootstrap).1.lookup c).isSome = (registry.lookup c).isSome := by
  refine tracked_induction (P := fun tracked => (tracked.1.lookup c).isSome =
    (registry.lookup c).isSome) capTable rfl fun before descriptor _ same => ?_
  exact trackDescriptor_registers.trans same

/-- A registered capability that the Return names as hosted here is held. -/
theorem mem_tracked {descriptor : RpcCapDescriptor} {capTable : List RpcCapDescriptor}
    (mem : descriptor ∈ capTable) (hosted : descriptor.tag = CAP_DESCRIPTOR_TAG_SENDER_HOSTED)
    (registered : (registry.lookup descriptor.id).isSome = true) :
    descriptor.id ∈ (tracked registry capTable bootstrap).2 := by
  have grows (before : Registry × List ℕ) (other : RpcCapDescriptor) :
      before.2 ⊆ (trackDescriptor bootstrap before other).2 := by
    rcases trackDescriptor_cases bootstrap before other with ⟨same, -⟩ | ⟨_, -, -, same⟩
    · rw [same]
      exact List.Subset.refl _
    · rw [same]
      exact List.subset_append_left _ _
  have along (before : Registry × List ℕ) (capTable : List RpcCapDescriptor) :
      before.2 ⊆ (capTable.foldl (trackDescriptor bootstrap) before).2 := by
    induction capTable generalizing before with
    | nil => exact List.Subset.refl _
    | cons other capTable ih => exact List.Subset.trans (grows before other) (ih _)
  obtain ⟨first, rest, rfl⟩ := List.append_of_mem mem
  unfold tracked
  rw [List.foldl_append, List.foldl_cons]
  refine along _ rest ?_
  have before : ((tracked registry first bootstrap).1.lookup descriptor.id).isSome =
      (registry.lookup descriptor.id).isSome := tracked_registers first
  unfold tracked at before
  rcases trackDescriptor_cases bootstrap (first.foldl (trackDescriptor bootstrap) (registry, []))
    descriptor with
    ⟨-, unknown⟩ | ⟨_, -, -, same⟩
  · rcases unknown with foreign | absent
    · exact absurd hosted foreign
    · rw [absent, registered] at before
      cases before
  · rw [same]
    exact List.mem_append_right _ (List.mem_singleton_self _)

/-! ## What stays registered -/

/-- What is registered afterwards was registered before, for the same server. -/
def Inherits (registry registry' : Registry) : Prop :=
  ∀ c registered', registry'.lookup c = some registered' →
    ∃ registered, registry.lookup c = some registered ∧ registered'.dispatch = registered.dispatch

theorem Inherits.refl (registry : Registry) : Inherits registry registry :=
  fun _ registered found => ⟨registered, found, rfl⟩

theorem Inherits.trans {registry' registry'' : Registry} (first : Inherits registry registry')
    (second : Inherits registry' registry'') : Inherits registry registry'' := by
  intro c registered'' found''
  obtain ⟨registered', found', same'⟩ := second c registered'' found''
  obtain ⟨registered, found, same⟩ := first c registered' found'
  exact ⟨registered, found, same'.trans same⟩

theorem inherits_insert {before : RegisteredDispatch} (found : registry.lookup index = some before)
    (same : registered.dispatch = before.dispatch) :
    Inherits registry (registry.insert index registered) := by
  intro c other there
  rw [Table.lookup_insert] at there
  split_ifs at there with here
  · cases there
    exact ⟨before, here ▸ found, same⟩
  · exact ⟨other, there, rfl⟩

theorem inherits_settle {before : RegisteredDispatch} (found : registry.lookup index = some before)
    (same : registered.dispatch = before.dispatch) :
    Inherits registry (settleRegistration registry index registered) := by
  intro c other there
  rcases lookup_settle there with ⟨-, there⟩ | ⟨rfl, rfl, -⟩
  · exact ⟨other, there, rfl⟩
  · exact ⟨before, found, same⟩

theorem inherits_releaseHolds (held : List ℕ) :
    Inherits registry (held.foldl (releaseHeld releaseWireRefs) registry) := by
  induction held generalizing registry with
  | nil => exact Inherits.refl registry
  | cons index held ih =>
    have first : Inherits registry (releaseHeld releaseWireRefs registry index) := by
      unfold releaseHeld
      split
      · exact Inherits.refl registry
      · rename_i before found
        have same : (dropHold releaseWireRefs before).dispatch = before.dispatch := rfl
        exact inherits_settle found same
    exact first.trans ih

theorem inherits_tracked (capTable : List RpcCapDescriptor) :
    Inherits registry (tracked registry capTable bootstrap).1 := by
  refine tracked_induction (P := fun tracked => Inherits registry tracked.1) capTable
    (Inherits.refl registry) fun before descriptor _ inherits => ?_
  rcases trackDescriptor_cases bootstrap before descriptor with ⟨same, -⟩ |
    ⟨registered, -, found, same⟩
  · rw [same]
    exact inherits
  · rw [same]
    exact inherits.trans (inherits_insert found rfl)

/-- A settled registration stays if and only if it is kept. -/
theorem registered_settle :
    ((settleRegistration registry index registered).lookup index).isSome = true ↔
    registered.Kept := by
  unfold settleRegistration RegisteredDispatch.Kept
  split_ifs with gone
  · rw [Table.lookup_erase, if_pos rfl]
    exact ⟨nofun, by omega⟩
  · rw [Table.lookup_insert, if_pos rfl]
    exact ⟨fun _ => by omega, fun _ => rfl⟩

end RpcServerBridge

/-- So many holds may end, each with a reference or without, and the registration stays. -/
def RegisteredDispatch.Outlasts (registered : RegisteredDispatch) (releaseWireRefs : Bool) (n : ℕ) :
    Prop :=
  n < registered.answerHoldCount ∨ if releaseWireRefs then n < registered.refCount
    else 0 < registered.refCount

instance (registered : RegisteredDispatch) (releaseWireRefs : Bool) (n : ℕ) :
    Decidable (registered.Outlasts releaseWireRefs n) := by
  unfold RegisteredDispatch.Outlasts
  infer_instance

namespace RpcServerBridge

variable {registry : Registry} {registered : RegisteredDispatch} {c index : ℕ}
  {releaseWireRefs : Bool}

theorem outlasts_dropHold (n : ℕ) :
    (dropHold releaseWireRefs registered).Outlasts releaseWireRefs n ↔
    registered.Outlasts releaseWireRefs (n + 1) := by
  unfold RegisteredDispatch.Outlasts dropHold
  cases releaseWireRefs <;> by_cases more : registered.refCount > 0 <;> simp [more] <;> omega

theorem kept_of_outlasts {n : ℕ} (outlasts : registered.Outlasts releaseWireRefs n) :
    registered.Kept := by
  unfold RegisteredDispatch.Outlasts at outlasts
  unfold RegisteredDispatch.Kept
  split_ifs at outlasts <;> omega

/-- Before the last hold ends, what is kept outlasts the ends to come. -/
theorem outlasts_zero : registered.Outlasts releaseWireRefs 0 ↔ registered.Kept := by
  unfold RegisteredDispatch.Outlasts RegisteredDispatch.Kept
  split_ifs <;> omega

theorem unregistered_releaseHolds (held : List ℕ) (absent : registry.lookup c = none) :
    (held.foldl (releaseHeld releaseWireRefs) registry).lookup c = none := by
  cases found : (held.foldl (releaseHeld releaseWireRefs) registry).lookup c with
  | none => rfl
  | some registered =>
    obtain ⟨before, there, -⟩ := inherits_releaseHolds held c registered found
    rw [absent] at there
    cases there

/-- A capability stays registered while holds end, if none is on it or it outlasts those that
are. -/
theorem registered_releaseHolds (held : List ℕ) (found : registry.lookup c = some registered) :
    ((held.foldl (releaseHeld releaseWireRefs) registry).lookup c).isSome = true ↔
      held.count c = 0 ∨ registered.Outlasts releaseWireRefs (held.count c) := by
  induction held generalizing registry registered with
  | nil =>
    rw [List.foldl_nil, found]
    exact ⟨fun _ => .inl rfl, fun _ => rfl⟩
  | cons index held ih =>
    rw [List.foldl_cons]
    by_cases here : c = index
    · subst here
      rw [List.count_cons_self, ← outlasts_dropHold]
      have dropped : releaseHeld releaseWireRefs registry c =
          settleRegistration registry c (dropHold releaseWireRefs registered) := by
        unfold releaseHeld
        rw [found]
      by_cases kept : (dropHold releaseWireRefs registered).Kept
      · have there : (releaseHeld releaseWireRefs registry c).lookup c =
            some (dropHold releaseWireRefs registered) := by
          have stays : ((settleRegistration registry c (dropHold releaseWireRefs registered)).lookup
              c).isSome = true :=
            registered_settle.2 kept
          rw [← dropped] at stays
          obtain ⟨other, there⟩ := Option.isSome_iff_exists.1 stays
          rw [dropped] at there ⊢
          rcases lookup_settle there with ⟨ne, -⟩ | ⟨-, rfl, -⟩
          · exact absurd rfl ne
          · exact there
        rw [ih there]
        refine ⟨?_, ?_⟩
        · rintro (none | outlasts)
          · rw [none]
            exact .inr (outlasts_zero.2 kept)
          · exact .inr outlasts
        · rintro (none | outlasts)
          · omega
          · exact .inr outlasts
      · have gone : (releaseHeld releaseWireRefs registry c).lookup c = none := by
          have leaves :
              ¬ ((settleRegistration registry c (dropHold releaseWireRefs registered)).lookup
                c).isSome = true :=
            mt registered_settle.1 kept
          rw [← dropped] at leaves
          simpa using leaves
        rw [unregistered_releaseHolds held gone]
        refine ⟨nofun, ?_⟩
        rintro (none | outlasts)
        · omega
        · exact absurd (kept_of_outlasts outlasts) kept
    · rw [List.count_cons_of_ne (Ne.symm here)]
      exact ih ((lookup_releaseHeld_other here).trans found)

end RpcServerBridge

end CapnpDeno
