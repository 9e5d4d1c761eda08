import CapnpDeno.Encoding.Locate

/-!
# Pointer graphs

The pointers of a message as a graph: its nodes are slots, and `look` says what the pointer at a
slot leads to, if it leads anywhere.  The reader and the frame validator each have a `look` of their
own.
-/

namespace CapnpDeno

/-- A pointer position: a segment and a word of it. -/
abbrev Slot := ℕ × ℕ

/-- What the pointer at each slot leads to; `none` where it cannot be followed. -/
abbrev PointerGraph := Slot → Option Target

namespace PointerGraph

/-- The second slot belongs to the object the first one points to. -/
def Edge (look : PointerGraph) (slot slot' : Slot) : Prop :=
  ∃ target, look slot = some target ∧ slot' ∈ target.slots

def Reach (look : PointerGraph) : Slot → Slot → Prop := Relation.ReflTransGen look.Edge

/-- Everything behind the slot can be followed, and no path has more than `n` pointers that are not
null. -/
def WithinDepth (look : PointerGraph) : ℕ → Slot → Prop
  | 0, slot => look slot = some .null
  | n + 1, slot =>
    ∃ target, look slot = some target ∧ ∀ slot' ∈ target.slots, WithinDepth look n slot'

/-- A path of `n` pointers that are not null, from the slot on. -/
def Chain (look : PointerGraph) : ℕ → Slot → Prop
  | 0, _ => True
  | n + 1, slot => ∃ target, look slot = some target ∧ target ≠ .null ∧
      (n = 0 ∨ ∃ slot' ∈ target.slots, Chain look n slot')

variable {look look' : PointerGraph} {slot : Slot} {n : ℕ}

theorem WithinDepth.found (h : look.WithinDepth n slot) : ∃ target, look slot = some target := by
  cases n with
  | zero => exact ⟨.null, h⟩
  | succ n =>
    obtain ⟨target, found, -⟩ := h
    exact ⟨target, found⟩

theorem WithinDepth.not_chain (h : look.WithinDepth n slot) : ¬ look.Chain (n + 1) slot := by
  induction n generalizing slot with
  | zero =>
    rintro ⟨target, found, present, -⟩
    exact present (Option.some.inj (found.symm.trans h))
  | succ n ih =>
    obtain ⟨target, found, next⟩ := h
    rintro ⟨target', found', -, zero | ⟨slot', mem, chain⟩⟩
    · cases zero
    · cases found.symm.trans found'
      exact ih (next slot' mem) chain

/-- Graphs that agree on what can be reached have the same depth. -/
theorem WithinDepth.congr (h : look.WithinDepth n slot)
    (same : ∀ slot', look.Reach slot slot' → look' slot' = look slot') :
    look'.WithinDepth n slot := by
  induction n generalizing slot with
  | zero => exact (same slot .refl).trans h
  | succ n ih =>
    obtain ⟨target, found, next⟩ := h
    refine ⟨target, (same slot .refl).trans found, fun slot' mem => ih (next slot' mem) ?_⟩
    exact fun slot'' reach => same slot'' (.head ⟨target, found, mem⟩ reach)

theorem Chain.congr (h : look.Chain n slot)
    (same : ∀ slot', look.Reach slot slot' → look' slot' = look slot') : look'.Chain n slot := by
  induction n generalizing slot with
  | zero => trivial
  | succ n ih =>
    obtain ⟨target, found, present, rest⟩ := h
    refine ⟨target, (same slot .refl).trans found, present, rest.imp_right ?_⟩
    rintro ⟨slot', mem, chain⟩
    refine ⟨slot', mem, ih chain fun slot'' reach => ?_⟩
    exact same slot'' (.head ⟨target, found, mem⟩ reach)

theorem Chain.mono {m : ℕ} (h : look.Chain n slot) (less : m ≤ n) : look.Chain m slot := by
  induction n generalizing slot m with
  | zero =>
    rw [Nat.le_zero.1 less]
    exact h
  | succ n ih =>
    cases m with
    | zero => trivial
    | succ m =>
      obtain ⟨target, found, present, rest⟩ := h
      refine ⟨target, found, present, ?_⟩
      obtain rfl | ⟨slot', mem, chain⟩ := rest
      · exact .inl (by omega)
      · exact .inr ⟨slot', mem, ih chain (Nat.le_of_succ_le_succ less)⟩

/-- A pointer into its own object starts chains of every length. -/
theorem chain_of_loop {target : Target} (found : look slot = some target) (present : target ≠ .null)
    (loop : slot ∈ target.slots) (n : ℕ) : look.Chain n slot := by
  induction n with
  | zero => trivial
  | succ n ih => exact ⟨target, found, present, .inr ⟨slot, loop, ih⟩⟩

/-- Agreement along one graph's reachable slots makes them the other's. -/
theorem Reach.congr {slot' : Slot} (h : look.Reach slot slot')
    (same : ∀ slot', look'.Reach slot slot' → look slot' = look' slot') :
    look'.Reach slot slot' := by
  induction h with
  | refl => exact .refl
  | tail _ edge ih =>
    obtain ⟨target, found, mem⟩ := edge
    exact ih.tail ⟨target, (same _ ih).symm.trans found, mem⟩

end PointerGraph

/-! ## The reader's graph -/

namespace MessageReader

/-- The pointers as the reader follows them. -/
def look (r : MessageReader) : PointerGraph := fun slot => (r.locate slot.1 slot.2).toOption

theorem look_eq_some {r : MessageReader} {slot : Slot} {target : Target} :
    r.look slot = some target ↔ r.locate slot.1 slot.2 = .ok target := Fallible.toOption_eq_some

/-- A pointer that can be followed lies in its segment. -/
theorem look_inRange {r : MessageReader} {slot : Slot} {target : Target}
    (found : r.look slot = some target) : inRange r.segments slot.1 slot.2 1 = true := by
  obtain ⟨resolved, done⟩ := locate_resolved (look_eq_some.1 found)
  obtain ⟨word, read, -⟩ := Fallible.bind_eq_ok.1 done
  by_contra outside
  have missing := r.readWord_toOption slot.1 slot.2
  rw [read, if_neg outside] at missing
  cases missing

/-- The tree at a slot is the unfolding of the reader's graph. -/
theorem withinDepth_iff_reads {r : MessageReader} {slot : Slot} {n : ℕ} :
    r.look.WithinDepth n slot ↔ ∃ t, r.Reads slot.1 slot.2 t ∧ t.depth ≤ n := by
  induction n generalizing slot with
  | zero =>
    constructor
    · intro null
      exact ⟨.null, .null (look_eq_some.1 null), le_rfl⟩
    · rintro ⟨t, reads, shallow⟩
      cases reads with
      | null target => exact look_eq_some.2 target
      | capability target => exact absurd shallow (Nat.not_succ_le_zero 0)
      | object target arity child =>
        have : 1 + depths _ ≤ 0 := shallow
        omega
  | succ n ih =>
    constructor
    · rintro ⟨target, found, next⟩
      rw [look_eq_some] at found
      cases target with
      | null => exact ⟨.null, .null found, Nat.zero_le _⟩
      | capability word => exact ⟨_, .capability found, Nat.succ_le_succ (Nat.zero_le n)⟩
      | object shape s start =>
        obtain ⟨children, arity, child⟩ := exists_children shape.slots fun slot' mem =>
          ih.1 (next (s, start + slot') (List.mem_map.2 ⟨slot', mem, rfl⟩))
        refine ⟨_, .object found arity fun i slot' t known known' =>
          (child i slot' t known known').1, ?_⟩
        have shallow : depths children ≤ n := by
          refine depths_le.2 fun t mem => ?_
          obtain ⟨i, low, rfl⟩ := List.getElem_of_mem mem
          exact (child i _ _ (List.getElem?_eq_getElem (arity ▸ low))
            (List.getElem?_eq_getElem low)).2
        show 1 + depths children ≤ n + 1
        omega
    · rintro ⟨t, reads, shallow⟩
      cases reads with
      | null target => exact ⟨.null, look_eq_some.2 target, nofun⟩
      | capability target => exact ⟨_, look_eq_some.2 target, nofun⟩
      | @object _ _ shape s start children target arity child =>
        refine ⟨_, look_eq_some.2 target, fun slot' mem => ?_⟩
        obtain ⟨j, inside, rfl⟩ := List.mem_map.1 mem
        obtain ⟨i, low, rfl⟩ := List.getElem_of_mem inside
        have deepest : 1 + depths children ≤ n + 1 := shallow
        have t := List.getElem?_eq_getElem (arity ▸ low)
        refine ih.2 ⟨_, child i _ _ (List.getElem?_eq_getElem low) t, ?_⟩
        exact depths_le.1 (by omega) _ (List.mem_of_getElem? t)

end MessageReader

end CapnpDeno
