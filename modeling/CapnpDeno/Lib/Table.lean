import Mathlib.Data.List.AList
import Mathlib.Tactic

/-!
# Keyed tables and heaps

`AList` with one value type: what a lookup finds after an update, how many keys there are, and the
sum of a quantity over the entries.  Then the same sums for a list that serves as a heap, an object
being known by its place.
-/

/-- A table from keys to values, at most one value a key. -/
abbrev Table (κ ν : Type) := AList fun _ : κ => ν

namespace Table

variable {κ ν : Type} [DecidableEq κ] {t : Table κ ν} {key other : κ} {value : ν}

theorem lookup_insert (t : Table κ ν) (key other : κ) (value : ν) :
    (t.insert key value).lookup other = if other = key then some value else t.lookup other := by
  by_cases same : other = key
  · rw [same, AList.lookup_insert, if_pos rfl]
  · rw [AList.lookup_insert_ne same, if_neg same]

theorem lookup_erase (t : Table κ ν) (key other : κ) :
    AList.lookup other (t.erase key) = if other = key then none else AList.lookup other t := by
  by_cases same : other = key
  · rw [same, AList.lookup_erase, if_pos rfl]
  · rw [AList.lookup_erase_ne same, if_neg same]

theorem mem_entries : ⟨key, value⟩ ∈ t.entries ↔ t.lookup key = some value :=
  (List.mem_dlookup_iff t.nodupKeys).symm

/-! ## Size -/

def size (t : Table κ ν) : ℕ := t.entries.length

theorem size_insert (fresh : t.lookup key = none) : size (t.insert key value) = t.size + 1 := by
  unfold size
  rw [AList.entries_insert_of_notMem (AList.lookup_eq_none.1 fresh), List.length_cons]

theorem size_erase_le (t : Table κ ν) (key : κ) : size (t.erase key) ≤ t.size := by
  have shorter : (t.entries.kerase key).length ≤ t.entries.length :=
    (List.kerase_sublist key _).length_le
  exact shorter

/-! ## Sums -/

/-- The sum of a quantity over the entries. -/
def total (quantity : κ → ν → ℤ) (t : Table κ ν) : ℤ :=
  (t.entries.map fun entry => quantity entry.1 entry.2).sum

variable {quantity quantity' : κ → ν → ℤ}

omit [DecidableEq κ] in
theorem total_empty : total quantity (∅ : Table κ ν) = 0 := rfl

theorem total_insert (fresh : t.lookup key = none) :
    total quantity (t.insert key value) = quantity key value + total quantity t := by
  unfold total
  rw [AList.entries_insert_of_notMem (AList.lookup_eq_none.1 fresh), List.map_cons, List.sum_cons]

theorem total_congr (same : ∀ key value, t.lookup key = some value → quantity key value =
      quantity' key value) :
    total quantity t = total quantity' t := by
  unfold total
  congr 1
  exact List.map_congr_left fun entry mem => same entry.1 entry.2 (mem_entries.1 mem)

theorem erase_of_absent (absent : t.lookup key = none) : t.erase key = t := by
  apply AList.ext
  exact List.kerase_of_notMem_keys (AList.lookup_eq_none.1 absent)

theorem total_erase (present : t.lookup key = some value) :
    total quantity (t.erase key) = total quantity t - quantity key value := by
  have keyed : key ∈ t.entries.keys := AList.lookup_isSome.1 (present ▸ rfl)
  obtain ⟨found, before, after, -, split, rest⟩ := List.exists_of_kerase keyed
  have mem : ⟨key, found⟩ ∈ t.entries := split ▸ List.mem_append_right _ List.mem_cons_self
  have same : found = value := Option.some.inj ((mem_entries.1 mem).symm.trans present)
  unfold total
  change ((t.entries.kerase key).map _).sum = _
  rw [rest, split, same]
  simp only [List.map_append, List.map_cons, List.sum_append, List.sum_cons]
  omega

end Table

/-! ## Heaps -/

namespace Heap

variable {α : Type} {l : List α} {i : ℕ} {a : α} {f : α → α}

theorem map_modify {β : Type} {g : α → β} (l : List α) (i : ℕ) (same : ∀ a, g (f a) = g a) :
    (l.modify i f).map g = l.map g := by
  induction l generalizing i with
  | nil => rw [List.modify_nil]
  | cons a l ih =>
    cases i with
    | zero => exact congrArg (· :: l.map g) (same a)
    | succ i => exact congrArg (g a :: ·) (ih i)

/-- A map carries an update along. -/
theorem modify_map {β : Type} {g : α → β} {f' : β → β} (along : ∀ a, g (f a) = f' (g a)) :
    (l.modify i f).map g = (l.map g).modify i f' := by
  induction l generalizing i with
  | nil => rw [List.modify_nil, List.map_nil, List.modify_nil]
  | cons a l ih =>
    cases i with
    | zero => exact congrArg (· :: l.map g) (along a)
    | succ i => exact congrArg (g a :: ·) ih

theorem sum_modify (g : α → ℤ) (found : l[i]? = some a) :
    ((l.modify i f).map g).sum = (l.map g).sum + (g (f a) - g a) := by
  induction l generalizing i with
  | nil => cases found
  | cons first l ih =>
    cases i with
    | zero =>
      cases found
      simp only [List.modify_zero_cons, List.map_cons, List.sum_cons]
      omega
    | succ i =>
      have rest := ih (i := i) (by simpa using found)
      simp only [List.modify_succ_cons, List.map_cons, List.sum_cons, rest]
      omega

end Heap
