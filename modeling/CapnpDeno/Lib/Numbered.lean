import CapnpDeno.Lib.Heap
import CapnpDeno.Lib.Table

/-!
# Numbered records

Records of a heap that get numbers, each number once, and a table that holds those of them that
wait, each under its number.  `one` makes the entry of the table from the place of the record.
-/

/-- The numbers are below `next` and no two records share one, and the table has just the records
that wait. -/
structure Numbered {α β : Type} (Fit : α → Prop) (number : α → Option ℕ) (awaits : α → Bool)
    (one : ℕ → β) (records : List α) (table : Table ℕ β) (next : ℕ) : Prop where
  pending : ∀ key entry, table.lookup key = some entry ↔
    ∃ i a, entry = one i ∧ records[i]? = some a ∧ number a = some key ∧ awaits a = true
  fit : Heap.All (fun _ a => Fit a) records
  used : Heap.All (fun _ a => ∀ key, number a = some key → key < next) records
  distinct : ∀ (i j : ℕ) (a b : α) (key : ℕ), records[i]? = some a → records[j]? = some b →
    number a = some key →
    number b = some key → i = j

namespace Numbered

variable {α β : Type} {Fit : α → Prop} {number : α → Option ℕ} {awaits : α → Bool} {one : ℕ → β}
  {records : List α} {table : Table ℕ β} {next key : ℕ} {i : ℕ} {a : α} {f : α → α}

theorem nil (next : ℕ) : Numbered Fit number awaits one [] ∅ next where
  pending key entry := by
    refine ⟨nofun, ?_⟩
    rintro ⟨i, a, -, found, -⟩
    cases (List.getElem?_nil (i := i)).symm.trans found
  fit := Heap.all_nil
  used := Heap.all_nil
  distinct i _ _ _ _ found := nomatch (List.getElem?_nil (i := i)).symm.trans found

theorem lookup (numbered : Numbered Fit number awaits one records table next)
    (found : records[i]? = some a) (identified : number a = some key) :
    table.lookup key = if awaits a then some (one i) else none := by
  split_ifs with waits
  · exact (numbered.pending key (one i)).2 ⟨i, a, rfl, found, identified, waits⟩
  · refine Option.eq_none_iff_forall_ne_some.2 fun entry pending => ?_
    obtain ⟨j, other, -, there, same, waiting⟩ := (numbered.pending key entry).1 pending
    obtain rfl := numbered.distinct i j a other key found there identified same
    cases found.symm.trans there
    exact waits waiting

/-- A number that is free leads to no entry. -/
theorem fresh (numbered : Numbered Fit number awaits one records table next) :
    table.lookup next = none := by
  refine Option.eq_none_iff_forall_ne_some.2 fun entry pending => ?_
  obtain ⟨i, a, -, found, same, -⟩ := (numbered.pending next entry).1 pending
  exact Nat.lt_irrefl next (numbered.used i a found next same)

/-- A record is changed, and the table as the change demands. -/
theorem update (numbered : Numbered Fit number awaits one records table next) {table' : Table ℕ β}
    (found : records[i]? = some a) (same : number (f a) = number a) (fit : Fit (f a))
    (here : ∀ key, number a = some key → table'.lookup key = if awaits (f a) then some (one i)
      else none)
    (others : ∀ key, number a ≠ some key → table'.lookup key = table.lookup key) :
    Numbered Fit number awaits one (records.modify i f) table' next where
  pending key entry := by
    by_cases own : number a = some key
    · rw [here key own]
      refine ⟨fun pending => ?_, ?_⟩
      · split_ifs at pending with waits
        exact ⟨i, f a, (Option.some.inj pending).symm, Heap.modify_self found,
          same.trans own, waits⟩
      · rintro ⟨j, other, rfl, there, identified, waits⟩
        obtain ⟨rfl, before, old, rfl⟩ | ⟨apart, old⟩ := Heap.of_modify there
        · cases found.symm.trans old
          exact if_pos waits
        · exact absurd (numbered.distinct j i other a key old found identified own) apart
    · rw [others key own, numbered.pending]
      refine exists_congr fun j => ⟨?_, ?_⟩
      · rintro ⟨other, rfl, old, identified, waits⟩
        have apart : j ≠ i := by
          rintro rfl
          cases found.symm.trans old
          exact own identified
        exact ⟨other, rfl, (Heap.modify_other apart).trans old, identified, waits⟩
      · rintro ⟨other, rfl, there, identified, waits⟩
        obtain ⟨rfl, before, old, rfl⟩ | ⟨apart, old⟩ := Heap.of_modify there
        · cases found.symm.trans old
          exact absurd (same.symm.trans identified) own
        · exact ⟨other, rfl, old, identified, waits⟩
  fit := numbered.fit.modify fun other there _ => by
    cases found.symm.trans there
    exact fit
  used := numbered.used.modify fun other there used => by
    cases found.symm.trans there
    rw [same]
    exact used
  distinct j k b c key first second numbers numbers' := by
    have place {j : ℕ} {b : α} (there : (records.modify i f)[j]? = some b) :
        ∃ c, records[j]? = some c ∧ number c = number b := by
      obtain ⟨rfl, before, old, rfl⟩ | ⟨-, old⟩ := Heap.of_modify there
      · cases found.symm.trans old
        exact ⟨a, old, same.symm⟩
      · exact ⟨b, old, rfl⟩
    obtain ⟨b', old, kept⟩ := place first
    obtain ⟨c', old', kept'⟩ := place second
    exact numbered.distinct j k b' c' key old old' (kept.trans numbers) (kept'.trans numbers')

/-- A change after which the record waits as before. -/
theorem keep (numbered : Numbered Fit number awaits one records table next)
    (found : records[i]? = some a) (same : number (f a) = number a) (fit : Fit (f a))
    (waits : awaits (f a) = awaits a) :
    Numbered Fit number awaits one (records.modify i f) table next := by
  refine numbered.update found same fit (fun key own => ?_) fun _ _ => rfl
  rw [waits]
  exact numbered.lookup found own

/-- The record waits no more. -/
theorem forget (numbered : Numbered Fit number awaits one records table next)
    (found : records[i]? = some a) (identified : number a = some key)
    (same : number (f a) = number a) (fit : Fit (f a)) (waits : awaits (f a) = false) :
    Numbered Fit number awaits one (records.modify i f) (table.erase key) next := by
  refine numbered.update found same fit (fun other own => ?_) fun other foreign => ?_
  · obtain rfl : key = other := Option.some.inj (identified.symm.trans own)
    rw [Table.lookup_erase, if_pos rfl, waits]
    rfl
  · rw [Table.lookup_erase, if_neg]
    rintro rfl
    exact foreign identified

/-- The record begins to wait. -/
theorem register (numbered : Numbered Fit number awaits one records table next)
    (found : records[i]? = some a) (identified : number a = some key)
    (same : number (f a) = number a) (fit : Fit (f a)) (waits : awaits (f a) = true) :
    Numbered Fit number awaits one (records.modify i f) (table.insert key (one i)) next := by
  refine numbered.update found same fit (fun other own => ?_) fun other foreign => ?_
  · obtain rfl : key = other := Option.some.inj (identified.symm.trans own)
    rw [Table.lookup_insert, if_pos rfl, waits]
    rfl
  · rw [Table.lookup_insert, if_neg]
    rintro rfl
    exact foreign identified

/-- The record gets the next number, and the table as the record demands. -/
theorem assign (numbered : Numbered Fit number awaits one records table next) {table' : Table ℕ β}
    (found : records[i]? = some a) (identified : number (f a) = some next) (fit : Fit (f a))
    (unnumbered : number a = none) (here : table'.lookup next = if awaits (f a) then some (one i)
      else none)
    (others : ∀ key, key ≠ next → table'.lookup key = table.lookup key) :
    Numbered Fit number awaits one (records.modify i f) table' (next + 1) where
  pending key entry := by
    have apart {j : ℕ} {b : α} (old : records[j]? = some b) (same : number b = some key) :
        j ≠ i := by
      rintro rfl
      cases found.symm.trans old
      cases unnumbered.symm.trans same
    by_cases new : key = next
    · rw [new, here]
      refine ⟨fun pending => ?_, ?_⟩
      · split_ifs at pending with waits
        exact ⟨i, f a, (Option.some.inj pending).symm, Heap.modify_self found, identified, waits⟩
      · rintro ⟨j, other, rfl, there, same, waits⟩
        obtain ⟨rfl, before, old, rfl⟩ | ⟨-, old⟩ := Heap.of_modify there
        · cases found.symm.trans old
          exact if_pos waits
        · exact absurd (numbered.used j other old next same) (Nat.lt_irrefl next)
    · rw [others key new, numbered.pending]
      refine exists_congr fun j => ⟨?_, ?_⟩
      · rintro ⟨other, rfl, old, same, waits⟩
        exact ⟨other, rfl, (Heap.modify_other (apart old same)).trans old, same, waits⟩
      · rintro ⟨other, rfl, there, same, waits⟩
        obtain ⟨rfl, before, old, rfl⟩ | ⟨-, old⟩ := Heap.of_modify there
        · cases found.symm.trans old
          exact absurd (Option.some.inj (same.symm.trans identified)) new
        · exact ⟨other, rfl, old, same, waits⟩
  fit := numbered.fit.modify fun other there _ => by
    cases found.symm.trans there
    exact fit
  used j b there key same := by
    obtain ⟨rfl, before, old, rfl⟩ | ⟨-, old⟩ := Heap.of_modify there
    · cases found.symm.trans old
      cases identified.symm.trans same
      exact Nat.lt_succ_self next
    · exact Nat.lt_succ_of_lt (numbered.used j b old key same)
  distinct j k b c key first second numbers numbers' := by
    have below {j : ℕ} {b : α} (there : (records.modify i f)[j]? = some b)
        (same : number b = some key) :
        j = i ∧ key = next ∨ records[j]? = some b ∧ key < next := by
      obtain ⟨rfl, before, old, rfl⟩ | ⟨-, old⟩ := Heap.of_modify there
      · cases found.symm.trans old
        exact .inl ⟨rfl, Option.some.inj (same.symm.trans identified)⟩
      · exact .inr ⟨old, numbered.used j b old key same⟩
    obtain ⟨rfl, newest⟩ | ⟨old, lt⟩ := below first numbers
    · obtain ⟨rfl, -⟩ | ⟨-, lt⟩ := below second numbers'
      · rfl
      · omega
    · obtain ⟨rfl, newest⟩ | ⟨old', -⟩ := below second numbers'
      · omega
      · exact numbered.distinct j k b c key old old' numbers numbers'

/-- The record gets the next number, and does not wait yet. -/
theorem allocate (numbered : Numbered Fit number awaits one records table next)
    (found : records[i]? = some a) (identified : number (f a) = some next) (fit : Fit (f a))
    (waits : awaits (f a) = false) (unnumbered : number a = none) :
    Numbered Fit number awaits one (records.modify i f) table (next + 1) := by
  refine numbered.assign found identified fit unnumbered ?_ fun _ _ => rfl
  rw [waits]
  exact numbered.fresh

/-- The record gets the next number, and waits. -/
theorem allocateWaiting (numbered : Numbered Fit number awaits one records table next)
    (found : records[i]? = some a) (identified : number (f a) = some next) (fit : Fit (f a))
    (waits : awaits (f a) = true) (unnumbered : number a = none) :
    Numbered Fit number awaits one (records.modify i f) (table.insert next (one i)) (next + 1) := by
  refine numbered.assign found identified fit unnumbered ?_ fun key other => ?_
  · rw [Table.lookup_insert, if_pos rfl, waits]
    rfl
  · rw [Table.lookup_insert, if_neg other]

/-- A record without a number is added. -/
theorem append (numbered : Numbered Fit number awaits one records table next)
    (unnumbered : number a = none) (fit : Fit a) :
    Numbered Fit number awaits one (records ++ [a]) table next where
  pending key entry := by
    rw [numbered.pending]
    refine exists_congr fun j => ⟨?_, ?_⟩
    · rintro ⟨other, rfl, old, same, waiting⟩
      exact ⟨other, rfl, Heap.append_old old, same, waiting⟩
    · rintro ⟨other, rfl, there, same, waiting⟩
      obtain old | ⟨rfl, rfl⟩ := Heap.of_append there
      · exact ⟨other, rfl, old, same, waiting⟩
      · cases unnumbered.symm.trans same
  fit := numbered.fit.append fit
  used := numbered.used.append fun key same => nomatch unnumbered.symm.trans same
  distinct j k b c key first second same same' := by
    obtain old | ⟨rfl, rfl⟩ := Heap.of_append first
    · obtain old' | ⟨rfl, rfl⟩ := Heap.of_append second
      · exact numbered.distinct j k b c key old old' same same'
      · cases unnumbered.symm.trans same'
    · cases unnumbered.symm.trans same

/-- Every record is changed, and none waits any more. -/
theorem forgetAll (numbered : Numbered Fit number awaits one records table next) {g : ℕ → α → α}
    (changed : ∀ i a, records[i]? = some a → Fit (g i a) ∧ awaits (g i a) = false ∧
      number (g i a) = number a) :
    Numbered Fit number awaits one (records.mapIdx g) ∅ next where
  pending key entry := by
    refine ⟨nofun, ?_⟩
    rintro ⟨i, other, -, there, -, waits⟩
    rw [List.getElem?_mapIdx] at there
    obtain ⟨a, found, rfl⟩ := Option.map_eq_some_iff.1 there
    rw [(changed i a found).2.1] at waits
    cases waits
  fit := numbered.fit.mapIdx fun i a found _ => (changed i a found).1
  used := numbered.used.mapIdx fun i a found used => by
    rw [(changed i a found).2.2]
    exact used
  distinct j k b c key first second same same' := by
    rw [List.getElem?_mapIdx] at first second
    obtain ⟨b, old, rfl⟩ := Option.map_eq_some_iff.1 first
    obtain ⟨c, old', rfl⟩ := Option.map_eq_some_iff.1 second
    rw [(changed j b old).2.2] at same
    rw [(changed k c old').2.2] at same'
    exact numbered.distinct j k b c key old old' same same'

end Numbered
