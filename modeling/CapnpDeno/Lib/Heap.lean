import Mathlib.Tactic

/-!
# Heaps of records

Records that are known by their place in a list: one is added at the end, one is changed where it
is, or all are.  `All` says a property of every record at its place, and `Logged` relates every
record to those effects of the past that are about it.
-/

namespace Heap

variable {α ω : Type} {l : List α} {i j : ℕ} {a b : α} {f : α → α}

theorem modify_self (found : l[i]? = some a) : (l.modify i f)[i]? = some (f a) := by
  rw [List.getElem?_modify_eq, found]
  rfl

theorem modify_other (other : j ≠ i) : (l.modify i f)[j]? = l[j]? := by
  rw [List.getElem?_modify_ne _ _ (Ne.symm other)]

theorem of_modify (found : (l.modify i f)[j]? = some b) :
    (j = i ∧ ∃ a, l[i]? = some a ∧ f a = b) ∨ j ≠ i ∧ l[j]? = some b := by
  by_cases same : j = i
  · subst same
    rw [List.getElem?_modify_eq] at found
    exact .inl ⟨rfl, Option.map_eq_some_iff.1 found⟩
  · rw [modify_other same] at found
    exact .inr ⟨same, found⟩

theorem append_self : (l ++ [a])[l.length]? = some a := by simp

theorem append_old (found : l[j]? = some b) : (l ++ [a])[j]? = some b := by
  have inside : j < l.length := (List.getElem?_eq_some_iff.1 found).1
  rw [List.getElem?_append_left inside, found]

theorem of_append (found : (l ++ [a])[j]? = some b) : l[j]? = some b ∨ j = l.length ∧ a = b := by
  by_cases inside : j < l.length
  · rw [List.getElem?_append_left inside] at found
    exact .inl found
  · have outside : l.length ≤ j := Nat.le_of_not_lt inside
    rw [List.getElem?_append_right outside] at found
    have last : j - l.length < 1 := (List.getElem?_eq_some_iff.1 found).1
    have place : j = l.length := by omega
    subst place
    rw [Nat.sub_self] at found
    exact .inr ⟨rfl, Option.some.inj found⟩

theorem lt_length (found : l[i]? = some a) : i < l.length := (List.getElem?_eq_some_iff.1 found).1

/-! ## Weights -/

/-- The sum of a quantity over the records, which may depend on their places. -/
def weigh (g : ℕ → α → ℤ) (l : List α) : ℤ := (l.mapIdx g).sum

variable {g : ℕ → α → ℤ}

theorem weigh_append (g : ℕ → α → ℤ) (l : List α) (a : α) :
    weigh g (l ++ [a]) = weigh g l + g l.length a := by
  unfold weigh
  rw [List.mapIdx_append, List.sum_append]
  simp

theorem weigh_modify (g : ℕ → α → ℤ) (found : l[i]? = some a) :
    weigh g (l.modify i f) = weigh g l + (g i (f a) - g i a) := by
  induction l generalizing i g with
  | nil => cases found
  | cons first l ih =>
    unfold weigh at ih ⊢
    cases i with
    | zero =>
      cases found
      simp only [List.modify_zero_cons, List.mapIdx_cons, List.sum_cons]
      omega
    | succ i =>
      have rest := ih (fun i => g (i + 1)) (i := i) (by simpa using found)
      simp only [List.modify_succ_cons, List.mapIdx_cons, List.sum_cons, rest]
      omega

/-- A change that leaves the quantity as it is. -/
theorem weigh_modify_same (l : List α) (i : ℕ) (same : ∀ a, g i (f a) = g i a) :
    weigh g (l.modify i f) = weigh g l := by
  cases found : l[i]? with
  | some a =>
    rw [weigh_modify g found, same]
    omega
  | none => rw [List.modify_eq_self (List.getElem?_eq_none_iff.1 found)]

theorem weigh_map (l : List α) (same : ∀ i a, g i (f a) = g i a) :
    weigh g (l.map f) = weigh g l := by
  induction l generalizing g with
  | nil => rfl
  | cons a l ih =>
    have rest := ih (g := fun i => g (i + 1)) fun i => same (i + 1)
    unfold weigh at rest ⊢
    rw [List.map_cons, List.mapIdx_cons, List.mapIdx_cons, List.sum_cons, List.sum_cons, same, rest]

/-- The records with a property, counted. -/
theorem sum_countP (p : α → Bool) (l : List α) :
    (l.map fun a => if p a then (1 : ℤ) else 0).sum = l.countP p := by
  induction l with
  | nil => rfl
  | cons a l ih =>
    rw [List.map_cons, List.sum_cons, ih, List.countP_cons]
    split_ifs <;> push_cast <;> omega

/-- The records without a property, counted. -/
theorem weigh_countP (p : α → Bool) (l : List α) :
    weigh (fun _ a => if p a then 0 else -1) l + l.length = l.countP p := by
  unfold weigh
  induction l with
  | nil => rfl
  | cons a l ih =>
    rw [List.mapIdx_cons, List.sum_cons, List.length_cons, List.countP_cons]
    split_ifs <;> push_cast <;> omega

/-- Records with a property that at most one has are in one place. -/
theorem place_unique {p : α → Bool} (few : l.countP p ≤ 1) (found : l[i]? = some a)
    (found' : l[j]? = some b) (holds : p a = true) (holds' : p b = true) : i = j := by
  induction l generalizing i j with
  | nil => cases (List.getElem?_nil (i := i)).symm.trans found
  | cons first l ih =>
    rw [List.countP_cons] at few
    have others (k : ℕ) (c : α) (there : l[k]? = some c) (has : p c = true) : 0 < l.countP p :=
      List.countP_pos_iff.2 ⟨c, List.mem_of_getElem? there, has⟩
    cases i with
    | zero =>
      cases found
      cases j with
      | zero => rfl
      | succ j =>
        have more := others j b (by simpa using found') holds'
        rw [if_pos holds] at few
        omega
    | succ i =>
      have more := others i a (by simpa using found) holds
      cases j with
      | zero =>
        cases found'
        rw [if_pos holds'] at few
        omega
      | succ j =>
        exact congrArg (· + 1) (ih (by omega) (by simpa using found) (by simpa using found'))

/-- Only the record at one place weighs. -/
theorem weigh_single {g : ℕ → α → ℤ} (zero : ∀ j a, j ≠ i → g j a = 0) (l : List α) :
    weigh g l = (l[i]?.map (g i)).getD 0 := by
  induction l generalizing g i with
  | nil => rfl
  | cons first l ih =>
    have split : weigh g (first :: l) = g 0 first + weigh (fun j => g (j + 1)) l := by
      unfold weigh
      rw [List.mapIdx_cons, List.sum_cons]
    rw [split]
    cases i with
    | zero =>
      have rest : weigh (fun j => g (j + 1)) l = 0 := by
        rw [ih (i := l.length) fun j a _ => zero (j + 1) a (by omega), List.getElem?_length]
        rfl
      rw [rest, Int.add_zero]
      rfl
    | succ i =>
      rw [ih (i := i) fun j a other => zero (j + 1) a (by omega), zero 0 first
        (by omega), Int.zero_add]
      rfl

/-! ## Every record -/

/-- The property holds of every record at its place. -/
def All (P : ℕ → α → Prop) (l : List α) : Prop := ∀ i a, l[i]? = some a → P i a

variable {P : ℕ → α → Prop}

theorem all_nil : All P ([] : List α) := by
  intro i a found
  cases (List.getElem?_nil (i := i)).symm.trans found

theorem All.modify (all : All P l) (kept : ∀ a, l[i]? = some a → P i a → P i (f a)) :
    All P (l.modify i f) := by
  intro j b found
  obtain ⟨rfl, a, there, rfl⟩ | ⟨-, there⟩ := of_modify found
  · exact kept a there (all j a there)
  · exact all j b there

theorem All.append (all : All P l) (new : P l.length a) : All P (l ++ [a]) := by
  intro j b found
  obtain there | ⟨rfl, rfl⟩ := of_append found
  · exact all j b there
  · exact new

theorem All.mapIdx {g : ℕ → α → α} (all : All P l)
    (kept : ∀ i a, l[i]? = some a → P i a → P i (g i a)) :
    All P (l.mapIdx g) := by
  intro j b found
  rw [List.getElem?_mapIdx] at found
  obtain ⟨a, there, rfl⟩ := Option.map_eq_some_iff.1 found
  exact kept j a there (all j a there)

/-! ## Records and their effects -/

section Logged

variable (about : ω → Option ℕ) (Q : ℕ → List ω → α → Prop)

/-- The effects about the record. -/
def log (i : ℕ) (past : List ω) : List ω := past.filter (about · = some i)

/-- Every record is related to the effects about it, and no effect is about a record that is not
there. -/
def Logged (past : List ω) (l : List α) : Prop :=
  All (fun i a => Q i (log about i past) a) l ∧ ∀ e ∈ past, ∀ i, about e = some i → i < l.length

variable {about Q} {past effects : List ω}

@[simp] theorem log_append (i : ℕ) (past effects : List ω) :
    log about i (past ++ effects) = log about i past ++ log about i effects :=
  List.filter_append _ _

theorem log_eq_nil (apart : ∀ e ∈ effects, about e ≠ some i) : log about i effects = [] := by
  rw [log, List.filter_eq_nil_iff]
  intro e mem
  simpa using apart e mem

theorem log_eq_self (all : ∀ e ∈ effects, about e = some i) : log about i effects = effects := by
  rw [log, List.filter_eq_self]
  intro e mem
  simpa using all e mem

theorem logged_nil : Logged about Q [] ([] : List α) := ⟨all_nil, by simp⟩

theorem Logged.past_length (logged : Logged about Q past l) : log about l.length past = [] :=
  log_eq_nil fun e mem same => Nat.lt_irrefl _ (logged.2 e mem _ same)

/-- One record is changed, and the effects are about it or about none. -/
theorem Logged.modify (logged : Logged about Q past l) (found : l[i]? = some a)
    (only : ∀ e ∈ effects, ∀ j, about e = some j → j = i)
    (kept : Q i (log about i past) a → Q i (log about i past ++ log about i effects) (f a)) :
    Logged about Q (past ++ effects) (l.modify i f) := by
  refine ⟨fun j b there => ?_, fun e mem j same => ?_⟩
  · dsimp only
    rw [log_append]
    obtain ⟨rfl, a', before, rfl⟩ | ⟨other, before⟩ := of_modify there
    · cases found.symm.trans before
      exact kept (logged.1 j a before)
    · rw [log_eq_nil fun e mem same => other (only e mem j same), List.append_nil]
      exact logged.1 j b before
  · rw [List.length_modify]
    rcases List.mem_append.1 mem with old | new
    · exact logged.2 e old j same
    · rw [only e new j same]
      exact lt_length found

/-- Nothing is changed, and the effects are about no record. -/
theorem Logged.silent (logged : Logged about Q past l) (silent : ∀ e ∈ effects, about e = none) :
    Logged about Q (past ++ effects) l := by
  refine ⟨fun j b there => ?_, fun e mem j same => ?_⟩
  · have none : log about j effects = [] :=
      log_eq_nil fun e mem same => nomatch (silent e mem).symm.trans same
    dsimp only
    rw [log_append, none, List.append_nil]
    exact logged.1 j b there
  · rcases List.mem_append.1 mem with old | new
    · exact logged.2 e old j same
    · cases (silent e new).symm.trans same

/-- A record is added, and the effects are about it or about none. -/
theorem Logged.append (logged : Logged about Q past l)
    (only : ∀ e ∈ effects, ∀ j, about e = some j → j = l.length)
    (new : Q l.length (log about l.length effects) a) :
    Logged about Q (past ++ effects) (l ++ [a]) := by
  refine ⟨fun j b there => ?_, fun e mem j same => ?_⟩
  · dsimp only
    rw [log_append]
    obtain old | ⟨rfl, rfl⟩ := of_append there
    · have other : j ≠ l.length := (lt_length old).ne
      rw [log_eq_nil fun e mem same => other (only e mem j same), List.append_nil]
      exact logged.1 j b old
    · rw [logged.past_length, List.nil_append]
      exact new
  · rw [List.length_append, List.length_singleton]
    rcases List.mem_append.1 mem with old | fresh
    · exact Nat.lt_succ_of_lt (logged.2 e old j same)
    · rw [only e fresh j same]
      exact Nat.lt_succ_self _

/-- Every record may change, and the effects are about records. -/
theorem Logged.mapIdx {g : ℕ → α → α} (logged : Logged about Q past l)
    (inside : ∀ e ∈ effects, ∀ j, about e = some j → j < l.length)
    (kept : ∀ i a, l[i]? = some a → Q i (log about i past) a →
      Q i (log about i past ++ log about i effects) (g i a)) :
    Logged about Q (past ++ effects) (l.mapIdx g) := by
  refine ⟨fun j b there => ?_, fun e mem j same => ?_⟩
  · dsimp only
    rw [List.getElem?_mapIdx] at there
    obtain ⟨a, found, rfl⟩ := Option.map_eq_some_iff.1 there
    rw [log_append]
    exact kept j a found (logged.1 j a found)
  · rw [List.length_mapIdx]
    rcases List.mem_append.1 mem with old | new
    · exact logged.2 e old j same
    · exact inside e new j same

/-- The effects of a change of every record, each about its own. -/
theorem log_flatten_mapIdx {g : ℕ → α → List ω} (own : ∀ i a, ∀ e ∈ g i a, about e = some i)
    (found : l[i]? = some a) : log about i (l.mapIdx g).flatten = g i a := by
  have shifted : ∀ (k : ℕ) (l : List α) (i : ℕ), l[i]? = some a →
      log about (i + k) (l.mapIdx fun i => g (i + k)).flatten = g (i + k) a := by
    intro k l
    induction l generalizing k with
    | nil => exact fun i found => nomatch (List.getElem?_nil (i := i)).symm.trans found
    | cons first l ih =>
      intro i found
      have rest : (l.mapIdx fun i => g (i + 1 + k)) = l.mapIdx fun i => g (i + (k + 1)) := by
        simp only [Nat.add_assoc, Nat.add_comm 1 k]
      rw [List.mapIdx_cons, List.flatten_cons, log_append, rest]
      cases i with
      | zero =>
        cases found
        have others : log about (0 + k) (l.mapIdx fun i => g (i + (k + 1))).flatten = [] := by
          refine log_eq_nil fun e mem same => ?_
          obtain ⟨effects, inside, there⟩ := List.mem_flatten.1 mem
          obtain ⟨j, lt, rfl⟩ := List.mem_mapIdx.1 inside
          have place := Option.some.inj ((own _ _ e there).symm.trans same)
          omega
        rw [others, List.append_nil]
        exact log_eq_self (own _ _)
      | succ i =>
        have first : log about (i + 1 + k) (g (0 + k) first) = [] := by
          refine log_eq_nil fun e mem same => ?_
          have place := Option.some.inj ((own _ _ e mem).symm.trans same)
          omega
        have place : i + 1 + k = i + (k + 1) := by omega
        rw [first, List.nil_append, place]
        exact ih (k + 1) i found
  exact shifted 0 l i found

theorem about_flatten_mapIdx {g : ℕ → α → List ω}
    (own : ∀ i a, ∀ e ∈ g i a, about e = some i) {e : ω} (mem : e ∈ (l.mapIdx g).flatten)
    (same : about e = some j) : j < l.length := by
  obtain ⟨_, inside, within⟩ := List.mem_flatten.1 mem
  obtain ⟨i, lt, rfl⟩ := List.mem_mapIdx.1 inside
  have place := Option.some.inj ((own _ _ e within).symm.trans same)
  rw [← place]
  exact lt

end Logged

end Heap
