import Mathlib.Tactic

/-!
# Computations that may fail

Inversion and introduction rules for `Except`, and the loop rules for `List.foldlM` over it.
-/

namespace Fallible

variable {ε α β σ : Type}

/-- A sequence of two steps succeeds exactly when both do. -/
theorem bind_eq_ok {x : Except ε α} {f : α → Except ε β} {b : β} :
    x >>= f = .ok b ↔ ∃ a, x = .ok a ∧ f a = .ok b := by
  cases x with
  | error e => exact ⟨nofun, nofun⟩
  | ok a =>
    constructor
    · exact fun h => ⟨a, rfl, h⟩
    · rintro ⟨a', same, h⟩
      cases same
      exact h

/-- A sequence of two steps fails in its first step, or in the second after the first. -/
theorem bind_eq_error {x : Except ε α} {f : α → Except ε β} {e : ε} :
    x >>= f = .error e ↔ x = .error e ∨ ∃ a, x = .ok a ∧ f a = .error e := by
  cases x with
  | error e' =>
    constructor
    · intro h
      cases h
      exact .inl rfl
    · rintro (same | ⟨a, impossible, -⟩)
      · cases same
        rfl
      · cases impossible
  | ok a =>
    constructor
    · exact fun h => .inr ⟨a, rfl, h⟩
    · rintro (impossible | ⟨a', same, h⟩)
      · cases impossible
      · cases same
        exact h

theorem map_eq_ok {f : α → β} {x : Except ε α} {b : β} :
    f <$> x = .ok b ↔ ∃ a, x = .ok a ∧ f a = b := by
  cases x with
  | error e => exact ⟨nofun, nofun⟩
  | ok a =>
    constructor
    · exact fun same => ⟨a, rfl, Except.ok.inj same⟩
    · rintro ⟨a', same, rfl⟩
      cases same
      rfl

theorem map_eq_error {f : α → β} {x : Except ε α} {e : ε} : f <$> x = .error e ↔ x = .error e := by
  cases x with
  | error e' =>
    exact ⟨fun same => congrArg _ (Except.error.inj same), fun same =>
      congrArg _ (Except.error.inj same)⟩
  | ok a => exact ⟨nofun, nofun⟩

@[simp] theorem ok_bind (a : α) (f : α → Except ε β) : (Except.ok a >>= f) = f a := rfl

@[simp] theorem error_bind (e : ε) (f : α → Except ε β) : (Except.error e >>= f) = .error e := rfl

@[simp] theorem pure_eq_ok (a : α) : (pure a : Except ε α) = .ok a := rfl

@[simp] theorem throw_eq_error (e : ε) : (throw e : Except ε α) = .error e := rfl

/-! ## The value, if there is one -/

@[simp] theorem toOption_ok (a : α) : (Except.ok a : Except ε α).toOption = some a := rfl

@[simp] theorem toOption_error (e : ε) : (Except.error e : Except ε α).toOption = none := rfl

@[simp] theorem toOption_bind (x : Except ε α) (f : α → Except ε β) :
    (x >>= f).toOption = x.toOption.bind fun a => (f a).toOption := by
  cases x <;> rfl

@[simp] theorem toOption_ite (p : Prop) [Decidable p] (x y : Except ε α) :
    (if p then x else y).toOption = if p then x.toOption else y.toOption := apply_ite _ p x y

theorem toOption_map (f : α → β) (x : Except ε α) : (f <$> x).toOption = f <$> x.toOption := by
  cases x <;> rfl

theorem toOption_eq_some {x : Except ε α} {a : α} : x.toOption = some a ↔ x = .ok a := by
  cases x with
  | error e => exact ⟨nofun, nofun⟩
  | ok b =>
    rw [toOption_ok, Option.some.injEq, Except.ok.injEq]

theorem toOption_eq_none {x : Except ε α} : x.toOption = none ↔ ∃ e, x = .error e := by
  cases x with
  | error e => exact ⟨fun _ => ⟨e, rfl⟩, fun _ => rfl⟩
  | ok b => exact ⟨nofun, nofun⟩

/-- The `if … then throw …` guard passes exactly when its condition is false. -/
theorem guard_eq_ok {p : Prop} [Decidable p] {e : ε} {u : Unit} :
    (if p then throw e else pure () : Except ε Unit) = .ok u ↔ ¬ p := by
  by_cases h : p <;> simp [h]

/-! ## Loops -/

/-- A loop over the pieces of a list is a loop of loops. -/
theorem foldlM_flatMap {f : σ → β → Except ε σ} {g : α → List β} (l : List α) (s : σ) :
    (l.flatMap g).foldlM f s = l.foldlM (fun s a => (g a).foldlM f s) s := by
  induction l generalizing s with
  | nil => rfl
  | cons a l ih =>
    rw [List.flatMap_cons, List.foldlM_append, List.foldlM_cons]
    exact congrArg _ (funext ih)

/-- A loop that fails does so at one of its steps. -/
theorem foldlM_eq_error {f : σ → α → Except ε σ} {l : List α} {s : σ} {e : ε}
    (failed : l.foldlM f s = .error e) : ∃ t, ∃ a ∈ l, f t a = .error e := by
  induction l generalizing s with
  | nil => cases failed
  | cons a l ih =>
    rw [List.foldlM_cons, bind_eq_error] at failed
    obtain here | ⟨t, -, later⟩ := failed
    · exact ⟨s, a, List.mem_cons_self, here⟩
    · obtain ⟨t', b, mem, bad⟩ := ih later
      exact ⟨t', b, List.mem_cons_of_mem a mem, bad⟩

theorem mapM_congr {f g : α → Except ε β} {l : List α} (same : ∀ a ∈ l, f a = g a) :
    l.mapM f = l.mapM g := by
  induction l with
  | nil => rfl
  | cons a l ih =>
    rw [List.mapM_cons, List.mapM_cons, same a List.mem_cons_self,
      ih fun b mem => same b (List.mem_cons_of_mem a mem)]

theorem mapM_eq_error {f : α → Except ε β} {l : List α} {e : ε} (failed : l.mapM f = .error e) :
    ∃ a ∈ l, f a = .error e := by
  induction l with
  | nil => cases failed
  | cons a l ih =>
    rw [List.mapM_cons, bind_eq_error] at failed
    obtain here | ⟨b, -, failed⟩ := failed
    · exact ⟨a, List.mem_cons_self, here⟩
    · obtain later | ⟨bs, -, done⟩ := bind_eq_error.1 failed
      · obtain ⟨a', mem, bad⟩ := ih later
        exact ⟨a', List.mem_cons_of_mem a mem, bad⟩
      · cases done

/-- The results of a loop that collects them, one for each element. -/
theorem mapM_eq_ok {f : α → Except ε β} {l : List α} {bs : List β} :
    l.mapM f = .ok bs ↔ List.Forall₂ (fun a b => f a = .ok b) l bs := by
  induction l generalizing bs with
  | nil =>
    constructor
    · intro done
      cases done
      exact .nil
    · intro none
      cases none
      rfl
  | cons a l ih =>
    rw [List.mapM_cons, bind_eq_ok]
    constructor
    · rintro ⟨b, here, done⟩
      obtain ⟨bs', rest, done⟩ := bind_eq_ok.1 done
      cases done
      exact .cons here (ih.1 rest)
    · intro all
      cases all with
      | cons here rest => exact ⟨_, here, bind_eq_ok.2 ⟨_, ih.2 rest, rfl⟩⟩

/-- Each element has its result among the results. -/
theorem mem_of_mapM {f : α → Except ε β} {l : List α} {bs : List β}
    (done : l.mapM f = .ok bs) {a : α} (mem : a ∈ l) : ∃ b ∈ bs, f a = .ok b := by
  have all := mapM_eq_ok.1 done
  induction all with
  | nil => cases mem
  | cons here rest ih =>
    obtain rfl | later := List.mem_cons.1 mem
    · exact ⟨_, List.mem_cons_self, here⟩
    · obtain ⟨b, inside, done⟩ := ih (mapM_eq_ok.2 rest) later
      exact ⟨b, List.mem_cons_of_mem _ inside, done⟩

theorem ok_of_mapM {f : α → Except ε β} {l : List α} {bs : List β}
    (done : l.mapM f = .ok bs) {a : α} (mem : a ∈ l) : ∃ b, f a = .ok b := by
  obtain ⟨b, -, done⟩ := mem_of_mapM done mem
  exact ⟨b, done⟩

/-- Each result is that of an element. -/
theorem exists_of_mem_mapM {f : α → Except ε β} {l : List α} {bs : List β}
    (done : l.mapM f = .ok bs) {b : β} (mem : b ∈ bs) : ∃ a ∈ l, f a = .ok b := by
  have all := mapM_eq_ok.1 done
  clear done
  induction all with
  | nil => cases mem
  | cons here rest ih =>
    rcases List.mem_cons.1 mem with rfl | later
    · exact ⟨_, List.mem_cons_self, here⟩
    · obtain ⟨a, inside, done⟩ := ih later
      exact ⟨a, List.mem_cons_of_mem _ inside, done⟩

theorem foldlM_congr {f g : σ → α → Except ε σ} {l : List α} (same : ∀ s, ∀ a ∈ l, f s a = g s a)
    (s : σ) : l.foldlM f s = l.foldlM g s := by
  induction l generalizing s with
  | nil => rfl
  | cons a l ih =>
    rw [List.foldlM_cons, List.foldlM_cons, same s a List.mem_cons_self]
    exact congrArg _ (funext fun s => ih (fun s b mem => same s b (List.mem_cons_of_mem a mem)) s)

/-- A loop that succeeds does so at each of its steps. -/
theorem ok_of_foldlM {f : σ → α → Except ε σ} {l : List α} {s s' : σ} (done : l.foldlM f s = .ok s')
    {a : α} (mem : a ∈ l) : ∃ t t', f t a = .ok t' := by
  induction l generalizing s with
  | nil => cases mem
  | cons b l ih =>
    rw [List.foldlM_cons, bind_eq_ok] at done
    obtain ⟨t, here, rest⟩ := done
    obtain rfl | later := List.mem_cons.1 mem
    · exact ⟨s, t, here⟩
    · exact ih rest later

/-- A loop that keeps an invariant at every step keeps it to the end. -/
theorem foldlM_keeps {f : σ → α → Except ε σ} {l : List α} (Inv : σ → Prop) {s s' : σ}
    (start : Inv s) (run : l.foldlM f s = .ok s')
    (keep : ∀ t, ∀ a ∈ l, ∀ t', Inv t → f t a = .ok t' → Inv t') : Inv s' := by
  induction l generalizing s with
  | nil =>
    cases run
    exact start
  | cons a l ih =>
    rw [List.foldlM_cons, bind_eq_ok] at run
    obtain ⟨t, first, rest⟩ := run
    exact ih (keep s a List.mem_cons_self t start first) rest fun t b mem =>
      keep t b (List.mem_cons_of_mem a mem)

/-- A loop reaches what one of its steps establishes, where the other steps keep it. -/
theorem foldlM_reaches {f : σ → α → Except ε σ} {l : List α} (Inv P : σ → Prop) {s s' : σ} {a : α}
    (mem : a ∈ l) (start : Inv s) (run : l.foldlM f s = .ok s')
    (keep : ∀ t, ∀ b ∈ l, ∀ t', Inv t → f t b = .ok t' → Inv t')
    (meet : ∀ t t', Inv t → f t a = .ok t' → P t')
    (hold : ∀ t, ∀ b ∈ l, ∀ t', b ≠ a → Inv t → P t → f t b = .ok t' → P t') : Inv s' ∧ P s' := by
  obtain ⟨before, after, rfl⟩ := List.append_of_mem mem
  rw [List.foldlM_append, bind_eq_ok] at run
  obtain ⟨t, first, run⟩ := run
  rw [List.foldlM_cons, bind_eq_ok] at run
  obtain ⟨t', here, rest⟩ := run
  have inv : Inv t := foldlM_keeps Inv start first fun u b inside =>
    keep u b (List.mem_append_left _ inside)
  refine foldlM_keeps (fun u => Inv u ∧ P u) ⟨keep t a mem t' inv here, meet t t' inv here⟩ rest ?_
  intro u b inside u' both next
  have member : b ∈ before ++ a :: after := List.mem_append_right _ (List.mem_cons_of_mem a inside)
  refine ⟨keep u b member u' both.1 next, ?_⟩
  by_cases again : b = a
  · subst again
    exact meet u u' both.1 next
  · exact hold u b member u' again both.1 both.2 next

/-- A loop is followed by another one where each of its steps is. -/
theorem foldlM_follows {τ : Type} {f : σ → α → Except ε σ} {g : τ → α → Except ε τ} {l : List α}
    (R : σ → τ → Prop) {s s' : σ} {t : τ} (start : R s t) (run : l.foldlM f s = .ok s')
    (step : ∀ u v, ∀ a ∈ l, ∀ u', R u v → f u a = .ok u' → ∃ v', g v a = .ok v' ∧ R u' v') :
    ∃ t', l.foldlM g t = .ok t' ∧ R s' t' := by
  induction l generalizing s t with
  | nil =>
    cases run
    exact ⟨t, rfl, start⟩
  | cons a l ih =>
    rw [List.foldlM_cons, bind_eq_ok] at run
    obtain ⟨u, first, rest⟩ := run
    obtain ⟨v, next, related⟩ := step s t a List.mem_cons_self u start first
    obtain ⟨t', run', final⟩ := ih related rest fun u v b mem =>
      step u v b (List.mem_cons_of_mem a mem)
    exact ⟨t', by rw [List.foldlM_cons, next]; exact run', final⟩

/-- Two loops over numbered items, side by side. -/
theorem foldlM_zipIdx_follows {τ : Type} {f : σ → α × ℕ → Except ε σ} {g : τ → β × ℕ → Except ε τ}
    {Q : α → β → Prop} (R : ℕ → σ → τ → Prop) {l : List α} {l' : List β}
    (pairs : List.Forall₂ Q l l') {n : ℕ} {s s' : σ} {t t' : τ} (start : R n s t)
    (run : (l.zipIdx n).foldlM f s = .ok s') (run' : (l'.zipIdx n).foldlM g t = .ok t')
    (step : ∀ i a b u v u' v', n ≤ i → i < n + l.length → Q a b → R i u v → f u (a, i) = .ok u' →
      g v (b, i) = .ok v' →
      R (i + 1) u' v') : R (n + l.length) s' t' := by
  induction pairs generalizing n s t with
  | nil =>
    cases run
    cases run'
    exact start
  | @cons a b l l' here rest ih =>
    rw [List.zipIdx_cons, List.foldlM_cons, bind_eq_ok] at run run'
    obtain ⟨u, first, run⟩ := run
    obtain ⟨v, first', run'⟩ := run'
    have next := step n a b s t u v le_rfl (by rw [List.length_cons]; omega) here start first first'
    rw [List.length_cons, Nat.add_comm l.length, ← Nat.add_assoc]
    apply ih next run run'
    intro i a b u v u' v' low high
    apply step i a b u v u' v' (by omega)
    rw [List.length_cons]
    omega

/-! ## Loops on options -/

theorem toOption_mapM {α' : Type} {f : α → Except ε β} {g : α' → Option β} {l : List α}
    {l' : List α'} (same : List.Forall₂ (fun a a' => (f a).toOption = g a') l l') :
    (l.mapM f).toOption = l'.mapM g := by
  induction same with
  | nil => rfl
  | cons first _ ih =>
    rw [List.mapM_cons, List.mapM_cons, toOption_bind, first]
    simp only [toOption_bind, ih, pure_eq_ok, toOption_ok]
    rfl

theorem toOption_foldlM {f : σ → α → Except ε σ} {g : σ → α → Option σ} {l : List α}
    (same : ∀ s, ∀ a ∈ l, (f s a).toOption = g s a) (s : σ) :
    (l.foldlM f s).toOption = l.foldlM g s := by
  induction l generalizing s with
  | nil => rfl
  | cons a l ih =>
    rw [List.foldlM_cons, List.foldlM_cons, toOption_bind, same s a List.mem_cons_self]
    simp only [ih fun s a mem => same s a (List.mem_cons_of_mem _ mem)]
    rfl

end Fallible
