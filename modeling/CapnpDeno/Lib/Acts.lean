import CapnpDeno.Lib.Runs

/-!
# Steps in smaller acts

A step of a machine is often a sequence of acts.  What every act keeps, of the state and of the
effects so far, every step keeps and so every run.
-/

namespace Machine

variable {σ ε ω : Type} {R : σ → σ → List ω → Prop} {step : σ → ε → σ × List ω} {s t u : σ}
  {effects more : List ω}

inductive Acts (R : σ → σ → List ω → Prop) : σ → σ → List ω → Prop
  | nil (s : σ) : Acts R s s []
  | cons {s t u : σ} {effects more : List ω} (act : R s t effects) (acts : Acts R t u more) :
      Acts R s u (effects ++ more)

namespace Acts

theorem one (act : R s t effects) : Acts R s t effects := by
  have acts := cons act (.nil t)
  rwa [List.append_nil] at acts

theorem trans (first : Acts R s t effects) (second : Acts R t u more) :
    Acts R s u (effects ++ more) := by
  induction first with
  | nil => exact second
  | cons act _ ih =>
    rw [List.append_assoc]
    exact .cons act (ih second)

/-- Acts without effects come first. -/
theorem silent (first : Acts R s t []) (second : Acts R t u effects) : Acts R s u effects :=
  first.trans second

/-- Acts without effects come last. -/
theorem then_silent (first : Acts R s t effects) (second : Acts R t u []) : Acts R s u effects := by
  have both := first.trans second
  rwa [List.append_nil] at both

/-- What every act keeps of the state and of the effects so far. -/
theorem history {P : List ω → σ → Prop} (kept : ∀ past s t effects, R s t effects → P past s →
      P (past ++ effects) t)
    (acts : Acts R s t effects) {past : List ω} (holds : P past s) : P (past ++ effects) t := by
  induction acts generalizing past with
  | nil =>
    rw [List.append_nil]
    exact holds
  | cons act _ ih =>
    rw [← List.append_assoc]
    exact ih (kept _ _ _ _ act holds)

end Acts

/-! ## Exactly when the effects stand as they must -/

section Follows

variable {R : List ω → ω → Prop} {past : List ω} {effect : ω} {ok : σ → ε → Prop}

theorem follows_concat : Follows R (past ++ [effect]) ↔ Follows R past ∧ R past effect := by
  constructor
  · intro follows
    refine ⟨fun before earlier after same => ?_, follows past effect [] rfl⟩
    apply follows before earlier (after ++ [effect])
    simp [same]
  · rintro ⟨follows, new⟩
    apply follows.append
    intro before other after same
    cases before with
    | nil =>
      obtain ⟨rfl, -⟩ : other = effect ∧ after = [] := by simpa [eq_comm] using same
      rwa [List.append_nil]
    | cons => simp at same

/-- An effect that no rule is about. -/
theorem follows_free (free : ∀ past, R past effect) :
    Follows R (past ++ [effect]) ↔ Follows R past := by
  simp [follows_concat, free]

/-- If a step shows what it may exactly when its condition holds, then so does a run. -/
theorem follows_iff_always {P : List ω → σ → Prop}
    (kept : ∀ past s event, P past s → P (past ++ (step s event).2) (step s event).1)
    (exact' : ∀ past s event, P past s →
      (Follows R (past ++ (step s event).2) ↔ Follows R past ∧ ok s event))
    (start : P [] s) (events : List ε) :
    Follows R (shown step s events) ↔ Always step ok s events := by
  have along : ∀ (events : List ε) past s, P past s →
      (Follows R (past ++ shown step s events) ↔ Follows R past ∧ Always step ok s events) := by
    intro events
    induction events with
    | nil =>
      intro past s _
      simp [shown, Always]
    | cons event events ih =>
      intro past s holds
      rw [shown, ← List.append_assoc, ih _ _ (kept past s event holds), exact' past s event holds,
        Always, and_assoc]
  have whole := along events [] s start
  rw [List.nil_append] at whole
  rw [whole]
  exact ⟨And.right, fun always => ⟨follows_nil, always⟩⟩

end Follows

end Machine
