import Mathlib.Tactic

/-!
# Runs of a machine

A machine takes a step on every event and shows a list of effects.  `final` and `shown` are the
state and the effects of a whole run, `Always` says that every step of it meets a condition, and the
two invariant rules carry a property from one step to the run.
-/

namespace Machine

variable {σ ε ω : Type} (step : σ → ε → σ × List ω)

/-- The state after the events. -/
def final (s : σ) : List ε → σ
  | [] => s
  | event :: events => final (step s event).1 events

/-- The effects of the events, in order. -/
def shown (s : σ) : List ε → List ω
  | [] => []
  | event :: events => (step s event).2 ++ shown (step s event).1 events

/-- Every event meets the condition in the state it comes in. -/
def Always (ok : σ → ε → Prop) (s : σ) : List ε → Prop
  | [] => True
  | event :: events => ok s event ∧ Always ok (step s event).1 events

instance decidableAlways {ok : σ → ε → Prop} [∀ s event, Decidable (ok s event)] :
    ∀ (s : σ) (events : List ε), Decidable (Always step ok s events)
  | _, [] => instDecidableTrue
  | s, _ :: events => @instDecidableAnd _ _ _ (decidableAlways (step s _).1 events)

variable {step} {s : σ} {ok ok' : σ → ε → Prop}

theorem final_append (s : σ) (first second : List ε) :
    final step s (first ++ second) = final step (final step s first) second := by
  induction first generalizing s with
  | nil => rfl
  | cons event first ih => exact ih _

theorem shown_append (s : σ) (first second : List ε) :
    shown step s (first ++ second) = shown step s first ++
      shown step (final step s first) second := by
  induction first generalizing s with
  | nil => rfl
  | cons event first ih =>
    rw [List.cons_append, shown, ih, ← List.append_assoc]
    rfl

theorem always_append (s : σ) (first second : List ε) :
    Always step ok s (first ++ second) ↔
      Always step ok s first ∧ Always step ok (final step s first) second := by
  induction first generalizing s with
  | nil => exact ⟨fun holds => ⟨trivial, holds⟩, And.right⟩
  | cons event first ih =>
    rw [List.cons_append, Always, ih, ← and_assoc]
    rfl

theorem always_of_mem {events : List ε} (holds : ∀ event ∈ events, ∀ s, ok s event) :
    Always step ok s events := by
  induction events generalizing s with
  | nil => trivial
  | cons event events ih =>
    rw [List.forall_mem_cons] at holds
    exact ⟨holds.1 s, ih holds.2⟩

theorem always_of_forall (holds : ∀ s event, ok s event) (events : List ε) :
    Always step ok s events :=
  always_of_mem fun event _ s => holds s event

theorem Always.mono (weaker : ∀ s event, ok s event → ok' s event) {events : List ε}
    (always : Always step ok s events) : Always step ok' s events := by
  induction events generalizing s with
  | nil => trivial
  | cons event events ih => exact ⟨weaker _ _ always.1, ih always.2⟩

theorem Always.and {events : List ε} (always : Always step ok s events)
    (always' : Always step ok' s events) :
    Always step (fun s event => ok s event ∧ ok' s event) s events := by
  induction events generalizing s with
  | nil => trivial
  | cons event events ih => exact ⟨⟨always.1, always'.1⟩, ih always.2 always'.2⟩

/-- What every step keeps holds after the run. -/
theorem Always.invariant {P : σ → Prop}
    (kept : ∀ s event, ok s event → P s → P (step s event).1) {events : List ε}
    (always : Always step ok s events) (start : P s) : P (final step s events) := by
  induction events generalizing s with
  | nil => exact start
  | cons event events ih => exact ih always.2 (kept s event always.1 start)

/-- What every step keeps holds at every step. -/
theorem Always.along {P : σ → Prop} (kept : ∀ s event, ok s event → P s → P (step s event).1)
    {events : List ε} (always : Always step ok s events) (start : P s) :
    Always step (fun s event => P s ∧ ok s event) s events := by
  induction events generalizing s with
  | nil => trivial
  | cons event events ih => exact ⟨⟨start, always.1⟩, ih always.2 (kept s event always.1 start)⟩

/-- What every step keeps of the state and of the effects so far holds after the run. -/
theorem Always.history {P : List ω → σ → Prop}
    (kept : ∀ past s event, ok s event → P past s → P (past ++ (step s event).2) (step s event).1)
    {events : List ε} (always : Always step ok s events) (start : P [] s) :
    P (shown step s events) (final step s events) := by
  have along : ∀ past s, Always step ok s events → P past s →
      P (past ++ shown step s events) (final step s events) := by
    clear start always
    induction events with
    | nil =>
      intro past s _ holds
      rw [shown, List.append_nil]
      exact holds
    | cons event events ih =>
      intro past s always holds
      rw [shown, ← List.append_assoc]
      exact ih _ _ always.2 (kept past s event always.1 holds)
  exact along [] s always start

/-- An invariant of every step, whatever the event. -/
theorem invariant {P : σ → Prop} (kept : ∀ s event, P s → P (step s event).1)
    (events : List ε) (start : P s) : P (final step s events) := by
  have always : Always step (fun _ _ => True) s events :=
    always_of_forall (fun _ _ => trivial) events
  exact always.invariant (fun s event _ => kept s event) start

/-! ## What comes before an effect -/

section Follows

variable {R : List ω → ω → Prop} {past effects : List ω}

/-- Every effect stands as it must to those before it. -/
def Follows (R : List ω → ω → Prop) (past : List ω) : Prop :=
  ∀ before effect after, past = before ++ effect :: after → R before effect

theorem follows_nil : Follows R [] := by
  intro before effect after same
  simp at same

theorem Follows.append (follows : Follows R past)
    (new : ∀ before effect after, effects = before ++ effect :: after → R (past ++ before) effect) :
    Follows R (past ++ effects) := by
  intro before effect after same
  obtain ⟨between, rfl, rest⟩ | ⟨between, old, rest⟩ := List.append_eq_append_iff.1 same
  · exact new between effect after rest
  · cases between with
    | nil =>
      rw [List.append_nil] at old
      subst old
      have begins := new [] effect after rest.symm
      rwa [List.append_nil] at begins
    | cons first between =>
      cases rest
      exact follows before _ between old

end Follows

/-! ## Reading a run -/

section Reading

variable {τ : Type} (read : σ → ε → List τ)

variable (step) in
/-- What is read off each event of a run and the state it comes in. -/
def readings (s : σ) : List ε → List τ
  | [] => []
  | event :: events => read s event ++ readings (step s event).1 events

variable {read}

theorem filterMap_shown {f : ω → Option τ}
    (same : ∀ s event, (step s event).2.filterMap f = read s event) (s : σ) (events : List ε) :
    (shown step s events).filterMap f = readings step read s events := by
  induction events generalizing s with
  | nil => rfl
  | cons event events ih => rw [shown, List.filterMap_append, ih, same, readings]

/-- What is read of one kind waits among what is stored until it is read of the other. -/
theorem readings_queue {P : σ → Prop} {stored : σ → List τ} {enters leaves : σ → ε → List τ}
    (kept : ∀ s event, P s → P (step s event).1)
    (balance : ∀ s event, P s → leaves s event ++ stored (step s event).1 =
      stored s ++ enters s event)
    {s : σ} (start : P s) (events : List ε) :
    readings step leaves s events ++ stored (final step s events) =
      stored s ++ readings step enters s events := by
  induction events generalizing s with
  | nil => exact (List.append_nil _).symm
  | cons event events ih =>
    rw [readings, readings, final, List.append_assoc, ih (kept s event start), ← List.append_assoc,
      balance s event start, List.append_assoc]

end Reading

/-! ## Watching a run -/

variable {τ : Type} (note : τ → ω → τ)

/-- The machine beside a record of the effects it has shown. -/
def watched (step : σ → ε → σ × List ω) (s : σ × τ) (event : ε) : (σ × τ) × List ω :=
  (((step s.1 event).1, (step s.1 event).2.foldl note s.2), (step s.1 event).2)

theorem final_watched (s : σ) (t : τ) (events : List ε) :
    final (watched note step) (s, t) events =
      (final step s events, (shown step s events).foldl note t) := by
  induction events generalizing s t with
  | nil => rfl
  | cons event events ih =>
    rw [final, shown, List.foldl_append]
    exact ih _ _

theorem shown_watched (s : σ) (t : τ) (events : List ε) :
    shown (watched note step) (s, t) events = shown step s events := by
  induction events generalizing s t with
  | nil => rfl
  | cons event events ih =>
    rw [shown, shown]
    exact congrArg _ (ih _ _)

end Machine
