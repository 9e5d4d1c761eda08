import CapnpDeno.Lib.CallStack
import Mathlib.Data.Fintype.Card

/-!
# Cycles of calls

Where an argument leads to finitely many others, its call tree is well-founded exactly if none of
these comes back to itself.
-/

variable {α : Type} {calls : α → List α} {a b : α}

/-- The first argument leads to the second. -/
abbrev LeadsTo (calls : α → List α) : α → α → Prop := Relation.ReflTransGen fun a b => b ∈ calls a

/-- The argument comes back to itself. -/
def OnCycle (calls : α → List α) (a : α) : Prop := Relation.TransGen (fun a b => b ∈ calls a) a a

theorem not_onCycle_of_acc (grounded : Acc (CalledBy calls) a) : ¬ OnCycle calls a := by
  induction grounded with
  | intro a _ ih =>
    intro cycle
    obtain ⟨b, called, back⟩ := Relation.TransGen.head'_iff.1 cycle
    have again : OnCycle calls b := Relation.TransGen.tail' back called
    exact ih b called again

theorem acc_of_leadsTo (grounded : Acc (CalledBy calls) a) (leads : LeadsTo calls a b) :
    Acc (CalledBy calls) b := by
  induction leads with
  | refl => exact grounded
  | tail _ called ih => exact ih.inv called

/-- Among finitely many arguments, only cycles go on forever. -/
theorem acc_iff_acyclic (finite : {b | LeadsTo calls a b}.Finite) :
    Acc (CalledBy calls) a ↔ ∀ b, LeadsTo calls a b → ¬ OnCycle calls b := by
  constructor
  · exact fun grounded b leads => not_onCycle_of_acc (acc_of_leadsTo grounded leads)
  · intro acyclic
    have : Finite {b | LeadsTo calls a b} := finite
    -- of two arguments that `a` leads to, the later one comes first
    let later (b c : {b | LeadsTo calls a b}) : Prop :=
      Relation.TransGen (fun a b => b ∈ calls a) c.1 b.1
    have : IsTrans _ later := ⟨fun _ _ _ first second => second.trans first⟩
    have : Std.Irrefl later := ⟨fun b cycle => acyclic b.1 b.2 cycle⟩
    have founded : WellFounded later := Finite.wellFounded_of_trans_of_irrefl later
    have along : ∀ b : {b | LeadsTo calls a b}, Acc (CalledBy calls) b.1 := by
      intro b
      induction b using founded.induction with
      | _ b ih =>
        refine ⟨b.1, fun c called => ?_⟩
        exact ih ⟨c, Relation.ReflTransGen.tail b.2 called⟩ (Relation.TransGen.single called)
    exact along ⟨a, .refl⟩

/-! ## Relations that agree where they lead -/

section Agree

variable {r r' : α → α → Prop} {p : α → Prop}

theorem transGen_mono_on (closed : ∀ a b, p a → r a b → p b) (same : ∀ a b, p a → r a b → r' a b)
    (start : p a) (leads : Relation.TransGen r a b) : p b ∧ Relation.TransGen r' a b := by
  induction leads with
  | single step => exact ⟨closed _ _ start step, .single (same _ _ start step)⟩
  | tail _ step ih => exact ⟨closed _ _ ih.1 step, ih.2.tail (same _ _ ih.1 step)⟩

/-- Two relations that agree on what either leads to from a start have the same paths from there. -/
theorem transGen_iff_on (closed : ∀ a b, p a → r a b → p b) (same : ∀ a b, p a → (r a b ↔ r' a b))
    (start : p a) :
    Relation.TransGen r a b ↔ Relation.TransGen r' a b := by
  constructor
  · exact fun leads =>
      (transGen_mono_on closed (fun a b inside => (same a b inside).1) start leads).2
  · exact fun leads =>
      (transGen_mono_on (fun a b inside step => closed a b inside ((same a b inside).2 step))
      (fun a b inside => (same a b inside).2) start leads).2

theorem reflTransGen_iff_on (closed : ∀ a b, p a → r a b → p b)
    (same : ∀ a b, p a → (r a b ↔ r' a b)) (start : p a) :
    Relation.ReflTransGen r a b ↔ Relation.ReflTransGen r' a b := by
  rw [Relation.reflTransGen_iff_eq_or_transGen, Relation.reflTransGen_iff_eq_or_transGen,
    transGen_iff_on closed same start]

end Agree
