import CapnpDeno.Lib.StackFunction
import Mathlib.Order.Filter.AtTopBot.Basic
import Mathlib.Data.Set.Finite.List
import Mathlib.Tactic

/-!
# Recursion on a limited call stack

A recursive function whose first argument is the stack that is left fails with `overflow` at zero.
`StackLimited` says how such a function depends on its nested calls; from it follows that the
function settles on a result of its own, for every stack that is deep enough, exactly where its call
tree is well-founded.
-/

open Filter

variable {α β E : Type} {F : ℕ → α → Except E β} {overflow : E} {calls : α → List α}
  {bad : α → Prop}

/-- `calls a` are the calls that `F` makes for `a`; all of them return when `F` does, their results
and nothing else depend on the stack, and an error that is not theirs comes from a bad argument. -/
structure StackLimited (F : ℕ → α → Except E β) (overflow : E) (calls : α → List α)
    (bad : α → Prop) : Prop where
  exhausted : ∀ a, F 0 a = .error overflow
  determined : ∀ m n a, (∀ b ∈ calls a, F m b = F n b) → F (m + 1) a = F (n + 1) a
  returns : ∀ n a r, F (n + 1) a = .ok r → ∀ b ∈ calls a, ∃ r', F n b = .ok r'
  fails : ∀ n a e, F (n + 1) a = .error e →
    e ≠ overflow ∧ bad a ∨ ∃ b ∈ calls a, F n b = .error e

/-- On every stack that is deep enough the result is the same, and no overflow. -/
def Settles (F : ℕ → α → Except E β) (overflow : E) (a : α) : Prop :=
  ∃ result, result ≠ .error overflow ∧ ∀ᶠ n in atTop, F n a = result

/-- A function that does not overflow on some stack does the same on every deeper one. -/
theorem StackFunction.eventually_eq {γ : Type} (f : StackFunction overflow γ) {n : ℕ}
    (fine : f.call n ≠ .error overflow) :
    ∀ᶠ m in atTop, f.call m = f.call n :=
  eventually_atTop.2 ⟨n, fun _ deep => ((f.mono deep).eq_of_ne fine).symm⟩

theorem StackFunction.eventually_ok {γ : Type} (f : StackFunction overflow γ) {n : ℕ} {c : γ}
    (done : f.call n = .ok c) :
    ∀ᶠ m in atTop, f.call m = .ok c :=
  eventually_atTop.2 ⟨n, fun _ deep => f.ok_of_le deep done⟩

/-- The first argument is called for the second. -/
def CalledBy (calls : α → List α) (b a : α) : Prop := b ∈ calls a

namespace StackLimited

variable {a : α}

theorem settles_of_acc (h : StackLimited F overflow calls bad) (grounded : Acc (CalledBy calls) a) :
    Settles F overflow a := by
  induction grounded with
  | intro a _ ih =>
    have each : ∀ b ∈ {b | b ∈ calls a}, ∀ᶠ n in atTop, F n b ≠ .error overflow ∧
        F n b = F (n + 1) b := by
      intro b mem
      obtain ⟨result, fine, settled⟩ := ih b mem
      filter_upwards [settled, (tendsto_add_atTop_nat 1).eventually settled] with n now next
      rw [now, next]
      exact ⟨fine, rfl⟩
    have all := (eventually_all_finite (List.finite_toSet (calls a))).2 each
    obtain ⟨n, steady⟩ := eventually_atTop.1 all
    refine ⟨F (n + 1) a, fun overflows => ?_, eventually_atTop.2 ⟨n + 1, fun m deep => ?_⟩⟩
    · obtain ⟨fine, -⟩ | ⟨b, mem, failed⟩ := h.fails n a overflow overflows
      · exact fine rfl
      · exact (steady n le_rfl b mem).1 failed
    · induction m, deep using Nat.le_induction with
      | base => rfl
      | succ m deep same =>
        obtain ⟨m, rfl⟩ := Nat.exists_eq_add_of_le' (show 1 ≤ m by omega)
        rw [← same]
        exact h.determined (m + 1) m a fun b mem => (steady m (by omega) b mem).2.symm

theorem acc_of_returns (h : StackLimited F overflow calls bad) {n : ℕ} {r : β}
    (returned : F n a = .ok r) : Acc (CalledBy calls) a := by
  induction n generalizing a r with
  | zero => cases (h.exhausted a).symm.trans returned
  | succ n ih =>
    refine ⟨a, fun b mem => ?_⟩
    obtain ⟨r', returned'⟩ := h.returns n a r returned b mem
    exact ih returned'

/-- Where no bad argument is met, only overflows are thrown. -/
theorem overflow_of_fails (h : StackLimited F overflow calls bad) {n : ℕ} {e : E}
    (good : ∀ b, Relation.ReflTransGen (fun a b => b ∈ calls a) a b → ¬ bad b)
    (failed : F n a = .error e) : e = overflow := by
  induction n generalizing a with
  | zero =>
    cases (h.exhausted a).symm.trans failed
    rfl
  | succ n ih =>
    obtain ⟨-, wrong⟩ | ⟨b, mem, failed⟩ := h.fails n a e failed
    · exact absurd wrong (good a .refl)
    · exact ih (fun c reach => good c (.head mem reach)) failed

/-- Where no bad argument is met, the function settles exactly if its call tree is well-founded. -/
theorem settles_iff_acc (h : StackLimited F overflow calls bad)
    (good : ∀ b, Relation.ReflTransGen (fun a b => b ∈ calls a) a b → ¬ bad b) :
    Settles F overflow a ↔ Acc (CalledBy calls) a := by
  refine ⟨fun ⟨result, fine, settled⟩ => ?_, h.settles_of_acc⟩
  obtain ⟨n, same⟩ := settled.exists
  cases result with
  | ok r => exact h.acc_of_returns same
  | error e => exact absurd (congrArg Except.error (h.overflow_of_fails good same)) fine

end StackLimited

/-- Well-foundedness of a call tree is seen in any image of it that keeps the calls. -/
theorem acc_map_iff {γ : Type} {calls' : γ → List γ} (f : α → γ)
    (same : ∀ a, (calls a).map f = calls' (f a)) {a : α} :
    Acc (CalledBy calls) a ↔ Acc (CalledBy calls') (f a) := by
  constructor
  · intro grounded
    induction grounded with
    | intro a _ ih =>
      refine ⟨f a, fun c mem => ?_⟩
      have image : c ∈ (calls a).map f := same a ▸ mem
      obtain ⟨b, called, rfl⟩ := List.mem_map.1 image
      exact ih b called
  · intro grounded
    refine Subrelation.accessible (fun {b a} called => ?_) (InvImage.accessible f grounded)
    show f b ∈ calls' (f a)
    rw [← same a]
    exact List.mem_map_of_mem called
