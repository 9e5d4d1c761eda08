import CapnpDeno.Lib.Fallible

/-!
# Functions on a call stack

A function that calls others is computed with the call stack that is left.  A deeper stack can only
replace an overflow by a result, so that a call that does not overflow gives the same on every
deeper stack.
-/

variable {α β γ ε : Type}

/-! ## Computations up to an overflow -/

/-- The first computation raises the error, or does what the second does. -/
def Approximates (e : ε) (x y : Except ε α) : Prop := x = .error e ∨ x = y

namespace Approximates

variable {e : ε} {x y z : Except ε α}

@[simp] theorem refl (x : Except ε α) : Approximates e x x := .inr rfl

theorem overflow (x : Except ε α) : Approximates e (.error e) x := .inl rfl

theorem trans (first : Approximates e x y) (second : Approximates e y z) : Approximates e x z := by
  obtain rfl | rfl := first
  · exact .overflow z
  · exact second

theorem eq_of_ne (h : Approximates e x y) (fine : x ≠ .error e) : x = y := h.resolve_left fine

theorem eq_of_ok (h : Approximates e x y) {a : α} (done : x = .ok a) : y = .ok a := by
  obtain rfl | rfl := h
  · cases done
  · exact done

theorem bind (h : Approximates e x y) {f g : α → Except ε β}
    (next : ∀ a, Approximates e (f a) (g a)) :
    Approximates e (x >>= f) (y >>= g) := by
  obtain rfl | rfl := h
  · exact .overflow _
  · cases x with
    | error e' => exact .refl _
    | ok a => exact next a

theorem map (h : Approximates e x y) (f : α → β) : Approximates e (f <$> x) (f <$> y) := by
  obtain rfl | rfl := h
  · exact .overflow _
  · exact .refl _

theorem ite {p : Prop} [Decidable p] {x' y' : Except ε α} (yes : Approximates e x y)
    (no : Approximates e x' y') :
    Approximates e (if p then x else x') (if p then y else y') := by
  split_ifs
  · exact yes
  · exact no

theorem mapM {f g : α → Except ε β} (each : ∀ a, Approximates e (f a) (g a)) (l : List α) :
    Approximates e (l.mapM f) (l.mapM g) := by
  induction l with
  | nil => exact .refl _
  | cons a l ih =>
    rw [List.mapM_cons, List.mapM_cons]
    exact (each a).bind fun b => ih.bind fun bs => .refl _

theorem foldlM {f g : β → α → Except ε β} (each : ∀ b a, Approximates e (f b a) (g b a))
    (l : List α) (b : β) :
    Approximates e (l.foldlM f b) (l.foldlM g b) := by
  induction l generalizing b with
  | nil => exact .refl _
  | cons a l ih =>
    rw [List.foldlM_cons, List.foldlM_cons]
    exact (each b a).bind ih

end Approximates

/-! ## Functions -/

/-- A function without arguments, by what a call gives on the stack that is left. -/
structure StackFunction (overflow : ε) (α : Type) where
  call : ℕ → Except ε α
  exhausted : call 0 = .error overflow
  deeper : ∀ stack, Approximates overflow (call stack) (call (stack + 1))

namespace StackFunction

variable {overflow : ε} (f : StackFunction overflow α) {m n : ℕ} {a : α}

/-- A function that returns a value without calls of its own. -/
def const (a : α) : StackFunction overflow α where
  call
    | 0 => .error overflow
    | _ + 1 => .ok a
  exhausted := rfl
  deeper
    | 0 => .overflow _
    | _ + 1 => .refl _

theorem mono (le : m ≤ n) : Approximates overflow (f.call m) (f.call n) := by
  induction n, le using Nat.le_induction with
  | base => exact .refl _
  | succ n _ ih => exact ih.trans (f.deeper n)

theorem ok_of_le (le : m ≤ n) (done : f.call m = .ok a) : f.call n = .ok a :=
  (f.mono le).eq_of_ok done

/-- A function that returns on some stack fails on others for want of stack only. -/
theorem overflow_of_ok (done : f.call m = .ok a) {e : ε} (failed : f.call n = .error e) :
    e = overflow := by
  rcases le_total m n with le | le
  · cases (f.ok_of_le le done).symm.trans failed
  · by_contra other
    have fine : f.call n ≠ .error overflow :=
      fun same => other (Except.error.inj (failed.symm.trans same))
    cases ((f.mono le).eq_of_ne fine).symm.trans failed |>.symm.trans done

end StackFunction
