import CapnpDeno.Lib.StackFunction
import Mathlib.Order.Filter.AtTopBot.Basic
import Mathlib.Data.Set.Finite.List

/-!
# Calls in order

A computation that makes nested calls one after the other, where the next call is made unless one
has failed, has a script: its calls, in their order, and the error that it may raise itself after
these.  A recursive function with such scripts, which may call other functions as well, exhausts a
call stack exactly where a chain of calls is as long as the stack.
-/

open Filter

variable {α β γ δ κ ε : Type}

/-- The error of a computation. -/
def errorOf : Except ε β → Option ε
  | .error e => some e
  | .ok _ => none

theorem errorOf_eq_some {x : Except ε β} {e : ε} : errorOf x = some e ↔ x = .error e := by
  cases x with
  | error e' => simp [errorOf]
  | ok b => simp [errorOf]

theorem errorOf_eq_none {x : Except ε β} : errorOf x = none ↔ ∃ b, x = .ok b := by
  cases x with
  | error e => simp [errorOf]
  | ok b => simp [errorOf]

/-- A second step whose error does not depend on the result of the first. -/
theorem errorOf_bind {x : Except ε β} {f : β → Except ε γ} {o : Option ε}
    (same : ∀ b, x = .ok b → errorOf (f b) = o) :
    errorOf (x >>= f) = (errorOf x).or o := by
  cases x with
  | error e => rfl
  | ok b => exact same b rfl

theorem errorOf_map (f : β → γ) (x : Except ε β) : errorOf (f <$> x) = errorOf x := by
  cases x with
  | error e => rfl
  | ok b => rfl

/-! ## Computations without an error -/

/-- The computation does not raise the error. -/
def Avoids (e : ε) (x : Except ε β) : Prop := x ≠ .error e

section Avoids

variable {e : ε}

theorem avoids_iff {x : Except ε β} : Avoids e x ↔ errorOf x ≠ some e :=
  not_congr errorOf_eq_some.symm

@[simp] theorem avoids_ok (b : β) : Avoids e (.ok b : Except ε β) := nofun

@[simp] theorem avoids_pure (b : β) : Avoids e (pure b : Except ε β) := nofun

@[simp] theorem avoids_error {e' : ε} : Avoids e (.error e' : Except ε β) ↔ e' ≠ e :=
  not_congr ⟨Except.error.inj, congrArg _⟩

@[simp] theorem avoids_map {f : β → γ} {x : Except ε β} : Avoids e (f <$> x) ↔ Avoids e x :=
  not_congr Fallible.map_eq_error

theorem Avoids.bind {x : Except ε β} {f : β → Except ε γ} (first : Avoids e x)
    (second : ∀ b, Avoids e (f b)) :
    Avoids e (x >>= f) := by
  intro raised
  obtain here | ⟨b, -, later⟩ := Fallible.bind_eq_error.mp raised
  · exact first here
  · exact second b later

theorem Avoids.ite {p : Prop} [Decidable p] {x y : Except ε β} (yes : Avoids e x)
    (no : Avoids e y) :
    Avoids e (if p then x else y) := by
  split_ifs
  · exact yes
  · exact no

theorem Avoids.foldlM {f : γ → β → Except ε γ} {l : List β} (each : ∀ c b, Avoids e (f c b))
    (c : γ) :
    Avoids e (l.foldlM f c) := by
  intro raised
  obtain ⟨c', b, -, bad⟩ := Fallible.foldlM_eq_error raised
  exact each c' b bad

end Avoids

/-- The calls of a computation, and its own error after these. -/
structure CallScript (α ε : Type) where
  calls : List α
  failure : Option ε

namespace CallScript

/-! ## Scripts -/

/-- The error of a run, where `call` are the errors of the calls. -/
def run (call : α → Option ε) (script : CallScript α ε) : Option ε :=
  (script.calls.findSome? call).or script.failure

def done : CallScript α ε := ⟨[], none⟩

/-- A single call. -/
def one (a : α) : CallScript α ε := ⟨[a], none⟩

/-- A computation without calls. -/
def ofResult (x : Except ε β) : CallScript α ε := ⟨[], errorOf x⟩

/-- What comes after a computation without calls. -/
def after (x : Except ε β) (next : β → CallScript α ε) : CallScript α ε :=
  match x with
  | .error e => ⟨[], some e⟩
  | .ok b => next b

/-- One script after the other. -/
def andThen (script next : CallScript α ε) : CallScript α ε :=
  match script.failure with
  | some e => ⟨script.calls, some e⟩
  | none => ⟨script.calls ++ next.calls, next.failure⟩

/-- A loop. -/
def all (l : List γ) (script : γ → CallScript α ε) : CallScript α ε :=
  l.foldr (fun c rest => (script c).andThen rest) done

section Rules

variable {call : α → Option ε}

theorem run_one (a : α) : (one a).run call = call a := by
  cases result : call a with
  | none => simp [run, one, result]
  | some e => simp [run, one, result]

theorem run_ofResult (x : Except ε γ) : (ofResult x : CallScript α ε).run call = errorOf x := rfl

theorem run_after {x : Except ε γ} {next : γ → CallScript α ε} {f : γ → Except ε δ}
    (same : ∀ c, x = .ok c → errorOf (f c) = (next c).run call) :
    errorOf (x >>= f) = (after x next).run call := by
  cases x with
  | error e => rfl
  | ok c => exact same c rfl

theorem run_andThen (script next : CallScript α ε) :
    (script.andThen next).run call = (script.run call).or (next.run call) := by
  obtain ⟨calls, failure⟩ := script
  cases failure with
  | none =>
    simp only [run, andThen, List.findSome?_append, Option.or_none, Option.or_assoc]
  | some e =>
    simp only [run, andThen]
    cases calls.findSome? call with
    | none => rfl
    | some e => rfl

theorem run_all_foldlM {l : List γ} {f : δ → γ → Except ε δ} {script : γ → CallScript α ε}
    (same : ∀ d, ∀ c ∈ l, errorOf (f d c) = (script c).run call) (d : δ) :
    errorOf (l.foldlM f d) = (all l script).run call := by
  induction l generalizing d with
  | nil => rfl
  | cons c l ih =>
    rw [List.foldlM_cons, all, List.foldr_cons, run_andThen, ← same d c List.mem_cons_self]
    exact errorOf_bind fun d' _ => ih (fun d c mem => same d c (List.mem_cons_of_mem _ mem)) d'

theorem run_all_mapM {l : List γ} {f : γ → Except ε δ} {script : γ → CallScript α ε}
    (same : ∀ c ∈ l, errorOf (f c) = (script c).run call) :
    errorOf (l.mapM f) = (all l script).run call := by
  induction l with
  | nil => rfl
  | cons c l ih =>
    rw [List.mapM_cons, all, List.foldr_cons, run_andThen, ← same c List.mem_cons_self]
    apply errorOf_bind
    intro d _
    rw [errorOf_bind (o := none) (fun _ _ => rfl), Option.or_none]
    exact ih fun c mem => same c (List.mem_cons_of_mem _ mem)

end Rules

/-! ## The calls of a script -/

section Calls

variable {a : α}

theorem mem_calls_after {x : Except ε β} {next : β → CallScript α ε}
    (mem : a ∈ (after x next).calls) :
    ∃ b, x = .ok b ∧ a ∈ (next b).calls := by
  cases x with
  | error e => cases mem
  | ok b => exact ⟨b, rfl, mem⟩

theorem mem_calls_andThen {script next : CallScript α ε} (mem : a ∈ (script.andThen next).calls) :
    a ∈ script.calls ∨ a ∈ next.calls := by
  obtain ⟨calls, failure⟩ := script
  cases failure with
  | none => exact List.mem_append.mp mem
  | some e => exact .inl mem

theorem mem_calls_all {l : List γ} {script : γ → CallScript α ε} (mem : a ∈ (all l script).calls) :
    ∃ c ∈ l, a ∈ (script c).calls := by
  induction l with
  | nil => cases mem
  | cons c l ih =>
    obtain here | later := mem_calls_andThen mem
    · exact ⟨c, List.mem_cons_self, here⟩
    · obtain ⟨c', inside, there⟩ := ih later
      exact ⟨c', List.mem_cons_of_mem c inside, there⟩

end Calls

/-! ## Errors of their own -/

section Own

variable {e : ε}

theorem own_ofResult {x : Except ε β} (avoids : Avoids e x) :
    (ofResult x : CallScript α ε).failure ≠ some e :=
  avoids_iff.mp avoids

theorem own_after {x : Except ε β} {next : β → CallScript α ε} (avoids : Avoids e x)
    (later : ∀ b, (next b).failure ≠ some e) : (after x next).failure ≠ some e := by
  cases x with
  | error e' =>
    rintro same
    cases same
    exact avoids rfl
  | ok b => exact later b

theorem own_andThen {script next : CallScript α ε} (first : script.failure ≠ some e)
    (second : next.failure ≠ some e) :
    (script.andThen next).failure ≠ some e := by
  obtain ⟨calls, failure⟩ := script
  cases failure with
  | none => exact second
  | some e' => exact first

theorem own_all {l : List γ} {script : γ → CallScript α ε}
    (each : ∀ c, (script c).failure ≠ some e) :
    (all l script).failure ≠ some e := by
  induction l with
  | nil => exact nofun
  | cons c l ih => exact own_andThen (each c) ih

end Own

/-! ## Recursion -/

section Recursion

variable {overflow : ε} (F : α → StackFunction overflow β) (outside : κ → StackFunction overflow γ)
  (script : α → CallScript (α ⊕ κ) ε)

/-- The error of a call, of the function itself or of one outside. -/
def callError (stack : ℕ) : α ⊕ κ → Option ε
  | .inl a => errorOf ((F a).call stack)
  | .inr k => errorOf ((outside k).call stack)

/-- Each argument has its script. -/
structure Scripted : Prop where
  step : ∀ n a, errorOf ((F a).call (n + 1)) = (script a).run (callError F outside n)
  own : ∀ a, (script a).failure ≠ some overflow

/-- The calls that a call leads to are finitely many, none has an error of its own, and those
outside return. -/
inductive Clean : α ⊕ κ → Prop
  | inside {a : α} (fine : (script a).failure = none) (calls : ∀ c ∈ (script a).calls, Clean c) :
    Clean (.inl a)
  | outside {k : κ} {stack : ℕ} {b : γ} (returns : (outside k).call stack = .ok b) : Clean (.inr k)

/-- The argument makes the call, after calls that return. -/
def Descends (a : α) (c : α ⊕ κ) : Prop :=
  ∃ before after, (script a).calls = before ++ c :: after ∧ ∀ c' ∈ before, Clean outside script c'

/-- A chain of calls, which a call outside ends if it exhausts the rest. -/
def Chain : ℕ → α ⊕ κ → Prop
  | 0, _ => True
  | n + 1, .inl a => ∃ c, Descends outside script a c ∧ Chain n c
  | n + 1, .inr k => (outside k).call (n + 1) = .error overflow

/-- A chain of calls, whatever is called before. -/
def Deep : ℕ → α ⊕ κ → Prop
  | 0, _ => True
  | n + 1, .inl a => ∃ c ∈ (script a).calls, Deep n c
  | n + 1, .inr k => (outside k).call (n + 1) = .error overflow

variable {F outside script} {a : α} {c : α ⊕ κ} {n : ℕ}

theorem Chain.deep (chain : Chain outside script n c) : Deep outside script n c := by
  induction n generalizing c with
  | zero => trivial
  | succ n ih =>
    cases c with
    | inl a =>
      obtain ⟨c, ⟨before, after, all, -⟩, chain⟩ := chain
      exact ⟨c, by simp [all], ih chain⟩
    | inr k => exact chain

namespace Scripted

theorem clean_of_returns (h : Scripted F outside script) (fine : callError F outside n c = none) :
    Clean outside script c := by
  induction n generalizing c with
  | zero =>
    cases c with
    | inl a =>
      rw [callError, (F a).exhausted] at fine
      cases fine
    | inr k =>
      rw [callError, (outside k).exhausted] at fine
      cases fine
  | succ n ih =>
    cases c with
    | inl a =>
      rw [callError, h.step, run, Option.or_eq_none_iff, List.findSome?_eq_none_iff] at fine
      exact .inside fine.2 fun c mem => ih (fine.1 c mem)
    | inr k =>
      obtain ⟨b, returned⟩ := errorOf_eq_none.mp fine
      exact .outside returned

/-- A call that leads to calls that all return fails for want of stack only. -/
theorem overflow_of_clean (h : Scripted F outside script) (clean : Clean outside script c) {e : ε}
    (failed : callError F outside n c = some e) : e = overflow := by
  induction n generalizing c e with
  | zero =>
    cases c with
    | inl a =>
      rw [callError, (F a).exhausted] at failed
      cases failed
      rfl
    | inr k =>
      rw [callError, (outside k).exhausted] at failed
      cases failed
      rfl
  | succ n ih =>
    cases clean with
    | inside fine calls =>
      rw [callError, h.step, run, fine, Option.or_none, List.findSome?_eq_some_iff] at failed
      obtain ⟨before, c, after, all, bad, -⟩ := failed
      exact ih (calls c (by simp [all])) bad
    | outside returns => exact (outside _).overflow_of_ok returns (errorOf_eq_some.mp failed)

/-- The stack is exhausted exactly where a chain of calls is as long. -/
theorem overflows_iff (h : Scripted F outside script) :
    callError F outside n c = some overflow ↔ Chain outside script n c := by
  induction n generalizing c with
  | zero =>
    refine ⟨fun _ => trivial, fun _ => ?_⟩
    cases c with
    | inl a => rw [callError, (F a).exhausted, errorOf]
    | inr k => rw [callError, (outside k).exhausted, errorOf]
  | succ n ih =>
    cases c with
    | inr k => exact errorOf_eq_some
    | inl a =>
      rw [callError, h.step, run]
      constructor
      · intro overflows
        rcases Option.or_eq_some_iff.mp overflows with nested | ⟨-, own⟩
        · obtain ⟨before, c, after, all, deep, fine⟩ := List.findSome?_eq_some_iff.mp nested
          exact ⟨c, ⟨before, after, all, fun c' mem => h.clean_of_returns (fine c' mem)⟩,
            ih.mp deep⟩
        · exact absurd own (h.own a)
      · rintro ⟨c, ⟨before, after, all, clean⟩, deep⟩
        -- the first call that fails is one of the clean ones, or that of the chain
        rw [all, List.findSome?_append, List.findSome?_cons, ih.mpr deep]
        cases first : before.findSome? (callError F outside n) with
        | none => rfl
        | some e =>
          obtain ⟨before', c', after', split, bad, -⟩ := List.findSome?_eq_some_iff.mp first
          rw [h.overflow_of_clean (clean c' (by simp [split])) bad]
          rfl

/-- What holds of the error of each call on the stacks that are deep enough. -/
theorem eventually_step (h : Scripted F outside script) {p : Option ε → Prop}
    (each : ∀ c ∈ (script a).calls, ∀ᶠ n in atTop, p (callError F outside n c)) :
    ∀ᶠ n in atTop, ∃ n', errorOf ((F a).call n) = (script a).run (callError F outside n') ∧
      ∀ c ∈ (script a).calls, p (callError F outside n' c) := by
  have all := (eventually_all_finite (List.finite_toSet (script a).calls)).2 each
  rw [← map_add_atTop_eq_nat 1, eventually_map]
  exact all.mono fun n each => ⟨n, h.step n a, each⟩

/-- A call that leads to calls that all return does so itself, on every stack that is deep
enough. -/
theorem returns_of_clean (h : Scripted F outside script) (clean : Clean outside script c) :
    ∀ᶠ n in atTop, callError F outside n c = none := by
  induction clean with
  | @outside k stack b returns =>
    filter_upwards [eventually_ge_atTop stack] with n deep
    exact errorOf_eq_none.mpr ⟨b, (outside k).ok_of_le deep returns⟩
  | @inside a fine calls ih =>
    filter_upwards [h.eventually_step (p := (· = none)) ih] with n ⟨n', same, each⟩
    rw [callError, same, run, fine, Option.or_none, List.findSome?_eq_none_iff]
    exact each

/-- A call that leads to finitely many, of which those outside return, does not exhaust a stack that
is deep enough. -/
theorem bounded_of_acc (h : Scripted F outside script) {p : α → Prop}
    (closed : ∀ a, p a → ∀ b, .inl b ∈ (script a).calls → p b)
    (returns : ∀ a, p a → ∀ k, .inr k ∈ (script a).calls → ∃ n b, (outside k).call n = .ok b)
    (grounded : Acc (fun b a => .inl b ∈ (script a).calls) a) (start : p a) :
    ∀ᶠ n in atTop, (F a).call n ≠ .error overflow := by
  induction grounded with
  | intro a _ ih =>
    have each : ∀ c ∈ (script a).calls, ∀ᶠ n in atTop, callError F outside n c ≠ some overflow := by
      intro c mem
      cases c with
      | inl b =>
        filter_upwards [ih b mem (closed a start b mem)] with n fine
        exact fun raised => fine (errorOf_eq_some.mp raised)
      | inr k =>
        obtain ⟨n, b, returned⟩ := returns a start k mem
        filter_upwards [h.returns_of_clean (.outside returned)] with m fine
        simp [fine]
    filter_upwards [h.eventually_step (p := (· ≠ some overflow)) each] with n ⟨n', same, each⟩
    intro overflows
    rw [errorOf_eq_some.mpr overflows, run, eq_comm, Option.or_eq_some_iff] at same
    rcases same with nested | ⟨-, own⟩
    · obtain ⟨before, c, after, all, deep, -⟩ := List.findSome?_eq_some_iff.mp nested
      exact each c (by simp [all]) deep
    · exact h.own a own

end Scripted

end Recursion

end CallScript
