import Mathlib.Data.Nat.Bitwise
import Mathlib.Tactic

/-!
# Bit fields of naturals

Machine words are naturals, and their fields are cut out and put together with `&&&`, `|||`, `>>>`
and `<<<`.  The lemmas here turn each of these idioms into arithmetic, where `omega` takes over.
-/

namespace BitField

/-- A mask of `n` low bits is a remainder. -/
theorem and_low_mask (x n : ℕ) : x &&& (2 ^ n - 1) = x % 2 ^ n :=
  Nat.and_two_pow_sub_one_eq_mod x n

/-- Joining a low field with a shifted one adds them. -/
theorem or_shiftLeft {w k : ℕ} (small : w < 2 ^ k) (x : ℕ) : w ||| x <<< k = w + x * 2 ^ k := by
  rw [Nat.shiftLeft_eq, Nat.lor_comm, Nat.mul_comm, ← Nat.two_pow_add_eq_or_of_lt small,
    Nat.add_comm]

/-- A word below `2 ^ n` with a window of bits masked out keeps the bits on either side. -/
theorem and_clear_window {w lo hi n mask : ℕ} (small : w < 2 ^ n) (low : lo ≤ hi) (high : hi ≤ n)
    (shape : mask = (2 ^ lo - 1) ||| (2 ^ (n - hi) - 1) <<< hi) :
    w &&& mask = w % 2 ^ lo + w / 2 ^ hi * 2 ^ hi := by
  have lowBits : w % 2 ^ lo < 2 ^ hi :=
    (Nat.mod_lt _ (by positivity)).trans_le (Nat.pow_le_pow_right (by decide) low)
  rw [← or_shiftLeft lowBits, shape]
  apply Nat.eq_of_testBit_eq
  intro i
  simp only [Nat.testBit_and, Nat.testBit_or, Nat.testBit_two_pow_sub_one, Nat.testBit_shiftLeft,
    Nat.testBit_mod_two_pow, Nat.testBit_div_two_pow]
  by_cases below : i < lo
  · simp [below, show ¬ hi ≤ i by omega]
  by_cases above : hi ≤ i
  · by_cases inside : i < n
    · simp [below, above, show i - hi < n - hi by omega, Nat.sub_add_cancel above]
    · have zero : w.testBit i = false :=
        Nat.testBit_lt_two_pow (small.trans_le (Nat.pow_le_pow_right (by decide) (by omega)))
      simp [below, zero, Nat.sub_add_cancel above]
  · simp [below, above]

/-- Putting a bit into a byte-sized word and reading a bit back. -/
theorem testBit_or_bit (x i j : ℕ) : (x ||| 1 <<< i).testBit j =
    (decide (i = j) || x.testBit j) := by
  rw [Nat.testBit_or, Nat.one_shiftLeft, Nat.testBit_two_pow, Bool.or_comm]

end BitField
