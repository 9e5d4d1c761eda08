import CapnpDeno.Lib.ByteList

/-!
# The bits of a byte list

A byte list is also a stream of bits, bit `k` being bit `k % 8` of byte `k / 8`.  A little-endian
field is a window of the stream, whatever its width, so that what a write does to one bit can be
said without its field.
-/

namespace ByteList

/-- Bit `k` of an image; there are none behind its end. -/
def bitAt (m : Bytes) (k : ℕ) : Bool := (m[k / 8]?.getD 0).toNat.testBit (k % 8)

theorem bitAt_congr {m m' : Bytes} {k : ℕ} (same : m[k / 8]? = m'[k / 8]?) :
    bitAt m k = bitAt m' k := by
  rw [bitAt, bitAt, same]

theorem bitAt_cons (x : UInt8) (m : Bytes) (k : ℕ) :
    bitAt (x :: m) k = if k < 8 then x.toNat.testBit k else bitAt m (k - 8) := by
  unfold bitAt
  split_ifs with first
  · rw [Nat.div_eq_of_lt first, Nat.mod_eq_of_lt first]
    rfl
  · have byte : k / 8 = (k - 8) / 8 + 1 := by omega
    have bit : k % 8 = (k - 8) % 8 := by omega
    rw [byte, bit, List.getElem?_cons_succ]

theorem testBit_ofLE (m : Bytes) (k : ℕ) : (ofLE m).testBit k = bitAt m k := by
  induction m generalizing k with
  | nil =>
    rw [ofLE, Nat.zero_testBit]
    exact (Nat.zero_testBit _).symm
  | cons x m ih =>
    rw [bitAt_cons, ofLE, Nat.add_comm, show (256 : ℕ) = 2 ^ 8 from rfl,
      Nat.testBit_two_pow_mul_add _ x.toNat_lt, ih]

theorem bitAt_toLE (w n k : ℕ) : bitAt (toLE w n) k = (decide (k < 8 * w) && n.testBit k) := by
  rw [← testBit_ofLE, ofLE_toLE, show (256 : ℕ) = 2 ^ 8 from rfl, ← Nat.pow_mul,
    Nat.testBit_mod_two_pow]

theorem bitAt_slice (m : Bytes) (off w k : ℕ) :
    bitAt (slice m off w) k = (decide (k < 8 * w) && bitAt m (8 * off + k)) := by
  unfold bitAt
  rw [getElem?_slice]
  by_cases inside : k < 8 * w
  · have byte : (8 * off + k) / 8 = off + k / 8 := by omega
    have bit : (8 * off + k) % 8 = k % 8 := by omega
    rw [if_pos (by omega), byte, bit, decide_eq_true inside, Bool.true_and]
  · rw [if_neg (by omega), decide_eq_false inside, Bool.false_and]
    exact Nat.zero_testBit _

theorem testBit_readLE (m : Bytes) (off w k : ℕ) :
    (readLE m off w).testBit k = (decide (k < 8 * w) && bitAt m (8 * off + k)) := by
  rw [readLE, testBit_ofLE, bitAt_slice]

/-- Writing a field sets the bits of its window and no others. -/
theorem bitAt_splice_toLE {m : Bytes} {off w : ℕ} (fits : off + w ≤ m.length) (n k : ℕ) :
    bitAt (splice m off (toLE w n)) k =
      if 8 * off ≤ k ∧ k < 8 * off + 8 * w then n.testBit (k - 8 * off) else bitAt m k := by
  have place := @getElem?_splice m (toLE w n) off (by rwa [length_toLE]) (k / 8)
  rw [length_toLE] at place
  split_ifs with inside
  · have written : bitAt (splice m off (toLE w n)) k = bitAt (toLE w n) (k - 8 * off) := by
      have byte : (k - 8 * off) / 8 = k / 8 - off := by omega
      have bit : (k - 8 * off) % 8 = k % 8 := by omega
      rw [bitAt, place, if_pos (by omega), bitAt, byte, bit]
    rw [written, bitAt_toLE, decide_eq_true (by omega), Bool.true_and]
  · apply bitAt_congr
    rw [place, if_neg (by omega)]

/-- Two images with the same bits in a window hold the same number there. -/
theorem readLE_eq_of_bitAt {m m' : Bytes} {off w n : ℕ} (small : n < 256 ^ w)
    (same : ∀ k, k < 8 * w → bitAt m' (8 * off + k) = (bitAt m (8 * off + k) ^^ n.testBit k)) :
    readLE m' off w = readLE m off w ^^^ n := by
  apply Nat.eq_of_testBit_eq
  intro k
  rw [Nat.testBit_xor, testBit_readLE, testBit_readLE]
  by_cases inside : k < 8 * w
  · rw [decide_eq_true inside, Bool.true_and, Bool.true_and, same k inside]
  · have high : n.testBit k = false := by
      apply Nat.testBit_lt_two_pow
      calc n < 256 ^ w := small
        _ = 2 ^ (8 * w) := by rw [show (256 : ℕ) = 2 ^ 8 from rfl, ← Nat.pow_mul]
        _ ≤ 2 ^ k := Nat.pow_le_pow_right (by decide) (not_lt.1 inside)
    rw [decide_eq_false inside, high]
    rfl

end ByteList
