import CapnpDeno.Encoding.RuntimeMessage
import CapnpDeno.Lib.BitField

/-!
# Pointer words

The fields of a pointer word as quotients and remainders, and the words the builder writes as sums.
-/

namespace CapnpDeno

open ByteList

/-! ## Cutting fields out -/

theorem and_kind (w : ℕ) : w &&& 0x3 = w % 4 := BitField.and_low_mask w 2

theorem shift_and {w k n mask : ℕ} (shape : mask = 2 ^ n - 1) :
    (w >>> k) &&& mask = w / 2 ^ k % 2 ^ n := by
  rw [shape, BitField.and_low_mask, Nat.shiftRight_eq_div_pow]

theorem and_offset (w : ℕ) : (w >>> 2) &&& MASK_30 = w / 4 % 2 ^ 30 := shift_and rfl

theorem and_low16 (w : ℕ) : (w >>> 32) &&& 0xffff = w / 2 ^ 32 % 2 ^ 16 := shift_and rfl

theorem and_high16 (w : ℕ) : (w >>> 48) &&& 0xffff = w / 2 ^ 48 % 2 ^ 16 := shift_and rfl

theorem and_elementSize (w : ℕ) : (w >>> 32) &&& 0x7 = w / 2 ^ 32 % 8 :=
  shift_and (show 0x7 = 2 ^ 3 - 1 from rfl)

theorem and_count (w : ℕ) : (w >>> 35) &&& 0x1fff_ffff = w / 2 ^ 35 % 2 ^ 29 := shift_and rfl

theorem and_landing (w : ℕ) : (w >>> 3) &&& MASK_29 = w / 8 % 2 ^ 29 := shift_and rfl

theorem and_segment (w : ℕ) : (w >>> 32) &&& 0xffff_ffff = w / 2 ^ 32 % 2 ^ 32 := shift_and rfl

/-- The two's complement reading of thirty bits. -/
theorem signed30_eq {v : ℕ} (small : v < 2 ^ 30) :
    signed30 v = if v < 2 ^ 29 then (v : ℤ) else (v : ℤ) - 2 ^ 30 := by
  have low : v &&& MASK_30 = v := by
    rw [show MASK_30 = 2 ^ 30 - 1 from rfl, BitField.and_low_mask, Nat.mod_eq_of_lt small]
  have sign : v &&& (1 <<< 29) ≠ 0 ↔ ¬ v < 2 ^ 29 := by
    rw [Nat.one_shiftLeft, Nat.and_two_pow]
    by_cases high : v.testBit 29
    · have := Nat.ge_two_pow_of_testBit high
      simp [high]
      omega
    · simp only [Bool.not_eq_true] at high
      simp only [high, Bool.toNat_false, Nat.zero_mul, ne_eq, not_true_eq_false, false_iff, not_not]
      rw [Nat.testBit_eq_decide_div_mod_eq] at high
      simp only [decide_eq_false_iff_not] at high
      omega
  unfold signed30
  simp only [low, sign, ite_not]
  rfl

/-! ## Putting words together -/

/-- The thirty-bit field of an offset. -/
def offsetField (offset : ℤ) : ℕ := (offset % 2 ^ 30).toNat

/-- The offsets a pointer can hold. -/
def OffsetFits (offset : ℤ) : Prop := -2 ^ 29 ≤ offset ∧ offset < 2 ^ 29

instance (offset : ℤ) : Decidable (OffsetFits offset) := inferInstanceAs (Decidable (_ ∧ _))

theorem offsetField_lt (offset : ℤ) : offsetField offset < 2 ^ 30 := by
  unfold offsetField
  omega

theorem signed30_offsetField {offset : ℤ} (fits : OffsetFits offset) :
    signed30 (offsetField offset) = offset := by
  obtain ⟨low, high⟩ := fits
  rw [signed30_eq (offsetField_lt offset)]
  unfold offsetField
  split_ifs <;> omega

theorem encodeSigned30_ok {offset : ℤ} (fits : OffsetFits offset) :
    encodeSigned30 offset = .ok (offsetField offset) := by
  obtain ⟨low, high⟩ := fits
  unfold encodeSigned30
  rw [if_neg (by rw [Nat.one_shiftLeft]; push_cast; omega), show MASK_30 = 2 ^ 30 - 1 from rfl,
    BitField.and_low_mask]
  congr 1
  unfold offsetField
  rw [Nat.one_shiftLeft]
  push_cast
  split_ifs <;> omega

theorem encodeSigned30_error {offset : ℤ} (outside : ¬ OffsetFits offset) :
    encodeSigned30 offset = .error (signed30RangeError offset) := by
  unfold OffsetFits at outside
  unfold encodeSigned30
  rw [if_pos (by rw [Nat.one_shiftLeft]; push_cast; omega)]
  rfl

/-- A struct pointer. -/
def structWord (offset : ℤ) (dataWordCount pointerCount : ℕ) : ℕ :=
  offsetField offset * 4 + dataWordCount * 2 ^ 32 + pointerCount * 2 ^ 48

/-- A list pointer. -/
def listWord (offset : ℤ) (elementSize count : ℕ) : ℕ :=
  1 + offsetField offset * 4 + elementSize * 2 ^ 32 + count * 2 ^ 35

/-- The tag of an inline composite list. -/
def tagWord (elementCount dataWordCount pointerCount : ℕ) : ℕ :=
  elementCount * 4 + dataWordCount * 2 ^ 32 + pointerCount * 2 ^ 48

theorem structWord_lt {offset : ℤ} {dw pc : ℕ} (small : dw < 2 ^ 16) (few : pc < 2 ^ 16) :
    structWord offset dw pc < 2 ^ 64 := by
  have := offsetField_lt offset
  unfold structWord
  omega

theorem listWord_lt {offset : ℤ} {es n : ℕ} (size : es < 8) (short : n < 2 ^ 29) :
    listWord offset es n < 2 ^ 64 := by
  have := offsetField_lt offset
  unfold listWord
  omega

theorem tagWord_lt {n dw pc : ℕ} (short : n < 2 ^ 30) (small : dw < 2 ^ 16) (few : pc < 2 ^ 16) :
    tagWord n dw pc < 2 ^ 64 := by
  unfold tagWord
  omega

theorem structWord_fields (offset : ℤ) {dw pc : ℕ} (small : dw < 2 ^ 16) (few : pc < 2 ^ 16) :
    structWord offset dw pc % 4 = 0 ∧ structWord offset dw pc / 4 % 2 ^ 30 = offsetField offset ∧
      structWord offset dw pc / 2 ^ 32 % 2 ^ 16 = dw ∧
      structWord offset dw pc / 2 ^ 48 % 2 ^ 16 = pc := by
  have := offsetField_lt offset
  unfold structWord
  omega

theorem listWord_fields (offset : ℤ) {es n : ℕ} (size : es < 8) (short : n < 2 ^ 29) :
    listWord offset es n % 4 = 1 ∧ listWord offset es n / 4 % 2 ^ 30 = offsetField offset ∧
      listWord offset es n / 2 ^ 32 % 8 = es ∧ listWord offset es n / 2 ^ 35 % 2 ^ 29 = n := by
  have := offsetField_lt offset
  unfold listWord
  omega

theorem tagWord_fields {n dw pc : ℕ} (short : n < 2 ^ 30) (small : dw < 2 ^ 16)
    (few : pc < 2 ^ 16) :
    tagWord n dw pc % 4 = 0 ∧ tagWord n dw pc / 4 % 2 ^ 30 = n ∧
      tagWord n dw pc / 2 ^ 32 % 2 ^ 16 = dw ∧ tagWord n dw pc / 2 ^ 48 % 2 ^ 16 = pc := by
  unfold tagWord
  omega

/-- A word without kind bits is the tag made of its fields. -/
theorem tagWord_of_fields {tag : ℕ} (kind : tag % 4 = 0) (word : tag < 2 ^ 64) :
    tagWord (tag / 4 % 2 ^ 30) (tag / 2 ^ 32 % 2 ^ 16) (tag / 2 ^ 48 % 2 ^ 16) = tag := by
  unfold tagWord
  omega

/-- The expression in `setStructPointer`. -/
theorem structWord_eq_or (offset : ℤ) {dw pc : ℕ} (small : dw < 2 ^ 16) (few : pc < 2 ^ 16) :
    offsetField offset <<< 2 ||| (dw &&& 0xffff) <<< 32 ||| (pc &&& 0xffff) <<< 48 =
      structWord offset dw pc := by
  have := offsetField_lt offset
  have mask : ∀ x, x < 2 ^ 16 → x &&& 0xffff = x := fun x h => by
    rw [show 0xffff = 2 ^ 16 - 1 from rfl, BitField.and_low_mask, Nat.mod_eq_of_lt h]
  rw [mask dw small, mask pc few, Nat.shiftLeft_eq _ 2,
    BitField.or_shiftLeft (show offsetField offset * 2 ^ 2 < 2 ^ 32 by omega),
    BitField.or_shiftLeft (by omega), structWord]
  rfl

/-- The expression in `setListPointer`. -/
theorem listWord_eq_or (offset : ℤ) {es n : ℕ} (size : es < 8) (short : n < 2 ^ 29) :
    1 ||| offsetField offset <<< 2 ||| (es &&& 0x7) <<< 32 ||| (n &&& 0x1fff_ffff) <<< 35 =
      listWord offset es n := by
  have := offsetField_lt offset
  have sizeMask : es &&& 0x7 = es := by
    rw [show 0x7 = 2 ^ 3 - 1 from rfl, BitField.and_low_mask, Nat.mod_eq_of_lt (by omega)]
  have countMask : n &&& 0x1fff_ffff = n := by
    rw [show 0x1fff_ffff = 2 ^ 29 - 1 from rfl, BitField.and_low_mask, Nat.mod_eq_of_lt short]
  rw [sizeMask, countMask, BitField.or_shiftLeft (show 1 < 2 ^ 2 by decide),
    BitField.or_shiftLeft (show 1 + offsetField offset * 2 ^ 2 < 2 ^ 32 by omega),
    BitField.or_shiftLeft (by omega), listWord]
  rfl

/-- The expression for the tag in `encodeListField`. -/
theorem tagWord_eq_or {n dw : ℕ} (pc : ℕ) (short : n < 2 ^ 30) (small : dw < 2 ^ 16) :
    n <<< 2 ||| dw <<< 32 ||| pc <<< 48 = tagWord n dw pc := by
  rw [Nat.shiftLeft_eq n, BitField.or_shiftLeft (show n * 2 ^ 2 < 2 ^ 32 by omega),
    BitField.or_shiftLeft (by omega), tagWord]
  rfl

end CapnpDeno
