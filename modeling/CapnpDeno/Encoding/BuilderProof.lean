import CapnpDeno.Encoding.ObjectTree

/-!
# What the builder writes

Each operation of `MessageBuilder` as a change of its bytes.
-/

namespace CapnpDeno

open ByteList

/-- `b'` is `b` with a word overwritten. -/
structure Rewrites (b b' : MessageBuilder) (wordIndex word : ℕ) : Prop where
  inside : wordIndex < b.words
  words : b'.words = b.words
  bytes : b'.bytes = writeLE b.bytes (8 * wordIndex) 8 word

namespace MessageBuilder

theorem writeWord_eq_ok {b b' : MessageBuilder} {wordIndex word : ℕ} :
    b.writeWord wordIndex word = .ok b' ↔ Rewrites b b' wordIndex word := by
  unfold writeWord
  constructor
  · intro done
    split_ifs at done with fits
    cases done
    refine ⟨by omega, rfl, ?_⟩
    show splice b.bytes (wordIndex * WORD_BYTES) _ = _
    rw [writeLE, Nat.mul_comm]
  · rintro ⟨inside, words, bytes⟩
    rw [dif_pos (by omega)]
    refine congrArg Except.ok (ext_bytes ?_)
    show splice b.bytes (wordIndex * WORD_BYTES) _ = _
    rw [bytes, writeLE, Nat.mul_comm]

theorem writeWord_ok {b : MessageBuilder} {wordIndex : ℕ} (inside : wordIndex < b.words)
    (word : ℕ) :
    ∃ b', b.writeWord wordIndex word = .ok b' ∧ Rewrites b b' wordIndex word := by
  have fits : 8 * wordIndex + (toLE 8 word).length ≤ 8 * b.words := by
    rw [length_toLE]
    omega
  have rewrites : Rewrites b (b.set (8 * wordIndex) (toLE 8 word) fits) wordIndex word :=
    ⟨inside, rfl, rfl⟩
  exact ⟨_, writeWord_eq_ok.2 rewrites, rewrites⟩

end MessageBuilder

namespace Rewrites

variable {b b' : MessageBuilder} {wordIndex word : ℕ}

theorem read (h : Rewrites b b' wordIndex word) :
    readLE b'.bytes (8 * wordIndex) 8 = word % 2 ^ 64 := by
  have := h.inside
  rw [h.bytes, readLE_writeLE_self (by rw [b.size]; omega)]
  rfl

theorem agree (h : Rewrites b b' wordIndex word) {lo hi : ℕ}
    (apart : hi ≤ 8 * wordIndex ∨ 8 * wordIndex + 8 ≤ lo) : Agree b.bytes b'.bytes lo hi := by
  have := h.inside
  rw [h.bytes]
  exact agree_writeLE (by rw [b.size]; omega) apart

/-- Every byte outside the word is as before. -/
theorem getElem? (h : Rewrites b b' wordIndex word) {i : ℕ} (apart : i / 8 ≠ wordIndex) :
    b'.bytes[i]? = b.bytes[i]? :=
  have outside : i + 1 ≤ 8 * wordIndex ∨ 8 * wordIndex + 8 ≤ i := by omega
  (h.agree outside i le_rfl (Nat.lt_succ_self i)).symm

end Rewrites

namespace MessageBuilder

/-! ## Pointers to blocks -/

/-- The pointer to a block of a shape, as the code for its kind writes it. -/
def setPointer (b : MessageBuilder) (pointerWord targetWord : ℕ) :
    Shape → Except Thrown MessageBuilder
  | .struct dw pc => b.setStructPointer pointerWord targetWord dw pc
  | .flat es n => b.setListPointer pointerWord targetWord es n
  | .inlineComposite w _ _ _ => b.setListPointer pointerWord targetWord 7 w

end MessageBuilder

/-- The offset in the pointer to a block: minus one when the block is an empty struct. -/
def Shape.offset (shape : Shape) (pointerWord targetWord : ℕ) : ℤ :=
  if shape = .struct 0 0 then -1 else (targetWord : ℤ) - (pointerWord + 1)

namespace MessageBuilder

theorem setPointer_eq (b : MessageBuilder) (pointerWord targetWord : ℕ) {shape : Shape}
    (valid : shape.Valid) :
    b.setPointer pointerWord targetWord shape =
      if OffsetFits (shape.offset pointerWord targetWord) then
        b.writeWord pointerWord (shape.pointerWord (shape.offset pointerWord targetWord))
      else .error (signed30RangeError (shape.offset pointerWord targetWord)) := by
  cases shape with
  | struct dw pc =>
    obtain ⟨small, few⟩ := valid
    have offset : (if dw = 0 ∧ pc = 0 then -1 else (targetWord : ℤ) - (pointerWord + 1)) =
        (Shape.struct dw pc).offset pointerWord targetWord := by
      simp [Shape.offset]
    unfold setPointer setStructPointer
    simp only [offset]
    split_ifs with fits
    · rw [encodeSigned30_ok fits, Fallible.ok_bind, structWord_eq_or _ small few]
      rfl
    · rw [encodeSigned30_error fits]
      rfl
  | flat es n =>
    obtain ⟨size, short⟩ := valid
    unfold setPointer setListPointer
    show _ = if OffsetFits ((targetWord : ℤ) - (pointerWord + 1)) then _ else _
    split_ifs with fits
    · simp only [encodeSigned30_ok fits, Fallible.ok_bind,
        listWord_eq_or _ (show es < 8 by omega) short]
      rfl
    · simp only [encodeSigned30_error fits]
      rfl
  | inlineComposite w n dw pc =>
    obtain ⟨short, -⟩ := valid
    unfold setPointer setListPointer
    show _ = if OffsetFits ((targetWord : ℤ) - (pointerWord + 1)) then _ else _
    split_ifs with fits
    · simp only [encodeSigned30_ok fits, Fallible.ok_bind,
        listWord_eq_or _ (show 7 < 8 by decide) short]
      rfl
    · simp only [encodeSigned30_error fits]
      rfl

theorem setPointer_eq_ok {b b' : MessageBuilder} {pointerWord targetWord : ℕ} {shape : Shape}
    (valid : shape.Valid) :
    b.setPointer pointerWord targetWord shape = .ok b' ↔
      OffsetFits (shape.offset pointerWord targetWord) ∧
        Rewrites b b' pointerWord (shape.pointerWord (shape.offset pointerWord targetWord)) := by
  rw [setPointer_eq b pointerWord targetWord valid]
  split_ifs with fits
  · rw [writeWord_eq_ok, and_iff_right fits]
  · exact ⟨nofun, fun h => absurd h.1 fits⟩

/-! ## Allocation -/

theorem allocWords_fst (b : MessageBuilder) (count : ℕ) : (b.allocWords count).1 = b.words := rfl

theorem bytes_allocWords (b : MessageBuilder) (count : ℕ) :
    (b.allocWords count).2.bytes = b.bytes ++ List.replicate (8 * count) 0 := rfl

theorem agree_allocWords (b : MessageBuilder) (count lo : ℕ) :
    Agree b.bytes (b.allocWords count).2.bytes lo (8 * b.words) := by
  rw [← b.size]
  exact agree_append _ _ _

/-! ## Framing -/

/-- A finished message holds its one segment, whose length it declares. -/
theorem toMessageBytes_eq_ok {b : MessageBuilder} {message : Bytes} :
    b.toMessageBytes = .ok message ↔
      8 + 8 * b.words ≤ MAX_BYTE_LENGTH ∧ message = toLE 4 0 ++ toLE 4 b.words ++ b.bytes := by
  unfold toMessageBytes
  simp only [Fallible.throw_eq_error, Fallible.error_bind, Fallible.pure_eq_ok, WORD_BYTES]
  by_cases long : 8 + b.words * 8 > MAX_BYTE_LENGTH
  · rw [if_pos long]
    exact ⟨nofun, fun h => by omega⟩
  · rw [if_neg long, Except.ok.injEq]
    exact ⟨fun same => ⟨by omega, same.symm⟩, fun h => h.2.symm⟩

/-- The size of a finished message fits its header. -/
theorem words_lt_of_fits {words : ℕ} (fits : 8 + 8 * words ≤ MAX_BYTE_LENGTH) : words < 2 ^ 32 := by
  unfold MAX_BYTE_LENGTH at fits
  omega

end MessageBuilder

/-- The reader finds the segment of a message that holds just one. -/
theorem ofBytes_single {segment : Bytes} {words : ℕ} (size : segment.length = 8 * words)
    (small : words < 2 ^ 32) :
    MessageReader.ofBytes (toLE 4 0 ++ toLE 4 words ++ segment) = .ok ⟨[segment]⟩ := by
  have length : (toLE 4 0 ++ toLE 4 words ++ segment).length = 8 + 8 * words := by
    rw [List.length_append, List.length_append, length_toLE, length_toLE, size]
  have count : readLE (toLE 4 0 ++ toLE 4 words ++ segment) 0 4 = 0 := by
    rw [List.append_assoc]
    exact readLE_middle [] (toLE 4 words ++ segment) 4 0
  have declared : readLE (toLE 4 0 ++ toLE 4 words ++ segment) 4 4 = words := by
    have field := readLE_middle (toLE 4 0) segment 4 words
    rwa [length_toLE, Nat.mod_eq_of_lt (by omega)] at field
  have payload : slice (toLE 4 0 ++ toLE 4 words ++ segment) 8 (words * 8) = segment := by
    rw [slice_append_right (by simp), Nat.mul_comm, ← size]
    exact slice_self segment
  generalize toLE 4 0 ++ toLE 4 words ++ segment = message at *
  unfold MessageReader.ofBytes
  simp only [length, count, segmentSizes, zero_add, List.range_one, List.map_cons, List.map_nil,
    zero_mul, add_zero, declared, Nat.one_mod, one_ne_zero, if_false]
  rw [if_neg (by omega), if_neg (by omega)]
  simp only [MessageReader.takeSegments, length, WORD_BYTES]
  rw [if_neg (by omega)]
  simp only [Fallible.pure_eq_ok, Fallible.ok_bind]
  exact congrArg (fun found => Except.ok (MessageReader.mk [found])) payload

end CapnpDeno
