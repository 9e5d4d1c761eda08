import CapnpDeno.Encoding.Layout

/-!
# Text pointers

What the reader makes of a pointer to a list of bytes that begin with an encoded text: the text
itself when the list has its bytes and the zero behind them, and never the text when the list is
shorter.
-/

namespace CapnpDeno

open ByteList MessageReader

/-! ## UTF-8 -/

theorem toList_loop_eq (bs : ByteArray) (i : ℕ) (r : List UInt8) :
    ByteArray.toList.loop bs i r = r.reverse ++ bs.data.toList.drop i := by
  fun_induction ByteArray.toList.loop bs i r with
  | case1 i r more ih =>
    have size : i < bs.data.toList.length := more
    have here : bs.get! i = bs.data.toList[i] := getElem!_pos bs.data i more
    rw [ih, List.reverse_cons, List.append_assoc, here, List.drop_eq_getElem_cons size]
    rfl
  | case2 i r done =>
    have size : bs.data.toList.length ≤ i := not_lt.1 done
    rw [List.drop_eq_nil_of_le size, List.append_nil]

theorem utf8Encode_eq (value : String) :
    MessageBuilder.utf8Encode value = value.toByteArray.data.toList :=
  toList_loop_eq value.toByteArray 0 []

theorem strictDecode_utf8Encode (value : String) :
    strictDecode (MessageBuilder.utf8Encode value) = .ok value := by
  rw [utf8Encode_eq, strictDecode, Array.toArray_toList, String.fromUTF8?,
    dif_pos value.isValidUTF8]
  rfl

theorem utf8Encode_of_strictDecode {bytes : Bytes} {value : String}
    (decoded : strictDecode bytes = .ok value) :
    MessageBuilder.utf8Encode value = bytes := by
  rw [strictDecode, String.fromUTF8?] at decoded
  by_cases valid : ByteArray.IsValidUTF8 ⟨bytes.toArray⟩
  · rw [dif_pos valid] at decoded
    cases decoded
    rw [utf8Encode_eq]
    rfl
  · rw [dif_neg valid] at decoded
    cases decoded

/-! ## Lists behind near pointers -/

/-- The list pointer at `pointerWord` of a segment is read as the list that starts at `start`. -/
theorem readListPointer_near {m : Bytes} {shape : Shape} {offset : ℤ} {pointerWord start : ℕ}
    (valid : shape.Valid) (list : shape.pointerWord offset % 4 = 1) (fits : OffsetFits offset)
    (word : readLE m (8 * pointerWord) 8 = shape.pointerWord offset)
    (target : (pointerWord : ℤ) + 1 + offset = start) (here : 8 * (pointerWord + 1) ≤ m.length)
    (inside : 8 * (start + shape.words) ≤ m.length)
    (tagged : shape.Tagged (blockAt m shape start)) :
    ∃ ref, (flatReader m).readListPointer 0 pointerWord = .ok (some ref) ∧
    ref.target = .object shape 0 start := by
  have resolve := resolvePointer_near here (by rw [word, list]; decide)
  have read := readListPointer_toOption resolve (by rw [word, list])
  have found := targetOf_pointerWord valid fits target inside tagged
  rw [word, ResolvedPointer.base] at read
  rw [show (flatReader m).segments = [m] from rfl, found] at read
  obtain ⟨found, done, same⟩ := Option.map_eq_some_iff.1 read
  obtain ⟨ref, rfl, leads⟩ := Option.map_eq_some_iff.1 same
  exact ⟨ref, Fallible.toOption_eq_some.1 done, leads⟩

/-! ## Texts -/

/-- The bytes of a text with the zero behind it. -/
def textBytes (value : String) : ℕ := (MessageBuilder.utf8Encode value).length + 1

/-- A list pointer at `pointerWord` leads to the bytes of a text at `targetWord`, with the count
that its bits hold. -/
structure TextAt (m : Bytes) (pointerWord : ℕ) (value : String) (targetWord : ℕ) : Prop where
  fits : OffsetFits ((targetWord : ℤ) - (pointerWord + 1))
  word : readLE m (8 * pointerWord) 8 = listWord ((targetWord : ℤ) - (pointerWord + 1)) 2
    (textBytes value % 2 ^ 29)
  bytes : slice m (8 * targetWord) (textBytes value) = MessageBuilder.utf8Encode value ++ [0]

namespace TextAt

variable {m m' : Bytes} {pointerWord targetWord : ℕ} {value : String}

/-- A text stays where it is when its pointer and its bytes do. -/
theorem frame (h : TextAt m pointerWord value targetWord)
    (pointer : Agree m m' (8 * pointerWord) (8 * pointerWord + 8))
    (block : Agree m m' (8 * targetWord) (8 * targetWord + textBytes value)) :
    TextAt m' pointerWord value targetWord :=
  ⟨h.fits, (pointer.readLE_eq le_rfl le_rfl).symm.trans h.word,
    (block.slice_eq le_rfl le_rfl).symm.trans h.bytes⟩

/-- The reader takes as many bytes of the text as the pointer counts. -/
theorem read (h : TextAt m pointerWord value targetWord) (here : 8 * (pointerWord + 1) ≤ m.length)
    (inside : 8 * (targetWord + bytesToWords (textBytes value)) ≤ m.length) :
    (flatReader m).readTextPointer 0 pointerWord =
      if ((MessageBuilder.utf8Encode value ++ [0]).take (textBytes value % 2 ^ 29)).getLast? ≠
        some 0 then
        .error (protocolError "Text pointer must include a trailing NUL byte")
      else some <$> strictDecode ((MessageBuilder.utf8Encode value ++ [0]).take
        (textBytes value % 2 ^ 29)).dropLast := by
  have less : textBytes value % 2 ^ 29 ≤ textBytes value := Nat.mod_le _ _
  have words : bytesToWords (textBytes value % 2 ^ 29) ≤ bytesToWords (textBytes value) := by
    unfold bytesToWords
    omega
  have long : 8 * targetWord + textBytes value ≤ m.length := by
    unfold bytesToWords at inside
    omega
  have valid : (Shape.flat 2 (textBytes value % 2 ^ 29)).Valid :=
    ⟨by decide, Nat.mod_lt _ (by decide)⟩
  obtain ⟨ref, found, target⟩ :=
    readListPointer_near valid (listWord_fields _ (by decide) valid.2).1 h.fits h.word
    (by ring) here (show 8 * (targetWord + bytesToWords (textBytes value % 2 ^ 29)) ≤
      m.length by omega) trivial
  obtain rfl : ref = .flat 0 targetWord 2 (textBytes value % 2 ^ 29) := by
    cases ref <;> cases target
    rfl
  have taken : slice m (targetWord * WORD_BYTES) (textBytes value % 2 ^ 29) =
      (MessageBuilder.utf8Encode value ++ [0]).take (textBytes value % 2 ^ 29) := by
    rw [WORD_BYTES, Nat.mul_comm, ← h.bytes, slice, slice, List.take_take, min_eq_left less]
  have bytes : (flatReader m).readBytes 0 (targetWord * WORD_BYTES) (textBytes value % 2 ^ 29) =
      .ok ((MessageBuilder.utf8Encode value ++ [0]).take (textBytes value % 2 ^ 29)) := by
    rw [← taken]
    unfold readBytes
    rw [show (flatReader m).segment 0 = .ok m from rfl, Fallible.ok_bind,
      if_neg (by rw [WORD_BYTES]; omega)]
    rfl
  unfold readTextPointer
  rw [found, Fallible.ok_bind]
  simp only [bytes, Fallible.ok_bind, Fallible.throw_eq_error, Fallible.error_bind,
    Fallible.pure_eq_ok]
  split_ifs
  · rfl
  · exact (map_eq_pure_bind _ _).symm

/-- A text whose count fits its bits is read back. -/
theorem read_ok (h : TextAt m pointerWord value targetWord)
    (here : 8 * (pointerWord + 1) ≤ m.length)
    (inside : 8 * (targetWord + bytesToWords (textBytes value)) ≤ m.length)
    (short : textBytes value < 2 ^ 29) :
    (flatReader m).readTextPointer 0 pointerWord = .ok (some value) := by
  have all : (MessageBuilder.utf8Encode value ++ [0]).take (textBytes value % 2 ^ 29) =
      MessageBuilder.utf8Encode value ++ [0] := by
    rw [Nat.mod_eq_of_lt short]
    exact List.take_of_length_le (by rw [List.length_append, textBytes]; rfl)
  rw [h.read here inside, all, List.getLast?_concat, if_neg (fun differ => differ rfl),
    List.dropLast_concat, strictDecode_utf8Encode]
  rfl

/-- A text whose count does not fit its bits is not. -/
theorem read_long (h : TextAt m pointerWord value targetWord)
    (here : 8 * (pointerWord + 1) ≤ m.length)
    (inside : 8 * (targetWord + bytesToWords (textBytes value)) ≤ m.length)
    (long : 2 ^ 29 ≤ textBytes value) :
    (flatReader m).readTextPointer 0 pointerWord ≠ .ok (some value) := by
  intro back
  rw [h.read here inside] at back
  split_ifs at back
  obtain ⟨text, decoded, same⟩ := Fallible.map_eq_ok.1 back
  cases same
  have bytes := congrArg List.length (utf8Encode_of_strictDecode decoded)
  rw [List.length_dropLast, List.length_take] at bytes
  have cut : textBytes value % 2 ^ 29 < 2 ^ 29 := Nat.mod_lt _ (by decide)
  unfold textBytes at bytes cut long
  omega

end TextAt

end CapnpDeno
