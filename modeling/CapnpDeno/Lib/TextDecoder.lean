import CapnpDeno.Lib.ByteList

/-!
# Text that may not be UTF-8

`textDecode` turns any bytes into text: well-formed UTF-8 into the text it encodes, a leading byte
order mark left out, and every ill-formed stretch into a replacement character, as the longest
beginning of a character that it is.
-/

namespace TextDecoder

/-- The state of the UTF-8 decoder between two bytes: how many continuation bytes are missing, the
code point so far and the range of the next byte. -/
structure Utf8Decoder where
  needed : ℕ
  codePoint : ℕ
  lower : ℕ
  upper : ℕ

namespace Utf8Decoder

def idle : Utf8Decoder := ⟨0, 0, 0x80, 0xbf⟩

def replacementCharacter : Char := Char.ofNat 0xfffd

/-- A byte between two characters. -/
def first (byte : ℕ) : List Char × Utf8Decoder :=
  if byte ≤ 0x7f then ([Char.ofNat byte], idle)
  else if 0xc2 ≤ byte ∧ byte ≤ 0xdf then ([], ⟨1, byte &&& 0x1f, 0x80, 0xbf⟩)
  else if 0xe0 ≤ byte ∧ byte ≤ 0xef then
    ([], ⟨2, byte &&& 0xf, if byte = 0xe0 then 0xa0 else 0x80, if byte = 0xed then 0x9f else 0xbf⟩)
  else if 0xf0 ≤ byte ∧ byte ≤ 0xf4 then
    ([], ⟨3, byte &&& 0x7, if byte = 0xf0 then 0x90 else 0x80, if byte = 0xf4 then 0x8f else 0xbf⟩)
  else ([replacementCharacter], idle)

def step (d : Utf8Decoder) (byte : ℕ) : List Char × Utf8Decoder :=
  if d.needed = 0 then first byte
  else if byte < d.lower ∨ d.upper < byte then
    -- the character is broken off, the byte begins another one
    let (chars, d) := first byte
    (replacementCharacter :: chars, d)
  else
    let codePoint := d.codePoint <<< 6 ||| (byte &&& 0x3f)
    if d.needed = 1 then ([Char.ofNat codePoint], idle)
      else ([], ⟨d.needed - 1, codePoint, 0x80, 0xbf⟩)

/-- The characters of the bytes, each ill-formed stretch replaced. -/
def run : Utf8Decoder → Bytes → List Char
  | d, [] => if d.needed = 0 then [] else [replacementCharacter]
  | d, byte :: bytes =>
    let (chars, d) := d.step byte.toNat
    chars ++ d.run bytes

end Utf8Decoder

/-- The characters of bytes that may not be UTF-8. -/
def utf8Chars (bytes : Bytes) : List Char :=
  match String.fromUTF8? ⟨bytes.toArray⟩ with
  | some text => text.toList
  | none => Utf8Decoder.idle.run bytes

def byteOrderMark : Char := Char.ofNat 0xfeff

/-- `new TextDecoder().decode(bytes)`: nothing is fatal, and a leading byte order mark is left
out. -/
def textDecode (bytes : Bytes) : String :=
  match utf8Chars bytes with
  | [] => ""
  | c :: chars => String.ofList (if c = byteOrderMark then chars else c :: chars)

/-! ## Well-formed text -/

theorem textDecode_plain {bytes : Bytes} {text : String}
    (valid : String.fromUTF8? ⟨bytes.toArray⟩ = some text)
    (plain : text.toList.head? ≠ some byteOrderMark) : textDecode bytes = text := by
  unfold textDecode utf8Chars
  simp only [valid]
  cases chars : text.toList with
  | nil => exact (String.toList_eq_nil_iff.1 chars).symm
  | cons c chars' =>
    rw [chars, List.head?_cons, ne_eq, Option.some.injEq] at plain
    simp only [if_neg plain]
    rw [← chars, String.ofList_toList]

theorem textDecode_marked {bytes : Bytes} {text : String}
    (valid : String.fromUTF8? ⟨bytes.toArray⟩ = some text)
    (marked : text.toList.head? = some byteOrderMark) : textDecode bytes ≠ text := by
  unfold textDecode utf8Chars
  simp only [valid]
  cases chars : text.toList with
  | nil => simp [chars] at marked
  | cons c chars' =>
    rw [chars, List.head?_cons, Option.some.injEq] at marked
    simp only [if_pos marked]
    intro same
    have longer := congrArg (fun t => t.toList.length) same
    simp only [String.toList_ofList, chars, List.length_cons] at longer
    omega

/-- What is left of a text that is encoded and decoded. -/
def withoutMark (text : String) : String :=
  if text.toList.head? = some byteOrderMark then String.ofList text.toList.tail else text

theorem textDecode_valid {bytes : Bytes} {text : String}
    (valid : String.fromUTF8? ⟨bytes.toArray⟩ = some text) :
    textDecode bytes = withoutMark text := by
  unfold withoutMark
  split_ifs with marked
  · unfold textDecode utf8Chars
    simp only [valid]
    cases chars : text.toList with
    | nil =>
      rw [chars] at marked
      cases marked
    | cons c chars' =>
      rw [chars] at marked
      exact congrArg String.ofList (if_pos (Option.some.inj marked))
  · exact textDecode_plain valid marked

end TextDecoder
