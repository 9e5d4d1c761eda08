import CapnpDeno.Encoding.Locate

/-!
# In-struct reads and the data section

`requireDataByteRange` bounds a read by the length of the data section, but counts that length from
the word the read is in and not from the start of the struct.  A read is therefore accepted when it
would lie inside a section of that length that begins at its own word.
-/

namespace CapnpDeno

open ByteList MessageReader

/-! ## Struct references -/

/-- A reference that `readStructPointer` returns, or that `decodeListField` makes for an element of
a composite list. -/
inductive StructRefOf (r : MessageReader) : StructRef → Prop
  | pointer {segmentId : ℕ} {pointerWord : ℤ} {ref : StructRef}
      (read : r.readStructPointer segmentId pointerWord = .ok (some ref)) : StructRefOf r ref
  | element {segmentId listSegment tagWord elementCount dataWordCount pointerCount
      wordsInElements i : ℕ} {pointerWord : ℤ}
      (read : r.readListPointer segmentId pointerWord = .ok (some
        (.inlineComposite listSegment tagWord elementCount dataWordCount pointerCount
          wordsInElements)))
      (element : i < elementCount) :
      StructRefOf r ⟨listSegment, tagWord + 1 + i * (dataWordCount + pointerCount), dataWordCount,
        pointerCount⟩

theorem requireWordRange_eq_ok {r : MessageReader} {s count : ℕ} {start : ℤ} {context : String}
    {u : Unit} (inside : r.requireWordRange s start count context = .ok u) :
    inRange r.segments s start count = true := by
  rw [← Fallible.toOption_eq_some, requireWordRange_toOption] at inside
  by_contra outside
  rw [if_neg outside] at inside
  cases inside

theorem readStructPointer_inRange {r : MessageReader} {s : ℕ} {p : ℤ} {ref : StructRef}
    (read : r.readStructPointer s p = .ok (some ref)) :
    inRange r.segments ref.segmentId ref.startWord (ref.dataWordCount + ref.pointerCount) =
      true := by
  unfold readStructPointer at read
  obtain ⟨resolved, -, read⟩ := Fallible.bind_eq_ok.1 read
  simp only [Fallible.throw_eq_error, Fallible.error_bind, Fallible.pure_eq_ok] at read
  split_ifs at read
  · cases read
  · obtain ⟨u, inside, read⟩ := Fallible.bind_eq_ok.1 read
    cases read
    have range := requireWordRange_eq_ok inside
    obtain ⟨-, -, low, -⟩ := inRange_iff.1 range
    rw [Int.toNat_of_nonneg low]
    exact range

theorem readListPointer_composite {r : MessageReader}
    {s segmentId tagWord elementCount dw pc words : ℕ} {p : ℤ}
    (read : r.readListPointer s p =
      .ok (some (.inlineComposite segmentId tagWord elementCount dw pc words))) :
    (dw + pc) * elementCount ≤ words ∧ inRange r.segments segmentId (tagWord + 1 : ℕ) words =
      true := by
  unfold readListPointer at read
  obtain ⟨resolved, -, read⟩ := Fallible.bind_eq_ok.1 read
  simp only [Fallible.throw_eq_error, Fallible.error_bind, Fallible.pure_eq_ok] at read
  split_ifs at read
  · cases read
  · obtain ⟨_, tagged, read⟩ := Fallible.bind_eq_ok.1 read
    obtain ⟨tag, -, read⟩ := Fallible.bind_eq_ok.1 read
    split_ifs at read with kind long
    obtain ⟨_, inside, read⟩ := Fallible.bind_eq_ok.1 read
    cases read
    obtain ⟨-, -, low, -⟩ := inRange_iff.1 (requireWordRange_eq_ok tagged)
    refine ⟨not_lt.1 long, ?_⟩
    push_cast
    rw [Int.toNat_of_nonneg low]
    exact requireWordRange_eq_ok inside
  · obtain ⟨_, -, read⟩ := Fallible.bind_eq_ok.1 read
    obtain ⟨_, -, read⟩ := Fallible.bind_eq_ok.1 read
    cases read

/-- Both sections of a struct lie in its segment. -/
theorem StructRefOf.inRange {r : MessageReader} {ref : StructRef} (known : StructRefOf r ref) :
    inRange r.segments ref.segmentId ref.startWord (ref.dataWordCount + ref.pointerCount) =
      true := by
  cases known with
  | pointer read => exact readStructPointer_inRange read
  | @element _ listSegment tagWord elementCount dw pc words i _ read element =>
    obtain ⟨room, inside⟩ := readListPointer_composite read
    obtain ⟨bytes, segment, -, high⟩ := inRange_iff.1 inside
    have below : i * (dw + pc) + (dw + pc) ≤ (dw + pc) * elementCount := by
      rw [← Nat.succ_mul, Nat.mul_comm]
      exact Nat.mul_le_mul_left _ element
    refine inRange_iff.2 ⟨bytes, segment, Int.natCast_nonneg _, ?_⟩
    simp only at high ⊢
    omega

/-! ## The accessors -/

/-- The in-struct accessors of the reader, by what they return. -/
inductive Accessor : Type → Type
  | bool : Accessor Bool
  | uint8 : Accessor ℕ
  | int8 : Accessor ℤ
  | uint16 : Accessor ℕ
  | int16 : Accessor ℤ
  | uint32 : Accessor ℕ
  | int32 : Accessor ℤ
  | uint64 : Accessor ℕ
  | int64 : Accessor ℤ
  | float32 : Accessor JsNumber
  | float64 : Accessor JsNumber

namespace Accessor

variable {α : Type}

/-- The call of the accessor, at a bit offset for `readBool` and at a byte offset for the others. -/
def call : Accessor α → MessageReader → StructRef → ℕ → Except Thrown α
  | bool, r => r.readBool
  | uint8, r => r.readUint8InStruct
  | int8, r => r.readInt8InStruct
  | uint16, r => r.readUint16InStruct
  | int16, r => r.readInt16InStruct
  | uint32, r => r.readUint32InStruct
  | int32, r => r.readInt32InStruct
  | uint64, r => r.readBigUint64InStruct
  | int64, r => r.readBigInt64InStruct
  | float32, r => r.readFloat32InStruct
  | float64, r => r.readFloat64InStruct

/-- How many bytes it reads. -/
def width : Accessor α → ℕ
  | bool | uint8 | int8 => 1
  | uint16 | int16 => 2
  | uint32 | int32 | float32 => 4
  | uint64 | int64 | float64 => 8

/-- The first byte it reads. -/
def byteOffset : Accessor α → ℕ → ℕ
  | bool, offset => offset / 8
  | _, offset => offset

/-- The name it gives itself in its errors. -/
def context : Accessor α → String
  | bool | uint8 => "readUint8InStruct"
  | int8 => "readInt8InStruct"
  | uint16 => "readUint16InStruct"
  | int16 => "readInt16InStruct"
  | uint32 => "readUint32InStruct"
  | int32 => "readInt32InStruct"
  | uint64 => "readBigUint64InStruct"
  | int64 => "readBigInt64InStruct"
  | float32 => "readFloat32InStruct"
  | float64 => "readFloat64InStruct"

/-- What it makes of the unsigned integer in its bytes. -/
def decode : Accessor α → ℕ → ℕ → α
  | bool, offset, n => decide (n &&& (1 <<< (offset % 8)) ≠ 0)
  | uint8, _, n | uint16, _, n | uint32, _, n | uint64, _, n => n
  | int8, _, n => toSigned 1 n
  | int16, _, n => toSigned 2 n
  | int32, _, n => toSigned 4 n
  | int64, _, n => toSigned 8 n
  | float32, _, n => .ofFloat32 n
  | float64, _, n => ⟨UInt64.ofNat n⟩

/-- Every accessor is the same bounded read of its width. -/
theorem call_eq (a : Accessor α) (r : MessageReader) (ref : StructRef) (offset : ℕ) :
    a.call r ref offset = a.decode offset <$>
      inStruct (r.readUintAt a.width) ref (a.byteOffset offset) a.context := by
  cases a with
  | bool => exact (map_eq_pure_bind _ _).symm
  | uint8 => exact (id_map _).symm
  | uint16 => exact (id_map _).symm
  | uint32 => exact (id_map _).symm
  | uint64 => exact (id_map _).symm
  | int8 => rfl
  | int16 => rfl
  | int32 => rfl
  | int64 => rfl
  | float32 => rfl
  | float64 => rfl

end Accessor

/-! ## Where a read is accepted -/

/-- The bytes of a segment, none if it is missing. -/
def segmentBytes (r : MessageReader) (segmentId : ℕ) : Bytes := r.segments[segmentId]?.getD []

/-- The data section of a struct. -/
def dataSection (r : MessageReader) (ref : StructRef) : Bytes :=
  slice (segmentBytes r ref.segmentId) (8 * ref.startWord) (8 * ref.dataWordCount)

theorem inStruct_readUintAt_eq_ok {r : MessageReader} {ref : StructRef}
    (known : inRange r.segments ref.segmentId ref.startWord (ref.dataWordCount + ref.pointerCount) =
      true)
    {len offset n : ℕ} {context : String} : inStruct (r.readUintAt len) ref offset context = .ok n ↔
      8 * ref.startWord + offset + len ≤ (segmentBytes r ref.segmentId).length ∧
        offset % 8 + len ≤ 8 * ref.dataWordCount ∧
        n = readLE (segmentBytes r ref.segmentId) (8 * ref.startWord + offset) len := by
  obtain ⟨bytes, found, -⟩ := inRange_iff.1 known
  have segment : r.segment ref.segmentId = .ok bytes := by
    unfold MessageReader.segment
    rw [found]
    rfl
  have same : segmentBytes r ref.segmentId = bytes := by
    rw [segmentBytes, found, Option.getD_some]
  -- the word of the read, counted from the start of the segment
  have word : (8 * ref.startWord + offset) / 8 * 8 = 8 * ref.startWord + offset - offset % 8 := by
    omega
  rw [same]
  unfold inStruct readUintAt requireDataByteRange
  simp only [segment, WORD_BYTES, Nat.mul_comm _ 8, Fallible.ok_bind, Fallible.throw_eq_error,
    Fallible.error_bind, Fallible.pure_eq_ok]
  by_cases past : 8 * ref.startWord + offset + len > bytes.length
  · rw [if_pos past]
    exact ⟨nofun, fun inside => absurd inside.1 (not_le.2 past)⟩
  rw [if_neg past]
  by_cases outside : 8 * ref.startWord + offset + len >
      8 * ((8 * ref.startWord + offset) / 8) + 8 * ref.dataWordCount
  · rw [if_pos outside]
    exact ⟨nofun, fun inside => by omega⟩
  · rw [if_neg outside, Fallible.ok_bind, Except.ok.injEq]
    exact ⟨fun value => ⟨not_lt.1 past, by omega, value.symm⟩, fun inside => inside.2.2.symm⟩

/-! ## Isolation -/

/-- The call reads the data section or fails, and it succeeds where it asks for bytes of the section
only. -/
def Isolated {α : Type} (r : MessageReader) (ref : StructRef) (a : Accessor α) (offset : ℕ) :
    Prop :=
  (∀ v, a.call r ref offset = .ok v → a.byteOffset offset + a.width ≤ 8 * ref.dataWordCount ∧
    v = a.decode offset (readLE (dataSection r ref) (a.byteOffset offset) a.width)) ∧
  (a.byteOffset offset + a.width ≤ 8 * ref.dataWordCount → ∃ v, a.call r ref offset = .ok v)

/-- **In-struct reads.**  A read, at an offset that is a natural number, stays inside the data
section exactly when it asks for bytes of the section, or would not fit into a section of that
length at its own word either, or ends behind the segment. -/
theorem in_struct_reads {r : MessageReader} {ref : StructRef} (known : StructRefOf r ref) {α : Type}
    (a : Accessor α) (offset : ℕ) : Isolated r ref a offset ↔
      a.byteOffset offset + a.width ≤ 8 * ref.dataWordCount ∨
      8 * ref.dataWordCount < a.byteOffset offset % 8 + a.width ∨
      (segmentBytes r ref.segmentId).length < 8 * ref.startWord + a.byteOffset offset +
        a.width := by
  have read := fun n => @inStruct_readUintAt_eq_ok r ref known.inRange a.width (a.byteOffset offset)
    n a.context
  obtain ⟨bytes, found, -, high⟩ := inRange_iff.1 known.inRange
  have long : 8 * ref.startWord + 8 * ref.dataWordCount ≤
      (segmentBytes r ref.segmentId).length := by
    rw [segmentBytes, found, Option.getD_some]
    omega
  unfold Isolated
  simp only [a.call_eq, Fallible.map_eq_ok, read]
  constructor
  · rintro ⟨safe, -⟩
    by_contra escape
    simp only [not_or, not_le, not_lt] at escape
    obtain ⟨outside, fits, inside⟩ := escape
    have := (safe _ ⟨_, ⟨inside, fits, rfl⟩, rfl⟩).1
    omega
  · intro condition
    constructor
    · rintro v ⟨n, ⟨inside, fits, rfl⟩, rfl⟩
      obtain section_ | wide | past := condition
      · refine ⟨section_, ?_⟩
        rw [dataSection, readLE_slice section_]
      · omega
      · omega
    · intro section_
      exact ⟨_, _, ⟨by omega, by omega, rfl⟩, rfl⟩

/-- A message whose root struct has one data word and one pointer, a capability. -/
def onePointerMessage : Bytes :=
  toLE 4 0 ++ toLE 4 3 ++ toLE 8 (2 ^ 32 + 2 ^ 48) ++ toLE 8 7 ++ toLE 8 3

def onePointer : MessageReader := ⟨[onePointerMessage.drop 8]⟩

theorem onePointer_root : StructRefOf onePointer ⟨0, 1, 1, 1⟩ :=
  .pointer (show onePointer.readStructPointer 0 0 = .ok (some ⟨0, 1, 1, 1⟩) by decide)

theorem in_struct_reads_root : Isolated onePointer ⟨0, 1, 1, 1⟩ .uint64 0 :=
  (in_struct_reads onePointer_root .uint64 0).2 (.inl (by decide))

/-- The byte after the data section is read from the pointer section. -/
theorem in_struct_reads_pointer : MessageReader.ofBytes onePointerMessage = .ok onePointer ∧
    onePointer.readUint8InStruct ⟨0, 1, 1, 1⟩ 8 = .ok 3 ∧ StructRefOf onePointer ⟨0, 1, 1, 1⟩ ∧
    ¬ Isolated onePointer ⟨0, 1, 1, 1⟩ .uint8 8 := by
  have read : onePointer.readUint8InStruct ⟨0, 1, 1, 1⟩ 8 = .ok 3 := by decide
  refine ⟨by decide, read, onePointer_root, fun safe => ?_⟩
  have inside := (safe.1 3 read).1
  exact absurd inside (by decide)

end CapnpDeno
