import CapnpDeno.Encoding.TextPointer

/-!
# The response of the plugin

`plugin_response.ts` has a builder of its own: one buffer that doubles when the words in use outgrow
it, and a list of files whose texts are allocated while the elements of the list are filled.
-/

namespace CapnpDeno.PluginResponse

open ByteList

/-! ## The buffer -/

/-- `while (next < requiredBytes) next *= 2`. -/
def grown (next requiredBytes : ℕ) (positive : 0 < next) : ℕ :=
  if next < requiredBytes then grown (next * 2) requiredBytes (Nat.mul_pos positive Nat.two_pos)
    else next
termination_by requiredBytes - next

theorem requiredBytes_le_grown (next requiredBytes : ℕ) (positive : 0 < next) :
    requiredBytes ≤ grown next requiredBytes positive := by
  fun_induction grown next requiredBytes positive with
  | case1 next positive short ih => exact ih
  | case2 next positive long => exact not_lt.1 long

theorem le_grown (next requiredBytes : ℕ) (positive : 0 < next) :
    next ≤ grown next requiredBytes positive := by
  fun_induction grown next requiredBytes positive with
  | case1 next positive short ih => omega
  | case2 next positive long => exact le_rfl

theorem grown_pow (next requiredBytes : ℕ) (positive : 0 < next) (power : ∃ k, next = 2 ^ k) :
    ∃ k, grown next requiredBytes positive = 2 ^ k := by
  fun_induction grown next requiredBytes positive with
  | case1 next positive short ih =>
    obtain ⟨k, rfl⟩ := power
    exact ih ⟨k + 1, (pow_succ 2 k).symm⟩
  | case2 next positive long => exact power

theorem grown_le (next requiredBytes : ℕ) (positive : 0 < next) {k : ℕ} (power : next = 2 ^ k)
    {limit : ℕ} (small : k ≤ limit) (fits : requiredBytes ≤ 2 ^ limit) :
    grown next requiredBytes positive ≤ 2 ^ limit := by
  fun_induction grown next requiredBytes positive generalizing k with
  | case1 next positive short ih =>
    subst power
    have below : k < limit := (Nat.pow_lt_pow_iff_right (by decide)).1 (short.trans_le fits)
    exact ih (pow_succ 2 k).symm below
  | case2 next positive long =>
    subst power
    exact Nat.pow_le_pow_right (by decide) small

/-- The buffer has the length of a power of two, up to the longest one that the engine can make. -/
structure Buffer where
  bytes : Bytes
  capacity : ∃ k ≤ 34, bytes.length = 2 ^ k

namespace Buffer

theorem length_le (buffer : Buffer) : buffer.bytes.length ≤ 2 ^ 34 := by
  obtain ⟨k, small, length⟩ := buffer.capacity
  rw [length]
  exact Nat.pow_le_pow_right (by decide) small

theorem length_pos (buffer : Buffer) : 0 < buffer.bytes.length := by
  obtain ⟨k, -, length⟩ := buffer.capacity
  rw [length]
  exact Nat.two_pow_pos k

/-- `new Uint8Array(next)` and `grown.set(this.bytes)`. -/
def extend (buffer : Buffer) (next : ℕ) (more : buffer.bytes.length ≤ next)
    (capacity : ∃ k ≤ 34, next = 2 ^ k) :
    Buffer :=
  ⟨buffer.bytes ++ List.replicate (next - buffer.bytes.length) 0, by
    rwa [List.length_append, List.length_replicate, Nat.add_sub_cancel' more]⟩

theorem capacity_grown (buffer : Buffer) {requiredBytes : ℕ}
    (small : grown buffer.bytes.length requiredBytes buffer.length_pos ≤
      CapnpDeno.MessageBuilder.MAX_BYTE_LENGTH) :
    ∃ k ≤ 34, grown buffer.bytes.length requiredBytes buffer.length_pos = 2 ^ k := by
  obtain ⟨k, -, length⟩ := buffer.capacity
  obtain ⟨j, power⟩ := grown_pow _ requiredBytes buffer.length_pos ⟨k, length⟩
  have below : (2 : ℕ) ^ j < 2 ^ 35 := by
    rw [← power]
    exact small.trans_lt (by decide)
  exact ⟨j, Nat.lt_succ_iff.1 ((Nat.pow_lt_pow_iff_right (by decide)).1 below), power⟩

def ensureCapacity (buffer : Buffer) (requiredBytes : ℕ) :
    Except Thrown { grown : Buffer // requiredBytes ≤ grown.bytes.length } :=
  if room : requiredBytes ≤ buffer.bytes.length then pure ⟨buffer, room⟩
  else
    let next := grown buffer.bytes.length requiredBytes buffer.length_pos
    if small : next ≤ CapnpDeno.MessageBuilder.MAX_BYTE_LENGTH then
      pure ⟨buffer.extend next (le_grown ..) (buffer.capacity_grown small), by
        rw [extend, List.length_append, List.length_replicate, Nat.add_sub_cancel' (le_grown ..)]
        exact requiredBytes_le_grown ..⟩
    else throw (invalidTypedArrayLength next)

/-- The buffer grows whenever the engine can make a buffer of the size at all, and keeps its
bytes. -/
theorem ensureCapacity_spec (buffer : Buffer) (requiredBytes : ℕ) :
    if requiredBytes ≤ 2 ^ 34 then
      ∃ grown, buffer.ensureCapacity requiredBytes = .ok grown ∧
        ∀ i < buffer.bytes.length, grown.1.bytes[i]? = buffer.bytes[i]?
    else ∃ e, buffer.ensureCapacity requiredBytes = .error e := by
  unfold ensureCapacity
  by_cases room : requiredBytes ≤ buffer.bytes.length
  · rw [if_pos (room.trans buffer.length_le)]
    simp only [dif_pos room]
    exact ⟨_, rfl, fun _ _ => rfl⟩
  · simp only [dif_neg room]
    obtain ⟨k, few, length⟩ := buffer.capacity
    by_cases small : requiredBytes ≤ 2 ^ 34
    · have below := grown_le _ requiredBytes buffer.length_pos length few small
      rw [if_pos small, dif_pos (below.trans (by decide))]
      exact ⟨_, rfl, fun i low => List.getElem?_append_left low⟩
    · rw [if_neg small]
      by_cases made : grown buffer.bytes.length requiredBytes buffer.length_pos ≤
          CapnpDeno.MessageBuilder.MAX_BYTE_LENGTH
      · obtain ⟨j, few, power⟩ := buffer.capacity_grown made
        have enough := requiredBytes_le_grown buffer.bytes.length requiredBytes buffer.length_pos
        rw [power] at enough
        exact absurd (enough.trans (Nat.pow_le_pow_right (by decide) few)) small
      · rw [dif_neg made]
        exact ⟨_, rfl⟩

end Buffer

/-! ## The builder -/

structure MessageBuilder where
  buffer : Buffer
  words : ℕ
  room : words * WORD_BYTES ≤ buffer.bytes.length

namespace MessageBuilder

def new : MessageBuilder := ⟨⟨List.replicate 8 0, 3, by decide, rfl⟩, 1, by decide⟩

/-- The index of the first of the new words, with the builder that has them. -/
def allocWords (b : MessageBuilder) (count : ℕ) : Except Thrown (ℕ × MessageBuilder) := do
  let grown ← b.buffer.ensureCapacity ((b.words + count) * WORD_BYTES)
  return (b.words, ⟨grown.1, b.words + count, grown.2⟩)

/-- The builder with `xs` written over the bytes from `byteOffset` on. -/
def set (b : MessageBuilder) (byteOffset : ℕ) (xs : Bytes)
    (fits : byteOffset + xs.length ≤ b.words * WORD_BYTES) :
    MessageBuilder :=
  have same : (splice b.buffer.bytes byteOffset xs).length = b.buffer.bytes.length :=
    length_splice (fits.trans b.room)
  ⟨⟨splice b.buffer.bytes byteOffset xs, by rw [same]; exact b.buffer.capacity⟩, b.words, by
    rw [same]; exact b.room⟩

/-- `requireWordRange` and `setBigUint64`. -/
def setWord (b : MessageBuilder) (wordIndex value : ℕ) (context : String) :
    Except Thrown MessageBuilder :=
  if fits : wordIndex + 1 ≤ b.words then
    pure (b.set (wordIndex * WORD_BYTES) (toLE 8 value) (by
      rw [length_toLE, WORD_BYTES]
      omega))
  else throw (plainError s!"{context} out of range: word={wordIndex} count=1 words={b.words}")

def writeWord (b : MessageBuilder) (wordIndex value : ℕ) := b.setWord wordIndex value "writeWord"

def writeBigUint64 (b : MessageBuilder) (byteWordIndex value : ℕ) :=
  b.setWord byteWordIndex value "writeBigUint64"

def setStructPointer (b : MessageBuilder) (pointerWord targetWord dataWordCount pointerCount : ℕ) :
    Except Thrown MessageBuilder := do
  let offset : ℤ := (targetWord : ℤ) - (pointerWord + 1)
  let encoded ← encodeSigned30 offset
  b.writeWord pointerWord (encoded <<< 2 ||| (dataWordCount &&& 0xffff) <<< 32 |||
    (pointerCount &&& 0xffff) <<< 48)

def setListPointer (b : MessageBuilder) (pointerWord targetWord elementSize count : ℕ) :
    Except Thrown MessageBuilder := do
  let offset : ℤ := (targetWord : ℤ) - (pointerWord + 1)
  let encoded ← encodeSigned30 offset
  b.writeWord pointerWord (1 ||| encoded <<< 2 ||| (elementSize &&& 0x7) <<< 32 |||
    (count &&& 0x1fff_ffff) <<< 35)

def writeTextPointer (b : MessageBuilder) (pointerWord : ℕ) (value : String) :
    Except Thrown MessageBuilder := do
  let encoded := CapnpDeno.MessageBuilder.utf8Encode value
  let bytesWithNul := encoded.length + 1
  let (targetWord, b) ← b.allocWords (bytesToWords bytesWithNul)
  let startByte := targetWord * WORD_BYTES
  if fits : startByte + (encoded ++ [0]).length ≤ b.words * WORD_BYTES then
    (b.set startByte (encoded ++ [0]) fits).setListPointer pointerWord targetWord 2 bytesWithNul
  else throw (plainError
    s!"writeTextPointer out of range: offset={startByte} len={bytesWithNul} max={b.words * WORD_BYTES}")

def toMessageBytes (b : MessageBuilder) : Except Thrown Bytes := do
  let segmentBytes := b.words * WORD_BYTES
  if 8 + segmentBytes > CapnpDeno.MessageBuilder.MAX_BYTE_LENGTH then
    throw (invalidTypedArrayLength (8 + segmentBytes))
  return toLE 4 0 ++ toLE 4 b.words ++ b.buffer.bytes.take segmentBytes

end MessageBuilder

/-! ## The response -/

/-- The `id` of a file, which may be left out. -/
inductive ResponseId
  | absent
  | bigint (id : ℤ)
  | number (id : JsNumber)

structure PluginResponseFile where
  id : ResponseId
  filename : String
  content : String

def normalizeId : ResponseId → Except Thrown ℕ
  | .absent => pure 0
  | .bigint id =>
    if id < 0 ∨ id > 0xffff_ffff_ffff_ffff then throw
      (plainError s!"response file id is out of u64 range: {id}")
    else pure id.toNat
  | .number id =>
    if ¬ id.isInteger ∨ id.trunc < 0 ∨ id.trunc > MessageReader.MAX_SAFE_INTEGER then
      throw (plainError s!"response file id must be a non-negative safe integer: {id.toText}")
    else pure id.trunc.toNat

def elementDataWords : ℕ := 1
def elementPointerCount : ℕ := 2
def elementStrideWords : ℕ := elementDataWords + elementPointerCount

/-- The body of the loop over the files. -/
def encodeFile (builder : MessageBuilder) (elementWord : ℕ) (file : PluginResponseFile) :
    Except Thrown MessageBuilder := do
  let id ← normalizeId file.id
  let builder ← builder.writeBigUint64 elementWord id
  let builder ← builder.writeTextPointer (elementWord + 1) file.filename
  builder.writeTextPointer (elementWord + 2) file.content

/-- The list of the files, when there are any. -/
def encodeFiles (builder : MessageBuilder) (rootWord : ℕ) (files : List PluginResponseFile) :
    Except Thrown MessageBuilder := do
  let elementsWords := files.length * elementStrideWords
  let (listWord, builder) ← builder.allocWords (1 + elementsWords)
  let builder ← builder.setListPointer rootWord listWord 7 elementsWords
  let tagWord := files.length <<< 2 ||| elementDataWords <<< 32 ||| elementPointerCount <<< 48
  let builder ← builder.writeWord listWord tagWord
  files.zipIdx.foldlM (fun builder item =>
    encodeFile builder (listWord + 1 + item.2 * elementStrideWords) item.1) builder

def encodeCodeGeneratorResponse (files : List PluginResponseFile) : Except Thrown Bytes := do
  let (rootWord, builder) ← MessageBuilder.new.allocWords 1
  let builder ← builder.setStructPointer 0 rootWord 0 1
  let builder ← if files.length > 0 then encodeFiles builder rootWord files else pure builder
  builder.toMessageBytes

end CapnpDeno.PluginResponse
