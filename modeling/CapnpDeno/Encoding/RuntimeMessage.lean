import CapnpDeno.Encoding.RuntimeModel

/-!
# Message builder and reader primitives

`MessageBuilder` is one growing segment; `MessageReader` is a list of segments with bounds-checked
reads.  Offsets that the code computes by subtraction are integers here, and become naturals once a
range check has accepted them.
-/

namespace CapnpDeno

open ByteList

/-! ## The builder -/

/-- A segment under construction: `words` words and nothing else. -/
structure MessageBuilder where
  bytes : Bytes
  words : ℕ
  size : bytes.length = 8 * words

namespace MessageBuilder

theorem ext_bytes {b b' : MessageBuilder} (same : b.bytes = b'.bytes) : b = b' := by
  obtain ⟨bytes, words, size⟩ := b
  obtain ⟨bytes', words', size'⟩ := b'
  cases same
  obtain rfl : words = words' := by omega
  rfl

/-- An empty message with word 0 reserved for the root pointer. -/
def new : MessageBuilder := ⟨List.replicate 8 0, 1, rfl⟩

/-- The builder with `count` more words, all zero; the returned index is that of the first. -/
def allocWords (b : MessageBuilder) (count : ℕ) : ℕ × MessageBuilder :=
  (b.words, ⟨b.bytes ++ List.replicate (8 * count) 0, b.words + count, by
    rw [List.length_append, List.length_replicate, b.size]
    omega⟩)

def pointerWordIndex (structWord dataWordCount pointerOffset : ℕ) : ℕ :=
  structWord + dataWordCount + pointerOffset

/-- The segment with `xs` written over the bytes from `byteOffset` on. -/
def set (b : MessageBuilder) (byteOffset : ℕ) (xs : Bytes)
    (fits : byteOffset + xs.length ≤ 8 * b.words) : MessageBuilder :=
  ⟨splice b.bytes byteOffset xs, b.words, by
    rw [length_splice (by rwa [b.size]), b.size]⟩

def byteRangeError (b : MessageBuilder) (byteOffset length : ℕ) (context : String) : Thrown :=
  plainError s!"{context} out of range: offset={byteOffset} len={length} max={8 * b.words}"

/-- Range check and write. -/
def setBytes (b : MessageBuilder) (byteOffset : ℕ) (xs : Bytes) (context : String) :
    Except Thrown MessageBuilder :=
  if fits : byteOffset + xs.length ≤ 8 * b.words then pure (b.set byteOffset xs fits)
  else throw (b.byteRangeError byteOffset xs.length context)

def writeWord (b : MessageBuilder) (wordIndex word : ℕ) : Except Thrown MessageBuilder :=
  if fits : wordIndex + 1 ≤ b.words then
    pure (b.set (wordIndex * WORD_BYTES) (toLE 8 word) (by
      rw [length_toLE, WORD_BYTES]
      omega))
  else throw (plainError
    s!"writeWord out of range: word={wordIndex} count=1 words={b.words}")

/-- The low `w` bytes of an integer. -/
def lowBytes (w : ℕ) (value : ℤ) : Bytes := toLE w (value % (256 ^ w : ℕ)).toNat

def writeUint8 (b : MessageBuilder) (byteOffset : ℕ) (value : ℤ) :=
  b.setBytes byteOffset (lowBytes 1 value) "writeUint8"

def writeInt8 (b : MessageBuilder) (byteOffset : ℕ) (value : ℤ) :=
  b.setBytes byteOffset (lowBytes 1 value) "writeInt8"

def writeUint16 (b : MessageBuilder) (byteOffset : ℕ) (value : ℤ) :=
  b.setBytes byteOffset (lowBytes 2 value) "writeUint16"

def writeInt16 (b : MessageBuilder) (byteOffset : ℕ) (value : ℤ) :=
  b.setBytes byteOffset (lowBytes 2 value) "writeInt16"

def writeUint32 (b : MessageBuilder) (byteOffset : ℕ) (value : ℤ) :=
  b.setBytes byteOffset (lowBytes 4 value) "writeUint32"

def writeInt32 (b : MessageBuilder) (byteOffset : ℕ) (value : ℤ) :=
  b.setBytes byteOffset (lowBytes 4 value) "writeInt32"

def writeBigUint64 (b : MessageBuilder) (byteOffset : ℕ) (value : ℤ) :=
  b.setBytes byteOffset (lowBytes 8 value) "writeBigUint64"

def writeBigInt64 (b : MessageBuilder) (byteOffset : ℕ) (value : ℤ) :=
  b.setBytes byteOffset (lowBytes 8 value) "writeBigInt64"

def writeFloat32 (b : MessageBuilder) (byteOffset : ℕ) (value : JsNumber) :=
  b.setBytes byteOffset (toLE 4 value.toFloat32) "writeFloat32"

def writeFloat64 (b : MessageBuilder) (byteOffset : ℕ) (value : JsNumber) :=
  b.setBytes byteOffset (toLE 8 value.bits.toNat) "writeFloat64"

/-- `current | bit` or `current & ~bit` on a byte. -/
def withBit (current bitOffset : ℕ) (value : Bool) : ℕ :=
  if value then current ||| (1 <<< bitOffset)
  else current &&& (0xff ^^^ (1 <<< bitOffset))

def setBool (b : MessageBuilder) (byteOffset bitOffset : ℕ) (value : Bool) :
    Except Thrown MessageBuilder :=
  b.setBytes byteOffset (toLE 1 (withBit (readLE b.bytes byteOffset 1) bitOffset value)) "setBool"

def setStructPointer (b : MessageBuilder) (pointerWord targetWord dataWordCount pointerCount : ℕ) :
    Except Thrown MessageBuilder := do
  -- zero with offset zero is null, so an empty struct points at its own pointer
  let offset : ℤ := if dataWordCount = 0 ∧ pointerCount = 0 then -1
    else (targetWord : ℤ) - (pointerWord + 1)
  let encoded ← encodeSigned30 offset
  b.writeWord pointerWord (encoded <<< 2 ||| (dataWordCount &&& 0xffff) <<< 32 |||
    (pointerCount &&& 0xffff) <<< 48)

def setListPointer (b : MessageBuilder) (pointerWord targetWord elementSize count : ℕ) :
    Except Thrown MessageBuilder := do
  let offset : ℤ := (targetWord : ℤ) - (pointerWord + 1)
  let encoded ← encodeSigned30 offset
  b.writeWord pointerWord (1 ||| encoded <<< 2 ||| (elementSize &&& 0x7) <<< 32 |||
    (count &&& 0x1fff_ffff) <<< 35)

/-- `TextEncoder.encode`. -/
def utf8Encode (value : String) : Bytes := value.toByteArray.toList

def writeTextPointer (b : MessageBuilder) (pointerWord : ℕ) (value : String) :
    Except Thrown MessageBuilder := do
  let encoded := utf8Encode value
  let byteCount := encoded.length + 1
  let (targetWord, b) := b.allocWords (bytesToWords byteCount)
  let startByte := targetWord * WORD_BYTES
  let b ← b.setBytes startByte (encoded ++ [0]) "writeTextPointer"
  b.setListPointer pointerWord targetWord 2 byteCount

def writeDataPointer (b : MessageBuilder) (pointerWord : ℕ) (value : Bytes) :
    Except Thrown MessageBuilder := do
  let (targetWord, b) := b.allocWords (bytesToWords value.length)
  let startByte := targetWord * WORD_BYTES
  let b ← b.setBytes startByte value "writeDataPointer"
  b.setListPointer pointerWord targetWord 2 value.length

/-- The longest typed array of the engine: its buffers end below 32 GiB. -/
def MAX_BYTE_LENGTH : ℕ := 2 ^ 35 - 1

/-- The segment with a one-entry segment table in front. -/
def toMessageBytes (b : MessageBuilder) : Except Thrown Bytes := do
  let segmentBytes := b.words * WORD_BYTES
  if 8 + segmentBytes > MAX_BYTE_LENGTH then
    throw (invalidTypedArrayLength (8 + segmentBytes))
  return toLE 4 0 ++ toLE 4 b.words ++ b.bytes

end MessageBuilder

/-! ## References -/

structure StructRef where
  segmentId : ℕ
  startWord : ℕ
  dataWordCount : ℕ
  pointerCount : ℕ
deriving DecidableEq

inductive ListRef
  | flat (segmentId startWord elementSize elementCount : ℕ)
  | inlineComposite (segmentId tagWord elementCount dataWordCount pointerCount
      wordsInElements : ℕ)
deriving DecidableEq

structure ResolvedPointer where
  segmentId : ℕ
  pointerWord : ℤ
  word : ℕ
  /-- Explicit target of a double-far landing tag; a zero tag is a present struct. -/
  contentWord : Option ℕ
deriving DecidableEq

/-! ## The reader -/

structure MessageReader where
  segments : List Bytes
deriving DecidableEq

/-- `view.getUint32(4 + i * 4, true)` for each segment of the table. -/
def segmentSizes (bytes : Bytes) (segmentCount : ℕ) : List ℕ :=
  (List.range segmentCount).map fun i => readLE bytes (4 + i * 4) 4

namespace MessageReader

/-- Cut the payload into the declared segments. -/
def takeSegments (bytes : Bytes) : ℕ → List ℕ → Except Thrown (List Bytes)
  | _, [] => pure []
  | cursor, sizeWords :: sizes => do
    let segmentBytes := sizeWords * WORD_BYTES
    if cursor + segmentBytes > bytes.length then
      throw (plainError "segment payload is truncated")
    let rest ← takeSegments bytes (cursor + segmentBytes) sizes
    pure (slice bytes cursor segmentBytes :: rest)

/-- `new MessageReader(bytes)`. -/
def ofBytes (bytes : Bytes) : Except Thrown MessageReader := do
  if bytes.length < 8 then
    throw (plainError "message is too short")
  let segmentCount := readLE bytes 0 4 + 1
  let headerWords := 1 + segmentCount + (if segmentCount % 2 = 0 then 1 else 0)
  let headerBytes := headerWords * 4
  if bytes.length < headerBytes then
    throw (plainError "segment table is truncated")
  let segments ← takeSegments bytes headerBytes (segmentSizes bytes segmentCount)
  pure ⟨segments⟩

def segment (r : MessageReader) (segmentId : ℕ) : Except Thrown Bytes :=
  match r.segments[segmentId]? with
  | some bytes => pure bytes
  | none => throw (plainError s!"missing segment {segmentId}")

def requireWordRange (r : MessageReader) (segmentId : ℕ) (wordIndex : ℤ) (count : ℕ)
    (context : String) : Except Thrown Unit := do
  let bytes ← r.segment segmentId
  let segmentWords := bytes.length / WORD_BYTES
  if wordIndex < 0 ∨ wordIndex + count > segmentWords then
    throw (plainError (context ++
      s!" out of range: segment={segmentId} word={wordIndex} count={count} words={segmentWords}"))

def readWord (r : MessageReader) (segmentId : ℕ) (wordIndex : ℤ) : Except Thrown ℕ := do
  r.requireWordRange segmentId wordIndex 1 "readWord"
  let bytes ← r.segment segmentId
  pure (readLE bytes (wordIndex.toNat * WORD_BYTES) 8)

/-- The landing pad of a double-far pointer. -/
def resolveDoubleFar (r : MessageReader) (landingSegmentId landingPadWord : ℕ) :
    Except Thrown ResolvedPointer := do
  r.requireWordRange landingSegmentId landingPadWord 2 "double-far landing pad"
  let pad0 ← r.readWord landingSegmentId landingPadWord
  let pad0Kind := pad0 &&& 0x3
  if pad0Kind ≠ 2 then
    throw (plainError s!"double-far landing pad[0] must be far pointer, got kind {pad0Kind}")
  if (pad0 >>> 2) &&& 0x1 = 1 then
    throw (plainError "double-far landing pad[0] must be single-far pointer")
  let pad0Offset := (pad0 >>> 3) &&& MASK_29
  let pad0SegmentId := (pad0 >>> 32) &&& 0xffff_ffff
  let tag ← r.readWord landingSegmentId (landingPadWord + 1)
  pure ⟨pad0SegmentId, (pad0Offset : ℤ) - 1, tag, some pad0Offset⟩

/-- The hop loop of `resolvePointer`, with the number of hops left. -/
def resolveHops (r : MessageReader) : ℕ → ℕ → ℤ → ℕ → Except Thrown ResolvedPointer
  | 0, _, _, _ => throw (plainError "far pointer chain exceeded maximum hop count")
  | hops + 1, currentSegmentId, currentPointerWord, word => do
    if word &&& 0x3 ≠ 2 then
      return ⟨currentSegmentId, currentPointerWord, word, none⟩
    let landingPadWord := (word >>> 3) &&& MASK_29
    let landingSegmentId := (word >>> 32) &&& 0xffff_ffff
    if (word >>> 2) &&& 0x1 = 1 then
      r.resolveDoubleFar landingSegmentId landingPadWord
    else
      let word ← r.readWord landingSegmentId landingPadWord
      r.resolveHops hops landingSegmentId landingPadWord word

def resolvePointer (r : MessageReader) (segmentId : ℕ) (pointerWord : ℤ) :
    Except Thrown ResolvedPointer := do
  let word ← r.readWord segmentId pointerWord
  r.resolveHops 8 segmentId pointerWord word

def readResolvedPointer (r : MessageReader) (segmentId : ℕ) (pointerWord : ℤ) :=
  r.resolvePointer segmentId pointerWord

def readResolvedPointerWord (r : MessageReader) (segmentId : ℕ) (pointerWord : ℤ) :
    Except Thrown ℕ :=
  (·.word) <$> r.readResolvedPointer segmentId pointerWord

def readStructPointer (r : MessageReader) (segmentId : ℕ) (pointerWord : ℤ) :
    Except Thrown (Option StructRef) := do
  let resolved ← r.resolvePointer segmentId pointerWord
  let word := resolved.word
  if word = 0 ∧ resolved.contentWord = none then
    return none
  let kind := word &&& 0x3
  if kind ≠ 0 then
    throw (plainError s!"expected struct pointer, got kind {kind}")
  let offsetWords := signed30 ((word >>> 2) &&& MASK_30)
  if resolved.contentWord ≠ none ∧ offsetWords ≠ 0 then
    throw (protocolError "double-far struct tag must have zero offset")
  let dataWordCount := (word >>> 32) &&& 0xffff
  let pointerCount := (word >>> 48) &&& 0xffff
  let targetWord : ℤ := (resolved.contentWord.map Nat.cast).getD
    (resolved.pointerWord + 1 + offsetWords)
  r.requireWordRange resolved.segmentId targetWord (dataWordCount + pointerCount)
    "struct pointer target"
  return some ⟨resolved.segmentId, targetWord.toNat, dataWordCount, pointerCount⟩

def flatListWords (elementSize count : ℕ) : Except Thrown ℕ :=
  match elementSize with
  | 0 => pure 0
  | 1 => pure ((count + 63) / 64)
  | 2 => pure (bytesToWords count)
  | 3 => pure (bytesToWords (count * 2))
  | 4 => pure (bytesToWords (count * 4))
  | 5 => pure count
  | 6 => pure count
  | _ => throw (plainError s!"unsupported list element size: {elementSize}")

def readListPointer (r : MessageReader) (segmentId : ℕ) (pointerWord : ℤ) :
    Except Thrown (Option ListRef) := do
  let resolved ← r.resolvePointer segmentId pointerWord
  let word := resolved.word
  if word = 0 ∧ resolved.contentWord = none then
    return none
  let kind := word &&& 0x3
  if kind ≠ 1 then
    throw (plainError s!"expected list pointer, got kind {kind}")
  let offsetWords := signed30 ((word >>> 2) &&& MASK_30)
  let elementSize := (word >>> 32) &&& 0x7
  let count := (word >>> 35) &&& 0x1fff_ffff
  let targetWord := resolved.pointerWord + 1 + offsetWords
  if elementSize = 7 then
    r.requireWordRange resolved.segmentId targetWord 1 "inline composite tag"
    let tag ← r.readWord resolved.segmentId targetWord
    let tagKind := tag &&& 0x3
    if tagKind ≠ 0 then
      throw (plainError s!"invalid inline composite tag kind {tagKind}")
    let elementCount := (tag >>> 2) &&& MASK_30
    let dataWordCount := (tag >>> 32) &&& 0xffff
    let pointerCount := (tag >>> 48) &&& 0xffff
    let stride := dataWordCount + pointerCount
    if stride * elementCount > count then
      throw (plainError "inline composite payload exceeds declared word count")
    r.requireWordRange resolved.segmentId (targetWord + 1) count "inline composite payload"
    return some (.inlineComposite resolved.segmentId targetWord.toNat elementCount dataWordCount
      pointerCount count)
  let words ← flatListWords elementSize count
  r.requireWordRange resolved.segmentId targetWord words "list payload"
  return some (.flat resolved.segmentId targetWord.toNat elementSize count)

def pointerWordIndex (structRef : StructRef) (pointerOffset : ℕ) : Except Thrown ℕ :=
  if pointerOffset ≥ structRef.pointerCount then
    throw (plainError s!"pointer offset out of range: {pointerOffset}")
  else pure (structRef.startWord + structRef.dataWordCount + pointerOffset)

/-! ### Bounded reads -/

def MAX_SAFE_INTEGER : ℕ := 2 ^ 53 - 1

def requireDataByteRange (r : MessageReader) (segmentId byteOffset len maxLen : ℕ)
    (context : String) : Except Thrown Unit := do
  let bytes ← r.segment segmentId
  if byteOffset + len > bytes.length then
    throw (plainError (context ++ s!" segment range error: segment={segmentId} " ++
      s!"offset={byteOffset} len={len} segmentBytes={bytes.length}"))
  if byteOffset + len > byteOffset / WORD_BYTES * WORD_BYTES + maxLen then
    throw (plainError (context ++ " struct/list bounds exceeded"))

/-- The unsigned integer in `len` bytes, after the range check. -/
def readUintAt (r : MessageReader) (len segmentId byteOffset maxLen : ℕ) (context : String) :
    Except Thrown ℕ := do
  r.requireDataByteRange segmentId byteOffset len maxLen context
  let bytes ← r.segment segmentId
  pure (readLE bytes byteOffset len)

/-- The two's complement reading of `len` bytes. -/
def toSigned (len value : ℕ) : ℤ :=
  if 2 * value < 256 ^ len then value else (value : ℤ) - (256 ^ len : ℕ)

def readUint8At (r : MessageReader) := r.readUintAt 1
def readUint16At (r : MessageReader) := r.readUintAt 2
def readUint32At (r : MessageReader) := r.readUintAt 4
def readBigUint64At (r : MessageReader) := r.readUintAt 8

/-- The signed integer in `len` bytes, after the range check. -/
def readIntAt (r : MessageReader) (len segmentId byteOffset maxLen : ℕ) (context : String) :
    Except Thrown ℤ :=
  toSigned len <$> r.readUintAt len segmentId byteOffset maxLen context

def readInt8At (r : MessageReader) := r.readIntAt 1
def readInt16At (r : MessageReader) := r.readIntAt 2
def readInt32At (r : MessageReader) := r.readIntAt 4
def readBigInt64At (r : MessageReader) := r.readIntAt 8

def readFloat32At (r : MessageReader) (segmentId byteOffset maxLen : ℕ) (context : String) :
    Except Thrown JsNumber :=
  .ofFloat32 <$> r.readUintAt 4 segmentId byteOffset maxLen context

def readFloat64At (r : MessageReader) (segmentId byteOffset maxLen : ℕ) (context : String) :
    Except Thrown JsNumber :=
  (⟨UInt64.ofNat ·⟩) <$> r.readUintAt 8 segmentId byteOffset maxLen context

/-- What every in-struct accessor passes to the reader underneath. -/
def inStruct {α : Type} (readAt : ℕ → ℕ → ℕ → String → Except Thrown α) (structRef : StructRef)
    (byteOffset : ℕ) (context : String) : Except Thrown α :=
  readAt structRef.segmentId (structRef.startWord * WORD_BYTES + byteOffset)
    (structRef.dataWordCount * WORD_BYTES) context

def readUint8InStruct (r : MessageReader) (structRef : StructRef) (byteOffset : ℕ) :=
  inStruct r.readUint8At structRef byteOffset "readUint8InStruct"

def readInt8InStruct (r : MessageReader) (structRef : StructRef) (byteOffset : ℕ) :=
  inStruct r.readInt8At structRef byteOffset "readInt8InStruct"

def readUint16InStruct (r : MessageReader) (structRef : StructRef) (byteOffset : ℕ) :=
  inStruct r.readUint16At structRef byteOffset "readUint16InStruct"

def readInt16InStruct (r : MessageReader) (structRef : StructRef) (byteOffset : ℕ) :=
  inStruct r.readInt16At structRef byteOffset "readInt16InStruct"

def readUint32InStruct (r : MessageReader) (structRef : StructRef) (byteOffset : ℕ) :=
  inStruct r.readUint32At structRef byteOffset "readUint32InStruct"

def readInt32InStruct (r : MessageReader) (structRef : StructRef) (byteOffset : ℕ) :=
  inStruct r.readInt32At structRef byteOffset "readInt32InStruct"

def readBigUint64InStruct (r : MessageReader) (structRef : StructRef) (byteOffset : ℕ) :=
  inStruct r.readBigUint64At structRef byteOffset "readBigUint64InStruct"

def readBigInt64InStruct (r : MessageReader) (structRef : StructRef) (byteOffset : ℕ) :=
  inStruct r.readBigInt64At structRef byteOffset "readBigInt64InStruct"

def readFloat32InStruct (r : MessageReader) (structRef : StructRef) (byteOffset : ℕ) :=
  inStruct r.readFloat32At structRef byteOffset "readFloat32InStruct"

def readFloat64InStruct (r : MessageReader) (structRef : StructRef) (byteOffset : ℕ) :=
  inStruct r.readFloat64At structRef byteOffset "readFloat64InStruct"

def readBool (r : MessageReader) (structRef : StructRef) (bitOffset : ℕ) : Except Thrown Bool := do
  let value ← r.readUint8InStruct structRef (bitOffset / 8)
  pure (value &&& (1 <<< (bitOffset % 8)) ≠ 0)

def readBytes (r : MessageReader) (segmentId byteOffset len : ℕ) : Except Thrown Bytes := do
  let bytes ← r.segment segmentId
  if byteOffset + len > bytes.length then
    throw (plainError
      s!"readBytes out of range: segment={segmentId} offset={byteOffset} len={len}")
  pure (slice bytes byteOffset len)

/-- `STRICT_TEXT_DECODER.decode`: fatal, and a byte order mark is text like any other. -/
def strictDecode (bytes : Bytes) : Except Thrown String :=
  match String.fromUTF8? ⟨bytes.toArray⟩ with
  | some text => pure text
  | none => throw (protocolError "Text pointer contains invalid UTF-8")

def readTextPointer (r : MessageReader) (segmentId : ℕ) (pointerWord : ℤ) :
    Except Thrown (Option String) := do
  match ← r.readListPointer segmentId pointerWord with
  | none => return none
  | some (.flat segmentId startWord 2 elementCount) =>
    let bytes ← r.readBytes segmentId (startWord * WORD_BYTES) elementCount
    if bytes.getLast? ≠ some 0 then
      throw (protocolError "Text pointer must include a trailing NUL byte")
    return some (← strictDecode bytes.dropLast)
  | some _ => throw (plainError "expected byte list pointer for text")

def readDataPointer (r : MessageReader) (segmentId : ℕ) (pointerWord : ℤ) :
    Except Thrown (Option Bytes) := do
  match ← r.readListPointer segmentId pointerWord with
  | none => return none
  | some (.flat segmentId startWord 2 elementCount) =>
    return some (← r.readBytes segmentId (startWord * WORD_BYTES) elementCount)
  | some _ => throw (plainError "expected byte list pointer for data")

def readRootStruct (r : MessageReader) : Except Thrown StructRef := do
  match ← r.readStructPointer 0 0 with
  | some root => pure root
  | none => throw (plainError "root pointer is null")

end MessageReader

end CapnpDeno
