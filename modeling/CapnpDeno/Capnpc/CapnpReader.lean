import CapnpDeno.Encoding.RuntimeMessage
import CapnpDeno.Lib.TextDecoder

/-!
# The code generator's reader

The plugin reads a CodeGeneratorRequest with a reader of its own: `CapnpReader` cuts the message
into segments and follows pointers, `StructReader` and `StructListReader` are positions in it,
counted in bytes.
-/

namespace CapnpDeno

open ByteList
open TextDecoder (textDecode)

/-! ## The message -/

structure CapnpReader where
  segments : List Bytes

namespace CapnpReader

/-- The payload loop of the constructor. -/
def takeSegments (bytes : Bytes) : ℕ → List ℕ → Except Thrown (List Bytes)
  | _, [] => pure []
  | cursor, sizeWords :: sizes => do
    let segBytes := sizeWords * WORD_BYTES
    if cursor + segBytes > bytes.length then
      throw (plainError "capnp message segment truncated")
    let rest ← takeSegments bytes (cursor + segBytes) sizes
    return slice bytes cursor segBytes :: rest

/-- `new CapnpReader(bytes)`. -/
def ofBytes (bytes : Bytes) : Except Thrown CapnpReader := do
  if bytes.length < 8 then
    throw (plainError "capnp message too short")
  let segmentCount := readLE bytes 0 4 + 1
  let headerWords := 1 + segmentCount + (if segmentCount % 2 = 0 then 1 else 0)
  let headerBytes := headerWords * 4
  if bytes.length < headerBytes then
    throw (plainError "capnp message header truncated")
  let segments ← takeSegments bytes headerBytes (segmentSizes bytes segmentCount)
  return ⟨segments⟩

def requireRange (segment : Bytes) (byteOffset : ℤ) (length : ℕ) (context : String) :
    Except Thrown Unit :=
  if byteOffset < 0 ∨ byteOffset + length > segment.length then
    throw
      (plainError
        s!"{context} out of bounds: offset={byteOffset} len={length} segment={segment.length}")
  else pure ()

def readWord (segment : Bytes) (byteOffset : ℤ) : Except Thrown ℕ := do
  requireRange segment byteOffset WORD_BYTES "readWord"
  return readLE segment byteOffset.toNat 8

def readWordAt (r : CapnpReader) (segmentId : ℕ) (byteOffset : ℤ) : Except Thrown ℕ :=
  match r.segments[segmentId]? with
  | some segment => readWord segment byteOffset
  | none => throw (plainError s!"missing segment {segmentId}")

/-- Part of a segment, seen in place. -/
structure Subarray where
  segmentId : ℕ
  byteOffset : ℤ
  bytes : Bytes
deriving DecidableEq

def readBytesAt (r : CapnpReader) (segmentId : ℕ) (byteOffset : ℤ) (len : ℕ) :
    Except Thrown Subarray :=
  match r.segments[segmentId]? with
  | some segment => do
    requireRange segment byteOffset len "readBytesAt"
    return ⟨segmentId, byteOffset, slice segment byteOffset.toNat len⟩
  | none => throw (plainError s!"missing segment {segmentId}")

structure ResolvedPointer where
  segmentId : ℕ
  pointerByteOffset : ℤ
  word : ℕ
deriving DecidableEq

/-- The first word of a double-far landing pad, and the tag behind it, with the position the tag is
read for. -/
def resolveDoubleFar (r : CapnpReader) (landingSegmentId : ℕ) (landingPadByteOffset : ℤ) :
    Except Thrown ResolvedPointer := do
  let pad0 ← r.readWordAt landingSegmentId landingPadByteOffset
  let pad0Kind := pad0 &&& 0x3
  if pad0Kind ≠ 2 then
    throw (plainError s!"double-far landing pad[0] must be far pointer, got kind={pad0Kind}")
  if (pad0 >>> 2) &&& 0x1 = 1 then
    throw (plainError "double-far landing pad[0] must be single-far pointer")
  let pad0OffsetWords := (pad0 >>> 3) &&& MASK_29
  let pad0SegmentId := (pad0 >>> 32) &&& 0xffff_ffff
  let word ← r.readWordAt landingSegmentId (landingPadByteOffset + WORD_BYTES)
  return ⟨pad0SegmentId, pad0OffsetWords * WORD_BYTES, word⟩

/-- The hop loop of `resolvePointer`, with the number of hops left. -/
def resolveHops (r : CapnpReader) : ℕ → ResolvedPointer → Except Thrown ResolvedPointer
  | 0, _ => throw (plainError "far pointer chain exceeded maximum hop count")
  | hops + 1, current => do
    let word := current.word
    if word &&& 0x3 ≠ 2 then
      return current
    let landingPadWord := (word >>> 3) &&& MASK_29
    let landingSegmentId := (word >>> 32) &&& 0xffff_ffff
    let landingPadByteOffset : ℤ := landingPadWord * WORD_BYTES
    if (word >>> 2) &&& 0x1 = 1 then
      let next ← r.resolveDoubleFar landingSegmentId landingPadByteOffset
      r.resolveHops hops next
    else
      let word ← r.readWordAt landingSegmentId landingPadByteOffset
      r.resolveHops hops ⟨landingSegmentId, landingPadByteOffset, word⟩

def resolvePointer (r : CapnpReader) (segmentId : ℕ) (pointerByteOffset : ℤ) :
    Except Thrown ResolvedPointer := do
  let word ← r.readWordAt segmentId pointerByteOffset
  r.resolveHops 8 ⟨segmentId, pointerByteOffset, word⟩

/-- The byte at which the offset of the word leads. -/
def ResolvedPointer.targetByteOffset (resolved : ResolvedPointer) : ℤ :=
  let offsetWords := signed30 ((resolved.word >>> 2) &&& MASK_30)
  (resolved.pointerByteOffset / WORD_BYTES + 1 + offsetWords) * WORD_BYTES

end CapnpReader

/-! ## Structs and lists -/

structure StructReader where
  segmentId : ℕ
  dataByteOffset : ℤ
  dataWordCount : ℕ
  pointerCount : ℕ
deriving DecidableEq

structure StructListReader where
  segmentId : ℕ
  elementsByteOffset : ℤ
  elementCount : ℕ
  dataWordCount : ℕ
  pointerCount : ℕ
deriving DecidableEq

/-- The struct that a resolved pointer other than null describes. -/
def StructReader.ofResolved (resolved : CapnpReader.ResolvedPointer) : StructReader :=
  let word := resolved.word
  ⟨resolved.segmentId, resolved.targetByteOffset, (word >>> 32) &&& 0xffff,
    (word >>> 48) &&& 0xffff⟩

namespace CapnpReader

def readStructPointer (r : CapnpReader) (segmentId : ℕ) (pointerByteOffset : ℤ) :
    Except Thrown StructReader := do
  let resolved ← r.resolvePointer segmentId pointerByteOffset
  let word := resolved.word
  if word = 0 then
    throw (plainError "null struct pointer")
  let kind := word &&& 0x3
  if kind ≠ 0 then
    throw (plainError s!"expected struct pointer, got kind={kind}")
  return StructReader.ofResolved resolved

def root (r : CapnpReader) : Except Thrown StructReader :=
  match r.segments[0]? with
  | none => throw (plainError "capnp message missing root segment")
  | some segment =>
    if segment.length < WORD_BYTES then
      throw (plainError "capnp message missing root segment")
    else r.readStructPointer 0 0

end CapnpReader

namespace StructReader

variable (reader : CapnpReader) (self : StructReader)

def pointerByteOffset (self : StructReader) (pointerIndex : ℕ) : Except Thrown ℤ :=
  if pointerIndex ≥ self.pointerCount then
    throw (plainError s!"pointer index out of range: {pointerIndex}")
  else pure (self.dataByteOffset + (self.dataWordCount * WORD_BYTES : ℕ) +
    (pointerIndex * WORD_BYTES : ℕ))

/-- What every pointer accessor begins with. -/
def resolve (pointerIndex : ℕ) : Except Thrown CapnpReader.ResolvedPointer := do
  let pointerByteOffset ← self.pointerByteOffset pointerIndex
  reader.resolvePointer self.segmentId pointerByteOffset

def readStruct (pointerIndex : ℕ) : Except Thrown (Option StructReader) := do
  let resolved ← self.resolve reader pointerIndex
  let word := resolved.word
  if word = 0 then
    return none
  let kind := word &&& 0x3
  if kind ≠ 0 then
    throw (plainError s!"expected struct pointer in pointer slot, got kind={kind}")
  return some (ofResolved resolved)

def readStructList (pointerIndex : ℕ) : Except Thrown (Option StructListReader) := do
  let resolved ← self.resolve reader pointerIndex
  let word := resolved.word
  if word = 0 then
    return none
  let kind := word &&& 0x3
  if kind ≠ 1 then
    throw (plainError s!"expected list pointer in pointer slot, got kind={kind}")
  let elementSize := (word >>> 32) &&& 0x7
  let elementCountOrWords := (word >>> 35) &&& 0x1fff_ffff
  let targetByteOffset := resolved.targetByteOffset
  if elementSize ≠ 7 then
    throw
      (plainError s!"expected inline-composite struct list (size=7), got elementSize={elementSize}")
  let tag ← reader.readWordAt resolved.segmentId targetByteOffset
  let tagKind := tag &&& 0x3
  if tagKind ≠ 0 then
    throw (plainError s!"inline-composite tag is not a struct pointer: kind={tagKind}")
  let elementCount := (tag >>> 2) &&& MASK_30
  let dataWordCount := (tag >>> 32) &&& 0xffff
  let pointerCount := (tag >>> 48) &&& 0xffff
  let elementsByteOffset := targetByteOffset + WORD_BYTES
  let strideWords := dataWordCount + pointerCount
  let totalBytes := strideWords * WORD_BYTES * elementCount
  let declaredBytes := elementCountOrWords * WORD_BYTES
  if totalBytes > declaredBytes then
    throw (plainError "inline-composite list size exceeds declared word count")
  return some ⟨resolved.segmentId, elementsByteOffset, elementCount, dataWordCount, pointerCount⟩

/-- A trailing NUL, cut off. -/
def trimmed (view : CapnpReader.Subarray) : CapnpReader.Subarray :=
  if view.bytes.getLast? = some 0 then { view with bytes := view.bytes.dropLast } else view

def readByteList (pointerIndex : ℕ) (trimNul : Bool) :
    Except Thrown (Option CapnpReader.Subarray) := do
  let resolved ← self.resolve reader pointerIndex
  let word := resolved.word
  if word = 0 then
    return none
  let kind := word &&& 0x3
  if kind ≠ 1 then
    throw (plainError s!"expected byte-list pointer, got kind={kind}")
  let elementSize := (word >>> 32) &&& 0x7
  if elementSize ≠ 2 then
    throw (plainError s!"expected byte-list element size 2, got {elementSize}")
  let elementCount := (word >>> 35) &&& 0x1fff_ffff
  let bytes ← reader.readBytesAt resolved.segmentId resolved.targetByteOffset elementCount
  return some (if trimNul then trimmed bytes else bytes)

def readText (pointerIndex : ℕ) : Except Thrown (Option String) := do
  let bytes ← self.readByteList reader pointerIndex true
  return bytes.map fun view => textDecode view.bytes

def readData (pointerIndex : ℕ) : Except Thrown (Option CapnpReader.Subarray) :=
  self.readByteList reader pointerIndex false

end StructReader

end CapnpDeno
