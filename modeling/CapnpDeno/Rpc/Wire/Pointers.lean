import CapnpDeno.Rpc.Wire.Segments

/-!
# Pointers of the RPC envelope

The RPC layer resolves and decodes the pointers of the envelope with functions of its own, over a
segment table.
-/

namespace CapnpDeno

open ByteList

namespace Wire

def FAR_POINTER_HOP_LIMIT : ℕ := 8

structure PointerLocation where
  segmentId : ℕ
  wordIndex : ℕ
deriving DecidableEq

structure ResolvedPointer where
  segmentId : ℕ
  pointerWord : ℤ
  word : ℕ
deriving DecidableEq

structure ByteListRef where
  segmentId : ℕ
  startWord : ℕ
  elementCount : ℕ
deriving DecidableEq

structure StructListRef where
  segmentId : ℕ
  elementsStartWord : ℕ
  elementCount : ℕ
  dataWordCount : ℕ
  pointerCount : ℕ
deriving DecidableEq

/-! ## Far pointer resolution -/

/-- The landing pad of a double-far pointer: the tag, placed one word before the target so that its
offset counts from there. -/
def resolveDoubleFar (table : SegmentTable) (landingSegmentId landingPadWord : ℕ) :
    Except Thrown ResolvedPointer := do
  ensureSegmentRange table landingSegmentId (landingPadWord * WORD_BYTES : ℕ) (2 * WORD_BYTES)
    "double-far landing pad"
  let pad0 ← readWordFromTable table landingSegmentId landingPadWord "double-far landing pad[0]"
  let pad0Kind := pad0 &&& 0x3
  if pad0Kind ≠ 2 then
    throw (protocolError s!"double-far landing pad[0] must be far pointer, got kind={pad0Kind}")
  if (pad0 >>> 2) &&& 0x1 = 1 then
    throw (protocolError "double-far landing pad[0] must be a single-far pointer")
  let targetSegment := (pad0 >>> 32) &&& 0xffff_ffff
  let targetWord := (pad0 >>> 3) &&& MASK_29
  ensureSegmentRange table targetSegment (targetWord * WORD_BYTES : ℕ) WORD_BYTES
    "double-far target word"
  let tagWord ← readWordFromTable table landingSegmentId (landingPadWord + 1 : ℕ)
      "double-far landing pad[1]"
  pure ⟨targetSegment, (targetWord : ℤ) - 1, tagWord⟩

/-- The hop loop of `resolvePointer`, with the number of hops left. -/
def resolveHops (table : SegmentTable) : ℕ → ℕ → ℕ → ℕ → Except Thrown ResolvedPointer
  | 0, _, _, _ => throw (protocolError "far pointer chain exceeded maximum hop count")
  | hops + 1, curSegment, curWord, word => do
    let kind := word &&& 0x3
    if kind ≠ 2 then
      return ⟨curSegment, curWord, word⟩
    let landingPadWord := (word >>> 3) &&& MASK_29
    let landingSegmentId := (word >>> 32) &&& 0xffff_ffff
    if (word >>> 2) &&& 0x1 ≠ 1 then
      let word ← readWordFromTable table landingSegmentId landingPadWord
          "single-far landing pointer"
      resolveHops table hops landingSegmentId landingPadWord word
    else resolveDoubleFar table landingSegmentId landingPadWord

def resolvePointer (table : SegmentTable) (segmentId pointerWord : ℕ) :
    Except Thrown ResolvedPointer := do
  let word ← readWordFromTable table segmentId pointerWord "resolvePointer"
  resolveHops table FAR_POINTER_HOP_LIMIT segmentId pointerWord word

/-! ## Pointer decoders -/

/-- `!seg || startWord < 0 || (startWord + words) * WORD_BYTES > seg.byteLength`. -/
def targetOutOfRange (table : SegmentTable) (segmentId : ℕ) (startWord : ℤ) (words : ℕ) : Bool :=
  match table.segments[segmentId]? with
  | none => true
  | some seg => decide (startWord < 0 ∨ (startWord + words) * WORD_BYTES > seg.length)

def decodeStructPointer (table : SegmentTable) (loc : PointerLocation) :
    Except Thrown (Option StructRef) := do
  let resolved ← resolvePointer table loc.segmentId loc.wordIndex
  let word := resolved.word
  if word = 0 then
    return none
  let kind := word &&& 0x3
  if kind ≠ 0 then
    throw (protocolError s!"expected struct pointer, got kind={kind}")
  let offsetWords := signed30 ((word >>> 2) &&& MASK_30)
  let dataWordCount := (word >>> 32) &&& 0xffff
  let pointerCount := (word >>> 48) &&& 0xffff
  let startWord := resolved.pointerWord + 1 + offsetWords
  let words := dataWordCount + pointerCount
  if targetOutOfRange table resolved.segmentId startWord words then
    throw (protocolError "struct pointer target out of range")
  return some ⟨resolved.segmentId, startWord.toNat, dataWordCount, pointerCount⟩

def decodeByteListPointer (table : SegmentTable) (loc : PointerLocation) :
    Except Thrown (Option ByteListRef) := do
  let resolved ← resolvePointer table loc.segmentId loc.wordIndex
  let word := resolved.word
  if word = 0 then
    return none
  let kind := word &&& 0x3
  if kind ≠ 1 then
    throw (protocolError s!"expected list pointer, got kind={kind}")
  let offsetWords := signed30 ((word >>> 2) &&& MASK_30)
  let elementSize := (word >>> 32) &&& 0x7
  let elementCount := (word >>> 35) &&& 0x1fff_ffff
  if elementSize ≠ 2 then
    throw (protocolError s!"expected byte list element size, got {elementSize}")
  let startWord := resolved.pointerWord + 1 + offsetWords
  let wordCount := (elementCount + 7) / WORD_BYTES
  if targetOutOfRange table resolved.segmentId startWord wordCount then
    throw (protocolError "byte list pointer target out of range")
  return some ⟨resolved.segmentId, startWord.toNat, elementCount⟩

def decodeStructListPointer (table : SegmentTable) (loc : PointerLocation) :
    Except Thrown (Option StructListRef) := do
  let resolved ← resolvePointer table loc.segmentId loc.wordIndex
  let word := resolved.word
  if word = 0 then
    return none
  let kind := word &&& 0x3
  if kind ≠ 1 then
    throw (protocolError s!"expected list pointer, got kind={kind}")
  let offsetWords := signed30 ((word >>> 2) &&& MASK_30)
  let elementSize := (word >>> 32) &&& 0x7
  if elementSize ≠ 7 then
    throw (protocolError s!"expected inline composite list pointer, got elementSize={elementSize}")
  let tagWord := resolved.pointerWord + 1 + offsetWords
  let tag ← readWordFromTable table resolved.segmentId tagWord "inline composite tag"
  let tagKind := tag &&& 0x3
  if tagKind ≠ 0 then
    throw (protocolError s!"invalid inline composite tag kind={tagKind}")
  let elementCount := (tag >>> 2) &&& MASK_30
  let dataWordCount := (tag >>> 32) &&& 0xffff
  let pointerCount := (tag >>> 48) &&& 0xffff
  return some ⟨resolved.segmentId, (tagWord + 1).toNat, elementCount, dataWordCount, pointerCount⟩

end Wire

end CapnpDeno
