import CapnpDeno.Encoding.RuntimeModel
import CapnpDeno.Lib.Worklist

/-!
# Frame size and traversal limits

`validateCapnpFrame` cuts a frame into segments under the configured limits and then walks the
pointers from the root.  The pointer code is the validator's own and shares nothing with
`MessageReader`.  The walk is a worklist whose visited set holds packed keys.
-/

namespace CapnpDeno

open ByteList

namespace FrameLimits

/-! ## Limits -/

def POINTER_HOP_LIMIT : ℕ := 8
def DEFAULT_MAX_SEGMENT_COUNT : ℕ := 512
def DEFAULT_MAX_FRAME_BYTES : ℕ := 64 * 1024 * 1024
def DEFAULT_MAX_TRAVERSAL_WORDS : ℕ := 64 * 1024 * 1024 / 8
def DEFAULT_MAX_NESTING_DEPTH : ℕ := 64

structure CapnpFrameLimitsOptions where
  maxSegmentCount : Option JsNumber
  maxFrameBytes : Option JsNumber
  maxTraversalWords : Option JsNumber
  maxNestingDepth : Option JsNumber

/-- `limits = {}`. -/
def noLimits : CapnpFrameLimitsOptions := ⟨none, none, none, none⟩

/-- `n > (limit ?? fallback)`. -/
def exceeds (n : ℕ) (limit : Option JsNumber) (fallback : ℕ) : Bool :=
  match limit with
  | none => decide (fallback < n)
  | some x => JsNumber.natGt n x

/-- `limit ?? fallback` in an error text. -/
def limitText (limit : Option JsNumber) (fallback : ℕ) : String :=
  match limit with
  | none => toString fallback
  | some x => x.toText

def assertNonNegativeInteger (value : Option JsNumber) (name : String) : Except Thrown Unit :=
  match value with
  | none => pure ()
  | some x => do
    if ¬ x.isInteger ∨ x.trunc < 0 then
      throw (protocolError s!"{name} must be a non-negative integer")

/-! ## Words and pointers -/

def asSigned30 (raw : ℕ) : ℤ :=
  let value := raw &&& MASK_30
  if value &&& (1 <<< 29) ≠ 0 then (value : ℤ) - (1 <<< 30 : ℕ) else value

def wordsForFlatList (elementSize elementCount : ℕ) : Except Thrown ℕ :=
  match elementSize with
  | 0 => pure 0
  | 1 => pure ((elementCount + 63) / 64)
  | 2 => pure ((elementCount + 7) / WORD_BYTES)
  | 3 => pure ((elementCount + 3) / 4)
  | 4 => pure ((elementCount + 1) / 2)
  | 5 => pure elementCount
  | 6 => pure elementCount
  | _ => throw (protocolError s!"invalid list pointer elementSize={elementSize}")

def requireWordRange (segments : List Bytes) (segmentId : ℕ) (startWord : ℤ) (wordCount : ℕ)
    (context : String) : Except Thrown Unit :=
  match segments[segmentId]? with
  | none => throw (protocolError (context ++ s!" references missing segment {segmentId}"))
  | some segment => do
    if startWord < 0 then
      throw (protocolError (context ++ " has invalid word bounds"))
    let segmentWords := segment.length / WORD_BYTES
    if startWord + wordCount > segmentWords then
      throw (protocolError (context ++
        s!" out of range: segment={segmentId} start={startWord} words={wordCount}" ++
        s!" segmentWords={segmentWords}"))

def readWordAt (segments : List Bytes) (segmentId : ℕ) (wordIndex : ℤ) (context : String) :
    Except Thrown ℕ := do
  requireWordRange segments segmentId wordIndex 1 context
  pure (readLE (segments[segmentId]?.getD []) (wordIndex.toNat * WORD_BYTES) 8)

structure ResolvedPointer where
  segmentId : ℕ
  pointerWord : ℕ
  word : ℕ
deriving DecidableEq

/-- The hop loop of `resolvePointer`, with the number of hops left. -/
def resolveHops (segments : List Bytes) : ℕ → ℕ → ℕ → ℕ → Except Thrown ResolvedPointer
  | 0, _, _, _ => throw (protocolError "far pointer chain exceeded maximum hop count")
  | hops + 1, currentSegmentId, currentPointerWord, word => do
    let kind := word &&& 0x3
    if kind ≠ 2 then
      return ⟨currentSegmentId, currentPointerWord, word⟩
    let landingPadWord := (word >>> 3) &&& MASK_29
    let landingSegmentId := (word >>> 32) &&& 0xffff_ffff
    if (word >>> 2) &&& 0x1 ≠ 1 then
      let word ← readWordAt segments landingSegmentId landingPadWord "single-far landing pointer"
      resolveHops segments hops landingSegmentId landingPadWord word
    else
      requireWordRange segments landingSegmentId landingPadWord 2 "double-far landing pad"
      let pad0 ← readWordAt segments landingSegmentId landingPadWord "double-far landing pad[0]"
      let pad0Kind := pad0 &&& 0x3
      if pad0Kind ≠ 2 then
        throw (protocolError s!"double-far landing pad[0] must be far pointer, got kind={pad0Kind}")
      if (pad0 >>> 2) &&& 0x1 = 1 then
        throw (protocolError "double-far landing pad[0] must be a single-far pointer")
      let targetSegmentId := (pad0 >>> 32) &&& 0xffff_ffff
      let targetWord := (pad0 >>> 3) &&& MASK_29
      requireWordRange segments targetSegmentId targetWord 1 "double-far target pointer base"
      -- the tag takes the place of the pointer word, as if it stood at the content itself
      let word ← readWordAt segments landingSegmentId (landingPadWord + 1 : ℕ)
        "double-far landing pad[1]"
      resolveHops segments hops targetSegmentId targetWord word

def resolvePointer (segments : List Bytes) (segmentId pointerWord : ℕ) :
    Except Thrown ResolvedPointer := do
  let word ← readWordAt segments segmentId pointerWord "pointer word"
  resolveHops segments POINTER_HOP_LIMIT segmentId pointerWord word

/-! ## Parsing -/

structure ParsedCapnpFrame where
  segments : List Bytes
  totalWords : ℕ

def headerBytesOf (segmentCount : ℕ) : ℕ :=
  (1 + segmentCount + (if segmentCount % 2 = 0 then 1 else 0)) * 4

/-- `view.getUint32(4 + i * 4, true)` for each segment of the table. -/
def segmentWordsOf (frame : Bytes) (segmentCount : ℕ) : List ℕ :=
  (List.range segmentCount).map fun i => readLE frame (4 + i * 4) 4

/-- The number of segments a frame declares. -/
def segmentCountOf (frame : Bytes) : ℕ := readLE frame 0 4 + 1

/-- The number of words a frame declares. -/
def totalWordsOf (frame : Bytes) : ℕ := (segmentWordsOf frame (segmentCountOf frame)).sum

/-- The subarrays of the declared sizes, one after the other. -/
def cutSegments (frame : Bytes) : ℕ → List ℕ → List Bytes
  | _, [] => []
  | cursor, words :: sizes =>
    slice frame cursor (words * WORD_BYTES) :: cutSegments frame (cursor + words * WORD_BYTES) sizes

def parseFrame (frame : Bytes) (limits : CapnpFrameLimitsOptions) :
    Except Thrown ParsedCapnpFrame := do
  if frame.length < 4 then
    throw (protocolError "capnp frame is too short")
  assertNonNegativeInteger limits.maxSegmentCount "maxSegmentCount"
  assertNonNegativeInteger limits.maxFrameBytes "maxFrameBytes"
  assertNonNegativeInteger limits.maxTraversalWords "maxTraversalWords"
  assertNonNegativeInteger limits.maxNestingDepth "maxNestingDepth"
  let segmentCount := readLE frame 0 4 + 1
  if exceeds segmentCount limits.maxSegmentCount DEFAULT_MAX_SEGMENT_COUNT then
    throw (protocolError (s!"capnp frame segment count {segmentCount} exceeds configured limit " ++
      limitText limits.maxSegmentCount DEFAULT_MAX_SEGMENT_COUNT))
  let headerBytes := headerBytesOf segmentCount
  if frame.length < headerBytes then
    throw (protocolError "capnp frame header is truncated")
  let segmentWords := segmentWordsOf frame segmentCount
  let totalWords := segmentWords.sum
  if exceeds totalWords limits.maxTraversalWords DEFAULT_MAX_TRAVERSAL_WORDS then
    throw (protocolError (s!"capnp frame traversal words {totalWords} exceeds configured limit " ++
      limitText limits.maxTraversalWords DEFAULT_MAX_TRAVERSAL_WORDS))
  let totalBytes := headerBytes + totalWords * WORD_BYTES
  if exceeds totalBytes limits.maxFrameBytes DEFAULT_MAX_FRAME_BYTES then
    throw (protocolError (s!"capnp frame size {totalBytes} exceeds configured limit " ++
      limitText limits.maxFrameBytes DEFAULT_MAX_FRAME_BYTES))
  if frame.length < totalBytes then
    throw (protocolError "capnp frame payload is truncated")
  if frame.length > totalBytes then
    throw (protocolError
      s!"capnp frame has trailing bytes: declared={totalBytes} actual={frame.length}")
  return ⟨cutSegments frame headerBytes segmentWords, totalWords⟩

/-! ## The walk -/

structure PointerState where
  segmentId : ℕ
  pointerWord : ℕ
  depth : ℕ
deriving DecidableEq

/-- The key a state is remembered by. -/
def stateKey (state : PointerState) : ℕ :=
  state.segmentId <<< 40 ||| state.pointerWord <<< 8 ||| state.depth

/-- `depth + 1` on Numbers, which stands still at `2 ^ 53`. -/
def nextDepth (depth : ℕ) : ℕ := min (depth + 1) (2 ^ 53)

/-- The states of `count` adjacent pointers, in the order they are pushed. -/
def pointerStates (segmentId start count depth : ℕ) : List PointerState :=
  (List.range count).map fun i => ⟨segmentId, start + i, depth⟩

/-- One turn of the loop of `enforceNestingDepth`: check a state that was not seen before and push
the states of its target, the last of which is visited next. -/
def visit (segments : List Bytes) (maxDepth : Option JsNumber) (state : PointerState) :
    Except Thrown (List PointerState) := do
  let resolved ← resolvePointer segments state.segmentId state.pointerWord
  let word := resolved.word
  if word = 0 then
    return []
  if exceeds state.depth maxDepth DEFAULT_MAX_NESTING_DEPTH then
    throw (protocolError (s!"capnp frame nesting depth {state.depth} exceeds configured limit " ++
      limitText maxDepth DEFAULT_MAX_NESTING_DEPTH))
  let kind := word &&& 0x3
  if kind = 3 then
    return []
  if kind = 0 then
    let offsetWords := asSigned30 ((word >>> 2) &&& MASK_30)
    let dataWordCount := (word >>> 32) &&& 0xffff
    let pointerCount := (word >>> 48) &&& 0xffff
    let startWord : ℤ := resolved.pointerWord + 1 + offsetWords
    requireWordRange segments resolved.segmentId startWord (dataWordCount + pointerCount)
      "struct pointer target"
    return pointerStates resolved.segmentId (startWord.toNat + dataWordCount) pointerCount
      (nextDepth state.depth)
  if kind ≠ 1 then
    throw (protocolError s!"invalid pointer kind={kind}")
  let offsetWords := asSigned30 ((word >>> 2) &&& MASK_30)
  let elementSize := (word >>> 32) &&& 0x7
  let elementCount := (word >>> 35) &&& 0x1fff_ffff
  let startWord : ℤ := resolved.pointerWord + 1 + offsetWords
  if elementSize = 7 then
    requireWordRange segments resolved.segmentId startWord 1 "inline composite list tag"
    let tag ← readWordAt segments resolved.segmentId startWord "inline composite list tag"
    let tagKind := tag &&& 0x3
    if tagKind ≠ 0 then
      throw (protocolError s!"invalid inline composite list tag kind={tagKind}")
    let inlineElementCount := (tag >>> 2) &&& MASK_30
    let inlineDataWords := (tag >>> 32) &&& 0xffff
    let inlinePointerCount := (tag >>> 48) &&& 0xffff
    let strideWords := inlineDataWords + inlinePointerCount
    if strideWords * inlineElementCount > elementCount then
      throw (protocolError "inline composite list payload exceeds declared word count")
    requireWordRange segments resolved.segmentId (startWord + 1) elementCount
      "inline composite list payload"
    if inlinePointerCount > 0 then
      return (List.range inlineElementCount).flatMap fun elementIndex =>
        pointerStates resolved.segmentId
          (startWord.toNat + 1 + elementIndex * strideWords + inlineDataWords) inlinePointerCount
          (nextDepth state.depth)
    return []
  let wordCount ← wordsForFlatList elementSize elementCount
  requireWordRange segments resolved.segmentId startWord wordCount "list pointer target"
  if elementSize = 6 then
    return pointerStates resolved.segmentId startWord.toNat elementCount (nextDepth state.depth)
  return []

/-- The pending stack and the visited set. -/
def walk (segments : List Bytes) (maxDepth : Option JsNumber) :
    Worklist PointerState ℕ Thrown where
  key := stateKey
  expand := fun state => List.reverse <$> visit segments maxDepth state

/-- More turns than the loop can take: a key is expanded at most once. -/
def maxTurns (segments : List Bytes) : ℕ :=
  let words := (segments.map List.length).sum
  1 + 2 ^ 53 * segments.length * words * (words + 1)

def enforceNestingDepth (segments : List Bytes) (maxDepth : Option JsNumber) :
    Except Thrown Unit :=
  if segments.length = 0 ∨ (segments.head?.getD []).length < WORD_BYTES then pure ()
  else
    match (walk segments maxDepth).run (maxTurns segments) [⟨0, 0, 1⟩] [] with
    | some result => result.map fun _ => ()
    | none => throw stackOverflow

def validateCapnpFrame (frame : Bytes) (limits : CapnpFrameLimitsOptions) : Except Thrown Unit := do
  let parsed ← parseFrame frame limits
  enforceNestingDepth parsed.segments limits.maxNestingDepth
  if exceeds parsed.totalWords limits.maxTraversalWords DEFAULT_MAX_TRAVERSAL_WORDS then
    throw (protocolError
      (s!"capnp frame traversal words {parsed.totalWords} exceeds configured limit " ++
      limitText limits.maxTraversalWords DEFAULT_MAX_TRAVERSAL_WORDS))

end FrameLimits

end CapnpDeno
