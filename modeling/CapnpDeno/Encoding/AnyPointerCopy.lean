import CapnpDeno.Encoding.RuntimeMessage

/-!
# The bounded deep copy

`deepCopyAnyPointer` copies what a pointer leads to into a builder, charging a budget of work,
output words and depth; `encodeAnyPointerMessageIntoBuilder` moves such a copy into another message.
-/

namespace CapnpDeno

open ByteList

/-! ## Budgets -/

structure AnyPointerCopyOptions where
  maxWork : Option JsNumber
  maxOutputWords : Option JsNumber
  maxDepth : Option JsNumber

/-- `options = {}`. -/
def AnyPointerCopyOptions.default : AnyPointerCopyOptions := ⟨none, none, none⟩

structure AnyPointerCopyBudget where
  work : ℕ
  outputWords : ℕ
  maxDepth : ℕ
deriving DecidableEq

/-- `value ?? fallback`, checked. -/
def copyLimit (value : Option JsNumber) (fallback : ℕ) (name : String) : Except Thrown ℕ :=
  match value with
  | none => pure fallback
  | some x => do
    if x.isSafeInteger = false ∨ x.trunc < 0 then
      throw (protocolError s!"AnyPointer copy {name} must be a non-negative safe integer")
    return x.trunc.toNat

/-- The error of `chargeWork`. -/
def workLimitExceeded : Thrown := protocolError "AnyPointer copy work limit exceeded"

/-- The error of `chargeOutput`. -/
def outputLimitExceeded : Thrown := protocolError "AnyPointer copy output word limit exceeded"

/-- The error of a copy that runs too deep. -/
def depthLimitExceeded : Thrown := protocolError "AnyPointer copy nesting depth limit exceeded"

namespace AnyPointerCopyBudget

def chargeWork (budget : AnyPointerCopyBudget) (amount : ℕ) :
    Except Thrown AnyPointerCopyBudget := do
  if amount > budget.work then
    throw workLimitExceeded
  return { budget with work := budget.work - amount }

def chargeOutput (budget : AnyPointerCopyBudget) (amount : ℕ) :
    Except Thrown AnyPointerCopyBudget := do
  if amount > budget.outputWords then
    throw outputLimitExceeded
  return { budget with outputWords := budget.outputWords - amount }

/-- `new AnyPointerCopyBudget(options)`: every copied message owns its root slot. -/
def new (options : AnyPointerCopyOptions) : Except Thrown AnyPointerCopyBudget := do
  let work ← copyLimit options.maxWork (8 * 1024 * 1024) "maxWork"
  let outputWords ← copyLimit options.maxOutputWords (8 * 1024 * 1024) "maxOutputWords"
  let maxDepth ← copyLimit options.maxDepth 64 "maxDepth"
  (⟨work, outputWords, maxDepth⟩ : AnyPointerCopyBudget).chargeOutput 1

end AnyPointerCopyBudget

/-! ## The copy -/

def listDataWordsForAnyPointerCopy (elementSize elementCount : ℕ) : Except Thrown ℕ :=
  match elementSize with
  | 0 => pure 0
  | 1 => pure ((elementCount + 63) / 64)
  | 2 => pure (bytesToWords elementCount)
  | 3 => pure (bytesToWords (elementCount * 2))
  | 4 => pure (bytesToWords (elementCount * 4))
  | 5 => pure elementCount
  | 6 => pure elementCount
  | _ => throw (plainError s!"unsupported list element size for anyPointer copy: {elementSize}")

def copyWordsForAnyPointer (r : MessageReader) (srcSegmentId srcStartWord wordCount : ℕ)
    (b : MessageBuilder) (dstStartWord : ℕ) : Except Thrown MessageBuilder :=
  (List.range wordCount).foldlM (fun b i => do
    let word ← r.readWord srcSegmentId (srcStartWord + i : ℕ)
    b.writeWord (dstStartWord + i) word) b

/-- The copy with a number of levels left: `depth > budget.maxDepth` when there is none. -/
def deepCopyAnyPointer (r : MessageReader) :
    ℕ → ℕ → ℕ → MessageBuilder → ℕ → AnyPointerCopyBudget →
      Except Thrown (MessageBuilder × AnyPointerCopyBudget)
  | 0, _, _, _, _, _ => throw depthLimitExceeded
  | levels + 1, srcSegmentId, srcPointerWord, b, dstPointerWord, budget => do
    let budget ← budget.chargeWork 1
    let resolved ← r.readResolvedPointer srcSegmentId srcPointerWord
    if resolved.word = 0 ∧ resolved.contentWord = none then
      let b ← b.writeWord dstPointerWord 0
      return (b, budget)
    let kind := resolved.word &&& 3
    if kind = 3 then
      let b ← b.writeWord dstPointerWord resolved.word
      return (b, budget)
    if kind = 0 then
      match ← r.readStructPointer srcSegmentId srcPointerWord with
      | none => throw nullAccess
      | some ref =>
        let budget ← budget.chargeWork ref.dataWordCount
        let budget ← budget.chargeOutput (ref.dataWordCount + ref.pointerCount)
        let (start, b) := b.allocWords (ref.dataWordCount + ref.pointerCount)
        let b ← b.setStructPointer dstPointerWord start ref.dataWordCount ref.pointerCount
        let b ← copyWordsForAnyPointer r ref.segmentId ref.startWord ref.dataWordCount b start
        return ← (List.range ref.pointerCount).foldlM (fun (b, budget) i =>
          deepCopyAnyPointer r levels ref.segmentId (ref.startWord + ref.dataWordCount + i) b
            (start + ref.dataWordCount + i) budget) (b, budget)
    if kind ≠ 1 then
      throw (protocolError "AnyPointer copy received unresolved far pointer")
    match ← r.readListPointer srcSegmentId srcPointerWord with
    | none => throw nullAccess
    | some (.inlineComposite segmentId tagWord elementCount dataWordCount pointerCount
        wordsInElements) =>
      let budget ← budget.chargeWork elementCount
      let budget ← budget.chargeWork wordsInElements
      let budget ← budget.chargeOutput (1 + wordsInElements)
      let (start, b) := b.allocWords (1 + wordsInElements)
      let b ← b.setListPointer dstPointerWord start 7 wordsInElements
      let b ← copyWordsForAnyPointer r segmentId tagWord (1 + wordsInElements) b start
      let stride := dataWordCount + pointerCount
      if pointerCount = 0 then
        return (b, budget)
      (List.range elementCount).foldlM (fun state i =>
        (List.range pointerCount).foldlM (fun (b, budget) j =>
          let offset := 1 + i * stride + dataWordCount + j
          deepCopyAnyPointer r levels segmentId (tagWord + offset) b (start + offset) budget)
          state) (b, budget)
    | some (.flat segmentId startWord elementSize elementCount) =>
      let budget ← budget.chargeWork elementCount
      let words ← listDataWordsForAnyPointerCopy elementSize elementCount
      let budget ← budget.chargeWork words
      let budget ← budget.chargeOutput words
      let (start, b) := b.allocWords words
      let b ← b.setListPointer dstPointerWord start elementSize elementCount
      if elementSize = 6 then
        (List.range elementCount).foldlM (fun (b, budget) i =>
          deepCopyAnyPointer r levels segmentId (startWord + i) b (start + i) budget) (b, budget)
      else
        let b ← copyWordsForAnyPointer r segmentId startWord words b start
        return (b, budget)

def decodeAnyPointerMessageFromReader (r : MessageReader) (segmentId pointerWord : ℕ)
    (options : AnyPointerCopyOptions) : Except Thrown Bytes := do
  let budget ← AnyPointerCopyBudget.new options
  let (b, _) ← deepCopyAnyPointer r (budget.maxDepth + 1) segmentId pointerWord .new 0 budget
  b.toMessageBytes

/-! ## Moving a copy into a message -/

/-- `x & ~POINTER_OFFSET_MASK` on a word. -/
def clearOffset (word : ℕ) : ℕ := word &&& (0xffff_ffff_ffff_ffff ^^^ POINTER_OFFSET_MASK)

def rebaseCopiedAnyPointerRootPointer (sourceRootPointer copiedStartWord
      destinationPointerWord : ℕ) :
    Except Thrown ℕ := do
  if sourceRootPointer = 0 then
    return 0
  let kind := sourceRootPointer &&& 0x3
  if kind = 0 ∨ kind = 1 then
    let sourceOffset := signed30 ((sourceRootPointer >>> 2) &&& MASK_30)
    let sourceTargetWord := 1 + sourceOffset
    let destinationTargetWord := copiedStartWord + sourceTargetWord
    let destinationOffset := destinationTargetWord - (destinationPointerWord + 1)
    let encoded ← encodeSigned30 destinationOffset
    return clearOffset sourceRootPointer ||| encoded <<< 2
  if kind = 2 then
    throw (plainError "anyPointer message encoding does not support far-pointer roots")
  return sourceRootPointer

def encodeAnyPointerMessageIntoBuilder (b : MessageBuilder) (pointerWord : ℕ) (message : Bytes)
    (options : AnyPointerCopyOptions) : Except Thrown MessageBuilder := do
  let r ← MessageReader.ofBytes message
  let flatMessage ← decodeAnyPointerMessageFromReader r 0 0 options
  let flatSegment := flatMessage.drop 8
  let segmentWordCount := flatSegment.length / WORD_BYTES
  if segmentWordCount = 0 then
    return ← b.writeWord pointerWord 0
  let sourceRootPointer := readLE flatSegment 0 8
  if sourceRootPointer = 0 then
    return ← b.writeWord pointerWord 0
  let (copiedStartWord, b) := b.allocWords segmentWordCount
  let b ← (List.range segmentWordCount).foldlM (fun b i =>
    b.writeWord (copiedStartWord + i) (readLE flatSegment (i * WORD_BYTES) 8)) b
  let rebased ← rebaseCopiedAnyPointerRootPointer sourceRootPointer copiedStartWord pointerWord
  b.writeWord pointerWord rebased

end CapnpDeno
