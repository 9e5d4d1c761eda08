import CapnpDeno.Encoding.AnyPointerCopy
import CapnpDeno.Rpc.Server.Bridge
import CapnpDeno.Rpc.Wire.Pointers

/-!
# Encoding of RPC frames

The frames of the RPC protocol are written word by word, with a builder of their own; only the
content of a payload goes through the copy of messages.  Numbers that a frame carries are naturals
here: `ensureU16`, `ensureU32` and `ensureU64` reject every other number.
-/

namespace CapnpDeno

open ByteList

namespace Wire

/-! ## Layout -/

abbrev RPC_MESSAGE_TAG_CALL : ℕ := 2
abbrev RPC_MESSAGE_TAG_RETURN : ℕ := 3
abbrev RPC_MESSAGE_TAG_FINISH : ℕ := 4
abbrev RPC_MESSAGE_TAG_RELEASE : ℕ := 6
abbrev RPC_MESSAGE_TAG_BOOTSTRAP : ℕ := 8

abbrev RPC_CALL_TARGET_TAG_IMPORTED_CAP : ℕ := 0
abbrev RPC_CALL_TARGET_TAG_PROMISED_ANSWER : ℕ := 1
abbrev RPC_PROMISED_ANSWER_OP_TAG_NOOP : ℕ := 0

abbrev RETURN_TAG_RESULTS : ℕ := 0
abbrev RETURN_TAG_EXCEPTION : ℕ := 1
abbrev RETURN_TAG_CANCELED : ℕ := 2

abbrev CAP_DESCRIPTOR_TAG_SENDER_HOSTED : ℕ := 1
abbrev CAP_DESCRIPTOR_TAG_THIRD_PARTY_HOSTED : ℕ := 5

abbrev RETURN_RELEASE_PARAM_CAPS_FLAG_MASK : ℕ := 1
abbrev RETURN_NO_FINISH_NEEDED_FLAG_MASK : ℕ := 2
abbrev FINISH_RELEASE_RESULT_CAPS_FLAG_MASK : ℕ := 1
abbrev FINISH_REQUIRE_EARLY_CANCELLATION_WORKAROUND_FLAG_MASK : ℕ := 2

/-- A frame whose root pointer is null. -/
def EMPTY_STRUCT_MESSAGE : Bytes := [0, 0, 0, 0, 1, 0, 0, 0, 0, 0, 0, 0, 0, 0, 0, 0]

/-! ## Requests -/

structure RpcCapDescriptor where
  tag : ℕ
  id : ℕ
  vineId : Option ℕ
  contact : Option Bytes
deriving DecidableEq

structure RpcCallFrameRequest where
  questionId : ℕ
  interfaceId : ℕ
  methodId : ℕ
  targetImportedCap : Option ℕ
  target : Option RpcCallTarget
  paramsContent : Option Bytes
  paramsCapTable : Option (List RpcCapDescriptor)

structure RpcReturnResultsFrameRequest where
  answerId : ℕ
  content : Option Bytes
  capTable : Option (List RpcCapDescriptor)
  releaseParamCaps : Option Bool
  noFinishNeeded : Option Bool

structure RpcReturnExceptionFrameRequest where
  answerId : ℕ
  reason : String
  releaseParamCaps : Option Bool
  noFinishNeeded : Option Bool

/-! ## Numbers -/

/-- `ensureU16`, `ensureU32` and `ensureU64`, by the number of bits. -/
def ensureUint (bits value : ℕ) (name : String) : Except Thrown ℕ :=
  if value < 2 ^ bits then pure value
  else throw (protocolError s!"{name} must be a u{bits}, got {value}")

def ensureU16 (value : ℕ) (name : String) := ensureUint 16 value name

def ensureU32 (value : ℕ) (name : String) := ensureUint 32 value name

def ensureU64 (value : ℕ) (name : String) := ensureUint 64 value name

def encodeSigned30 (value : ℤ) : Except Thrown ℕ :=
  if value < -(1 <<< 29 : ℕ) ∨ value > (1 <<< 29 : ℕ) - 1 then
    throw (protocolError s!"pointer offset out of signed30 range: {value}")
  else pure ((if value < 0 then value + (1 <<< 30 : ℕ) else value).toNat &&& 0x3fff_ffff)

/-! ## The builder -/

/-- The builder of `encode.ts` holds what a `MessageBuilder` holds. -/
abbrev RpcWireMessageBuilder := MessageBuilder

def wordRangeError (b : RpcWireMessageBuilder) (wordIndex : ℕ) (context : String) : Thrown :=
  protocolError s!"{context} out of range: word={wordIndex} count=1 words={b.words}"

def writeWord (b : RpcWireMessageBuilder) (wordIndex value : ℕ) :
    Except Thrown RpcWireMessageBuilder :=
  if fits : wordIndex + 1 ≤ b.words then
    pure (b.set (wordIndex * WORD_BYTES) (toLE 8 value) (by
      rw [length_toLE, WORD_BYTES]
      omega))
  else throw (wordRangeError b wordIndex "writeWord")

/-- `writeU16`, `writeU32` and `writeU64`: a number of `len` bytes inside a word. -/
def writeUint (len : ℕ) (context : String) (b : RpcWireMessageBuilder)
    (wordIndex byteOffset value : ℕ) :
    Except Thrown RpcWireMessageBuilder :=
  if inside : wordIndex + 1 ≤ b.words then
    if fits : byteOffset + len ≤ WORD_BYTES then
      pure (b.set (wordIndex * WORD_BYTES + byteOffset) (toLE len value) (by
        rw [length_toLE]
        rw [WORD_BYTES] at fits ⊢
        omega))
    else throw (protocolError s!"{context} byte offset out of range")
  else throw (wordRangeError b wordIndex context)

def writeU16 := writeUint 2 "writeU16"

def writeU32 := writeUint 4 "writeU32"

def writeU64 := writeUint 8 "writeU64"

def writeBytes (b : RpcWireMessageBuilder) (wordIndex byteOffset : ℕ) (value : Bytes) :
    Except Thrown RpcWireMessageBuilder :=
  if fits : wordIndex * WORD_BYTES + byteOffset + value.length ≤ 8 * b.words then
    pure (b.set (wordIndex * WORD_BYTES + byteOffset) value fits)
  else throw
    (protocolError (s!"writeBytes out of range: offset={wordIndex * WORD_BYTES + byteOffset} " ++
    s!"len={value.length} bytes={b.words * WORD_BYTES}"))

/-- Unlike that of `MessageBuilder`, with the offset of the target for an empty struct, too. -/
def setStructPointer (b : RpcWireMessageBuilder)
    (pointerWord targetWord dataWordCount pointerCount : ℕ) :
    Except Thrown RpcWireMessageBuilder := do
  let encoded ← encodeSigned30 ((targetWord : ℤ) - (pointerWord + 1))
  writeWord b pointerWord (encoded <<< 2 ||| (dataWordCount &&& 0xffff) <<< 32 |||
    (pointerCount &&& 0xffff) <<< 48)

def setListPointer (b : RpcWireMessageBuilder) (pointerWord targetWord elementSize count : ℕ) :
    Except Thrown RpcWireMessageBuilder := do
  let encoded ← encodeSigned30 ((targetWord : ℤ) - (pointerWord + 1))
  writeWord b pointerWord (1 ||| encoded <<< 2 ||| (elementSize &&& 0x7) <<< 32 |||
    (count &&& 0x1fff_ffff) <<< 35)

def inlineCompositeTag (elementCount dataWordCount pointerCount : ℕ) : Except Thrown ℕ := do
  let count ← ensureU32 elementCount "elementCount"
  let data ← ensureU16 dataWordCount "dataWordCount"
  let ptrs ← ensureU16 pointerCount "pointerCount"
  return (count &&& 0x3fff_ffff) <<< 2 ||| data <<< 32 ||| ptrs <<< 48

/-- A struct in new words, and the pointer to it. -/
def allocStruct (b : RpcWireMessageBuilder) (pointerWord dataWordCount pointerCount : ℕ) :
    Except Thrown (ℕ × RpcWireMessageBuilder) := do
  let (structWord, b) := b.allocWords (dataWordCount + pointerCount)
  let b ← setStructPointer b pointerWord structWord dataWordCount pointerCount
  return (structWord, b)

/-- How every frame starts: the message struct with the tag of the variant, and the struct of the
variant. -/
def newFrame (tag dataWordCount pointerCount : ℕ) : Except Thrown (ℕ × RpcWireMessageBuilder) := do
  let (messageWord, b) ← allocStruct .new 0 1 1
  let b ← writeU16 b messageWord 0 tag
  allocStruct b (messageWord + 1) dataWordCount pointerCount

/-! ## Payloads -/

/-- The loop body of `encodeCapTable`. -/
def encodeCapDescriptor (b : RpcWireMessageBuilder) (elemWord i : ℕ) (entry : RpcCapDescriptor) :
    Except Thrown RpcWireMessageBuilder := do
  let tag ← ensureU16 entry.tag s!"capTable[{i}].tag"
  let b ← writeU16 b elemWord 0 tag
  let id ← ensureU32 entry.id s!"capTable[{i}].id"
  let b ← writeU32 b elemWord 4 id
  if entry.tag = CAP_DESCRIPTOR_TAG_THIRD_PARTY_HOSTED then
    let vineId ← ensureU32 (entry.vineId.getD 0) s!"capTable[{i}].vineId"
    match entry.contact with
    | none => throw (protocolError s!"capTable[{i}]: thirdPartyHosted requires contact bytes")
    | some contact =>
      let (nested, b) ← allocStruct b (elemWord + 1) 1 1
      let b ← writeU32 b nested 0 vineId
      -- `>>> 3` works on the low 32 bits
      let (contactTarget, b) := b.allocWords ((contact.length + 7) % 2 ^ 32 / 8)
      let b ← writeBytes b contactTarget 0 contact
      setListPointer b (nested + 1) contactTarget 2 contact.length
  else return b

def encodeCapTable (b : RpcWireMessageBuilder) (listPointerWord : ℕ)
    (capTable : Option (List RpcCapDescriptor)) :
    Except Thrown RpcWireMessageBuilder := do
  let entries := capTable.getD []
  let count := entries.length
  let (tagWord, b) := b.allocWords (1 + count * 2)
  let b ← setListPointer b listPointerWord tagWord 7 (count * 2)
  let tag ← inlineCompositeTag count 1 1
  let b ← writeWord b tagWord tag
  entries.zipIdx.foldlM (fun b item => encodeCapDescriptor b (tagWord + 1 + item.2 * 2) item.2
    item.1) b

def normalizePayloadContent (content : Option Bytes) (fieldName : String) : Except Thrown Bytes :=
  match content with
  | none => pure EMPTY_STRUCT_MESSAGE
  | some [] => throw (protocolError s!"{fieldName} must be a framed Cap'n Proto message")
  | some content => pure content

def writePayloadContentPointer (b : RpcWireMessageBuilder) (contentPointerWord : ℕ)
    (content : Option Bytes) (fieldName : String) : Except Thrown RpcWireMessageBuilder := do
  let payload ← normalizePayloadContent content fieldName
  match encodeAnyPointerMessageIntoBuilder b contentPointerWord payload .default with
  | .ok b => return b
  | .error error =>
    throw (protocolError s!"{fieldName} is not a valid framed Cap'n Proto message: {error.message}")

/-- The payload of a call and of results: content and capability table. -/
def encodePayload (b : RpcWireMessageBuilder) (pointerWord : ℕ) (content : Option Bytes)
    (capTable : Option (List RpcCapDescriptor)) (fieldName : String) :
    Except Thrown RpcWireMessageBuilder := do
  let (payloadWord, b) ← allocStruct b pointerWord 0 2
  let b ← writePayloadContentPointer b payloadWord content fieldName
  encodeCapTable b (payloadWord + 1) capTable

/-! ## Call targets -/

def normalizePromisedAnswerOp (op : RpcPromisedAnswerOp) (name : String) :
    Except Thrown RpcPromisedAnswerOp :=
  if op.tag = RPC_PROMISED_ANSWER_OP_TAG_NOOP then pure ⟨RPC_PROMISED_ANSWER_OP_TAG_NOOP, none⟩
  else if op.tag = RPC_PROMISED_ANSWER_OP_TAG_GET_POINTER_FIELD then
    match op.pointerIndex with
    | none => throw (protocolError s!"{name}.pointerIndex is required for getPointerField")
    | some pointerIndex =>
      (fun pointerIndex => ⟨RPC_PROMISED_ANSWER_OP_TAG_GET_POINTER_FIELD, some pointerIndex⟩) <$>
        ensureU16 pointerIndex s!"{name}.pointerIndex"
  else throw (protocolError s!"{name}.tag is unsupported: {op.tag}")

def normalizeCallTarget (request : RpcCallFrameRequest) : Except Thrown RpcCallTarget :=
  match request.target with
  | some (.importedCap importedCap) => .importedCap <$> ensureU32 importedCap "target.importedCap"
  | some (.promisedAnswer questionId transform) => do
    let questionId ← ensureU32 questionId "target.promisedAnswer.questionId"
    match transform with
    | none => return .promisedAnswer questionId none
    | some ops =>
      let ops ← ops.zipIdx.mapM fun item =>
        normalizePromisedAnswerOp item.1 s!"target.promisedAnswer.transform[{item.2}]"
      return .promisedAnswer questionId (some ops)
  | none =>
    match request.targetImportedCap with
    | none =>
      throw (protocolError "encodeCallRequestFrame requires either target or targetImportedCap")
    | some importedCap => .importedCap <$> ensureU32 importedCap "targetImportedCap"

/-- The loop body of `encodePromisedAnswerTransform`. -/
def encodePromisedAnswerOp (b : RpcWireMessageBuilder) (elemWord i : ℕ) (op : RpcPromisedAnswerOp) :
    Except Thrown RpcWireMessageBuilder := do
  let normalized ← normalizePromisedAnswerOp op s!"promisedAnswer.transform[{i}]"
  let tag ← ensureU16 normalized.tag "promisedAnswer op tag"
  let b ← writeU16 b elemWord 0 tag
  if normalized.tag = RPC_PROMISED_ANSWER_OP_TAG_GET_POINTER_FIELD then
    let pointerIndex ← ensureU16 (normalized.pointerIndex.getD 0) "promisedAnswer op pointerIndex"
    writeU16 b elemWord 2 pointerIndex
  else return b

def encodePromisedAnswerTransform (b : RpcWireMessageBuilder) (pointerWord : ℕ)
    (transform : Option (List RpcPromisedAnswerOp)) : Except Thrown RpcWireMessageBuilder := do
  let ops := transform.getD []
  if ops.length = 0 then
    return ← writeWord b pointerWord 0
  let (tagWord, b) := b.allocWords (1 + ops.length)
  let b ← setListPointer b pointerWord tagWord 7 ops.length
  let tag ← inlineCompositeTag ops.length 1 0
  let b ← writeWord b tagWord tag
  ops.zipIdx.foldlM (fun b item => encodePromisedAnswerOp b (tagWord + 1 + item.2) item.2 item.1) b

/-- The part of `encodeCallRequestFrame` that writes the target. -/
def encodeCallTarget (b : RpcWireMessageBuilder) (pointerWord : ℕ) (target : RpcCallTarget) :
    Except Thrown RpcWireMessageBuilder := do
  let (targetWord, b) ← allocStruct b pointerWord 1 1
  match target with
  | .importedCap importedCap =>
    let b ← writeU32 b targetWord 0 importedCap
    writeU16 b targetWord 4 RPC_CALL_TARGET_TAG_IMPORTED_CAP
  | .promisedAnswer questionId transform =>
    let b ← writeU16 b targetWord 4 RPC_CALL_TARGET_TAG_PROMISED_ANSWER
    let (promisedWord, b) ← allocStruct b (targetWord + 1) 1 1
    let b ← writeU32 b promisedWord 0 questionId
    encodePromisedAnswerTransform b (promisedWord + 1) transform

/-! ## Frames -/

def encodeBootstrapRequestFrame (questionId : ℕ) : Except Thrown Bytes := do
  let questionId ← ensureU32 questionId "questionId"
  let (bootstrapWord, b) ← newFrame RPC_MESSAGE_TAG_BOOTSTRAP 1 1
  let b ← writeU32 b bootstrapWord 0 questionId
  b.toMessageBytes

def encodeCallRequestFrame (request : RpcCallFrameRequest) : Except Thrown Bytes := do
  let questionId ← ensureU32 request.questionId "questionId"
  let interfaceId ← ensureU64 request.interfaceId "interfaceId"
  let methodId ← ensureU16 request.methodId "methodId"
  let target ← normalizeCallTarget request
  let (callWord, b) ← newFrame RPC_MESSAGE_TAG_CALL 3 3
  let b ← writeU32 b callWord 0 questionId
  let b ← writeU16 b callWord 4 methodId
  -- the results go to the caller
  let b ← writeU16 b callWord 6 0
  let b ← writeU64 b (callWord + 1) 0 interfaceId
  let b ← encodeCallTarget b (callWord + 3) target
  let b ← encodePayload b (callWord + 4) request.paramsContent request.paramsCapTable
      "paramsContent"
  b.toMessageBytes

def encodeFinishFrame (questionId : ℕ) (releaseResultCaps requireEarlyCancellation : Option Bool) :
    Except Thrown Bytes := do
  let questionId ← ensureU32 questionId "questionId"
  let releaseResultCaps := releaseResultCaps.getD true
  let requireEarlyCancellation := requireEarlyCancellation.getD false
  let (finishWord, b) ← newFrame RPC_MESSAGE_TAG_FINISH 1 0
  let b ← writeU32 b finishWord 0 questionId
  let flags := if releaseResultCaps then 0 else FINISH_RELEASE_RESULT_CAPS_FLAG_MASK
  let flags := if requireEarlyCancellation then flags
    else flags ||| FINISH_REQUIRE_EARLY_CANCELLATION_WORKAROUND_FLAG_MASK
  let b ← writeU32 b finishWord 4 flags
  b.toMessageBytes

def encodeReleaseFrame (request : RpcReleaseRequest) : Except Thrown Bytes := do
  let id ← ensureU32 request.id "id"
  let referenceCount ← ensureU32 request.referenceCount "referenceCount"
  let (releaseWord, b) ← newFrame RPC_MESSAGE_TAG_RELEASE 1 0
  let b ← writeU32 b releaseWord 0 id
  let b ← writeU32 b releaseWord 4 referenceCount
  b.toMessageBytes

def encodeReturnFlags (b : RpcWireMessageBuilder) (returnWord : ℕ)
    (releaseParamCaps noFinishNeeded : Bool) :
    Except Thrown RpcWireMessageBuilder :=
  let flags := if releaseParamCaps then 0 else RETURN_RELEASE_PARAM_CAPS_FLAG_MASK
  let flags := if noFinishNeeded then flags ||| RETURN_NO_FINISH_NEEDED_FLAG_MASK else flags
  writeU32 b returnWord 4 flags

/-- The head of a Return, as both of its encoders write it. -/
def newReturn (answerId : ℕ) (releaseParamCaps noFinishNeeded : Bool) (tag : ℕ) :
    Except Thrown (ℕ × RpcWireMessageBuilder) := do
  let (returnWord, b) ← newFrame RPC_MESSAGE_TAG_RETURN 2 1
  let b ← writeU32 b returnWord 0 answerId
  let b ← encodeReturnFlags b returnWord releaseParamCaps noFinishNeeded
  let b ← writeU16 b returnWord 6 tag
  return (returnWord, b)

def encodeReturnResultsFrame (request : RpcReturnResultsFrameRequest) : Except Thrown Bytes := do
  let answerId ← ensureU32 request.answerId "answerId"
  let (returnWord, b) ← newReturn answerId (request.releaseParamCaps.getD true)
      (request.noFinishNeeded.getD false)
    RETURN_TAG_RESULTS
  let b ← encodePayload b (returnWord + 2) request.content request.capTable "content"
  b.toMessageBytes

def encodeReturnExceptionFrame (request : RpcReturnExceptionFrameRequest) :
    Except Thrown Bytes := do
  let answerId ← ensureU32 request.answerId "answerId"
  let reasonBytes := MessageBuilder.utf8Encode request.reason
  let (returnWord, b) ← newReturn answerId (request.releaseParamCaps.getD true)
      (request.noFinishNeeded.getD false)
    RETURN_TAG_EXCEPTION
  let (exWord, b) ← allocStruct b (returnWord + 2) 1 3
  let textElementCount := reasonBytes.length + 1
  let (textWord, b) := b.allocWords (bytesToWords textElementCount)
  let b ← setListPointer b (exWord + 1) textWord 2 textElementCount
  let b ← writeBytes b textWord 0 reasonBytes
  b.toMessageBytes

def encodeBootstrapResponseFrame (answerId capabilityIndex : ℕ) : Except Thrown Bytes := do
  let id ← ensureU32 capabilityIndex "capabilityIndex"
  encodeReturnResultsFrame ⟨answerId, none,
    some [⟨CAP_DESCRIPTOR_TAG_SENDER_HOSTED, id, none, none⟩], none, none⟩

end Wire

end CapnpDeno
