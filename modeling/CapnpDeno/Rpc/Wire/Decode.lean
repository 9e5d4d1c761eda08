import CapnpDeno.Lib.TextDecoder
import CapnpDeno.Rpc.Wire.Encode

/-!
# Decoding of RPC frames

The decoders of `decode.ts` over the pointers of the envelope.
-/

namespace CapnpDeno

open ByteList TextDecoder

namespace Wire

/-! ## Messages -/

structure RpcCallRequest where
  questionId : ℕ
  interfaceId : ℕ
  methodId : ℕ
  target : RpcCallTarget
  targetImportedCap : Option ℕ
  paramsContent : Bytes
  paramsCapTable : List RpcCapDescriptor
deriving DecidableEq

structure RpcFinishRequest where
  questionId : ℕ
  releaseResultCaps : Bool
  requireEarlyCancellation : Bool
deriving DecidableEq

inductive RpcReturnVariant
  | results (contentBytes : Bytes) (capTable : List RpcCapDescriptor)
  | exception (reason : String)
  | canceled (reason : String)
deriving DecidableEq

structure RpcReturnMessage where
  answerId : ℕ
  kind : RpcReturnVariant
  releaseParamCaps : Bool
  noFinishNeeded : Bool
deriving DecidableEq

/-! ## Fields -/

/-- `readU16InStruct`, `readU32InStruct` and `readU64InStruct`. -/
def readUintInStruct (len : ℕ) (context : String) (table : SegmentTable) (structRef : StructRef)
    (byteOffset : ℕ) :
    Except Thrown ℕ := do
  if byteOffset + len > structRef.dataWordCount * WORD_BYTES then
    throw (protocolError s!"{context} out of range: {byteOffset}")
  let absolute := structRef.startWord * WORD_BYTES + byteOffset
  let seg := table.segments[structRef.segmentId]?.getD []
  if absolute + len > seg.length then
    throw
      (protocolError s!"{context} out of range: offset={absolute} len={len} segment={seg.length}")
  return readLE seg absolute len

def readU16InStruct := readUintInStruct 2 "readU16InStruct"

def readU32InStruct := readUintInStruct 4 "readU32InStruct"

def readU64InStruct := readUintInStruct 8 "readU64InStruct"

def pointerWordIndex (structRef : StructRef) (pointerOffset : ℕ) : Except Thrown PointerLocation :=
  if pointerOffset ≥ structRef.pointerCount then
    throw (protocolError s!"pointer offset out of range: {pointerOffset}")
  else pure ⟨structRef.segmentId, structRef.startWord + structRef.dataWordCount + pointerOffset⟩

/-- A pointer of a struct, followed to a struct. -/
def decodeStructField (table : SegmentTable) (structRef : StructRef) (pointerOffset : ℕ) :
    Except Thrown (Option StructRef) := do
  let loc ← pointerWordIndex structRef pointerOffset
  decodeStructPointer table loc

/-- `if (!ref) throw new ProtocolError(message)`. -/
def orThrow {α : Type} (message : String) : Option α → Except Thrown α
  | some a => pure a
  | none => throw (protocolError message)

def readTextFromPointer (table : SegmentTable) (loc : PointerLocation) :
    Except Thrown (Option String) := do
  match ← decodeByteListPointer table loc with
  | none => return none
  | some list =>
    let seg := table.segments[list.segmentId]?.getD []
    let start := list.startWord * WORD_BYTES
    if start + list.elementCount > seg.length then
      throw (protocolError
        s!"readTextFromPointer out of range: offset={start} len={list.elementCount} segment={seg.length}")
    let bytes := slice seg start list.elementCount
    let payload := if bytes.getLast? = some 0 then bytes.dropLast else bytes
    return some (textDecode payload)

/-! ## Payloads -/

def asProtocolError (error : Thrown) (context : String) : Thrown :=
  if error.cls = .protocolError then error else protocolError s!"{context}: {error.message}"

def decodeThirdPartyHostedDescriptor (table : SegmentTable) (itemRef : StructRef) :
    Except Thrown (ℕ × Bytes) := do
  let nested ← decodeStructField table itemRef 0
  let nested ← orThrow "thirdPartyHosted descriptor pointer is null" nested
  let vineId ← readU32InStruct table nested 0
  let loc ← pointerWordIndex nested 0
  let contactList ← decodeByteListPointer table loc
  let contactList ← orThrow "thirdPartyHosted contact pointer is null" contactList
  let seg := table.segments[contactList.segmentId]?.getD []
  return (vineId, slice seg (contactList.startWord * 8) contactList.elementCount)

/-- The loop body of `decodeCapTableFromPayload`. -/
def decodeCapDescriptor (table : SegmentTable) (itemRef : StructRef) :
    Except Thrown RpcCapDescriptor := do
  let tag ← readU16InStruct table itemRef 0
  let id ← readU32InStruct table itemRef 4
  if tag = CAP_DESCRIPTOR_TAG_THIRD_PARTY_HOSTED then
    let (vineId, contact) ← decodeThirdPartyHostedDescriptor table itemRef
    return ⟨tag, id, some vineId, some contact⟩
  return ⟨tag, id, none, none⟩

/-- The elements of a list of structs, each read by `decode`. -/
def decodeElements {α : Type} (decode : StructRef → Except Thrown α) (list : StructListRef) :
    Except Thrown (List α) :=
  (List.range list.elementCount).mapM fun i =>
    decode ⟨list.segmentId, list.elementsStartWord + i * (list.dataWordCount + list.pointerCount),
      list.dataWordCount, list.pointerCount⟩

def decodeCapTableFromPayload (table : SegmentTable) (payloadPointerLoc : PointerLocation) :
    Except Thrown (List RpcCapDescriptor) := do
  match ← decodeStructListPointer table payloadPointerLoc with
  | none => return []
  | some capList => decodeElements (decodeCapDescriptor table) capList

/-- Content and capability table of a payload, as a call and results are read; without a payload,
the defaults. -/
def decodePayload (table : SegmentTable) (r : MessageReader) (context : String)
    (payload : Option StructRef) :
    Except Thrown (Bytes × List RpcCapDescriptor) :=
  match payload with
  | none => pure (EMPTY_STRUCT_MESSAGE, [])
  | some payload => do
    let contentPointer ← pointerWordIndex payload 0
    let content ← match decodeAnyPointerMessageFromReader r contentPointer.segmentId
        contentPointer.wordIndex .default with
      | .ok content => pure content
      | .error error => throw (asProtocolError error context)
    let loc ← pointerWordIndex payload 1
    let capTable ← decodeCapTableFromPayload table loc
    return (content, capTable)

/-! ## Call targets -/

/-- The loop body of `decodePromisedAnswerTransform`. -/
def decodePromisedAnswerOp (table : SegmentTable) (elemRef : StructRef) :
    Except Thrown RpcPromisedAnswerOp := do
  let tag ← readU16InStruct table elemRef 0
  if tag = RPC_PROMISED_ANSWER_OP_TAG_NOOP then
    return ⟨RPC_PROMISED_ANSWER_OP_TAG_NOOP, none⟩
  if tag = RPC_PROMISED_ANSWER_OP_TAG_GET_POINTER_FIELD then
    let pointerIndex ← readU16InStruct table elemRef 2
    return ⟨RPC_PROMISED_ANSWER_OP_TAG_GET_POINTER_FIELD, some pointerIndex⟩
  throw (protocolError s!"unsupported promisedAnswer op tag: {tag}")

def decodePromisedAnswerTransform (table : SegmentTable) (loc : PointerLocation) :
    Except Thrown (List RpcPromisedAnswerOp) := do
  match ← decodeStructListPointer table loc with
  | none => return []
  | some list => decodeElements (decodePromisedAnswerOp table) list

def decodeCallTarget (table : SegmentTable) (target : StructRef) : Except Thrown RpcCallTarget := do
  let targetTag ← readU16InStruct table target 4
  if targetTag = RPC_CALL_TARGET_TAG_IMPORTED_CAP then
    let importedCap ← readU32InStruct table target 0
    return .importedCap importedCap
  if targetTag = RPC_CALL_TARGET_TAG_PROMISED_ANSWER then
    let promisedRef ← decodeStructField table target 0
    let promisedRef ← orThrow "call target promisedAnswer pointer is null" promisedRef
    let questionId ← readU32InStruct table promisedRef 0
    let loc ← pointerWordIndex promisedRef 0
    let transform ← decodePromisedAnswerTransform table loc
    return .promisedAnswer questionId (some transform)
  throw (protocolError s!"unsupported call target tag: {targetTag}")

/-! ## Frames -/

def decodeRoot (table : SegmentTable) : Except Thrown StructRef := do
  let root ← decodeStructPointer table ⟨0, 0⟩
  orThrow "rpc message root pointer is null" root

def decodeRpcMessageTag (frame : Bytes) : Except Thrown ℕ := do
  let table ← segmentsFromFrame frame
  let root ← decodeRoot table
  readU16InStruct table root 0

/-- How every decoder starts: the struct of its variant. -/
def decodeVariant (table : SegmentTable) (messageTag : ℕ) (name : String) :
    Except Thrown StructRef := do
  let root ← decodeRoot table
  let tag ← readU16InStruct table root 0
  if tag ≠ messageTag then
    throw (protocolError s!"rpc message is not {name}")
  let variant ← decodeStructField table root 0
  orThrow s!"{name} payload pointer is null" variant

def decodeBootstrapRequestFrame (frame : Bytes) : Except Thrown ℕ := do
  let table ← segmentsFromFrame frame
  let bootstrap ← decodeVariant table RPC_MESSAGE_TAG_BOOTSTRAP "bootstrap"
  readU32InStruct table bootstrap 0

def decodeCallRequestFrame (frame : Bytes) : Except Thrown RpcCallRequest := do
  let table ← segmentsFromFrame frame
  let runtimeReader ← MessageReader.ofBytes frame
  let call ← decodeVariant table RPC_MESSAGE_TAG_CALL "call"
  let target ← decodeStructField table call 0
  let target ← orThrow "call target pointer is null" target
  let callTarget ← decodeCallTarget table target
  let payload ← decodeStructField table call 1
  let (paramsContent, paramsCapTable) ← decodePayload table runtimeReader
      "invalid call params content pointer" payload
  let questionId ← readU32InStruct table call 0
  let interfaceId ← readU64InStruct table call 8
  let methodId ← readU16InStruct table call 4
  let targetImportedCap := match callTarget with
    | .importedCap importedCap => some importedCap
    | .promisedAnswer _ _ => none
  return ⟨questionId, interfaceId, methodId, callTarget, targetImportedCap, paramsContent,
    paramsCapTable⟩

def decodeFinishFrame (frame : Bytes) : Except Thrown RpcFinishRequest := do
  let table ← segmentsFromFrame frame
  let finish ← decodeVariant table RPC_MESSAGE_TAG_FINISH "finish"
  let flags ← readU32InStruct table finish 4
  let questionId ← readU32InStruct table finish 0
  return ⟨questionId, flags &&& FINISH_RELEASE_RESULT_CAPS_FLAG_MASK = 0,
    flags &&& FINISH_REQUIRE_EARLY_CANCELLATION_WORKAROUND_FLAG_MASK = 0⟩

def decodeReleaseFrame (frame : Bytes) : Except Thrown RpcReleaseRequest := do
  let table ← segmentsFromFrame frame
  let release ← decodeVariant table RPC_MESSAGE_TAG_RELEASE "release"
  let id ← readU32InStruct table release 0
  let referenceCount ← readU32InStruct table release 4
  return ⟨id, referenceCount⟩

/-- `releaseParamCaps` and `noFinishNeeded`. -/
def decodeReturnFlags (table : SegmentTable) (ret : StructRef) : Except Thrown (Bool × Bool) := do
  let flags ← readU32InStruct table ret 4
  return (flags &&& RETURN_RELEASE_PARAM_CAPS_FLAG_MASK =
    0, flags &&& RETURN_NO_FINISH_NEEDED_FLAG_MASK ≠ 0)

def decodeReturnFrame (frame : Bytes) : Except Thrown RpcReturnMessage := do
  let table ← segmentsFromFrame frame
  let runtimeReader ← MessageReader.ofBytes frame
  let ret ← decodeVariant table RPC_MESSAGE_TAG_RETURN "return"
  let answerId ← readU32InStruct table ret 0
  let tag ← readU16InStruct table ret 6
  let (releaseParamCaps, noFinishNeeded) ← decodeReturnFlags table ret
  if tag = RETURN_TAG_CANCELED then
    return ⟨answerId, .canceled "rpc call canceled", releaseParamCaps, noFinishNeeded⟩
  if tag = RETURN_TAG_EXCEPTION then
    let ex ← decodeStructField table ret 0
    let ex ← orThrow "return.exception payload pointer is null" ex
    let loc ← pointerWordIndex ex 0
    let reason ← readTextFromPointer table loc
    return ⟨answerId, .exception (reason.getD ""), releaseParamCaps, noFinishNeeded⟩
  if tag = RETURN_TAG_RESULTS then
    let payload ← decodeStructField table ret 0
    let (contentBytes, capTable) ← decodePayload table runtimeReader
        "invalid return results content pointer" payload
    return ⟨answerId, .results contentBytes capTable, releaseParamCaps, noFinishNeeded⟩
  throw (protocolError s!"unsupported return tag: {tag}")

end Wire

end CapnpDeno
