import CapnpDeno.Encoding.RuntimeCaps
import CapnpDeno.Errors
import CapnpDeno.Lib.Fallible
import CapnpDeno.Lib.Table

/-!
# RpcServerBridge: state and operations

The registry of exported capabilities, the answer table and the operations on them.  The bridge is
an object on a heap that its callbacks share: `questions` holds every answer entry ever made, an
entry is known by its place in the list, and the answer table maps question ids to places.

Each question also records where the computation that owns its entry stands (`Stage`).  Between two
stages the source awaits, so other frames are processed there; a stage ends in one step of the
source.
-/

namespace CapnpDeno

/-! ## Messages -/

structure RpcCapDescriptor where
  tag : ℕ
  id : ℕ
deriving DecidableEq

def RPC_PROMISED_ANSWER_OP_TAG_GET_POINTER_FIELD : ℕ := 1

structure RpcPromisedAnswerOp where
  tag : ℕ
  pointerIndex : Option ℕ
deriving DecidableEq

inductive RpcCallTarget
  | importedCap (importedCap : ℕ)
  | promisedAnswer (questionId : ℕ) (transform : Option (List RpcPromisedAnswerOp))
deriving DecidableEq

structure RpcCallRequest where
  questionId : ℕ
  interfaceId : ℕ
  target : RpcCallTarget
deriving DecidableEq

structure RpcFinishRequest where
  questionId : ℕ
  releaseResultCaps : Bool
deriving DecidableEq

structure RpcReleaseRequest where
  id : ℕ
  referenceCount : ℕ
deriving DecidableEq

/-- The variants of a Return; `content` is absent where the frame carries an empty struct. -/
inductive RpcReturnKind
  | results (content : Option Bytes) (capTable : List RpcCapDescriptor)
  | exception (reason : String)
  | canceled
deriving DecidableEq

structure RpcReturnMessage where
  answerId : ℕ
  kind : RpcReturnKind
  releaseParamCaps : Bool
  noFinishNeeded : Bool
deriving DecidableEq

namespace RpcReturnMessage

def capTable (message : RpcReturnMessage) : List RpcCapDescriptor :=
  match message.kind with
  | .results _ capTable => capTable
  | _ => []

/-- The reason of a Return without results. -/
def reason (message : RpcReturnMessage) : String :=
  match message.kind with
  | .results _ _ => "cannot retain bootstrap answer"
  | .exception reason => reason
  | .canceled => "rpc call canceled"

end RpcReturnMessage

/-- What a handler answers. -/
structure RpcCallResponse where
  content : Option Bytes
  capTable : Option (List RpcCapDescriptor)
  releaseParamCaps : Option Bool
  noFinishNeeded : Option Bool
deriving DecidableEq

inductive RpcDispatchOutcome
  | results (response : RpcCallResponse)
  | exception (reason : String) (releaseParamCaps : Option Bool)
deriving DecidableEq

/-- The message of `encodeReturnExceptionFrame`. -/
def encodeReturnExceptionFrame (answerId : ℕ) (reason : String) (releaseParamCaps : Option Bool)
    (noFinishNeeded : Bool) : RpcReturnMessage :=
  ⟨answerId, .exception reason, releaseParamCaps.getD true, noFinishNeeded⟩

/-- The message of `encodeReturnResultsFrame`. -/
def encodeReturnResultsFrame (answerId : ℕ) (response : RpcCallResponse) : RpcReturnMessage :=
  ⟨answerId, .results response.content (response.capTable.getD []),
    response.releaseParamCaps.getD true, response.noFinishNeeded.getD false⟩

/-! ## State -/

structure RpcServerDispatch where
  interfaceId : ℕ
  interfaceIds : Option (List ℕ)
deriving DecidableEq

structure RegisteredDispatch where
  dispatch : RpcServerDispatch
  refCount : ℤ
  bootstrapGrantClaimed : Bool
  answerHoldCount : ℤ
deriving DecidableEq

abbrev Registry := Table ℕ RegisteredDispatch

/-- `promise` is what `resolveEntry` was given, `aborted` is `abortController.signal.aborted`, and
`evictionTimer` says that a timer for the entry is running. -/
structure AnswerTableEntry where
  inputFrameBytes : ℕ
  promise : Option RpcDispatchOutcome
  aborted : Bool
  outcome : Option RpcDispatchOutcome
  finished : Bool
  evictionTimer : Bool
  pipelineRefCount : ℤ
  evictionAttempts : ℕ
  heldCapabilityIndexes : Option (List ℕ)
deriving DecidableEq

def AnswerTableEntry.new (inputFrameBytes : ℕ) : AnswerTableEntry :=
  ⟨inputFrameBytes, none, false, none, false, false, 0, 0, none⟩

/-- The capability indexes an entry holds, none or some. -/
def AnswerTableEntry.held (entry : AnswerTableEntry) : List ℕ := entry.heldCapabilityIndexes.getD []

/-- An entry's identity: its place among the entries made. -/
abbrev EntryId := ℕ

/-- The optional members of a WASM peer's host-call interface. -/
structure RpcServerWasmHostAbi where
  respondHostCallReturnFrame : Bool
  supportsHostCallReturnFrame : Option Bool
  supportsParamCapRetention : Option Bool
deriving DecidableEq

/-- How a call came in, and so where its Return goes. -/
inductive CallPath
  | frame
  | host (abi : RpcServerWasmHostAbi)
deriving DecidableEq

/-- Who made the entry. -/
inductive Owner
  | call (request : RpcCallRequest) (path : CallPath)
  | bootstrap
  | observed
deriving DecidableEq

/-- Where the computation that owns an entry stands. -/
inductive Stage
  /-- No computation runs: none has started, or it is over. -/
  | idle
  /-- `#dispatchPipelinedCall` awaits the promise of the entry its target named. -/
  | waiting (parent : EntryId) (transform : Option (List RpcPromisedAnswerOp))
  /-- `#dispatchToCapability` awaits the handler; a pipelined call then lets go of its parent. -/
  | dispatching (capabilityIndex : ℕ) (parent : Option EntryId)
  /-- `#completeCall` is about to get the outcome of `#dispatchCall`. -/
  | dispatched (outcome : RpcDispatchOutcome)
  /-- The host-call responder is about to get the result of `#completeCall`. -/
  | responding (result : Except Thrown (Option RpcReturnMessage))
  /-- `handleFrame` awaits `onBootstrap`. -/
  | bootstrapping

structure Question where
  questionId : ℕ
  owner : Owner
  stage : Stage
  entry : AnswerTableEntry

/-- The limits of a bridge; `none` is `null` for the byte limit and `Infinity` for the others. -/
structure RpcServerBridgeOptions where
  maxRetainedInputFrameBytes : Option ℕ
  nextCapabilityIndex : ℕ
  maxAnswerTableSize : Option ℕ
  answerEvictionTimeoutMs : Option ℕ
  maxEvictionRetries : Option ℕ
  onBootstrap : Bool
deriving DecidableEq

/-- `new RpcServerBridge()`, without options. -/
def RpcServerBridgeOptions.default : RpcServerBridgeOptions :=
  ⟨none, 0, some 4096, none, some 10, false⟩

structure RpcServerBridge where
  options : RpcServerBridgeOptions
  nextCapabilityIndex : ℕ
  closed : Bool
  retainedInputFrameBytes : ℤ
  rejectedInputFrames : ℕ
  dispatchByCapability : Registry
  answerTable : Table ℕ EntryId
  questions : List Question

namespace RpcServerBridge

/-- The fields as the constructor sets them, which refuses a limit of no bytes to retain. -/
def initial (options : RpcServerBridgeOptions) : RpcServerBridge :=
  ⟨options, options.nextCapabilityIndex, false, 0, 0, ∅, ∅, []⟩

/-! ## Entries -/

def updateQuestion (b : RpcServerBridge) (i : EntryId) (f : Question → Question) :
    RpcServerBridge :=
  { b with questions := b.questions.modify i f }

def updateEntry (b : RpcServerBridge) (i : EntryId) (f : AnswerTableEntry → AnswerTableEntry) :
    RpcServerBridge :=
  b.updateQuestion i fun q => { q with entry := f q.entry }

def setStage (b : RpcServerBridge) (i : EntryId) (stage : Stage) : RpcServerBridge :=
  b.updateQuestion i fun q => { q with stage := stage }

/-- `this.#answerTable.delete(questionId)`. -/
def deleteAnswer (b : RpcServerBridge) (questionId : ℕ) : RpcServerBridge :=
  { b with answerTable := b.answerTable.erase questionId }

/-- `this.#answerTable.get(questionId) === entry`. -/
def retains (b : RpcServerBridge) (questionId : ℕ) (i : EntryId) : Prop :=
  b.answerTable.lookup questionId = some i

instance (b : RpcServerBridge) (questionId : ℕ) (i : EntryId) :
    Decidable (b.retains questionId i) :=
  inferInstanceAs (Decidable (_ = _))

/-! ## Capabilities -/

def exportCapability (b : RpcServerBridge) (dispatch : RpcServerDispatch)
    (capabilityIndex : Option ℕ) (referenceCount : ℤ) : RpcServerBridge × Except Thrown ℕ :=
  if b.closed then (b, throw (sessionError "rpc server bridge is closed"))
  else
    let index := capabilityIndex.getD b.nextCapabilityIndex
    let b := { b with nextCapabilityIndex := if capabilityIndex = none then index + 1
      else b.nextCapabilityIndex }
    if (b.dispatchByCapability.lookup index).isSome then
      (b, throw (protocolError s!"capability {index} already has a registered server dispatch"))
    else if referenceCount < 0 then
      (b,
        throw
          (protocolError s!"referenceCount must be a non-negative integer, got {referenceCount}"))
    else
      ({ b with
          dispatchByCapability :=
            b.dispatchByCapability.insert index ⟨dispatch, referenceCount, false, 0⟩ },
        return index)

def retainCapability (b : RpcServerBridge) (capabilityIndex : ℕ) (referenceCount : ℤ) :
    RpcServerBridge × Except Thrown Unit :=
  if referenceCount ≤ 0 then
    (b, throw (protocolError s!"referenceCount must be a positive integer, got {referenceCount}"))
  else
    match b.dispatchByCapability.lookup capabilityIndex with
    | none => (b, throw (protocolError s!"unknown capability {capabilityIndex}"))
    | some registered =>
      let registered := { registered with refCount := registered.refCount + referenceCount }
      ({ b with dispatchByCapability := b.dispatchByCapability.insert capabilityIndex registered },
        return ())

/-- The registration after an update: it is deleted once neither references nor holds remain. -/
def settleRegistration (registry : Registry) (capabilityIndex : ℕ)
    (registered : RegisteredDispatch) :
    Registry :=
  if registered.refCount ≤ 0 ∧ registered.answerHoldCount ≤ 0 then registry.erase capabilityIndex
  else registry.insert capabilityIndex registered

/-- The second component says whether the capability is registered afterwards. -/
def releaseCapability (b : RpcServerBridge) (capabilityIndex : ℕ) (referenceCount : ℤ) :
    RpcServerBridge × Except Thrown Bool :=
  if referenceCount ≤ 0 then
    (b, throw (protocolError s!"referenceCount must be a positive integer, got {referenceCount}"))
  else
    match b.dispatchByCapability.lookup capabilityIndex with
    | none => (b, return false)
    | some registered =>
      if registered.refCount < referenceCount then
        (b, throw (protocolError
          s!"release referenceCount {referenceCount} exceeds current refCount {registered.refCount} for capability {capabilityIndex}"))
      else
        let registered := { registered with refCount := registered.refCount - referenceCount }
        ({ b with dispatchByCapability :=
          settleRegistration b.dispatchByCapability capabilityIndex registered },
          return ¬ (registered.refCount ≤ 0 ∧ registered.answerHoldCount ≤ 0))

/-- One senderHosted occurrence of a registered capability in a Return. -/
def grant (bootstrap : Bool) (registered : RegisteredDispatch) : RegisteredDispatch :=
  { registered with
    refCount :=
      if !bootstrap || registered.bootstrapGrantClaimed || registered.refCount = 0 then
        registered.refCount + 1
      else registered.refCount
    bootstrapGrantClaimed := registered.bootstrapGrantClaimed || bootstrap
    answerHoldCount := registered.answerHoldCount + 1 }

/-- The loop body: the registry and the indexes held so far. -/
def trackDescriptor (bootstrap : Bool) (tracked : Registry × List ℕ)
    (descriptor : RpcCapDescriptor) :
    Registry × List ℕ :=
  if descriptor.tag ≠ CAP_DESCRIPTOR_TAG_SENDER_HOSTED then tracked
  else
    match tracked.1.lookup descriptor.id with
    | none => tracked
    | some registered =>
      (tracked.1.insert descriptor.id (grant bootstrap registered), tracked.2 ++ [descriptor.id])

/-- The registry after the loop over a Return's capTable, and the indexes held. -/
def tracked (registry : Registry) (capTable : List RpcCapDescriptor) (bootstrap : Bool) :
    Registry × List ℕ :=
  capTable.foldl (trackDescriptor bootstrap) (registry, [])

/-- `if (held) entry.heldCapabilityIndexes = held`. -/
def hold (indexes : List ℕ) (entry : AnswerTableEntry) : AnswerTableEntry :=
  if indexes = [] then entry else { entry with heldCapabilityIndexes := some indexes }

def trackReturnedCapabilities (b : RpcServerBridge) (i : EntryId) (capTable : List RpcCapDescriptor)
    (bootstrap : Bool) : RpcServerBridge :=
  let tracked := tracked b.dispatchByCapability capTable bootstrap
  { b.updateEntry i (hold tracked.2) with dispatchByCapability := tracked.1 }

/-- The end of one hold. -/
def dropHold (releaseWireRefs : Bool) (registered : RegisteredDispatch) : RegisteredDispatch :=
  { registered with
    answerHoldCount := max (registered.answerHoldCount - 1) 0
    refCount :=
      if releaseWireRefs ∧ registered.refCount > 0 then registered.refCount - 1
      else registered.refCount }

/-- The loop body. -/
def releaseHeld (releaseWireRefs : Bool) (registry : Registry) (capabilityIndex : ℕ) : Registry :=
  match registry.lookup capabilityIndex with
  | none => registry
  | some registered =>
    settleRegistration registry capabilityIndex (dropHold releaseWireRefs registered)

/-- What the entry holds, nothing for no entry. -/
def heldAt (b : RpcServerBridge) (i : EntryId) : List ℕ :=
  (b.questions[i]?.map (·.entry.held)).getD []

/-- `entry.heldCapabilityIndexes = undefined`. -/
def unhold (entry : AnswerTableEntry) : AnswerTableEntry :=
  { entry with heldCapabilityIndexes := none }

def releaseAnswerHeldCapabilities (b : RpcServerBridge) (i : EntryId) (releaseWireRefs : Bool) :
    RpcServerBridge :=
  { b.updateEntry i unhold with
    dispatchByCapability := (b.heldAt i).foldl (releaseHeld releaseWireRefs)
      b.dispatchByCapability }

end RpcServerBridge

end CapnpDeno
