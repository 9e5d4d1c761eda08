import CapnpDeno.Rpc.Server.Bridge

/-!
# Client calls

What the three client adapters share: the options of a call, the frames they send, and what they
make of a Return.  The contents of params and the method ordinal pass through the adapters unread
and are left out.
-/

namespace CapnpDeno

structure RpcFinishOptions where
  releaseResultCaps : Option Bool
  requireEarlyCancellation : Option Bool
deriving DecidableEq

/-- No option given. -/
def RpcFinishOptions.default : RpcFinishOptions := ⟨none, none⟩

/-- `signal` says that there is an abort signal. -/
structure RpcClientCallOptions where
  signal : Bool
  timeoutMs : Option ℕ
  autoFinish : Option Bool
  finish : Option RpcFinishOptions
  interfaceId : Option ℕ
  paramsCapTable : Option (List RpcCapDescriptor)
  target : Option RpcCallTarget
deriving DecidableEq

namespace RpcClientCallOptions

/-- No option given. -/
def default : RpcClientCallOptions := ⟨false, none, none, none, none, none, none⟩

/-- `options.autoFinish ?? true`. -/
def finishes (options : RpcClientCallOptions) : Bool := options.autoFinish.getD true

end RpcClientCallOptions

structure RpcClientCallResult where
  answerId : ℕ
  contentBytes : Option Bytes
  capTable : List RpcCapDescriptor
  releaseParamCaps : Bool
  noFinishNeeded : Bool
deriving DecidableEq

/-- What an operation of a client resolves with. -/
inductive ClientAnswer
  | done
  | capability (capabilityIndex : ℕ)
  | result (result : RpcClientCallResult)
deriving DecidableEq

/-- A frame that a client sends. -/
inductive ClientFrame
  | bootstrap (questionId : ℕ)
  | call (questionId interfaceId : ℕ) (target : RpcCallTarget)
    (paramsCapTable : List RpcCapDescriptor)
  | finish (questionId : ℕ) (releaseResultCaps requireEarlyCancellation : Bool)
  | release (id referenceCount : ℕ)
deriving DecidableEq

/-- The frame finishes the question. -/
def ClientFrame.isFinishOf (questionId : ℕ) : ClientFrame → Bool
  | .finish id _ _ => id = questionId
  | _ => false

def ensureU32 (value : ℕ) (name : String) : Except Thrown ℕ :=
  if 0xffff_ffff < value then throw (protocolError s!"{name} must be a u32, got {value}")
    else return value

/-- The message of `encodeFinishFrame`, from the options of an explicit finish. -/
def finishFrame (questionId : ℕ) (options : RpcFinishOptions) : ClientFrame :=
  .finish questionId (options.releaseResultCaps.getD true)
    (options.requireEarlyCancellation.getD false)

/-- The options of a Finish for a question whose Return carried the capabilities. -/
def finishOptionsForReturn (message : RpcReturnMessage) (options : RpcFinishOptions) :
    RpcFinishOptions :=
  { options with
    releaseResultCaps := some (options.releaseResultCaps.getD (message.capTable.length = 0)) }

/-- The options of a Finish for a question whose wait has failed. -/
def finishOptionsAfterFailure (options : RpcFinishOptions) : RpcFinishOptions :=
  ⟨options.releaseResultCaps, some (options.requireEarlyCancellation.getD true)⟩

/-- `message.reason`, where there is one. -/
def RpcReturnKind.reason : RpcReturnKind → String
  | .results _ _ => ""
  | .exception reason => reason
  | .canceled => "rpc call canceled"

def requireRpcReturnResults (message : RpcReturnMessage) : Except Thrown RpcReturnMessage :=
  match message.kind with
  | .results _ _ => return message
  | kind => throw (protocolError s!"rpc call failed: {kind.reason}")

def RpcReturnMessage.contentBytes (message : RpcReturnMessage) : Option Bytes :=
  match message.kind with
  | .results content _ => content
  | _ => none

def toRpcCallResult (message : RpcReturnMessage) (contentBytes : Option Bytes) :
    RpcClientCallResult :=
  ⟨message.answerId, contentBytes, message.capTable, message.releaseParamCaps,
    message.noFinishNeeded⟩

def CAP_DESCRIPTOR_TAG_RECEIVER_HOSTED : ℕ := 3

def extractBootstrapCapabilityIndex (message : RpcReturnMessage) : Except Thrown ℕ :=
  match message.kind with
  | .results _ capTable =>
    match capTable.find? fun item =>
      item.tag = CAP_DESCRIPTOR_TAG_SENDER_HOSTED || item.tag =
        CAP_DESCRIPTOR_TAG_RECEIVER_HOSTED with
    | some cap => return cap.id
    | none => throw (protocolError "bootstrap result did not include a hosted capability")
  | kind => throw (protocolError s!"bootstrap failed: {kind.reason}")

/-- The references that the sender-hosted descriptors of a call grant, by capability. -/
abbrev ParamCapGrants := Table ℕ ℕ

def paramCapGrants (capTable : List RpcCapDescriptor) : ParamCapGrants :=
  capTable.foldl (fun grants descriptor =>
    if descriptor.tag = CAP_DESCRIPTOR_TAG_SENDER_HOSTED then
      grants.insert descriptor.id ((grants.lookup descriptor.id).getD 0 + 1)
    else grants) ∅

/-- The call carries a capability that the client hosts. -/
def hostsParamCaps (options : RpcClientCallOptions) : Bool :=
  (options.paramsCapTable.getD []).any (·.tag = CAP_DESCRIPTOR_TAG_SENDER_HOSTED)

/-- A Call that carries capabilities of the client. -/
def ClientFrame.grants : ClientFrame → Option (ℕ × ParamCapGrants)
  | .call questionId _ _ paramsCapTable =>
    if paramsCapTable.any (·.tag = CAP_DESCRIPTOR_TAG_SENDER_HOSTED) then
      some (questionId, paramCapGrants paramsCapTable)
    else none
  | _ => none

/-- Results, and so something to finish. -/
def RpcReturnMessage.isResults (message : RpcReturnMessage) : Bool :=
  match message.kind with
  | .results _ _ => true
  | _ => false

/-- A frame that comes in; `undecodable` is a Return that `decodeReturnFrame` rejects, `foreign` a
frame of another kind. -/
inductive InboundMessage
  | ret (message : RpcReturnMessage)
  | undecodable
  | foreign
deriving DecidableEq

/-- The question id that a Return names. -/
def InboundMessage.answerId : InboundMessage → Option ℕ
  | .ret message => some message.answerId
  | _ => none

abbrev OperationId := ℕ

/-- A `finish` under way, and how the operation ends after it; its own failure may be swallowed. -/
structure PendingFinish where
  questionId : ℕ
  options : RpcFinishOptions
  result : Except Thrown ClientAnswer
  swallows : Bool

namespace PendingFinish

def failed (finish : PendingFinish) (error : Thrown) : Except Thrown ClientAnswer :=
  if finish.swallows then finish.result else .error error

end PendingFinish

/-! ## What is made of a Return -/

variable {message : RpcReturnMessage}

theorem requireRpcReturnResults_results (results : message.isResults = true) :
    requireRpcReturnResults message = .ok message := by
  unfold RpcReturnMessage.isResults at results
  unfold requireRpcReturnResults
  cases kind : message.kind with
  | results => rfl
  | exception | canceled =>
    rw [kind] at results
    cases results

theorem requireRpcReturnResults_failure (failure : message.isResults = false) :
    ∃ error, requireRpcReturnResults message = .error error := by
  unfold RpcReturnMessage.isResults at failure
  unfold requireRpcReturnResults
  cases kind : message.kind with
  | exception reason => exact ⟨_, rfl⟩
  | canceled => exact ⟨_, rfl⟩
  | results =>
    rw [kind] at failure
    cases failure

/-- Without an explicit option, capabilities that were delivered are kept. -/
theorem releaseResultCaps_finishOptionsForReturn {options : RpcFinishOptions}
    (implicit : options.releaseResultCaps = none) :
    (finishOptionsForReturn message options).releaseResultCaps.getD true =
      message.capTable.isEmpty := by
  unfold finishOptionsForReturn
  rw [implicit]
  cases message.capTable <;> rfl

end CapnpDeno
