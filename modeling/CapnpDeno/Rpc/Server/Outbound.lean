import CapnpDeno.Lib.Runs
import CapnpDeno.Rpc.Client.ClientCall

/-!
# RpcServerOutboundClient

Calls that the server itself puts on the wire, and the transport that takes their Returns out of the
inbound frames.  A call is known by its place among the calls made; `pendingQuestions` maps question
ids to the calls whose promise a Return would settle.  A step is a stretch of the source between two
awaits.
-/

namespace CapnpDeno

abbrev CallId := ℕ

/-- Where a `callRaw` of the outbound client stands. -/
inductive OutboundStage
  /-- It awaits the race of the send and the close of the transport. -/
  | sending
  /-- It awaits the promise of its Return. -/
  | waiting
  /-- It awaits the send of its Finish. -/
  | finishing (result : Except Thrown RpcClientCallResult)
  | settled (result : Except Thrown RpcClientCallResult)

/-- `promise` is what the promise of the Return is settled with, `timer` says that a timer is
running. -/
structure OutboundCall where
  questionId : ℕ
  options : RpcClientCallOptions
  timer : Bool
  promise : Option (Except Thrown RpcReturnMessage)
  stage : OutboundStage

structure RpcServerOutboundClient where
  nextQuestionId : ℕ
  closed : Bool
  pendingQuestions : Table ℕ CallId
  calls : List OutboundCall

def DEFAULT_SERVER_QUESTION_START : ℕ := 0x4000_0000

/-- The outbound call that an inbound frame answers, if it is one, comes with the frame: the code
does not see it. -/
inductive OutboundEvent
  | callRaw (capabilityIndex : ℕ) (options : RpcClientCallOptions) (frameError : Option Thrown)
  | sendSettles (i : CallId) (failure : Option Thrown)
  | timeout (i : CallId)
  | inbound (message : InboundMessage) (answers : Option CallId)
  /-- The promise of the Return is settled, and the call goes on. -/
  | resume (i : CallId)
  | finishSettles (i : CallId)
  | finish (questionId : ℕ) (options : RpcFinishOptions)
  | release (capabilityIndex referenceCount : ℕ)
  | close

inductive OutboundEffect
  /-- A frame is handed to the inner transport, by a call itself or from outside. -/
  | sent (sender : Option CallId) (frame : ClientFrame)
  /-- The inner transport has taken the frame of the call. -/
  | handedOver (i : CallId)
  | toSession (message : InboundMessage)
  /-- A Return is withheld from the session and settles the promise of the call. -/
  | delivered (i : CallId) (message : RpcReturnMessage)
  | settled (i : CallId) (result : Except Thrown RpcClientCallResult)
  | threw (error : Thrown)

namespace RpcServerOutboundClient

def initial (startQuestionId : ℕ) : RpcServerOutboundClient := ⟨startQuestionId, false, ∅, []⟩

def transportClosed : Thrown := sessionError "transport is closed"

def updateCall (s : RpcServerOutboundClient) (i : CallId) (f : OutboundCall → OutboundCall) :
    RpcServerOutboundClient :=
  { s with calls := s.calls.modify i f }

def settle (s : RpcServerOutboundClient) (i : CallId) (result : Except Thrown RpcClientCallResult) :
    RpcServerOutboundClient × List OutboundEffect :=
  (s.updateCall i fun call => { call with stage := .settled result }, [.settled i result])

/-! ## Calling -/

/-- The frame of a call. -/
def callFrame (questionId capabilityIndex : ℕ) (options : RpcClientCallOptions)
    (frameError : Option Thrown) :
    Except Thrown ClientFrame := do
  let some interfaceId := options.interfaceId
    | throw (protocolError "interfaceId is required for server outbound calls")
  let questionId ← ensureU32 questionId "questionId"
  match frameError with
  | some error => throw error
  | none =>
    return .call questionId interfaceId (options.target.getD (.importedCap capabilityIndex))
      (options.paramsCapTable.getD [])

/-- `timeoutMs` is given and positive. -/
def timed (options : RpcClientCallOptions) : Bool := 0 < options.timeoutMs.getD 0

/-- The new call is the last of the calls. -/
def addCall (s : RpcServerOutboundClient) (call : OutboundCall) : RpcServerOutboundClient :=
  { s with nextQuestionId := s.nextQuestionId + 1, calls := s.calls ++ [call] }

/-- `callRaw` up to its first await. -/
def callRaw (s : RpcServerOutboundClient) (capabilityIndex : ℕ) (options : RpcClientCallOptions)
    (frameError : Option Thrown) : RpcServerOutboundClient × List OutboundEffect :=
  let questionId := s.nextQuestionId
  let i := s.calls.length
  match callFrame questionId capabilityIndex options frameError with
  | .error error =>
    (s.addCall ⟨questionId, options, false, none, .settled (.error error)⟩,
      [.settled i (.error error)])
  | .ok frame =>
    if s.closed then
      -- the promise is rejected, and so is the send
      (s.addCall ⟨questionId, options, false, some (.error transportClosed),
        .settled (.error transportClosed)⟩, [.settled i (.error transportClosed)])
    else
      ({ s.addCall ⟨questionId, options, timed options, none, .sending⟩ with
          pendingQuestions := s.pendingQuestions.insert questionId i },
        [.sent (some i) frame])

/-- `unregisterQuestion`. -/
def unregisterQuestion (s : RpcServerOutboundClient) (questionId : ℕ) : RpcServerOutboundClient :=
  match s.pendingQuestions.lookup questionId with
  | none => s
  | some i =>
    { s.updateCall i (fun call => { call with timer := false }) with
      pendingQuestions := s.pendingQuestions.erase questionId }

/-! ## The promise of the Return -/

/-- The question is pending no more, and its promise is settled. -/
def settlePromise (s : RpcServerOutboundClient) (i : CallId) (questionId : ℕ)
    (outcome : Except Thrown RpcReturnMessage) : RpcServerOutboundClient :=
  { s.updateCall i (fun call => { call with timer := false, promise := some outcome }) with
    pendingQuestions := s.pendingQuestions.erase questionId }

/-- The callback of the timer. -/
def fireTimeout (s : RpcServerOutboundClient) (i : CallId) (call : OutboundCall) :
    RpcServerOutboundClient :=
  s.settlePromise i call.questionId
    (.error
      (sessionError s!"server outbound call timed out after {call.options.timeoutMs.getD 0}ms"))

/-- `#tryInterceptReturn`, and the frame's way to the session when it is not withheld. -/
def inbound (s : RpcServerOutboundClient) (message : InboundMessage) :
    RpcServerOutboundClient × List OutboundEffect :=
  match message with
  | .ret ret =>
    match s.pendingQuestions.lookup ret.answerId with
    | some i => (s.settlePromise i ret.answerId (.ok ret), [.delivered i ret])
    | none => (s, [.toSession message])
  | _ => (s, [.toSession message])

/-! ## After the Return -/

/-- `#trySendFinish`, and then the result. -/
def trySendFinish (s : RpcServerOutboundClient) (i : CallId) (call : OutboundCall)
    (result : Except Thrown RpcClientCallResult) : RpcServerOutboundClient × List OutboundEffect :=
  if s.closed then s.settle i result
  else
    (s.updateCall i fun call => { call with stage := .finishing result },
      [.sent (some i) (finishFrame call.questionId (call.options.finish.getD .default))])

/-- `callRaw`, from the outcome of the promise on. -/
def resume (s : RpcServerOutboundClient) (i : CallId) (call : OutboundCall) :
    Except Thrown RpcReturnMessage → RpcServerOutboundClient × List OutboundEffect
  | .error error =>
    if call.options.finishes then s.trySendFinish i call (.error error)
      else s.settle i (.error error)
  | .ok message =>
    match requireRpcReturnResults message with
    | .error error => s.settle i (.error error)
    | .ok resultMessage =>
      let result := toRpcCallResult resultMessage resultMessage.contentBytes
      if call.options.finishes && !resultMessage.noFinishNeeded then s.trySendFinish i call
        (.ok result)
      else s.settle i (.ok result)

/-! ## Close -/

/-- The call once the transport is closed: a pending promise is rejected, and a race is lost. -/
def closeCall (pendingQuestions : Table ℕ CallId) (i : CallId) (call : OutboundCall) :
    OutboundCall :=
  let call :=
    if pendingQuestions.lookup call.questionId = some i then
      { call with timer := false, promise := some (.error transportClosed) }
    else call
  match call.stage with
  | .sending => { call with stage := .settled (.error transportClosed) }
  | _ => call

/-- The calls whose race the close decides. -/
def lostRace (i : CallId) (call : OutboundCall) : List OutboundEffect :=
  match call.stage with
  | .sending => [.settled i (.error transportClosed)]
  | _ => []

def close (s : RpcServerOutboundClient) : RpcServerOutboundClient × List OutboundEffect :=
  ({ s with closed := true, pendingQuestions := ∅, calls :=
    s.calls.mapIdx (closeCall s.pendingQuestions) },
    (s.calls.mapIdx lostRace).flatten)

/-! ## Steps -/

/-- A frame sent from outside a call. -/
def sendFrame (s : RpcServerOutboundClient) (frame : ClientFrame) :
    RpcServerOutboundClient × List OutboundEffect :=
  if s.closed then (s, [.threw transportClosed]) else (s, [.sent none frame])

def atCall (s : RpcServerOutboundClient) (i : CallId)
    (act : OutboundCall → RpcServerOutboundClient × List OutboundEffect) :
    RpcServerOutboundClient × List OutboundEffect :=
  match s.calls[i]? with
  | some call => act call
  | none => (s, [])

def step (s : RpcServerOutboundClient) :
    OutboundEvent → RpcServerOutboundClient × List OutboundEffect
  | .callRaw capabilityIndex options frameError => s.callRaw capabilityIndex options frameError
  | .sendSettles i failure =>
    s.atCall i fun call =>
      match call.stage, failure with
      | .sending, none =>
        (s.updateCall i fun call => { call with stage := .waiting }, [.handedOver i])
      | .sending, some error => (s.unregisterQuestion call.questionId).settle i (.error error)
      | _, _ => (s, [])
  | .timeout i => s.atCall i fun call => if call.timer then (s.fireTimeout i call, []) else (s, [])
  | .inbound message _ => s.inbound message
  | .resume i =>
    s.atCall i fun call =>
      match call.stage, call.promise with
      | .waiting, some outcome => s.resume i call outcome
      | _, _ => (s, [])
  | .finishSettles i =>
    s.atCall i fun call =>
      match call.stage with
      | .finishing result => s.settle i result
      | _ => (s, [])
  | .finish questionId options => s.sendFrame (finishFrame questionId options)
  | .release capabilityIndex referenceCount => s.sendFrame (.release capabilityIndex referenceCount)
  | .close => if s.closed then (s, []) else s.close

end RpcServerOutboundClient

end CapnpDeno
