import CapnpDeno.Lib.Runs
import CapnpDeno.Rpc.Client.ClientCall

/-!
# RpcWireClient

The client over a plain transport.  An operation is known by its place among the operations begun; a
step is a stretch of the source between two awaits.  The methods of an emitted client are operations
too: they call `callRaw` and finish the question once it has come back.
-/

namespace CapnpDeno

inductive WireOperation
  | bootstrap
  | callRaw (capabilityIndex : ℕ)
  /-- A method of an emitted client; `decodeError` is what decoding or hydrating its results
  throws. -/
  | method (capabilityIndex : ℕ) (decodeError : Option Thrown)
  | finish (questionId : ℕ) (options : RpcFinishOptions)

inductive WireStage
  /-- It awaits the start of the transport. -/
  | ready
  /-- It awaits the race of the send and the close; the transport has not got the frame yet. -/
  | handing (frame : ClientFrame)
  | sending
  /-- It awaits the promise of its Return. -/
  | waiting
  | finishReady (finish : PendingFinish)
  | finishSending (finish : PendingFinish)
  | settled (result : Except Thrown ClientAnswer)

/-- `timer` and `listening` say that the waiter has a timer and listens to the abort signal;
`promise` is what the promise of the Return is settled with. -/
structure WireCall where
  operation : WireOperation
  options : RpcClientCallOptions
  questionId : Option ℕ
  aborted : Bool
  timer : Bool
  listening : Bool
  promise : Option (Except Thrown RpcReturnMessage)
  stage : WireStage

structure RpcWireClientOptions where
  interfaceId : Option ℕ
  nextQuestionId : Option ℕ
  defaultTimeoutMs : Option ℕ
  maxOutstandingParamCapQuestions : Option ℕ

def RpcWireClientOptions.default : RpcWireClientOptions := ⟨none, none, none, none⟩

/-- `started` is what the start of the transport is settled with. -/
structure RpcWireClient where
  options : RpcWireClientOptions
  nextQuestionId : ℕ
  closed : Bool
  started : Option (Option Thrown)
  pendingReturns : Table ℕ OperationId
  localBridge : Bool
  questionsWithResultCaps : Table ℕ Unit
  questionParamCapGrants : Table ℕ ParamCapGrants
  calls : List WireCall

inductive WireEvent
  | start (operation : WireOperation) (options : RpcClientCallOptions)
  | startSettles (failure : Option Thrown)
  /-- What the operation awaits has settled, and it goes on; `frameError` is what encoding its frame
  throws. -/
  | resume (i : OperationId) (frameError : Option Thrown)
  /-- The transport is handed the frame. -/
  | handOff (i : OperationId)
  | sendSettles (i : OperationId) (failure : Option Thrown)
  | timeout (i : OperationId)
  | abort (i : OperationId)
  | inbound (message : InboundMessage)
  /-- The local bridge, or the send of its response, fails for an inbound callback frame. -/
  | callbackFails
  | exportCapability
  | close

inductive WireEffect
  | allocated (i : OperationId) (questionId : ℕ)
  | recorded (questionId : ℕ) (grants : ParamCapGrants)
  | sent (i : OperationId) (frame : ClientFrame)
  /-- A Finish is sent, by a `finish` with the options. -/
  | sentFinish (i : OperationId) (options : RpcFinishOptions) (frame : ClientFrame)
  | handedOver (i : OperationId)
  /-- A Return is decoded; `localBridge` says that there is a local bridge. -/
  | arrived (message : RpcReturnMessage) (localBridge : Bool)
  /-- The local bridge releases what the question granted. -/
  | released (questionId : ℕ) (grants : ParamCapGrants)
  | delivered (i : OperationId) (message : RpcReturnMessage)
  | settled (i : OperationId) (result : Except Thrown ClientAnswer)
  | threw (error : Thrown)
  | closed

/-- `annotateCapnpError` with a context. -/
def annotated (context : String) (error : Thrown) : Thrown :=
  { error with message := s!"{context}: {error.message}" }

namespace RpcWireClient

def initial (options : RpcWireClientOptions) : RpcWireClient :=
  ⟨options, options.nextQuestionId.getD 1, false, none, ∅, false, ∅, ∅, []⟩

def clientClosed : Thrown := sessionError "rpc wire client is closed"

def updateCall (s : RpcWireClient) (i : OperationId) (f : WireCall → WireCall) : RpcWireClient :=
  { s with calls := s.calls.modify i f }

def goTo (s : RpcWireClient) (i : OperationId) (stage : WireStage) : RpcWireClient :=
  s.updateCall i fun call => { call with stage := stage }

def settle (s : RpcWireClient) (i : OperationId) (result : Except Thrown ClientAnswer) :
    RpcWireClient × List WireEffect :=
  (s.goTo i (.settled result), [.settled i result])

/-! ## Readiness -/

/-- What `#ensureReady` throws once the start has settled. -/
def unready (s : RpcWireClient) : Option Thrown :=
  if s.closed then some clientClosed
  else
    match s.started with
    | some (some _) => some (sessionError "rpc wire client failed to start")
    | _ => none

/-- The operation is begun, up to its first await. -/
def start (s : RpcWireClient) (operation : WireOperation) (options : RpcClientCallOptions) :
    RpcWireClient × List WireEffect :=
  let stage :=
    match operation with
    | .finish questionId options => WireStage.finishReady ⟨questionId, options, .ok .done, false⟩
    | _ => .ready
  let call : WireCall := ⟨operation, options, none, false, false, false, none, stage⟩
  if s.closed then
    ({ s with calls := s.calls ++ [{ call with stage := .settled (.error clientClosed) }] },
      [.settled s.calls.length (.error clientClosed)])
  else ({ s with calls := s.calls ++ [call] }, [])

/-! ## Waiters -/

/-- `#settleWaiter` of the waiter of a call that has the question. -/
def settleWaiter (s : RpcWireClient) (questionId : ℕ) (i : OperationId)
    (outcome : Except Thrown RpcReturnMessage) :
    RpcWireClient :=
  { s.updateCall i fun call =>
    { call with timer := false, listening := false, promise := some outcome } with
    pendingReturns := s.pendingReturns.erase questionId }

/-- The call, its waiter rejected if it is pending. -/
def rejectCall (pendingReturns : Table ℕ OperationId) (error : Thrown) (i : OperationId)
    (call : WireCall) : WireCall :=
  if call.questionId.bind pendingReturns.lookup = some i then
    { call with timer := false, listening := false, promise := some (.error error) }
  else call

/-- `#rejectAllPending`. -/
def rejectAllPending (s : RpcWireClient) (error : Thrown) : RpcWireClient :=
  { s with pendingReturns := ∅, calls := s.calls.mapIdx (rejectCall s.pendingReturns error) }

/-- `#waitForReturn`: the waiter is registered, unless the signal is aborted already. -/
def waitForReturn (s : RpcWireClient) (questionId : ℕ) (i : OperationId) (call : WireCall) :
    RpcWireClient :=
  if call.aborted then
    s.updateCall i fun call =>
      { call with promise := some (.error (sessionError "rpc wait aborted")) }
  else
    let timeoutMs := call.options.timeoutMs <|> s.options.defaultTimeoutMs
    { s.updateCall i fun call => { call with timer := timeoutMs.isSome, listening :=
      call.options.signal } with
      pendingReturns := s.pendingReturns.insert questionId i }

/-! ## Asking a question -/

def paramCapLimit (s : RpcWireClient) : ℕ := s.options.maxOutstandingParamCapQuestions.getD 4096

def checkParamCapAdmission (s : RpcWireClient) : Except Thrown Unit :=
  if s.paramCapLimit ≤ s.questionParamCapGrants.size then
    throw (sessionError s!"outstanding param-cap question limit of {s.paramCapLimit} reached")
  else return ()

def allocQuestionId (s : RpcWireClient) : Except Thrown ℕ :=
  let questionId := s.nextQuestionId
  if questionId = 0 ∨ 0xffff_ffff < questionId then
    throw (sessionError s!"questionId must be within 1..4294967295, got {questionId}")
  else if (s.pendingReturns.lookup questionId).isSome ||
    (s.questionParamCapGrants.lookup questionId).isSome then
    throw (sessionError s!"questionId {questionId} is still awaiting a terminal Return")
  else return questionId

/-- The interface that a call names, if there is one. -/
def interfaceOf (s : RpcWireClient) (call : WireCall) : Except Thrown ℕ :=
  match call.options.interfaceId <|> s.options.interfaceId with
  | some interfaceId => return interfaceId
  | none =>
    throw (protocolError ("interfaceId is required for rpc wire client calls when no default " ++
      "interfaceId is configured"))

/-- A call that carries capabilities of the client is checked against the limit. -/
def admitParamCaps (s : RpcWireClient) (call : WireCall) : Except Thrown Unit :=
  if hostsParamCaps call.options then s.checkParamCapAdmission else return ()

/-- The id of a new question, and the frame that asks it. -/
def prepare (s : RpcWireClient) (call : WireCall) : Except Thrown (ℕ × ClientFrame) := do
  match call.operation with
  | .callRaw capabilityIndex | .method capabilityIndex _ =>
    let interfaceId ← s.interfaceOf call
    s.admitParamCaps call
    let questionId ← s.allocQuestionId
    return (questionId, .call questionId interfaceId
      (call.options.target.getD (.importedCap capabilityIndex))
      (call.options.paramsCapTable.getD []))
  | _ =>
    let questionId ← s.allocQuestionId
    return (questionId, .bootstrap questionId)

/-- The operation records what its parameters grant. -/
def recordsGrants (call : WireCall) : Bool :=
  match call.operation with
  | .callRaw _ | .method _ _ => hostsParamCaps call.options
  | _ => false

/-- `#recordParamCapGrants`, and `#requestReturn` up to the race.  Since the operation went on
nothing has come between, so the client is open and the question id is not pending. -/
def requestReturn (s : RpcWireClient) (i : OperationId) (call : WireCall) (questionId : ℕ)
    (frame : ClientFrame) :
    RpcWireClient × List WireEffect :=
  let grants := paramCapGrants (call.options.paramsCapTable.getD [])
  if recordsGrants call then
    let s := { s with questionParamCapGrants := s.questionParamCapGrants.insert questionId grants }
    ((s.waitForReturn questionId i call).goTo i (.handing frame), [.recorded questionId grants])
  else ((s.waitForReturn questionId i call).goTo i (.handing frame), [])

/-- From the start of the transport to the race. -/
def ask (s : RpcWireClient) (i : OperationId) (call : WireCall) (frameError : Option Thrown) :
    RpcWireClient × List WireEffect :=
  match s.prepare call with
  | .error error => s.settle i (.error error)
  | .ok (questionId, frame) =>
    let s : RpcWireClient :=
      { s.updateCall i fun call => { call with questionId := some questionId } with
        nextQuestionId := questionId + 1 }
    let (s, effects) :=
      match frameError with
      | some error => s.settle i (.error error)
      | none => s.requestReturn i call questionId frame
    (s, .allocated i questionId :: effects)

/-! ## After the Return -/

/-- `finish`, from the start of the transport on. -/
def sendFinish (s : RpcWireClient) (i : OperationId) (finish : PendingFinish) :
    RpcWireClient × List WireEffect :=
  match s.unready with
  | some error => s.settle i (finish.failed error)
  | none =>
    let returnedCaps := (s.questionsWithResultCaps.lookup finish.questionId).isSome
    let options : RpcFinishOptions :=
      { finish.options with
        releaseResultCaps := some (finish.options.releaseResultCaps.getD !returnedCaps) }
    let s := { s with questionsWithResultCaps := s.questionsWithResultCaps.erase finish.questionId }
    (s.goTo i (.finishSending finish),
      [.sentFinish i finish.options (finishFrame finish.questionId options)])

/-- What an operation makes of the Return: what it resolves with, and the `finish` before that. -/
def answer (call : WireCall) (questionId : ℕ) (message : RpcReturnMessage) : WireStage :=
  let finishOptions := call.options.finish.getD .default
  match call.operation with
  | .bootstrap =>
    match message.kind with
    | .results _ _ =>
      let result := ClientAnswer.capability <$> extractBootstrapCapabilityIndex message
      if call.options.finishes && !message.noFinishNeeded then
        .finishReady ⟨questionId, ⟨some (finishOptions.releaseResultCaps.getD false),
          finishOptions.requireEarlyCancellation⟩, result, false⟩
      else .settled result
    | kind => .settled (.error (protocolError s!"rpc bootstrap failed: {kind.reason}"))
  | .method _ decodeError =>
    match requireRpcReturnResults message with
    | .error error => .settled (.error error)
    | .ok message =>
      let result :=
        match decodeError with
        | some error => .error error
        | none => .ok (.result (toRpcCallResult message message.contentBytes))
      if call.options.finishes then .finishReady ⟨questionId, finishOptions, result, false⟩
        else .settled result
  | _ =>
    .settled do
      let message ← requireRpcReturnResults message
      return .result (toRpcCallResult message message.contentBytes)

/-- Where an operation goes on once the promise of its Return is settled. -/
def afterWait (call : WireCall) (questionId : ℕ) : Except Thrown RpcReturnMessage → WireStage
  | .ok message => answer call questionId message
  | .error error =>
    if call.options.finishes then
      .finishReady ⟨questionId, finishOptionsAfterFailure (call.options.finish.getD .default),
        .error error, true⟩
    else .settled (.error error)

/-- An operation comes to a stage. -/
def enter (s : RpcWireClient) (i : OperationId) (stage : WireStage) :
    RpcWireClient × List WireEffect :=
  (s.goTo i stage,
    match stage with
    | .settled result => [.settled i result]
    | _ => [])

/-! ## Inbound frames -/

/-- `#settleParamCapGrants`. -/
def settleParamCapGrants (s : RpcWireClient) (questionId : ℕ) (release : Bool) :
    RpcWireClient × List WireEffect :=
  match s.questionParamCapGrants.lookup questionId with
  | none => (s, [])
  | some grants =>
    ({ s with questionParamCapGrants := s.questionParamCapGrants.erase questionId },
      if release && s.localBridge then [.released questionId grants] else [])

/-- The waiter of the Return, if there is one, gets it. -/
def deliver (s : RpcWireClient) (message : RpcReturnMessage) : RpcWireClient × List WireEffect :=
  match s.pendingReturns.lookup message.answerId with
  | none => (s, [])
  | some i =>
    let s : RpcWireClient :=
      if 0 < message.capTable.length then
        { s with questionsWithResultCaps := s.questionsWithResultCaps.insert message.answerId () }
      else s
    (s.settleWaiter message.answerId i (.ok message), [.delivered i message])

/-- `#onFrame`; the local bridge serves callback frames beside it. -/
def onFrame (s : RpcWireClient) : InboundMessage → RpcWireClient × List WireEffect
  | .ret message =>
    let (settled, retired) := s.settleParamCapGrants message.answerId message.releaseParamCaps
    let (s', delivered) := settled.deliver message
    (s', .arrived message s.localBridge :: retired ++ delivered)
  | .undecodable => (s.rejectAllPending (protocolError "failed to decode inbound return frame"), [])
  | .foreign => (s, [])

/-! ## Close -/

/-- The call, its race lost. -/
def loseRace (call : WireCall) : WireCall :=
  match call.stage with
  | .handing _ | .sending =>
    { call with stage := .settled (.error (annotated "rpc wire client send failed" clientClosed)) }
  | _ => call

def lostRace (i : OperationId) (call : WireCall) : List WireEffect :=
  match call.stage with
  | .handing _
  | .sending => [.settled i (.error (annotated "rpc wire client send failed" clientClosed))]
  | _ => []

/-- `#markClosed`. -/
def close (s : RpcWireClient) : RpcWireClient × List WireEffect :=
  let rejected := s.rejectAllPending clientClosed
  ({ rejected with
      closed := true, localBridge := false, questionsWithResultCaps :=
        ∅, questionParamCapGrants := ∅
      calls := rejected.calls.map loseRace },
    .closed :: (s.calls.mapIdx lostRace).flatten)

/-! ## Steps -/

def atCall (s : RpcWireClient) (i : OperationId)
    (act : WireCall → RpcWireClient × List WireEffect) :
    RpcWireClient × List WireEffect :=
  match s.calls[i]? with
  | some call => act call
  | none => (s, [])

/-- The waiter of a call is rejected, unless it is settled. -/
def reject (s : RpcWireClient) (i : OperationId) (call : WireCall) (error : Thrown) :
    RpcWireClient :=
  match call.questionId, call.promise with
  | some questionId, none => s.settleWaiter questionId i (.error error)
  | _, _ => s

/-- What the operation awaits has settled. -/
def resume (s : RpcWireClient) (i : OperationId) (frameError : Option Thrown) (call : WireCall) :
    RpcWireClient × List WireEffect :=
  match call.stage with
  | .ready =>
    if s.started.isNone && !s.closed then (s, [])
    else
      match s.unready with
      | some error => s.settle i (.error error)
      | none => s.ask i call frameError
  | .waiting =>
    match call.questionId, call.promise with
    | some questionId, some outcome => s.enter i (afterWait call questionId outcome)
    | _, _ => (s, [])
  | .finishReady finish => if s.started.isNone && !s.closed then (s, []) else s.sendFinish i finish
  | _ => (s, [])

def sendSettles (s : RpcWireClient) (i : OperationId) (failure : Option Thrown) (call : WireCall) :
    RpcWireClient × List WireEffect :=
  match call.stage, failure with
  | .sending, none => (s.goTo i .waiting, [.handedOver i])
  | .sending, some error =>
    (s.reject i call error).settle i (.error (annotated "rpc wire client send failed" error))
  | .finishSending finish, none => s.settle i finish.result
  | .finishSending finish, some error => s.settle i (finish.failed error)
  | _, _ => (s, [])

def step (s : RpcWireClient) : WireEvent → RpcWireClient × List WireEffect
  | .start operation options => s.start operation options
  | .startSettles failure =>
    if s.started.isSome || s.closed then (s, [])
    else
      let s := { s with started := some failure }
      match failure with
      | some _ => (s.rejectAllPending (sessionError "rpc wire client failed to start"), [])
      | none => (s, [])
  | .resume i frameError => s.atCall i (s.resume i frameError)
  | .handOff i =>
    s.atCall i fun call =>
      match call.stage with
      | .handing frame => (s.goTo i .sending, [.sent i frame])
      | _ => (s, [])
  | .sendSettles i failure => s.atCall i (s.sendSettles i failure)
  | .timeout i =>
    s.atCall i fun call =>
      if call.timer then
        let timeoutMs := (call.options.timeoutMs <|> s.options.defaultTimeoutMs).getD 0
        (s.reject i call (sessionError s!"rpc wait timed out after {timeoutMs}ms"), [])
      else (s, [])
  | .abort i =>
    s.atCall i fun call =>
      let aborted := s.updateCall i fun call => { call with aborted := call.options.signal }
      if call.listening then (aborted.reject i call (sessionError "rpc wait aborted"), [])
        else (aborted, [])
  | .inbound message => s.onFrame message
  | .callbackFails =>
    (s.rejectAllPending (protocolError "failed to handle inbound callback frame"), [])
  | .exportCapability =>
    if s.closed then (s, [.threw clientClosed])
    else
      match s.checkParamCapAdmission with
      | .error error => (s, [.threw error])
      | .ok () => ({ s with localBridge := true }, [])
  | .close => if s.closed then (s, []) else s.close

end RpcWireClient

end CapnpDeno
