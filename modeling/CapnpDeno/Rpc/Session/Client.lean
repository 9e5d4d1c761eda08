import CapnpDeno.Lib.Runs
import CapnpDeno.Rpc.Client.ClientCall

/-!
# SessionRpcClientTransport

The client that drives a session through a harness transport.  Its operations take turns on one
chain, their Returns come in through the response pump, which reads the frames of the harness one by
one.  An operation is known by its place among the operations begun; a step is a stretch of the
source between two awaits. The methods of an emitted client are operations too: `callRaw`, and then
a `finish` of its question.
-/

namespace CapnpDeno

inductive SessionOperation
  | bootstrap
  | callRaw (capabilityIndex : ℕ)
  | callRawPipelined (capabilityIndex : ℕ)
  /-- A method of an emitted client; `decodeError` is what decoding or hydrating its results
  throws. -/
  | method (capabilityIndex : ℕ) (decodeError : Option Thrown)
  | finish (questionId : ℕ) (options : RpcFinishOptions)

inductive SessionStage
  /-- It awaits its turn. -/
  | queued
  /-- It awaits `onCall` of the middleware. -/
  | onCall
  /-- It awaits the start of the session. -/
  | starting (frame : ClientFrame)
  | emitting
  | flushing
  /-- It awaits the promise of its Return. -/
  | waiting
  | finishQueued (finish : PendingFinish)
  | finishStarting (finish : PendingFinish)
  | finishEmitting (finish : PendingFinish)
  | finishFlushing (finish : PendingFinish)
  /-- It awaits `onResponse` or `onError` of the middleware. -/
  | hooks (result : Except Thrown ClientAnswer)
  /-- The `callRaw` of an emitted method has come back. -/
  | called (result : Except Thrown ClientAnswer)
  | settled (result : Except Thrown ClientAnswer)

/-- `timer` and `listening` say that the waiter has a timer and listens to the abort signal;
`promise` is what the promise of `#awaitReturn` is settled with; `returned` says that the `callRaw`
of an emitted method has come back. -/
structure SessionCall where
  operation : SessionOperation
  options : RpcClientCallOptions
  questionId : Option ℕ
  aborted : Bool
  timer : Bool
  listening : Bool
  promise : Option (Except Thrown RpcReturnMessage)
  returned : Bool
  stage : SessionStage

inductive ResponsePump
  /-- `#responsePump` is null. -/
  | off
  | reading
  /-- The read has settled; `aborted` is the state of its abort signal. -/
  | read (frame : Except Thrown InboundMessage) (aborted : Bool)
  /-- It serves a frame that is no Return. -/
  | serving
  /-- The loop is over, and its `finally` is due. -/
  | exiting

/-- `middleware` says that there is any. -/
structure SessionRpcClientTransportOptions where
  interfaceId : ℕ
  nextQuestionId : Option ℕ
  defaultTimeoutMs : Option ℕ
  maxOutstandingParamCapQuestions : Option ℕ
  middleware : Bool

/-- `frames` and `queueClosed` are the frame queue of the harness; its one reader is the pump. -/
structure SessionRpcClientTransport where
  options : SessionRpcClientTransportOptions
  nextQuestionId : ℕ
  closed : Bool
  /-- The operations that have a turn or await it, in order. -/
  opChain : List OperationId
  expectedReturns : Table ℕ Unit
  pendingReturns : Table ℕ (List OperationId)
  queuedReturns : Table ℕ (List RpcReturnMessage)
  responsePump : ResponsePump
  responsePumpStopped : Bool
  localBridge : Bool
  questionParamCapGrants : Table ℕ ParamCapGrants
  frames : List InboundMessage
  queueClosed : Option Thrown
  calls : List SessionCall

inductive SessionEvent
  | start (operation : SessionOperation) (options : RpcClientCallOptions)
  /-- What the operation awaits has settled, and it goes on; `frameError` is what encoding its frame
  throws. -/
  | resume (i : OperationId) (frameError : Option Thrown)
  | middlewareSettles (i : OperationId) (failure frameError : Option Thrown)
  | startSettles (i : OperationId) (failure : Option Thrown)
  | emitSettles (i : OperationId) (failure : Option Thrown)
  | flushSettles (i : OperationId) (failure : Option Thrown)
  | timeout (i : OperationId)
  | abort (i : OperationId)
  /-- The harness queues a frame. -/
  | frame (message : InboundMessage)
  | readFails (error : Thrown)
  /-- The harness transport closes. -/
  | queueCloses (error : Thrown)
  /-- What the pump awaits has settled, and it goes on. -/
  | pump
  | served (failure : Option Thrown)
  | exportCapability (hasHostCallBridge : Bool)
  | close

inductive SessionEffect
  | allocated (i : OperationId) (questionId : ℕ)
  | recorded (questionId : ℕ) (grants : ParamCapGrants)
  /-- The harness is handed a frame. -/
  | emitted (i : OperationId) (frame : ClientFrame)
  /-- So it is a Finish, by a `finish` with the options. -/
  | emittedFinish (i : OperationId) (options : RpcFinishOptions) (frame : ClientFrame)
  | handedOver (i : OperationId)
  /-- The grants of the question are dropped, since its frame is not handed to the harness. -/
  | unsent (questionId : ℕ)
  /-- The waiter of the operation is registered. -/
  | registered (i : OperationId)
  /-- The pump decodes a Return; `localBridge` and `expected` say that there is a local bridge, and
  that the Return is expected. -/
  | arrived (message : RpcReturnMessage) (localBridge expected : Bool)
  /-- The local bridge releases what the question granted. -/
  | released (questionId : ℕ) (grants : ParamCapGrants)
  | delivered (i : OperationId) (message : RpcReturnMessage)
  | settled (i : OperationId) (result : Except Thrown ClientAnswer)
  | threw (error : Thrown)
  | closed

namespace SessionRpcClientTransport

def initial (options : SessionRpcClientTransportOptions) : SessionRpcClientTransport :=
  ⟨options, options.nextQuestionId.getD 1, false, [], ∅, ∅, ∅, .off, false, false, ∅, [], none, []⟩

def clientClosed : Thrown := sessionError "rpc client transport is closed"

def updateCall (s : SessionRpcClientTransport) (i : OperationId) (f : SessionCall → SessionCall) :
    SessionRpcClientTransport :=
  { s with calls := s.calls.modify i f }

def goTo (s : SessionRpcClientTransport) (i : OperationId) (stage : SessionStage) :
    SessionRpcClientTransport :=
  s.updateCall i fun call => { call with stage := stage }

/-- The operation gives its turn away. -/
def leave (s : SessionRpcClientTransport) (i : OperationId) : SessionRpcClientTransport :=
  { s with opChain := s.opChain.erase i }

/-- The operation comes to the stage; if it has settled, its turn is over. -/
def enter (s : SessionRpcClientTransport) (i : OperationId) (stage : SessionStage) :
    SessionRpcClientTransport × List SessionEffect :=
  match stage with
  | .settled result => ((s.goTo i stage).leave i, [.settled i result])
  | .called _ => ((s.goTo i stage).leave i, [])
  | _ => (s.goTo i stage, [])

/-! ## The response pump -/

def shouldPumpResponses (s : SessionRpcClientTransport) : Bool :=
  !s.responsePumpStopped && (!s.pendingReturns.entries.isEmpty || s.localBridge)

/-- `nextOutboundFrame`, up to its wait for a frame. -/
def nextOutboundFrame (s : SessionRpcClientTransport) : SessionRpcClientTransport :=
  match s.frames, s.queueClosed with
  | frame :: frames, _ => { s with frames := frames, responsePump := .read (.ok frame) false }
  | [], some error => { s with responsePump := .read (.error error) false }
  | [], none => { s with responsePump := .reading }

/-- The loop of `#pumpResponses`, from its condition on. -/
def pumpResponses (s : SessionRpcClientTransport) : SessionRpcClientTransport :=
  if s.shouldPumpResponses then s.nextOutboundFrame else { s with responsePump := .exiting }

def ensureResponsePump (s : SessionRpcClientTransport) : SessionRpcClientTransport :=
  match s.responsePump with
  | .off => s.pumpResponses
  | _ => s

/-- `#responsePumpAbort?.abort()`. -/
def abortResponsePumpRead (s : SessionRpcClientTransport) : SessionRpcClientTransport :=
  match s.responsePump with
  | .reading => { s with responsePump := .read (.error (sessionError "rpc wait aborted")) true }
  | .read frame _ => { s with responsePump := .read frame true }
  | _ => s

def abortResponsePumpReadIfIdle (s : SessionRpcClientTransport) : SessionRpcClientTransport :=
  if s.shouldPumpResponses then s else s.abortResponsePumpRead

/-! ## Expected Returns and their waiters -/

def markReturnExpected (s : SessionRpcClientTransport) (questionId : ℕ) :
    SessionRpcClientTransport :=
  { s with expectedReturns := s.expectedReturns.insert questionId () }

/-- `#markReturnObserved`, which is `#abandonExpectedReturn` too. -/
def markReturnObserved (s : SessionRpcClientTransport) (questionId : ℕ) :
    SessionRpcClientTransport :=
  { s with
    expectedReturns := s.expectedReturns.erase questionId
    queuedReturns := s.queuedReturns.erase questionId }

/-- The promise of `#awaitReturn` is settled. -/
def settlePromise (s : SessionRpcClientTransport) (i : OperationId)
    (outcome : Except Thrown RpcReturnMessage) :
    SessionRpcClientTransport :=
  s.updateCall i fun call =>
    { call with timer := false, listening := false, promise := some outcome }

/-- `#awaitReturn`, up to its wait. -/
def awaitReturn (s : SessionRpcClientTransport) (i : OperationId) (call : SessionCall)
    (questionId : ℕ) :
    SessionRpcClientTransport × List SessionEffect :=
  if (s.expectedReturns.lookup questionId).isNone then
    (s.settlePromise i
      (.error (sessionError s!"rpc wait rejected: question {questionId} is not awaiting a return")),
        [])
  else
    match s.queuedReturns.lookup questionId with
    | some (message :: _) =>
      ((s.markReturnObserved questionId).settlePromise i (.ok message), [.delivered i message])
    | _ =>
      if call.aborted then
        ((s.markReturnObserved questionId).settlePromise i
          (.error (sessionError "rpc wait aborted")), [])
      else
        let timeoutMs := call.options.timeoutMs <|> s.options.defaultTimeoutMs
        let waiters := (s.pendingReturns.lookup questionId).getD []
        let s := s.updateCall i fun call =>
          { call with timer := timeoutMs.isSome, listening := call.options.signal }
        let s := { s with pendingReturns := s.pendingReturns.insert questionId (waiters ++ [i]) }
        (s.ensureResponsePump, [.registered i])

/-- The promise of a call is settled. -/
def hasSettled (s : SessionRpcClientTransport) (i : OperationId) : Bool :=
  s.calls[i]?.any (·.promise.isSome)

/-- `#removePendingReturnWaiter`. -/
def removePendingReturnWaiter (s : SessionRpcClientTransport) (questionId : ℕ) (i : OperationId) :
    SessionRpcClientTransport :=
  match s.pendingReturns.lookup questionId with
  | none => s
  | some waiters =>
    match waiters.erase i with
    | [] =>
      abortResponsePumpReadIfIdle { s with pendingReturns := s.pendingReturns.erase questionId }
    | rest => { s with pendingReturns := s.pendingReturns.insert questionId rest }

/-- `rejectAndRemove`, of the waiter of a call. -/
def rejectAndRemove (s : SessionRpcClientTransport) (i : OperationId) (call : SessionCall)
    (error : Thrown) :
    SessionRpcClientTransport :=
  match call.questionId, call.promise with
  | some questionId, none =>
    let s := (s.settlePromise i (.error error)).removePendingReturnWaiter questionId i
    match s.pendingReturns.lookup questionId with
    | some (_ :: _) => s
    | _ => s.markReturnObserved questionId
  | _, _ => s

/-- The call, its waiter rejected if it is among the pending ones. -/
def rejectCall (pendingReturns : Table ℕ (List OperationId)) (error : Thrown) (i : OperationId)
    (call : SessionCall) : SessionCall :=
  if call.promise.isNone ∧ i ∈ (call.questionId.bind pendingReturns.lookup).getD [] then
    { call with timer := false, listening := false, promise := some (.error error) }
  else call

/-- `#rejectAllPendingReturns`. -/
def rejectAllPendingReturns (s : SessionRpcClientTransport) (error : Thrown) :
    SessionRpcClientTransport :=
  let aborted := abortResponsePumpReadIfIdle { s with pendingReturns := ∅ }
  { aborted with
    expectedReturns :=
      s.pendingReturns.keys.foldl (fun expected key => expected.erase key) s.expectedReturns
    queuedReturns :=
      s.pendingReturns.keys.foldl (fun queued key => queued.erase key) s.queuedReturns
    calls := s.calls.mapIdx (rejectCall s.pendingReturns error) }

/-- `#resolvePendingReturn`: the first waiter that has not settled gets the Return. -/
def resolvePendingReturn (s : SessionRpcClientTransport) (message : RpcReturnMessage) :
    SessionRpcClientTransport × Option OperationId :=
  match s.pendingReturns.lookup message.answerId with
  | none | some [] => (s, none)
  | some waiters =>
    match waiters.dropWhile s.hasSettled with
    | [] =>
      let s :=
        abortResponsePumpReadIfIdle { s with
          pendingReturns := s.pendingReturns.erase message.answerId }
      (s.markReturnObserved message.answerId, none)
    | i :: rest =>
      let pendingReturns :=
        if rest.isEmpty then s.pendingReturns.erase message.answerId
        else s.pendingReturns.insert message.answerId rest
      let s := markReturnObserved { s with pendingReturns := pendingReturns } message.answerId
      (s.settlePromise i (.ok message), some i)

/-- `#queueReturn`. -/
def queueReturn (s : SessionRpcClientTransport) (message : RpcReturnMessage) :
    SessionRpcClientTransport :=
  if (s.expectedReturns.lookup message.answerId).isNone ||
    (s.queuedReturns.lookup message.answerId).isSome then s
  else { s with queuedReturns := s.queuedReturns.insert message.answerId [message] }

/-! ## Operations -/

/-- `#enqueue`, up to its wait for the turn. -/
def start (s : SessionRpcClientTransport) (operation : SessionOperation)
    (options : RpcClientCallOptions) :
    SessionRpcClientTransport × List SessionEffect :=
  let stage :=
    match operation with
    | .finish questionId options =>
      SessionStage.finishQueued ⟨questionId, options, .ok .done, false⟩
    | _ => .queued
  let call : SessionCall := ⟨operation, options, none, false, false, false, none, false, stage⟩
  if s.closed then
    ({ s with calls := s.calls ++ [{ call with stage := .settled (.error clientClosed) }] },
      [.settled s.calls.length (.error clientClosed)])
  else ({ s with calls := s.calls ++ [call], opChain := s.opChain ++ [s.calls.length] }, [])

def paramCapLimit (s : SessionRpcClientTransport) : ℕ :=
  s.options.maxOutstandingParamCapQuestions.getD 4096

def checkParamCapAdmission (s : SessionRpcClientTransport) : Except Thrown Unit :=
  if s.paramCapLimit ≤ s.questionParamCapGrants.size then
    throw (sessionError s!"outstanding param-cap question limit of {s.paramCapLimit} reached")
  else return ()

def allocQuestionId (s : SessionRpcClientTransport) : Except Thrown ℕ :=
  let next := s.nextQuestionId
  if next = 0 ∨ 0xffff_ffff < next then
    throw (sessionError s!"questionId must be within 1..4294967295, got {next}")
  else if (s.expectedReturns.lookup next).isSome ||
    (s.questionParamCapGrants.lookup next).isSome then
    throw (sessionError s!"questionId {next} is still awaiting a terminal Return")
  else return next

/-- The capability that the operation calls. -/
def SessionOperation.capability : SessionOperation → Option ℕ
  | .callRaw capabilityIndex | .callRawPipelined capabilityIndex
  | .method capabilityIndex _ => some capabilityIndex
  | .bootstrap | .finish _ _ => none

/-- What an operation checks before it asks its question. -/
def admitQuestion (s : SessionRpcClientTransport) (call : SessionCall) : Except Thrown ℕ := do
  if (SessionOperation.capability call.operation).isSome && hostsParamCaps call.options then
    s.checkParamCapAdmission
  s.allocQuestionId

/-- The frame that asks the question. -/
def askingFrame (s : SessionRpcClientTransport) (call : SessionCall) (questionId : ℕ) :
    ClientFrame :=
  match SessionOperation.capability call.operation with
  | some capabilityIndex =>
    .call questionId (call.options.interfaceId.getD s.options.interfaceId)
      (call.options.target.getD (.importedCap capabilityIndex))
      (call.options.paramsCapTable.getD [])
  | none => .bootstrap questionId

/-- Where an operation goes when its part on the transport is over. -/
def concluded (call : SessionCall) (result : Except Thrown ClientAnswer) : SessionStage :=
  match call.operation with
  | .method _ _ => if call.returned then .settled result else .called result
  | _ => .settled result

/-- The grants are recorded and the Return is expected, and the session is to start. -/
def request (s : SessionRpcClientTransport) (i : OperationId) (call : SessionCall) (questionId : ℕ)
    (frameError : Option Thrown) : SessionRpcClientTransport × List SessionEffect :=
  let grants := paramCapGrants (call.options.paramsCapTable.getD [])
  match frameError with
  | some error => s.enter i (concluded call (.error error))
  | none =>
    if (SessionOperation.capability call.operation).isSome && hostsParamCaps call.options then
      let s :=
        { s with questionParamCapGrants := s.questionParamCapGrants.insert questionId grants }
      ((s.markReturnExpected questionId).goTo i (.starting (s.askingFrame call questionId)),
        [.recorded questionId grants])
    else ((s.markReturnExpected questionId).goTo i (.starting (s.askingFrame call questionId)), [])

/-- The operation has its turn. -/
def begin (s : SessionRpcClientTransport) (i : OperationId) (call : SessionCall)
    (frameError : Option Thrown) :
    SessionRpcClientTransport × List SessionEffect :=
  match s.admitQuestion call with
  | .error error => s.enter i (concluded call (.error error))
  | .ok questionId =>
    let s : SessionRpcClientTransport :=
      { s.updateCall i fun call => { call with questionId := some questionId } with
        nextQuestionId := questionId + 1 }
    let (s, effects) :=
      if s.options.middleware && (SessionOperation.capability call.operation).isSome
        then (s.goTo i .onCall, [])
      else s.request i call questionId frameError
    (s, .allocated i questionId :: effects)

/-- Where an operation goes with its result: to the hooks of the middleware, where there are any. -/
def conclude (s : SessionRpcClientTransport) (call : SessionCall)
    (result : Except Thrown ClientAnswer) : SessionStage :=
  if s.options.middleware && (SessionOperation.capability call.operation).isSome &&
    !call.returned then .hooks result
  else concluded call result

/-- Where an operation goes after a failure of the request. -/
def afterFailure (s : SessionRpcClientTransport) (call : SessionCall) (questionId : ℕ)
    (frameSent : Bool) (error : Thrown) : SessionStage :=
  match call.operation with
  | .callRawPipelined _ => .settled (.error error)
  | _ =>
    if frameSent && call.options.finishes then
      .finishStarting ⟨questionId, finishOptionsAfterFailure (call.options.finish.getD .default),
        .error error, true⟩
    else s.conclude call (.error error)

/-- Where an operation goes once the promise of its Return is resolved. -/
def afterReturn (s : SessionRpcClientTransport) (call : SessionCall) (questionId : ℕ)
    (message : RpcReturnMessage) :
    SessionStage :=
  let finishOptions := finishOptionsForReturn message (call.options.finish.getD .default)
  let finishes := call.options.finishes && !message.noFinishNeeded
  match call.operation with
  | .bootstrap =>
    match message.kind with
    | .results _ _ =>
      let result := ClientAnswer.capability <$> extractBootstrapCapabilityIndex message
      if finishes then .finishStarting ⟨questionId, finishOptions, result, false⟩
        else .settled result
    | kind => .settled (.error (protocolError s!"rpc bootstrap failed: {kind.reason}"))
  | .callRawPipelined _ =>
    s.conclude call do
      let message ← requireRpcReturnResults message
      return .result (toRpcCallResult message message.contentBytes)
  | _ =>
    match requireRpcReturnResults message with
    | .error error => s.conclude call (.error error)
    | .ok message =>
      let result := Except.ok (.result (toRpcCallResult message message.contentBytes))
      if finishes then .finishStarting ⟨questionId, finishOptions, result, false⟩
        else s.conclude call result

/-- Where an operation goes once the promise of its Return is settled. -/
def afterWait (s : SessionRpcClientTransport) (call : SessionCall) (questionId : ℕ) :
    Except Thrown RpcReturnMessage → SessionStage
  | .ok message => s.afterReturn call questionId message
  | .error error =>
    match call.operation with
    | .callRawPipelined _ => s.conclude call (.error error)
    | _ => s.afterFailure call questionId true error

/-- The request has failed: no Return is expected any more. -/
def failRequest (s : SessionRpcClientTransport) (i : OperationId) (call : SessionCall)
    (frameSent : Bool) (error : Thrown) : SessionRpcClientTransport × List SessionEffect :=
  match call.questionId with
  | some questionId =>
    (s.markReturnObserved questionId).enter i (s.afterFailure call questionId frameSent error)
  | none => (s, [])

/-- A `finish` has failed. -/
def failFinish (s : SessionRpcClientTransport) (i : OperationId) (call : SessionCall)
    (finish : PendingFinish) (error : Thrown) : SessionRpcClientTransport × List SessionEffect :=
  s.enter i (if finish.swallows then s.conclude call finish.result
    else concluded call (.error error))

/-- An emitted method goes on with what `callRaw` has come back with. -/
def afterCallRaw (s : SessionRpcClientTransport) (i : OperationId) (call : SessionCall) :
    Except Thrown ClientAnswer → SessionRpcClientTransport × List SessionEffect
  | .error error => s.enter i (.settled (.error error))
  | .ok answer =>
    let result :=
      match call.operation with
      | .method _ (some error) => .error error
      | _ => .ok answer
    match call.questionId with
    | some questionId =>
      if call.options.finishes then
        if s.closed then s.enter i (.settled (.error clientClosed))
        else
          let finish : PendingFinish :=
            ⟨questionId, call.options.finish.getD .default, result, false⟩
          ({ s.updateCall i fun call =>
            { call with returned := true, stage := .finishQueued finish } with
            opChain := s.opChain ++ [i] }, [])
      else s.enter i (.settled result)
    | none => (s, [])

/-! ## Steps of an operation -/

def atCall (s : SessionRpcClientTransport) (i : OperationId)
    (act : SessionCall → SessionRpcClientTransport × List SessionEffect) :
    SessionRpcClientTransport × List SessionEffect :=
  match s.calls[i]? with
  | some call => act call
  | none => (s, [])

/-- What the operation awaits has settled. -/
def resume (s : SessionRpcClientTransport) (i : OperationId) (frameError : Option Thrown)
    (call : SessionCall) :
    SessionRpcClientTransport × List SessionEffect :=
  match call.stage with
  | .queued =>
    if s.opChain.head? = some i then
      if s.closed then s.enter i (concluded call (.error clientClosed))
        else s.begin i call frameError
    else (s, [])
  | .finishQueued finish =>
    if s.opChain.head? = some i then
      if s.closed then s.enter i (.settled (.error clientClosed))
        else s.enter i (.finishStarting finish)
    else (s, [])
  | .waiting =>
    match call.questionId, call.promise with
    | some questionId, some outcome =>
      let observed :=
        match call.operation, outcome with
        | .callRawPipelined _, _ | _, .ok _ => s
        | _, .error _ => s.markReturnObserved questionId
      observed.enter i (s.afterWait call questionId outcome)
    | _, _ => (s, [])
  | .called result => s.afterCallRaw i call result
  | _ => (s, [])

def middlewareSettles (s : SessionRpcClientTransport) (i : OperationId)
    (failure frameError : Option Thrown) (call : SessionCall) :
    SessionRpcClientTransport × List SessionEffect :=
  match call.stage, call.questionId, failure with
  | .onCall, _, some error => s.enter i (concluded call (.error error))
  | .onCall, some questionId, none => s.request i call questionId frameError
  | .hooks _, _, some error => s.enter i (concluded call (.error error))
  | .hooks result, _, none => s.enter i (concluded call result)
  | _, _, _ => (s, [])

def startSettles (s : SessionRpcClientTransport) (i : OperationId) (failure : Option Thrown)
    (call : SessionCall) :
    SessionRpcClientTransport × List SessionEffect :=
  match call.stage, failure with
  | .starting frame, none => (s.goTo i .emitting, [.emitted i frame])
  | .starting _, some error =>
    match call.questionId with
    | some questionId =>
      let s := { s with questionParamCapGrants := s.questionParamCapGrants.erase questionId }
      let (s, effects) := s.failRequest i call false error
      (s, .unsent questionId :: effects)
    | none => (s, [])
  | .finishStarting finish, none =>
    (s.goTo i (.finishEmitting finish),
      [.emittedFinish i finish.options (finishFrame finish.questionId finish.options)])
  | .finishStarting finish, some error => s.failFinish i call finish error
  | _, _ => (s, [])

def emitSettles (s : SessionRpcClientTransport) (i : OperationId) (failure : Option Thrown)
    (call : SessionCall) :
    SessionRpcClientTransport × List SessionEffect :=
  match call.stage, failure with
  | .emitting, none => (s.goTo i .flushing, [.handedOver i])
  | .emitting, some error => s.failRequest i call false error
  | .finishEmitting finish, none => (s.goTo i (.finishFlushing finish), [])
  | .finishEmitting finish, some error => s.failFinish i call finish error
  | _, _ => (s, [])

def flushSettles (s : SessionRpcClientTransport) (i : OperationId) (failure : Option Thrown)
    (call : SessionCall) :
    SessionRpcClientTransport × List SessionEffect :=
  match call.stage, failure with
  | .flushing, none =>
    match call.questionId with
    | some questionId =>
      let waiting := s.goTo i .waiting
      -- a pipelined call gives its turn away before its Return is there
      match call.operation with
      | .callRawPipelined _ => (waiting.leave i).awaitReturn i call questionId
      | _ => waiting.awaitReturn i call questionId
    | none => (s, [])
  | .flushing, some error => s.failRequest i call true error
  | .finishFlushing finish, none => s.enter i (s.conclude call finish.result)
  | .finishFlushing finish, some error => s.failFinish i call finish error
  | _, _ => (s, [])

/-! ## Steps of the pump -/

/-- `#settleParamCapGrants`, or the end of the grants without a release. -/
def retireParamCapGrants (s : SessionRpcClientTransport) (message : RpcReturnMessage) :
    SessionRpcClientTransport × List SessionEffect :=
  match s.questionParamCapGrants.lookup message.answerId with
  | none => (s, [])
  | some grants =>
    ({ s with questionParamCapGrants := s.questionParamCapGrants.erase message.answerId },
      if message.releaseParamCaps && s.localBridge then [.released message.answerId grants] else [])

/-- The pump takes a Return. -/
def handleReturn (s : SessionRpcClientTransport) (message : RpcReturnMessage) :
    SessionRpcClientTransport × List SessionEffect :=
  let expected := (s.expectedReturns.lookup message.answerId).isSome
  let (retired, effects) := s.retireParamCapGrants message
  let arrived := SessionEffect.arrived message s.localBridge expected
  if expected then
    match retired.resolvePendingReturn message with
    | (resolved, some i) => (resolved, arrived :: effects ++ [.delivered i message])
    | (unresolved, none) => (unresolved.queueReturn message, arrived :: effects)
  else (retired, arrived :: effects)

/-- The pump has read a frame, or has failed to. -/
def frameRead (s : SessionRpcClientTransport) (aborted : Bool) :
    Except Thrown InboundMessage → SessionRpcClientTransport × List SessionEffect
  | .ok (.ret message) =>
    -- the abort controller of the read is gone, so nothing aborts while the Return is handled
    let (s, effects) := handleReturn { s with responsePump := .serving } message
    (s.pumpResponses, effects)
  | .ok _ => ({ s with responsePump := .serving }, [])
  | .error error =>
    let s := { s with responsePump := .exiting }
    if aborted && !s.shouldPumpResponses then (s, [])
    else (rejectAllPendingReturns { s with responsePumpStopped := true } error, [])

def pump (s : SessionRpcClientTransport) : SessionRpcClientTransport × List SessionEffect :=
  match s.responsePump with
  | .read frame aborted => s.frameRead aborted frame
  | .exiting =>
    let s := { s with responsePump := .off }
    (if s.shouldPumpResponses then s.ensureResponsePump else s, [])
  | _ => (s, [])

/-- A frame comes to the queue of the harness. -/
def enqueueFrame (s : SessionRpcClientTransport) (message : InboundMessage) :
    SessionRpcClientTransport :=
  if s.queueClosed.isSome then s
  else
    match s.responsePump with
    | .reading => { s with responsePump := .read (.ok message) false }
    | _ => { s with frames := s.frames ++ [message] }

def failRead (s : SessionRpcClientTransport) (error : Thrown) : SessionRpcClientTransport :=
  match s.responsePump with
  | .reading => { s with responsePump := .read (.error error) false }
  | _ => s

/-! ## Steps -/

def close (s : SessionRpcClientTransport) : SessionRpcClientTransport × List SessionEffect :=
  let rejected :=
    rejectAllPendingReturns { s with closed := true, responsePumpStopped := true, localBridge :=
      false } clientClosed
  (abortResponsePumpRead
    { rejected with expectedReturns := ∅, queuedReturns := ∅, questionParamCapGrants := ∅ },
      [.closed])

def exportCapability (s : SessionRpcClientTransport) (hasHostCallBridge : Bool) :
    SessionRpcClientTransport × List SessionEffect :=
  if s.closed then (s, [.threw clientClosed])
  else
    match s.checkParamCapAdmission with
    | .error error => (s, [.threw error])
    | .ok () =>
      if hasHostCallBridge then (ensureResponsePump { s with localBridge := true }, [])
      else (s,
        [.threw (sessionError "local capability export requires WASM host-call bridge support")])

def step (s : SessionRpcClientTransport) :
    SessionEvent → SessionRpcClientTransport × List SessionEffect
  | .start operation options => s.start operation options
  | .resume i frameError => s.atCall i (s.resume i frameError)
  | .middlewareSettles i failure frameError => s.atCall i (s.middlewareSettles i failure frameError)
  | .startSettles i failure => s.atCall i (s.startSettles i failure)
  | .emitSettles i failure => s.atCall i (s.emitSettles i failure)
  | .flushSettles i failure => s.atCall i (s.flushSettles i failure)
  | .timeout i =>
    s.atCall i fun call =>
      if call.timer then
        let timeoutMs := (call.options.timeoutMs <|> s.options.defaultTimeoutMs).getD 0
        (s.rejectAndRemove i call (sessionError s!"rpc wait timed out after {timeoutMs}ms"), [])
      else (s, [])
  | .abort i =>
    s.atCall i fun call =>
      let aborted := s.updateCall i fun call => { call with aborted := call.options.signal }
      if call.listening then (aborted.rejectAndRemove i call (sessionError "rpc wait aborted"), [])
        else (aborted, [])
  | .frame message => (s.enqueueFrame message, [])
  | .readFails error => (s.failRead error, [])
  | .queueCloses error =>
    if s.queueClosed.isSome then (s, [])
      else (failRead { s with queueClosed := some error } error, [])
  | .pump => s.pump
  | .served failure =>
    match s.responsePump, failure with
    | .serving, none => (s.pumpResponses, [])
    | .serving, some _ => ({ s with responsePump := .exiting }, [])
    | _, _ => (s, [])
  | .exportCapability hasHostCallBridge => s.exportCapability hasHostCallBridge
  | .close => if s.closed then (s, []) else s.close

end SessionRpcClientTransport

end CapnpDeno
