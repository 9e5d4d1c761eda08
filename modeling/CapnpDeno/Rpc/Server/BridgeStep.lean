import CapnpDeno.Lib.Runs
import CapnpDeno.Rpc.Server.Bridge

/-!
# RpcServerBridge: events and steps

What can happen to a bridge, one event for each stretch of the source between two awaits, and what
the world sees of it.  An event that the state does not allow (a handler that does not run cannot
settle) changes nothing.  Handlers, middleware, `onBootstrap` and the WASM peer are the world: what
they answer comes with the event.
-/

namespace CapnpDeno

/-- A call of the WASM peer's interface that answers a host call. -/
inductive HostReturn
  | returnFrame (frame : RpcReturnMessage)
  | results (content : Option Bytes)
  | exception (reason : String)
  | canceled
deriving DecidableEq

/-- The message a call of the WASM peer's interface throws, if it throws. -/
abbrev HostFailure := HostReturn → Option String

/-- A frame, decoded after the `onIncomingFrame` middleware; `refused` is one that `handleFrame`
rejects with an error before it reads the state. -/
inductive InboundFrame
  | release (release : RpcReleaseRequest)
  | finish (finish : RpcFinishRequest)
  | passThrough
  | bootstrap (questionId : ℕ)
  | call (call : RpcCallRequest) (byteLength : ℕ)
  | refused (error : Thrown)

/-- A popped host call; `call` is its frame decoded. -/
structure WasmHostCallRecord where
  questionId : ℕ
  byteLength : ℕ
  call : Except String RpcCallRequest

inductive Event
  | exportCapability (dispatch : RpcServerDispatch) (capabilityIndex : Option ℕ)
    (referenceCount : ℤ)
  | retainCapability (capabilityIndex : ℕ) (referenceCount : ℤ)
  | releaseCapability (capabilityIndex : ℕ) (referenceCount : ℤ)
  | handleFrame (frame : InboundFrame)
  /-- The middleware of a frame that came before `close` lets it through. -/
  | resumeFrame (frame : InboundFrame)
  | hostCall (abi : RpcServerWasmHostAbi) (record : WasmHostCallRecord) (failure : HostFailure)
  | observeBootstrapResponse (response : RpcReturnMessage)
  | bootstrapSettles (i : EntryId) (result : Except Thrown ℕ)
  | handlerSettles (i : EntryId) (outcome : RpcDispatchOutcome)
  | resumePipelined (i : EntryId)
  | completeCall (i : EntryId)
  | respond (i : EntryId) (failure : HostFailure)
  | evictionTimer (i : EntryId)
  | answerFinished (answerId : ℕ) (failure : HostFailure)
  | close

/-- What the world sees of a step. -/
inductive Effect
  | exported (capabilityIndex : ℕ) (referenceCount : ℤ)
  | retained (capabilityIndex : ℕ) (referenceCount : ℤ)
  | released (capabilityIndex : ℕ) (referenceCount : ℤ)
  /-- A call of the interface throws, or `handleFrame` rejects a frame that is no question. -/
  | threw (error : Thrown)
  | accepted (i : EntryId) (questionId : ℕ)
  /-- `handleFrame` resolves with the error frame of a question that is not accepted. -/
  | refused (frame : RpcReturnMessage)
  /-- The WASM peer is handed the answer of a host call that is not accepted. -/
  | hostRefused (questionId : ℕ) (attempt : HostReturn) (error : Option String)
  /-- The capability's handler is called. -/
  | invoked (i : EntryId) (capabilityIndex : ℕ)
  /-- `handleFrame` resolves with the Return. -/
  | returned (i : EntryId) (frame : RpcReturnMessage)
  /-- `#completeCall` has built the Return of a host call, for the responder to hand over. -/
  | built (i : EntryId) (frame : RpcReturnMessage)
  /-- `handleFrame` resolves with `null`. -/
  | returnedNothing (i : EntryId)
  /-- `handleFrame`, or the host-call responder, rejects. -/
  | rejected (i : EntryId) (error : Thrown)
  /-- The WASM peer is handed an answer, which it takes unless it throws. -/
  | hostReturned (i : EntryId) (attempt : HostReturn) (error : Option String)
  /-- `handleFrame` resolves with the Return of a bootstrap question. -/
  | bootstrapReturned (i : EntryId) (frame : RpcReturnMessage)
  | bootstrapFailed (i : EntryId) (error : Thrown)
  | bootstrapObserved (i : EntryId) (frame : RpcReturnMessage)
  /-- The caller has finished its question, with this flag; the WASM peer does not report the
  flag. -/
  | callerFinished (questionId : ℕ) (releaseResultCaps : Option Bool)
  | evicted (i : EntryId)
  | closed

/-! ## Messages of the errors -/

/-- `acceptedInterfaceIds.includes(call.interfaceId)`, or the one interface. -/
def RpcServerDispatch.accepts (dispatch : RpcServerDispatch) (interfaceId : ℕ) : Bool :=
  match dispatch.interfaceIds with
  | some accepted => accepted.contains interfaceId
  | none => dispatch.interfaceId = interfaceId

/-- The interfaces named in a mismatch. -/
def RpcServerDispatch.expected (dispatch : RpcServerDispatch) : String :=
  match dispatch.interfaceIds.getD [] with
  | [] => toString dispatch.interfaceId
  | accepted => ",".intercalate (accepted.map toString)

/-- The getPointerField operations of a transform. -/
def pointerFields (transform : Option (List RpcPromisedAnswerOp)) : List RpcPromisedAnswerOp :=
  (transform.getD []).filter (·.tag = RPC_PROMISED_ANSWER_OP_TAG_GET_POINTER_FIELD)

def resolvePromisedAnswerCapability (outcome : RpcDispatchOutcome)
    (transform : Option (List RpcPromisedAnswerOp)) : Except Thrown ℕ :=
  match outcome with
  | .exception reason _ =>
    throw (protocolError s!"promisedAnswer target question resolved with exception: {reason}")
  | .results response =>
    let capTable := response.capTable.getD []
    match transform.getD [], capTable with
    | [], [] =>
      throw
        (protocolError "promisedAnswer target resolved but result has no capabilities in cap table")
    | [], first :: _ => return first.id
    | _ :: _, _ =>
      let steps := pointerFields transform
      if 1 < steps.length then
        throw (protocolError
          s!"multi-step promisedAnswer transforms (multiple getPointerField operations) are not yet supported; got {steps.length} getPointerField steps")
      else
        -- noop operations only leave the pointer index at 0
        let pointerIndex := (steps.head?.bind (·.pointerIndex)).getD 0
        match capTable[pointerIndex]? with
        | some descriptor => return descriptor.id
        | none =>
          throw (protocolError
            s!"promisedAnswer transform getPointerField({pointerIndex}) is out of range; cap table has {capTable.length} entries")

namespace RpcServerBridge

/-! ## Accepting a question -/

/-- A positive finite limit that the table has reached. -/
def tableFull (b : RpcServerBridge) : Bool :=
  match b.options.maxAnswerTableSize with
  | some limit => 0 < limit && limit ≤ b.answerTable.size
  | none => false

def overBudget (b : RpcServerBridge) (inputFrameBytes : ℕ) : Bool :=
  match b.options.maxRetainedInputFrameBytes with
  | some limit => limit - b.retainedInputFrameBytes < inputFrameBytes
  | none => false

/-- The reason of the error frame, when the question is refused. -/
def refusal (b : RpcServerBridge) (questionId inputFrameBytes : ℕ) : Option String :=
  if b.closed then some "rpc server bridge is closed"
  else if (b.answerTable.lookup questionId).isSome then
    some s!"duplicate questionId {questionId}: question is already in progress"
  else if b.tableFull then
    some
      s!"answer table is full ({b.options.maxAnswerTableSize.getD 0} entries); cannot accept new questions"
  else if b.overBudget inputFrameBytes then
    some s!"input frame byte budget exceeded ({b.options.maxRetainedInputFrameBytes.getD 0} bytes)"
  else none

/-- The new entry is the last of the entries. -/
def acceptQuestion (b : RpcServerBridge) (questionId inputFrameBytes : ℕ) (owner : Owner) :
    RpcServerBridge :=
  { b with
    answerTable := b.answerTable.insert questionId b.questions.length
    retainedInputFrameBytes := b.retainedInputFrameBytes + inputFrameBytes
    questions := b.questions ++ [⟨questionId, owner, .idle, AnswerTableEntry.new inputFrameBytes⟩] }

/-- A refusal for its bytes is counted. -/
def countRefusal (b : RpcServerBridge) (questionId : ℕ) : RpcServerBridge :=
  if b.closed ∨ (b.answerTable.lookup questionId).isSome ∨ b.tableFull then b
  else { b with rejectedInputFrames := b.rejectedInputFrames + 1 }

/-- The error frame, or the new entry. -/
def registerAnswerEntry (b : RpcServerBridge) (questionId inputFrameBytes : ℕ) (owner : Owner) :
    RpcServerBridge × Except RpcReturnMessage EntryId :=
  match b.refusal questionId inputFrameBytes with
  | some reason =>
    (b.countRefusal questionId, .error (encodeReturnExceptionFrame questionId reason none false))
  | none => (b.acceptQuestion questionId inputFrameBytes owner, .ok b.questions.length)

/-! ## Dispatching a call -/

/-- `answerEntry.pipelineRefCount -= 1`. -/
def releasePipelineRef (b : RpcServerBridge) (parent : EntryId) : RpcServerBridge :=
  b.updateEntry parent fun entry => { entry with pipelineRefCount := entry.pipelineRefCount - 1 }

/-- `answerEntry.pipelineRefCount += 1`. -/
def takePipelineRef (b : RpcServerBridge) (parent : EntryId) : RpcServerBridge :=
  b.updateEntry parent fun entry => { entry with pipelineRefCount := entry.pipelineRefCount + 1 }

def dispatchToCapability (b : RpcServerBridge) (capabilityIndex : ℕ) (call : RpcCallRequest)
    (parent : Option EntryId) : Stage :=
  match b.dispatchByCapability.lookup capabilityIndex with
  | none => .dispatched (.exception s!"unknown capability index: {capabilityIndex}" none)
  | some registered =>
    if registered.dispatch.accepts call.interfaceId then .dispatching capabilityIndex parent
    else
      .dispatched (.exception
        s!"interface mismatch for capability {capabilityIndex}: expected {registered.dispatch.expected} got {call.interfaceId}"
        none)

/-- The rest of `#dispatchPipelinedCall`, from the outcome of its target on. -/
def dispatchToAnswer (b : RpcServerBridge) (call : RpcCallRequest) (parent : EntryId)
    (outcome : RpcDispatchOutcome) (transform : Option (List RpcPromisedAnswerOp)) :
    RpcServerBridge × Stage :=
  match resolvePromisedAnswerCapability outcome transform with
  | .error error => (b.releasePipelineRef parent, .dispatched (.exception error.message none))
  | .ok capabilityIndex =>
    match b.dispatchToCapability capabilityIndex call (some parent) with
    | .dispatching capabilityIndex parent => (b, .dispatching capabilityIndex parent)
    | stage => (b.releasePipelineRef parent, stage)

def dispatchPipelinedCall (b : RpcServerBridge) (call : RpcCallRequest) (targetQuestionId : ℕ)
    (transform : Option (List RpcPromisedAnswerOp)) : RpcServerBridge × Stage :=
  match b.answerTable.lookup targetQuestionId with
  | none =>
    (b,
      .dispatched (.exception s!"promisedAnswer references unknown question {targetQuestionId}"
        none))
  | some parent =>
    let b := b.takePipelineRef parent
    match b.questions[parent]?.bind (·.entry.outcome) with
    | none => (b, .waiting parent transform)
    | some outcome => b.dispatchToAnswer call parent outcome transform

def dispatchCall (b : RpcServerBridge) (call : RpcCallRequest) : RpcServerBridge × Stage :=
  match call.target with
  | .importedCap capabilityIndex => (b, b.dispatchToCapability capabilityIndex call none)
  | .promisedAnswer targetQuestionId transform =>
    b.dispatchPipelinedCall call targetQuestionId transform

/-- The call of a handler, when the stage is the wait for one. -/
def invocation (i : EntryId) : Stage → List Effect
  | .dispatching capabilityIndex _ => [.invoked i capabilityIndex]
  | _ => []

/-- The computation of an entry goes on to the stage. -/
def enter (i : EntryId) (next : RpcServerBridge × Stage) : RpcServerBridge × List Effect :=
  (next.1.setStage i next.2, invocation i next.2)

/-- `#completeCall` up to its first await. -/
def startCall (b : RpcServerBridge) (i : EntryId) (call : RpcCallRequest) :
    RpcServerBridge × List Effect :=
  let next := enter i (b.dispatchCall call)
  (next.1, .accepted i call.questionId :: next.2)

def handleCall (b : RpcServerBridge) (call : RpcCallRequest) (inputFrameBytes : ℕ) :
    RpcServerBridge × List Effect :=
  match b.registerAnswerEntry call.questionId inputFrameBytes (.call call .frame) with
  | (b, .error frame) => (b, [.refused frame])
  | (b, .ok i) => b.startCall i call

/-! ## Completing an answer -/

/-- The timer is set when there is a positive finite timeout. -/
def armTimer (options : RpcServerBridgeOptions) (entry : AnswerTableEntry) : AnswerTableEntry :=
  match options.answerEvictionTimeoutMs with
  | some timeout => if timeout = 0 then entry else { entry with evictionTimer := true }
  | none => entry

def scheduleEviction (b : RpcServerBridge) (i : EntryId) : RpcServerBridge :=
  b.updateEntry i (armTimer b.options)

/-- The outcome is stored and the promise resolved. -/
def settleEntry (outcome : RpcDispatchOutcome) (entry : AnswerTableEntry) : AnswerTableEntry :=
  { entry with outcome := some outcome, promise := some outcome }

/-- The `finally` of `#completeCall`. -/
def refund (b : RpcServerBridge) (inputFrameBytes : ℕ) : RpcServerBridge :=
  { b with retainedInputFrameBytes := b.retainedInputFrameBytes - inputFrameBytes }

/-- The Return of a call whose entry is still there. -/
def buildReturn (frameError : RpcReturnMessage → Option Thrown) (b : RpcServerBridge) (i : EntryId)
    (questionId : ℕ) : RpcDispatchOutcome → RpcServerBridge × Except Thrown RpcReturnMessage
  | .exception reason releaseParamCaps =>
    (b, return encodeReturnExceptionFrame questionId reason releaseParamCaps false)
  | .results response =>
    let frame := encodeReturnResultsFrame questionId response
    -- the references are granted before the frame is encoded
    (b.trackReturnedCapabilities i frame.capTable false,
      match frameError frame with
      | some error => throw error
      | none => return frame)

/-- The rest of `#completeCall`, from the outcome of `#dispatchCall` on. -/
def completeCall (frameError : RpcReturnMessage → Option Thrown) (b : RpcServerBridge) (i : EntryId)
    (question : Question) (outcome : RpcDispatchOutcome) :
    RpcServerBridge × Except Thrown (Option RpcReturnMessage) :=
  let b := b.updateEntry i (settleEntry outcome)
  if ¬ b.retains question.questionId i ∨ question.entry.finished then
    (b.refund question.entry.inputFrameBytes, return none)
  else
    let built := buildReturn frameError (b.scheduleEviction i) i question.questionId outcome
    (built.1.refund question.entry.inputFrameBytes, some <$> built.2)

/-- What the caller of `#completeCall` on the frame path gets. -/
def frameReturn (i : EntryId) : Except Thrown (Option RpcReturnMessage) → Effect
  | .error error => .rejected i error
  | .ok (some frame) => .returned i frame
  | .ok none => .returnedNothing i

/-- What the responder of a host call gets to hand over. -/
def builtReturn (i : EntryId) : Except Thrown (Option RpcReturnMessage) → List Effect
  | .ok (some frame) => [.built i frame]
  | _ => []

def completeStage (i : EntryId) (path : CallPath)
    (completed : RpcServerBridge × Except Thrown (Option RpcReturnMessage)) :
    RpcServerBridge × List Effect :=
  match path with
  | .frame => (completed.1.setStage i .idle, [frameReturn i completed.2])
  | .host _ => (completed.1.setStage i (.responding completed.2), builtReturn i completed.2)

/-- The outcome a Return stands for. -/
def outcomeOf (response : RpcReturnMessage) : RpcDispatchOutcome :=
  match response.kind with
  | .results content capTable => .results ⟨content, some capTable, none, none⟩
  | .exception reason => .exception reason none
  | .canceled => .exception "rpc call canceled" none

def completeBootstrapAnswer (b : RpcServerBridge) (i : EntryId) (response : RpcReturnMessage) :
    RpcServerBridge :=
  let b := b.updateEntry i (settleEntry (outcomeOf response))
  match b.questions[i]? with
  | none => b
  | some question =>
    if ¬ b.retains response.answerId i ∨ question.entry.finished then b
    else (b.trackReturnedCapabilities i response.capTable true).scheduleEviction i

/-- `encodeBootstrapResponseFrame`, decoded. -/
def encodeBootstrapResponseFrame (answerId capabilityIndex : ℕ) : Except Thrown RpcReturnMessage :=
  if 0xffff_ffff < capabilityIndex then
    throw (protocolError s!"capabilityIndex must be a u32, got {capabilityIndex}")
  else
    return ⟨answerId, .results none [⟨CAP_DESCRIPTOR_TAG_SENDER_HOSTED, capabilityIndex⟩],
      true, false⟩

/-- Only the promise of a failed bootstrap answer is resolved. -/
def failEntry (error : Thrown) (entry : AnswerTableEntry) : AnswerTableEntry :=
  { entry with promise := some (.exception error.toText none) }

/-- The rest of the Bootstrap branch of `handleFrame`, from the result of `onBootstrap` on. -/
def finishBootstrap (b : RpcServerBridge) (i : EntryId) (questionId : ℕ)
    (result : Except Thrown ℕ) :
    RpcServerBridge × List Effect :=
  match result >>= encodeBootstrapResponseFrame questionId with
  | .ok response =>
    ((b.completeBootstrapAnswer i response).setStage i .idle, [.bootstrapReturned i response])
  | .error error =>
    (((b.deleteAnswer questionId).updateEntry i (failEntry error)).setStage i .idle,
      [.bootstrapFailed i error])

def observeBootstrapResponse (b : RpcServerBridge) (response : RpcReturnMessage) :
    RpcServerBridge × List Effect :=
  match b.registerAnswerEntry response.answerId 0 .observed with
  | (b, .error frame) => (b, [.threw (protocolError frame.reason)])
  | (b, .ok i) =>
    (b.completeBootstrapAnswer i response,
      [.accepted i response.answerId, .bootstrapObserved i response])

/-! ## Frames -/

/-- The entry once the peer has finished its question: a pending call is aborted. -/
def finishEntry (entry : AnswerTableEntry) : AnswerTableEntry :=
  { entry with
    evictionTimer := false
    finished := true
    aborted := entry.aborted || entry.outcome.isNone }

/-- The Finish branch of `handleFrame`. -/
def finishQuestion (b : RpcServerBridge) (finish : RpcFinishRequest) :
    RpcServerBridge × List Effect :=
  match b.answerTable.lookup finish.questionId with
  | none => (b, [.callerFinished finish.questionId (some finish.releaseResultCaps)])
  | some i =>
    (((b.updateEntry i finishEntry).releaseAnswerHeldCapabilities i
      finish.releaseResultCaps).deleteAnswer
        finish.questionId,
      [.callerFinished finish.questionId (some finish.releaseResultCaps)])

/-- `releaseCapability`, with what the world sees of it. -/
def release (b : RpcServerBridge) (capabilityIndex : ℕ) (referenceCount : ℤ) :
    RpcServerBridge × List Effect :=
  match b.releaseCapability capabilityIndex referenceCount with
  | (b, .ok _) => (b, [.released capabilityIndex referenceCount])
  | (b, .error error) => (b, [.threw error])

/-- `handleFrame` from the decoded frame on. -/
def processFrame (b : RpcServerBridge) : InboundFrame → RpcServerBridge × List Effect
  | .release release => b.release release.id release.referenceCount
  | .finish finish => b.finishQuestion finish
  | .passThrough => (b, [])
  | .bootstrap questionId =>
    if b.options.onBootstrap then
      match b.registerAnswerEntry questionId 0 .bootstrap with
      | (b, .error frame) => (b, [.refused frame])
      | (b, .ok i) => (b.setStage i .bootstrapping, [.accepted i questionId])
    else
      (b, [.threw (protocolError
        "bootstrap not configured — provide onBootstrap in RpcServerBridgeOptions")])
  | .call call byteLength => b.handleCall call byteLength
  | .refused error => (b, [.threw error])

/-! ## Host calls -/

/-- The calls `#respondWasmHostCallFrame` makes, in order. -/
def respondWasmHostCallFrame (abi : RpcServerWasmHostAbi) (failure : HostFailure)
    (frame : RpcReturnMessage) :
    List HostReturn :=
  if abi.respondHostCallReturnFrame && abi.supportsHostCallReturnFrame.getD true then
    if abi.supportsParamCapRetention = some false ∧ frame.releaseParamCaps = false then
      [.exception
        "wasm module does not support retaining host-call param caps (releaseParamCaps=false); rebuild the runtime module with host-call param-cap retention"]
    else
      match failure (.returnFrame frame) with
      | none => [.returnFrame frame]
      | some message => [.returnFrame frame, .exception message]
  else
    match frame.kind with
    | .exception reason => [.exception reason]
    | .canceled => [.exception "rpc call canceled"]
    | .results content capTable =>
      if 0 < capTable.length then
        [.exception "wasm host-call bridge does not support response cap tables yet"]
      else if frame.releaseParamCaps = false ∨ frame.noFinishNeeded = true then
        [.exception "wasm host-call bridge does not support non-default return flags yet"]
      else [.results content]

/-- What the world sees of the calls. -/
def hostEffects (i : EntryId) (failure : HostFailure) (attempts : List HostReturn) : List Effect :=
  attempts.map fun attempt => .hostReturned i attempt (failure attempt)

/-- The answer of a host call that is not accepted. -/
def refuseHostCall (questionId : ℕ) (failure : HostFailure) (attempts : List HostReturn) :
    List Effect :=
  attempts.map fun attempt => .hostRefused questionId attempt (failure attempt)

def handleWasmHostCall (b : RpcServerBridge) (abi : RpcServerWasmHostAbi)
    (record : WasmHostCallRecord) (failure : HostFailure) : RpcServerBridge × List Effect :=
  match record.call with
  | .error message => (b, refuseHostCall record.questionId failure [.exception message])
  | .ok call =>
    if call.questionId ≠ record.questionId then
      (b, refuseHostCall record.questionId failure
        [.exception
          s!"host call questionId mismatch: metadata={record.questionId} frame={call.questionId}"])
    else
      match b.registerAnswerEntry call.questionId record.byteLength (.call call (.host abi)) with
      | (b, .error frame) =>
        (b, refuseHostCall call.questionId failure (respondWasmHostCallFrame abi failure frame))
      | (b, .ok i) => b.startCall i call

/-- The Return of a canceled host call. -/
def canceledReturn (questionId : ℕ) (outcome : Option RpcDispatchOutcome) : RpcReturnMessage :=
  let releaseParamCaps :=
    match outcome with
    | some (.results response) => response.releaseParamCaps
    | some (.exception _ releaseParamCaps) => releaseParamCaps
    | none => none
  encodeReturnExceptionFrame questionId "rpc call canceled" releaseParamCaps true

/-- `respond`, from the result of `#completeCall` on. -/
def respond (b : RpcServerBridge) (abi : RpcServerWasmHostAbi) (failure : HostFailure) (i : EntryId)
    (question : Question) : Except Thrown (Option RpcReturnMessage) → List Effect
  | .error error => [.rejected i error]
  | .ok result =>
    if b.closed then []
    else
      match result with
      | some frame => hostEffects i failure (respondWasmHostCallFrame abi failure frame)
      | none =>
        if question.entry.finished then
          hostEffects i failure (respondWasmHostCallFrame abi failure
            (canceledReturn question.questionId question.entry.outcome))
        else []

/-- The entry once the answer-finished listener has seen it. -/
def cancelEntry (entry : AnswerTableEntry) : AnswerTableEntry :=
  { entry with finished := true, aborted := true }

/-- The answer-finished listener. -/
def answerFinished (b : RpcServerBridge) (answerId : ℕ) (failure : HostFailure) :
    RpcServerBridge × List Effect :=
  match b.answerTable.lookup answerId with
  | none => (b, [])
  | some i =>
    match b.questions[i]? with
    | none => (b, [])
    | some question =>
      if question.entry.finished then (b, [])
      else
        (b.updateEntry i cancelEntry,
          [.callerFinished answerId none, .hostReturned i .canceled (failure .canceled)])

/-! ## Timers and close -/

/-- A computation is about to resume, so no timer fires yet. -/
def ready (b : RpcServerBridge) (question : Question) : Bool :=
  match question.stage with
  | .waiting parent _ =>
    question.entry.aborted || (b.questions[parent]?.bind (·.entry.promise)).isSome
  | .dispatched _ => true
  | .responding _ => true
  | _ => false

/-- The entry leaves the table, and its holds end. -/
def evict (b : RpcServerBridge) (i : EntryId) (questionId : ℕ) : RpcServerBridge × List Effect :=
  ((b.releaseAnswerHeldCapabilities i false).deleteAnswer questionId, [.evicted i])

/-- A positive finite limit that the attempts have passed. -/
def retriesExhausted (b : RpcServerBridge) (evictionAttempts : ℕ) : Bool :=
  match b.options.maxEvictionRetries with
  | some limit => 0 < limit && limit < evictionAttempts
  | none => false

/-- The timer has fired. -/
def disarmTimer (entry : AnswerTableEntry) : AnswerTableEntry :=
  { entry with evictionTimer := false }

def countAttempt (entry : AnswerTableEntry) : AnswerTableEntry :=
  { entry with evictionAttempts := entry.evictionAttempts + 1 }

/-- The callback of the timer. -/
def fireEvictionTimer (b : RpcServerBridge) (i : EntryId) (question : Question) :
    RpcServerBridge × List Effect :=
  let b := b.updateEntry i disarmTimer
  if ¬ b.retains question.questionId i then (b, [])
  else if 0 < question.entry.pipelineRefCount then
    let b := b.updateEntry i countAttempt
    if b.retriesExhausted (question.entry.evictionAttempts + 1) then b.evict i question.questionId
    else (b.scheduleEviction i, [])
  else b.evict i question.questionId

/-- The entry once the bridge is closed. -/
def closeEntry (entry : AnswerTableEntry) : AnswerTableEntry :=
  { entry with finished := true, evictionTimer := false, aborted := true }

/-- The loop of `close` over the table. -/
def closeEntries (b : RpcServerBridge) (places : List EntryId) : RpcServerBridge :=
  places.foldl (fun b i => b.updateEntry i closeEntry) b

def close (b : RpcServerBridge) : RpcServerBridge :=
  { b.closeEntries (b.answerTable.entries.map Sigma.snd) with
    closed := true
    answerTable := ∅
    dispatchByCapability := ∅ }

/-! ## Steps -/

/-- The step of a computation that stands at a stage, from a question to what comes of it. -/
def atStage (b : RpcServerBridge) (i : EntryId)
    (act : Question → Stage → RpcServerBridge × List Effect) :
    RpcServerBridge × List Effect :=
  match b.questions[i]? with
  | some question => act question question.stage
  | none => (b, [])

/-- One event; `frameError` is what the frame encoder throws on a Return, if it throws. -/
def step (frameError : RpcReturnMessage → Option Thrown) (b : RpcServerBridge) :
    Event → RpcServerBridge × List Effect
  | .exportCapability dispatch capabilityIndex referenceCount =>
    match b.exportCapability dispatch capabilityIndex referenceCount with
    | (b, .ok index) => (b, [.exported index referenceCount])
    | (b, .error error) => (b, [.threw error])
  | .retainCapability capabilityIndex referenceCount =>
    match b.retainCapability capabilityIndex referenceCount with
    | (b, .ok _) => (b, [.retained capabilityIndex referenceCount])
    | (b, .error error) => (b, [.threw error])
  | .releaseCapability capabilityIndex referenceCount => b.release capabilityIndex referenceCount
  | .handleFrame frame =>
    if b.closed then (b, [.threw (sessionError "rpc server bridge is closed")])
      else b.processFrame frame
  | .resumeFrame frame => b.processFrame frame
  | .hostCall abi record failure => b.handleWasmHostCall abi record failure
  | .observeBootstrapResponse response => b.observeBootstrapResponse response
  | .bootstrapSettles i result =>
    b.atStage i fun question stage =>
      match stage with
      | .bootstrapping => b.finishBootstrap i question.questionId result
      | _ => (b, [])
  | .handlerSettles i outcome =>
    b.atStage i fun _ stage =>
      match stage with
      | .dispatching _ none => (b.setStage i (.dispatched outcome), [])
      | .dispatching _ (some parent) =>
        ((b.releasePipelineRef parent).setStage i (.dispatched outcome), [])
      | _ => (b, [])
  | .resumePipelined i =>
    b.atStage i fun question stage =>
      match stage, question.owner with
      | .waiting parent transform, .call call _ =>
        if question.entry.aborted then
          enter i (b.releasePipelineRef parent,
            .dispatched (.exception "pipelined call canceled" none))
        else
          match b.questions[parent]?.bind (·.entry.promise) with
          | some outcome => enter i (b.dispatchToAnswer call parent outcome transform)
          | none => (b, [])
      | _, _ => (b, [])
  | .completeCall i =>
    b.atStage i fun question stage =>
      match stage, question.owner with
      | .dispatched outcome, .call _ path =>
        completeStage i path (completeCall frameError b i question outcome)
      | _, _ => (b, [])
  | .respond i failure =>
    b.atStage i fun question stage =>
      match stage, question.owner with
      | .responding result, .call _ (.host abi) =>
        (b.setStage i .idle, b.respond abi failure i question result)
      | _, _ => (b, [])
  | .evictionTimer i =>
    if b.questions.any b.ready then (b, [])
    else
      b.atStage i fun question _ =>
        if question.entry.evictionTimer then b.fireEvictionTimer i question else (b, [])
  | .answerFinished answerId failure => b.answerFinished answerId failure
  | .close => if b.closed then (b, []) else (b.close, [.closed])

end RpcServerBridge

end CapnpDeno
