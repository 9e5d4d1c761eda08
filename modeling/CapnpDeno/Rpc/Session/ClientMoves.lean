import CapnpDeno.Lib.Fallible
import CapnpDeno.Lib.Heap
import CapnpDeno.Rpc.Session.Client

/-!
# Moves of SessionRpcClientTransport

What the parts of a step change, what a step can do, what allows it, and its effects.
-/

namespace CapnpDeno

/-- The frame that the pump has read and not handled. -/
def ResponsePump.frame : ResponsePump → Option InboundMessage
  | .read (.ok frame) _ => some frame
  | _ => none

namespace SessionRpcClientTransport

variable {s s' : SessionRpcClientTransport} {event : SessionEvent} {effects : List SessionEffect}
  {i : OperationId} {call : SessionCall} {questionId : ℕ} {error : Thrown}

/-! ## What the pump changes -/

theorem nextOutboundFrame_only (s : SessionRpcClientTransport) :
    ∃ frames pump, s.nextOutboundFrame = { s with frames := frames, responsePump := pump } := by
  unfold nextOutboundFrame
  split
  · exact ⟨_, _, rfl⟩
  · exact ⟨s.frames, _, rfl⟩
  · exact ⟨s.frames, _, rfl⟩

theorem pumpResponses_only (s : SessionRpcClientTransport) :
    ∃ frames pump, s.pumpResponses = { s with frames := frames, responsePump := pump } := by
  unfold pumpResponses
  split_ifs
  · exact nextOutboundFrame_only s
  · exact ⟨s.frames, _, rfl⟩

theorem ensureResponsePump_only (s : SessionRpcClientTransport) :
    ∃ frames pump, s.ensureResponsePump = { s with frames := frames, responsePump := pump } := by
  unfold ensureResponsePump
  split
  · exact pumpResponses_only s
  · exact ⟨s.frames, s.responsePump, rfl⟩

theorem abortResponsePumpRead_only (s : SessionRpcClientTransport) :
    ∃ pump, s.abortResponsePumpRead = { s with responsePump := pump } := by
  unfold abortResponsePumpRead
  split
  · exact ⟨_, rfl⟩
  · exact ⟨_, rfl⟩
  · exact ⟨s.responsePump, rfl⟩

theorem abortResponsePumpReadIfIdle_only (s : SessionRpcClientTransport) :
    ∃ pump, s.abortResponsePumpReadIfIdle = { s with responsePump := pump } := by
  unfold abortResponsePumpReadIfIdle
  split_ifs
  · exact ⟨s.responsePump, rfl⟩
  · exact abortResponsePumpRead_only s

/-! ## What a waiter changes -/

/-- The waiters of the question, less one. -/
def dropWaiter (s : SessionRpcClientTransport) (questionId : ℕ) (i : OperationId) :
    Table ℕ (List OperationId) :=
  match s.pendingReturns.lookup questionId with
  | none => s.pendingReturns
  | some waiters =>
    match waiters.erase i with
    | [] => s.pendingReturns.erase questionId
    | rest => s.pendingReturns.insert questionId rest

theorem removePendingReturnWaiter_only (s : SessionRpcClientTransport) (questionId : ℕ)
    (i : OperationId) :
    ∃ pump, s.removePendingReturnWaiter questionId i =
      { s with pendingReturns := s.dropWaiter questionId i, responsePump := pump } := by
  unfold removePendingReturnWaiter dropWaiter
  cases s.pendingReturns.lookup questionId with
  | none => exact ⟨s.responsePump, rfl⟩
  | some waiters =>
    dsimp only
    cases waiters.erase i with
    | nil =>
      exact abortResponsePumpReadIfIdle_only
        { s with pendingReturns := s.pendingReturns.erase questionId }
    | cons => exact ⟨s.responsePump, rfl⟩

theorem rejectAllPendingReturns_only (s : SessionRpcClientTransport) (error : Thrown) :
    ∃ pump, s.rejectAllPendingReturns error =
      { s with
        pendingReturns := ∅
        expectedReturns :=
  s.pendingReturns.keys.foldl (fun expected key => expected.erase key) s.expectedReturns
        queuedReturns :=
  s.pendingReturns.keys.foldl (fun queued key => queued.erase key) s.queuedReturns
        responsePump := pump
        calls := s.calls.mapIdx (rejectCall s.pendingReturns error) } := by
  obtain ⟨pump, same⟩ := abortResponsePumpReadIfIdle_only { s with pendingReturns := ∅ }
  refine ⟨pump, ?_⟩
  unfold rejectAllPendingReturns
  rw [same]

/-! ## The steps of a question -/

/-- The client with the next question id given out. -/
def allocate (s : SessionRpcClientTransport) (i : OperationId) : SessionRpcClientTransport :=
  { s.updateCall i fun call => { call with questionId := some s.nextQuestionId } with
    nextQuestionId := s.nextQuestionId + 1 }

/-- The operation records what its parameters grant. -/
def recordsGrants (call : SessionCall) : Bool :=
  (SessionOperation.capability call.operation).isSome && hostsParamCaps call.options

/-- The client with the grants of the question recorded, if the operation records any. -/
def recordGrants (s : SessionRpcClientTransport) (call : SessionCall) (questionId : ℕ) :
    SessionRpcClientTransport :=
  if recordsGrants call then
    { s with
      questionParamCapGrants :=
        s.questionParamCapGrants.insert questionId
          (paramCapGrants (call.options.paramsCapTable.getD [])) }
  else s

def grantEffects (call : SessionCall) (questionId : ℕ) : List SessionEffect :=
  if recordsGrants call then [.recorded questionId
    (paramCapGrants (call.options.paramsCapTable.getD []))] else []

theorem request_eq (s : SessionRpcClientTransport) (i : OperationId) (call : SessionCall)
    (questionId : ℕ) :
    s.request i call questionId none =
      (((s.recordGrants call questionId).markReturnExpected questionId).goTo i
        (.starting (s.askingFrame call questionId)), grantEffects call questionId) := by
  unfold request recordGrants grantEffects recordsGrants
  dsimp only
  split_ifs <;> rfl

theorem admitQuestion_ok (admitted : s.admitQuestion call = .ok questionId) :
    questionId = s.nextQuestionId := by
  have numbered (allocated : s.allocQuestionId = .ok questionId) :
      questionId = s.nextQuestionId := by
    unfold allocQuestionId at allocated
    dsimp only at allocated
    split_ifs at allocated
    exact (Except.ok.inj allocated).symm
  unfold admitQuestion at admitted
  split_ifs at admitted
  · obtain ⟨_, -, allocated⟩ := Fallible.bind_eq_ok.1 admitted
    exact numbered allocated
  · exact numbered admitted

/-- The operation waits for its Return, and has its turn no longer if it is pipelined. -/
def toWaiting (s : SessionRpcClientTransport) (i : OperationId) (call : SessionCall) :
    SessionRpcClientTransport :=
  match call.operation with
  | .callRawPipelined _ => (s.goTo i .waiting).leave i
  | _ => s.goTo i .waiting

/-- No Return is expected any more by an operation whose wait has failed, unless it is pipelined. -/
def observe (s : SessionRpcClientTransport) (call : SessionCall) (questionId : ℕ) :
    Except Thrown RpcReturnMessage → SessionRpcClientTransport
  | .ok _ => s
  | .error _ =>
    match call.operation with
    | .callRawPipelined _ => s
    | _ => s.markReturnObserved questionId

/-! ## The moves -/

inductive Moves (s : SessionRpcClientTransport) : SessionEvent → SessionRpcClientTransport →
    List SessionEffect → Prop
  | nothing (event : SessionEvent) : Moves s event s []
  | begun (operation : SessionOperation) (options : RpcClientCallOptions) :
      Moves s (.start operation options) (s.start operation options).1 (s.start operation options).2
  /-- The operation ends before its question has an id. -/
  | refused (i : OperationId) (frameError : Option Thrown) (call : SessionCall) (error : Thrown)
      (found : s.calls[i]? = some call) (stands : call.stage = .queued) :
      Moves s (.resume i frameError) (s.enter i (concluded call (.error error))).1
        (s.enter i (concluded call (.error error))).2
  /-- The middleware is told of the call. -/
  | hooked (i : OperationId) (frameError : Option Thrown) (call : SessionCall)
    (found : s.calls[i]? = some call)
      (stands : call.stage = .queued) (free : s.closed = false)
      (admitted : s.admitQuestion call = .ok s.nextQuestionId) :
      Moves s (.resume i frameError) ((s.allocate i).goTo i .onCall) [.allocated i s.nextQuestionId]
  | unencoded (i : OperationId) (call : SessionCall) (error : Thrown)
    (found : s.calls[i]? = some call)
      (stands : call.stage = .queued) (free : s.closed = false)
      (admitted : s.admitQuestion call = .ok s.nextQuestionId) :
      Moves s (.resume i (some error)) ((s.allocate i).enter i (concluded call (.error error))).1
        (.allocated i s.nextQuestionId ::
          ((s.allocate i).enter i (concluded call (.error error))).2)
  | asked (i : OperationId) (call : SessionCall) (found : s.calls[i]? = some call)
    (stands : call.stage = .queued)
      (free : s.closed = false) (admitted : s.admitQuestion call = .ok s.nextQuestionId) :
      Moves s (.resume i none)
        ((((s.allocate i).recordGrants call s.nextQuestionId).markReturnExpected
          s.nextQuestionId).goTo i (.starting (s.askingFrame call s.nextQuestionId)))
        (.allocated i s.nextQuestionId :: grantEffects call s.nextQuestionId)
  /-- The call ends before its question is asked: the middleware throws, or the frame is not
  encoded. -/
  | unasked (i : OperationId) (failure frameError : Option Thrown) (call : SessionCall)
    (error : Thrown)
      (found : s.calls[i]? = some call) (stands : call.stage = .onCall) :
      Moves s (.middlewareSettles i failure frameError)
      (s.enter i (concluded call (.error error))).1
        (s.enter i (concluded call (.error error))).2
  | askedAfterHook (i : OperationId) (call : SessionCall) (questionId : ℕ)
    (found : s.calls[i]? = some call)
      (stands : call.stage = .onCall) (identified : call.questionId = some questionId) :
      Moves s (.middlewareSettles i none none)
        (((s.recordGrants call questionId).markReturnExpected questionId).goTo i
          (.starting (s.askingFrame call questionId)))
        (grantEffects call questionId)
  | emitted (i : OperationId) (call : SessionCall) (frame : ClientFrame)
    (found : s.calls[i]? = some call)
      (stands : call.stage = .starting frame) :
      Moves s (.startSettles i none) (s.goTo i .emitting) [.emitted i frame]
  | unsent (i : OperationId) (call : SessionCall) (frame : ClientFrame) (questionId : ℕ)
    (error : Thrown)
      (found : s.calls[i]? = some call) (stands : call.stage = .starting frame)
      (identified : call.questionId = some questionId) :
      Moves s (.startSettles i (some error))
        ((markReturnObserved { s with questionParamCapGrants :=
          s.questionParamCapGrants.erase questionId }
          questionId).enter i (s.afterFailure call questionId false error)).1
        (.unsent questionId :: ((markReturnObserved
          { s with questionParamCapGrants := s.questionParamCapGrants.erase questionId }
            questionId).enter i (s.afterFailure call questionId false error)).2)
  | handedOver (i : OperationId) (call : SessionCall) (found : s.calls[i]? = some call)
      (stands : call.stage = .emitting) : Moves s (.emitSettles i none) (s.goTo i .flushing)
      [.handedOver i]
  | emitFailed (i : OperationId) (call : SessionCall) (questionId : ℕ) (error : Thrown)
      (found : s.calls[i]? = some call) (stands : call.stage = .emitting)
      (identified : call.questionId = some questionId) :
      Moves s (.emitSettles i (some error))
        ((s.markReturnObserved questionId).enter i (s.afterFailure call questionId false error)).1
        ((s.markReturnObserved questionId).enter i (s.afterFailure call questionId false error)).2
  | flushFailed (i : OperationId) (call : SessionCall) (questionId : ℕ) (error : Thrown)
      (found : s.calls[i]? = some call) (stands : call.stage = .flushing)
      (identified : call.questionId = some questionId) :
      Moves s (.flushSettles i (some error))
        ((s.markReturnObserved questionId).enter i (s.afterFailure call questionId true error)).1
        ((s.markReturnObserved questionId).enter i (s.afterFailure call questionId true error)).2
  | flushed (i : OperationId) (call : SessionCall) (questionId : ℕ)
    (found : s.calls[i]? = some call)
      (stands : call.stage = .flushing) (identified : call.questionId = some questionId) :
      Moves s (.flushSettles i none) ((s.toWaiting i call).awaitReturn i call questionId).1
        ((s.toWaiting i call).awaitReturn i call questionId).2
  | answered (i : OperationId) (frameError : Option Thrown) (call : SessionCall) (questionId : ℕ)
      (outcome : Except Thrown RpcReturnMessage) (found : s.calls[i]? = some call)
      (stands : call.stage = .waiting) (identified : call.questionId = some questionId)
      (promise : call.promise = some outcome) :
      Moves s (.resume i frameError)
      ((s.observe call questionId outcome).enter i (s.afterWait call questionId outcome)).1
        ((s.observe call questionId outcome).enter i (s.afterWait call questionId outcome)).2
  | concludes (i : OperationId) (failure frameError : Option Thrown) (call : SessionCall)
      (result : Except Thrown ClientAnswer) (found : s.calls[i]? = some call)
      (stands : call.stage = .hooks result) :
      Moves s (.middlewareSettles i failure frameError)
        (s.enter i
          (concluded call (match failure with | some error => .error error | none => result))).1
        (s.enter i
          (concluded call (match failure with | some error => .error error | none => result))).2
  | returned (i : OperationId) (frameError : Option Thrown) (call : SessionCall)
    (result : Except Thrown ClientAnswer)
      (found : s.calls[i]? = some call) (stands : call.stage = .called result) :
      Moves s (.resume i frameError) (s.afterCallRaw i call result).1
        (s.afterCallRaw i call result).2
  | finishClosed (i : OperationId) (frameError : Option Thrown) (call : SessionCall)
    (finish : PendingFinish)
      (found : s.calls[i]? = some call) (stands : call.stage = .finishQueued finish)
      (closed : s.closed = true) :
      Moves s (.resume i frameError) (s.enter i (.settled (.error clientClosed))).1
        (s.enter i (.settled (.error clientClosed))).2
  | finishTurn (i : OperationId) (frameError : Option Thrown) (call : SessionCall)
    (finish : PendingFinish)
      (found : s.calls[i]? = some call) (stands : call.stage = .finishQueued finish) :
      Moves s (.resume i frameError) (s.goTo i (.finishStarting finish)) []
  | finishEmitted (i : OperationId) (call : SessionCall) (finish : PendingFinish)
    (found : s.calls[i]? = some call)
      (stands : call.stage = .finishStarting finish) :
      Moves s (.startSettles i none) (s.goTo i (.finishEmitting finish))
        [.emittedFinish i finish.options (finishFrame finish.questionId finish.options)]
  | finishHandedOver (i : OperationId) (call : SessionCall) (finish : PendingFinish)
    (found : s.calls[i]? = some call)
      (stands : call.stage = .finishEmitting finish) :
      Moves s (.emitSettles i none) (s.goTo i (.finishFlushing finish)) []
  | finished (i : OperationId) (call : SessionCall) (finish : PendingFinish)
    (found : s.calls[i]? = some call)
      (stands : call.stage = .finishFlushing finish) :
      Moves s (.flushSettles i none) (s.enter i (s.conclude call finish.result)).1
        (s.enter i (s.conclude call finish.result)).2
  | finishUnstarted (i : OperationId) (call : SessionCall) (finish : PendingFinish) (error : Thrown)
      (found : s.calls[i]? = some call) (stands : call.stage = .finishStarting finish) :
      Moves s (.startSettles i (some error))
      (s.failFinish i call finish error).1 (s.failFinish i call finish error).2
  | finishUnemitted (i : OperationId) (call : SessionCall) (finish : PendingFinish) (error : Thrown)
      (found : s.calls[i]? = some call) (stands : call.stage = .finishEmitting finish) :
      Moves s (.emitSettles i (some error))
      (s.failFinish i call finish error).1 (s.failFinish i call finish error).2
  | finishUnflushed (i : OperationId) (call : SessionCall) (finish : PendingFinish) (error : Thrown)
      (found : s.calls[i]? = some call) (stands : call.stage = .finishFlushing finish) :
      Moves s (.flushSettles i (some error))
      (s.failFinish i call finish error).1 (s.failFinish i call finish error).2
  | timedOut (i : OperationId) (call : SessionCall) (error : Thrown)
    (found : s.calls[i]? = some call)
      (running : call.timer = true) : Moves s (.timeout i) (s.rejectAndRemove i call error) []
  | flagged (i : OperationId) (call : SessionCall) (found : s.calls[i]? = some call) :
      Moves s (.abort i) (s.updateCall i fun call => { call with aborted := call.options.signal })
      []
  | aborted (i : OperationId) (call : SessionCall) (error : Thrown)
      (found : s.calls[i]? = some call)
      (listening : call.listening = true) :
      Moves s (.abort i)
        ((s.updateCall i fun call => { call with aborted := call.options.signal }).rejectAndRemove i
          call error) []
  /-- The harness has a frame, or its read fails. -/
  | harness (event : SessionEvent) (frames : List InboundMessage) (queueClosed : Option Thrown)
      (pump : ResponsePump)
      (reads : s.responsePump = .reading ∧ (∃ frame, pump = .read frame false) ∨
        pump = s.responsePump)
      (queued : (∃ message, event = .frame message) ∨ pump.frame = s.responsePump.frame ∧
        frames = s.frames) :
      Moves s event { s with frames := frames, queueClosed := queueClosed, responsePump := pump } []
  | received (message : RpcReturnMessage) (aborted : Bool)
      (read : s.responsePump = .read (.ok (.ret message)) aborted) :
      Moves s .pump (handleReturn { s with responsePump := .serving } message).1.pumpResponses
        (handleReturn { s with responsePump := .serving } message).2
  | serves (frame : InboundMessage) (aborted : Bool)
      (read : s.responsePump = .read (.ok frame) aborted) :
      Moves s .pump { s with responsePump := .serving } []
  | idles (error : Thrown) (aborted : Bool) (read : s.responsePump = .read (.error error) aborted)
      (idle : s.shouldPumpResponses = false) : Moves s .pump { s with responsePump := .exiting } []
  | stops (error : Thrown) (aborted : Bool) (read : s.responsePump = .read (.error error) aborted) :
      Moves s .pump (rejectAllPendingReturns
        { s with responsePump := .exiting, responsePumpStopped := true } error) []
  | exits (exiting : s.responsePump = .exiting) :
      Moves s .pump
        (if s.shouldPumpResponses then ensureResponsePump { s with responsePump := .off }
          else { s with responsePump := .off }) []
  | pumpsOn (failure : Option Thrown) (serving : s.responsePump = .serving) :
      Moves s (.served failure) s.pumpResponses []
  | serveFails (failure : Option Thrown) (serving : s.responsePump = .serving) :
      Moves s (.served failure) { s with responsePump := .exiting } []
  | threw (event : SessionEvent) (error : Thrown) : Moves s event s [.threw error]
  | exported (hasHostCallBridge : Bool) :
      Moves s (.exportCapability hasHostCallBridge)
      (ensureResponsePump { s with localBridge := true }) []
  | closed (free : s.closed = false) : Moves s .close s.close.1 s.close.2

/-! ## What most steps keep -/

/-- The parts of the client that the steps of waiters and of the pump leave as they are. -/
structure Keeps (s s' : SessionRpcClientTransport) : Prop where
  closed : s'.closed = s.closed
  localBridge : s'.localBridge = s.localBridge
  grants : s'.questionParamCapGrants = s.questionParamCapGrants
  next : s'.nextQuestionId = s.nextQuestionId

namespace Keeps

theorem refl (s : SessionRpcClientTransport) : Keeps s s := ⟨rfl, rfl, rfl, rfl⟩

theorem trans {s'' : SessionRpcClientTransport} (first : Keeps s s') (second : Keeps s' s'') :
    Keeps s s'' :=
  ⟨second.closed.trans first.closed, second.localBridge.trans first.localBridge,
    second.grants.trans first.grants, second.next.trans first.next⟩

theorem pumpResponses (s : SessionRpcClientTransport) : Keeps s s.pumpResponses := by
  obtain ⟨frames, pump, same⟩ := pumpResponses_only s
  rw [same]
  exact ⟨rfl, rfl, rfl, rfl⟩

theorem ensureResponsePump (s : SessionRpcClientTransport) : Keeps s s.ensureResponsePump := by
  obtain ⟨frames, pump, same⟩ := ensureResponsePump_only s
  rw [same]
  exact ⟨rfl, rfl, rfl, rfl⟩

theorem rejectAllPendingReturns (s : SessionRpcClientTransport) (error : Thrown) :
    Keeps s (s.rejectAllPendingReturns error) := by
  obtain ⟨pump, same⟩ := rejectAllPendingReturns_only s error
  rw [same]
  exact ⟨rfl, rfl, rfl, rfl⟩

theorem enter (s : SessionRpcClientTransport) (i : OperationId) (stage : SessionStage) :
    Keeps s (s.enter i stage).1 := by
  unfold SessionRpcClientTransport.enter
  split <;> exact ⟨rfl, rfl, rfl, rfl⟩

theorem awaitReturn (s : SessionRpcClientTransport) (i : OperationId) (call : SessionCall)
    (questionId : ℕ) :
    Keeps s (s.awaitReturn i call questionId).1 := by
  unfold SessionRpcClientTransport.awaitReturn
  split_ifs
  · exact ⟨rfl, rfl, rfl, rfl⟩
  · split <;> exact ⟨rfl, rfl, rfl, rfl⟩
  · split
    · exact ⟨rfl, rfl, rfl, rfl⟩
    · dsimp only
      refine trans ?_ (ensureResponsePump _)
      exact ⟨rfl, rfl, rfl, rfl⟩

theorem rejectAndRemove (s : SessionRpcClientTransport) (i : OperationId) (call : SessionCall)
    (error : Thrown) :
    Keeps s (s.rejectAndRemove i call error) := by
  unfold SessionRpcClientTransport.rejectAndRemove
  cases call.questionId with
  | none => exact refl s
  | some questionId =>
    cases call.promise with
    | some => exact refl s
    | none =>
      obtain ⟨pump, same⟩ :=
        removePendingReturnWaiter_only (s.settlePromise i (.error error)) questionId i
      dsimp only
      rw [same]
      split <;> exact ⟨rfl, rfl, rfl, rfl⟩

theorem resolvePendingReturn (s : SessionRpcClientTransport) (message : RpcReturnMessage) :
    Keeps s (s.resolvePendingReturn message).1 := by
  unfold SessionRpcClientTransport.resolvePendingReturn
  split
  · exact refl s
  · exact refl s
  · split
    · obtain ⟨pump, same⟩ := abortResponsePumpReadIfIdle_only
        { s with pendingReturns := s.pendingReturns.erase message.answerId }
      dsimp only
      rw [same]
      exact ⟨rfl, rfl, rfl, rfl⟩
    · exact ⟨rfl, rfl, rfl, rfl⟩

theorem queueReturn (s : SessionRpcClientTransport) (message : RpcReturnMessage) :
    Keeps s (s.queueReturn message) := by
  unfold SessionRpcClientTransport.queueReturn
  split_ifs
  · exact refl s
  · exact ⟨rfl, rfl, rfl, rfl⟩

theorem observe (s : SessionRpcClientTransport) (call : SessionCall) (questionId : ℕ)
    (outcome : Except Thrown RpcReturnMessage) : Keeps s (s.observe call questionId outcome) := by
  unfold SessionRpcClientTransport.observe
  split
  · exact refl s
  · split
    · exact refl s
    · exact ⟨rfl, rfl, rfl, rfl⟩

theorem toWaiting (s : SessionRpcClientTransport) (i : OperationId) (call : SessionCall) :
    Keeps s (s.toWaiting i call) := by
  unfold SessionRpcClientTransport.toWaiting
  split <;> exact ⟨rfl, rfl, rfl, rfl⟩

theorem start (s : SessionRpcClientTransport) (operation : SessionOperation)
    (options : RpcClientCallOptions) :
    Keeps s (s.start operation options).1 := by
  unfold SessionRpcClientTransport.start
  dsimp only
  split_ifs <;> exact ⟨rfl, rfl, rfl, rfl⟩

theorem afterCallRaw (s : SessionRpcClientTransport) (i : OperationId) (call : SessionCall)
    (result : Except Thrown ClientAnswer) : Keeps s (s.afterCallRaw i call result).1 := by
  unfold SessionRpcClientTransport.afterCallRaw
  split
  · exact enter s i _
  · dsimp only
    split
    · split_ifs
      · exact enter s i _
      · exact ⟨rfl, rfl, rfl, rfl⟩
      · exact enter s i _
    · exact refl s

end Keeps

/-- What the pump does with a Return, past the grants. -/
theorem keeps_handleReturn (s : SessionRpcClientTransport) (message : RpcReturnMessage) :
    Keeps (s.retireParamCapGrants message).1 (s.handleReturn message).1 := by
  unfold handleReturn
  dsimp only
  split_ifs
  · have resolved := Keeps.resolvePendingReturn (s.retireParamCapGrants message).1 message
    cases same : (s.retireParamCapGrants message).1.resolvePendingReturn message with
    | mk next waiter =>
      rw [same] at resolved
      cases waiter with
      | some => exact resolved
      | none => exact resolved.trans (.queueReturn next message)
  · exact .refl _

/-! ## What a step can do -/

theorem moves_atCall {act : SessionCall → SessionRpcClientTransport × List SessionEffect}
    (moves : ∀ call, s.calls[i]? = some call → Moves s event (act call).1 (act call).2) :
    Moves s event (s.atCall i act).1 (s.atCall i act).2 := by
  unfold atCall
  cases found : s.calls[i]? with
  | none => exact .nothing event
  | some call => exact moves call found

theorem moves_begin (frameError : Option Thrown) (found : s.calls[i]? = some call)
    (stands : call.stage = .queued) (free : s.closed = false) :
    Moves s (.resume i frameError) (s.begin i call frameError).1 (s.begin i call frameError).2 := by
  unfold begin
  cases admitted : s.admitQuestion call with
  | error error => exact .refused i frameError call error found stands
  | ok questionId =>
    obtain rfl := admitQuestion_ok admitted
    dsimp only
    split_ifs
    · exact .hooked i frameError call found stands free admitted
    · cases frameError with
      | some error => exact .unencoded i call error found stands free admitted
      | none =>
        have moves := Moves.asked i call found stands free admitted
        have asked := request_eq (s.allocate i) i call s.nextQuestionId
        unfold allocate at asked
        rw [asked]
        exact moves

theorem moves_resume (frameError : Option Thrown) (found : s.calls[i]? = some call) :
    Moves s (.resume i frameError) (s.resume i frameError call).1
      (s.resume i frameError call).2 := by
  unfold resume
  cases stands : call.stage with
  | queued =>
    dsimp only
    split_ifs with turn closed
    · exact .refused i frameError call clientClosed found stands
    · exact moves_begin frameError found stands (Bool.eq_false_iff.2 closed)
    · exact .nothing _
  | finishQueued finish =>
    dsimp only
    split_ifs with turn closed
    · exact .finishClosed i frameError call finish found stands closed
    · exact .finishTurn i frameError call finish found stands
    · exact .nothing _
  | waiting =>
    dsimp only
    cases identified : call.questionId with
    | none => exact .nothing _
    | some questionId =>
      cases promise : call.promise with
      | none => exact .nothing _
      | some outcome =>
        have moves :=
          Moves.answered i frameError call questionId outcome found stands identified promise
        unfold observe at moves
        cases outcome with
        | ok message =>
          dsimp only
          cases operation : call.operation <;> exact moves
        | error error =>
          dsimp only at moves ⊢
          cases operation : call.operation <;> rw [operation] at moves <;> exact moves
  | called result => exact .returned i frameError call result found stands
  | onCall | starting | emitting | flushing | finishStarting | finishEmitting | finishFlushing
  | hooks | settled =>
    exact .nothing _

theorem moves_middlewareSettles (failure frameError : Option Thrown)
    (found : s.calls[i]? = some call) :
    Moves s (.middlewareSettles i failure frameError)
    (s.middlewareSettles i failure frameError call).1
      (s.middlewareSettles i failure frameError call).2 := by
  unfold middlewareSettles
  cases stands : call.stage with
  | onCall =>
    cases failure with
    | some error => exact .unasked i (some error) frameError call error found stands
    | none =>
      cases identified : call.questionId with
      | none => exact .nothing _
      | some questionId =>
        cases frameError with
        | some error => exact .unasked i none (some error) call error found stands
        | none =>
          have moves := Moves.askedAfterHook i call questionId found stands identified
          dsimp only
          rw [request_eq]
          exact moves
  | hooks result =>
    have moves := Moves.concludes i failure frameError call result found stands
    cases failure <;> exact moves
  | queued | starting | emitting | flushing | waiting | finishQueued | finishStarting
  | finishEmitting
    | finishFlushing | called | settled => exact .nothing _

theorem moves_startSettles (failure : Option Thrown) (found : s.calls[i]? = some call) :
    Moves s (.startSettles i failure) (s.startSettles i failure call).1
      (s.startSettles i failure call).2 := by
  unfold startSettles
  cases stands : call.stage with
  | starting frame =>
    cases failure with
    | none => exact .emitted i call frame found stands
    | some error =>
      dsimp only
      cases identified : call.questionId with
      | none => exact .nothing _
      | some questionId =>
        have moves := Moves.unsent i call frame questionId error found stands identified
        unfold failRequest
        rw [identified]
        exact moves
  | finishStarting finish =>
    cases failure with
    | none => exact .finishEmitted i call finish found stands
    | some error => exact .finishUnstarted i call finish error found stands
  | queued | onCall | emitting | flushing | waiting | finishQueued | finishEmitting | finishFlushing
  | hooks | called
    | settled => exact .nothing _

theorem moves_emitSettles (failure : Option Thrown) (found : s.calls[i]? = some call) :
    Moves s (.emitSettles i failure) (s.emitSettles i failure call).1
      (s.emitSettles i failure call).2 := by
  unfold emitSettles
  cases stands : call.stage with
  | emitting =>
    cases failure with
    | none => exact .handedOver i call found stands
    | some error =>
      dsimp only
      unfold failRequest
      cases identified : call.questionId with
      | none => exact .nothing _
      | some questionId => exact .emitFailed i call questionId error found stands identified
  | finishEmitting finish =>
    cases failure with
    | none => exact .finishHandedOver i call finish found stands
    | some error => exact .finishUnemitted i call finish error found stands
  | queued | onCall | starting | flushing | waiting | finishQueued | finishStarting | finishFlushing
  | hooks | called
    | settled => exact .nothing _

theorem moves_flushSettles (failure : Option Thrown) (found : s.calls[i]? = some call) :
    Moves s (.flushSettles i failure) (s.flushSettles i failure call).1
      (s.flushSettles i failure call).2 := by
  unfold flushSettles
  cases stands : call.stage with
  | flushing =>
    cases failure with
    | none =>
      dsimp only
      cases identified : call.questionId with
      | none => exact .nothing _
      | some questionId =>
        have moves := Moves.flushed i call questionId found stands identified
        unfold toWaiting at moves
        dsimp only
        cases operation : call.operation <;> rw [operation] at moves <;> exact moves
    | some error =>
      dsimp only
      unfold failRequest
      cases identified : call.questionId with
      | none => exact .nothing _
      | some questionId => exact .flushFailed i call questionId error found stands identified
  | finishFlushing finish =>
    cases failure with
    | none => exact .finished i call finish found stands
    | some error => exact .finishUnflushed i call finish error found stands
  | queued | onCall | starting | emitting | waiting | finishQueued | finishStarting | finishEmitting
  | hooks | called
    | settled => exact .nothing _

theorem moves_pump (s : SessionRpcClientTransport) : Moves s .pump s.pump.1 s.pump.2 := by
  unfold pump
  cases pump : s.responsePump with
  | read frame aborted =>
    cases frame with
    | ok frame =>
      cases frame with
      | ret message => exact .received message aborted pump
      | undecodable => exact .serves .undecodable aborted pump
      | foreign => exact .serves .foreign aborted pump
    | error error =>
      dsimp only
      unfold frameRead
      dsimp only
      split_ifs with idle
      · refine .idles error aborted pump ?_
        rw [Bool.and_eq_true, Bool.not_eq_true'] at idle
        exact idle.2
      · exact .stops error aborted pump
  | exiting =>
    have moves := Moves.exits pump
    dsimp only
    split_ifs with pumps
    · have pumps : s.shouldPumpResponses = true := pumps
      rw [if_pos pumps] at moves
      exact moves
    · have idle : ¬s.shouldPumpResponses = true := pumps
      rw [if_neg idle] at moves
      exact moves
  | off | reading | serving => exact .nothing _

theorem moves_failRead (error : Thrown) (queueClosed : Option Thrown) :
    Moves s event (failRead { s with queueClosed := queueClosed } error) [] := by
  unfold failRead
  cases reading : s.responsePump with
  | reading =>
    refine .harness event s.frames queueClosed _ (.inl ⟨reading, _, rfl⟩) (.inr ⟨?_, rfl⟩)
    rw [reading]
    rfl
  | off | read | serving | exiting =>
    have moves := Moves.harness (s := s) event s.frames queueClosed s.responsePump (.inr rfl)
      (.inr ⟨rfl, rfl⟩)
    rw [reading] at moves
    exact moves

theorem moves_step (s : SessionRpcClientTransport) (event : SessionEvent) :
    Moves s event (s.step event).1 (s.step event).2 := by
  cases event with
  | start operation options => exact .begun operation options
  | resume i frameError => exact moves_atCall fun call found => moves_resume frameError found
  | middlewareSettles i failure frameError =>
    exact moves_atCall fun call found => moves_middlewareSettles failure frameError found
  | startSettles i failure => exact moves_atCall fun call found => moves_startSettles failure found
  | emitSettles i failure => exact moves_atCall fun call found => moves_emitSettles failure found
  | flushSettles i failure => exact moves_atCall fun call found => moves_flushSettles failure found
  | timeout i =>
    refine moves_atCall fun call found => ?_
    split_ifs with running
    · exact .timedOut i call _ found running
    · exact .nothing _
  | abort i =>
    refine moves_atCall fun call found => ?_
    dsimp only
    split_ifs with listening
    · exact .aborted i call _ found listening
    · exact .flagged i call found
  | frame message =>
    unfold step enqueueFrame
    dsimp only
    split_ifs
    · exact .nothing _
    · cases reading : s.responsePump with
      | reading =>
        exact .harness _ s.frames s.queueClosed _ (.inl ⟨reading, _, rfl⟩) (.inl ⟨message, rfl⟩)
      | off | read | serving | exiting =>
        have moves := Moves.harness (s := s) (.frame message)
          (s.frames ++ [message]) s.queueClosed s.responsePump
          (.inr rfl) (.inl ⟨message, rfl⟩)
        rw [reading] at moves
        exact moves
  | readFails error => exact moves_failRead error s.queueClosed
  | queueCloses error =>
    unfold step
    dsimp only
    split_ifs
    · exact .nothing _
    · exact moves_failRead error (some error)
  | pump => exact moves_pump s
  | served failure =>
    unfold step
    cases serving : s.responsePump with
    | serving =>
      cases failure with
      | none => exact .pumpsOn none serving
      | some error => exact .serveFails (some error) serving
    | off | reading | read | exiting => exact .nothing _
  | exportCapability hasHostCallBridge =>
    unfold step exportCapability
    dsimp only
    split_ifs
    · exact .threw _ _
    · cases s.checkParamCapAdmission with
      | error error => exact .threw _ error
      | ok => exact .exported hasHostCallBridge
    · cases s.checkParamCapAdmission with
      | error error => exact .threw _ error
      | ok => exact .threw _ _
  | close =>
    unfold step
    dsimp only
    split_ifs with closed
    · exact .nothing _
    · exact .closed (Bool.eq_false_iff.2 closed)

end SessionRpcClientTransport

end CapnpDeno
