import CapnpDeno.Errors
import CapnpDeno.Lib.Runs

/-!
# StreamSender

The sender of a stream of calls, with a window of calls and of bytes.  A call is known by its index,
and an operation by its place.  A step is a stretch of the source between two awaits; while a
`callFn` is on the stack, only what it calls itself can happen.  Numbers are exact, and a number
that is no integer is as invalid as a negative one.
-/

namespace CapnpDeno

abbrev CallIndex := ℕ

abbrev StreamOpId := ℕ

/-- `createStreamSender` throws unless the bounds hold.  The callbacks and the signal may be
missing. -/
structure StreamSenderOptions where
  maxInFlight : ℕ
  maxInFlightBytes : Option ℕ
  onResponse : Bool
  onError : Bool
  signal : Bool
  positive : 0 < maxInFlight
  bytesPositive : ∀ max, maxInFlightBytes = some max → 0 < max

inductive StreamParams
  /-- A `Uint8Array` of the length. -/
  | bytes (byteLength : ℕ)
  | object
deriving DecidableEq

inductive StreamCallSettled (ρ : Type)
  | ok (value : ρ)
  | error (error : Thrown)
deriving DecidableEq

/-- The promise `send` waits for when the bytes are bounded. -/
inductive Admission
  | pending
  | resolved
  | rejected (error : Thrown)
deriving DecidableEq

/-- `ticket` says that the encoding ticket of the call is not released, `attached` that its `callFn`
has returned. -/
structure InFlightCall (ρ : Type) where
  byteLength : ℤ
  bytesReserved : Bool
  ownsEncoding : Bool
  ticket : Bool
  attached : Bool
  settled : Option (StreamCallSettled ρ)
  admission : Admission
deriving DecidableEq

inductive StreamOpKind
  | send (params : StreamParams)
  | waitForCapacity (byteLength : ℤ)
  | flush
  | cancel
  | prepare (call : CallIndex)
  | reserveBytes (call : CallIndex) (byteLength : ℤ)
deriving DecidableEq

/-- The promise of `waitForStateChange`. -/
inductive StateWait
  | pending
  | resolved
  | rejected (error : Thrown)
deriving DecidableEq

inductive StreamStage
  /-- It runs, and awaits nothing. -/
  | running
  /-- The `callFn` of the call is on the stack. -/
  | calling (call : CallIndex)
  /-- It awaits the tickets of the calls before. -/
  | ticket
  /-- It has the encoding slot, and goes on with the reservation. -/
  | encoding
  /-- It waits for the drain lock. -/
  | locked
  /-- It holds the drain lock, and waits for the oldest call to settle. -/
  | draining (oldest : CallIndex) (wait : StateWait)
  /-- It has released the drain lock; the oldest call was taken, if there was one. -/
  | drained (result : Except Thrown (Option CallIndex))
  /-- The callback for the call is under way. -/
  | delivering (call : CallIndex)
  /-- The delivery of one call is over. -/
  | delivered (failure : Option Thrown)
  /-- All that is ready has been delivered. -/
  | returned
  /-- It awaits the admission of its call. -/
  | admission (call : CallIndex)
  | settled (failure : Option Thrown)
deriving DecidableEq

/-- `aborted` is the reason of the wait's own signal, `failure` the first error that a flush meets;
`accepted` says that a send has its call in the window. -/
structure StreamOp where
  kind : StreamOpKind
  aborted : Option Thrown
  failure : Option Thrown
  accepted : Bool
  stage : StreamStage
deriving DecidableEq

/-- `drainHolder`, `drainQueue` and `handing` are the operations in the drain lock, before it and
past it, in their order; `callStack` has the sends whose `callFn` is on the stack. -/
structure StreamSender (ρ : Type) where
  options : StreamSenderOptions
  inFlightBytes : ℤ
  inFlightCalls : List CallIndex
  readyResponses : List CallIndex
  calls : List (InFlightCall ρ)
  totalReceived : ℕ
  firstError : Option Thrown
  canceled : Bool
  cancelReason : Option Thrown
  signalAborted : Bool
  drainHolder : Option StreamOpId
  drainQueue : List StreamOpId
  handing : List StreamOpId
  callStack : List StreamOpId
  ops : List StreamOp

inductive StreamEvent (ρ : Type)
  | send (params : StreamParams)
  /-- `aborted` is the reason of the signal of the wait, if that is aborted already. -/
  | waitForCapacity (byteLength : Option ℤ) (aborted : Option Thrown)
  | flush
  /-- `cancel`, up to the abort of the signals of the calls. -/
  | cancel (reason : Option Thrown)
  | cancelFlush
  | prepare (call : CallIndex)
  | reserveBytes (call : CallIndex) (byteLength : ℤ)
  /-- The last `callFn` on the stack returns its promise. -/
  | callFnReturns
  | callFnThrows (error : Thrown)
  /-- The promise of the `callFn` settles. -/
  | callSettles (call : CallIndex) (outcome : StreamCallSettled ρ)
  /-- The callback that the operation has called is over. -/
  | callbackSettles (op : StreamOpId) (thrown : Option Thrown)
  | signalAborts
  | waitAborts (op : StreamOpId) (reason : Thrown)
  /-- The next operation gets the drain lock. -/
  | lockStarts
  /-- The first operation past the drain lock goes on. -/
  | handOver
  | resume (op : StreamOpId)

inductive StreamEffect (ρ : Type)
  | callFn (call : CallIndex)
  /-- The call leaves the window through the drain. -/
  | drained (call : CallIndex)
  /-- It leaves the window before it is admitted, or because its `callFn` throws. -/
  | removed (call : CallIndex)
  | onResponse (call : CallIndex) (value : ρ)
  | onError (call : CallIndex) (error : Thrown)
  /-- There is no `onResponse`. -/
  | discarded (call : CallIndex)
  /-- There is no `onError`: the error is thrown to the operation. -/
  | thrown (call : CallIndex) (error : Thrown)
  /-- A flush, or that of a cancel, is over. -/
  | flushed (op : StreamOpId)
deriving DecidableEq

def StreamParams.initialBytes : StreamParams → ℤ
  | .bytes byteLength => byteLength
  | .object => 0

def StreamOpKind.allowClosed : StreamOpKind → Bool
  | .flush | .cancel => true
  | .send _ | .waitForCapacity _ | .prepare _ | .reserveBytes _ _ => false

def Admission.resolve : Admission → Admission
  | .pending => .resolved
  | admission => admission

def Admission.reject (error : Thrown) : Admission → Admission
  | .pending => .rejected error
  | admission => admission

namespace StreamSender

variable {ρ : Type}

def setOp (s : StreamSender ρ) (op : StreamOpId) (f : StreamOp → StreamOp) : StreamSender ρ :=
  { s with ops := s.ops.modify op f }

def goTo (s : StreamSender ρ) (op : StreamOpId) (stage : StreamStage) : StreamSender ρ :=
  s.setOp op fun o => { o with stage := stage }

def setCall (s : StreamSender ρ) (call : CallIndex) (f : InFlightCall ρ → InFlightCall ρ) :
    StreamSender ρ :=
  { s with calls := s.calls.modify call f }

def callByteLength (s : StreamSender ρ) (call : CallIndex) : ℤ :=
  (s.calls[call]?.map (·.byteLength)).getD 0

def outcome (s : StreamSender ρ) (call : CallIndex) : Option (StreamCallSettled ρ) :=
  s.calls[call]?.bind (·.settled)

/-! ## Checks -/

def checkAborted (s : StreamSender ρ) : Option Thrown :=
  if s.signalAborted then some (sessionError "stream aborted")
  else if s.canceled then
    match s.cancelReason with
    | some reason =>
      if reason.cls = .sessionError then some reason else some (sessionError "stream canceled")
    | none => some (sessionError "stream canceled")
  else none

def checkError (s : StreamSender ρ) : Option Thrown := s.firstError

def checks (s : StreamSender ρ) : Option Thrown := s.checkAborted.or s.checkError

def maxSafeInteger : ℤ := 2 ^ 53 - 1

def validateByteLength (s : StreamSender ρ) (value : ℤ) : Option Thrown :=
  if value < 0 ∨ maxSafeInteger < value then
    some (sessionError "encoded byte length must be a non-negative safe integer")
  else
    match s.options.maxInFlightBytes with
    | some max =>
      if max < value then
        some (sessionError s!"encoded stream item ({value} bytes) exceeds maxInFlightBytes ({max})")
      else none
    | none => none

def hasByteCapacity (s : StreamSender ρ) (byteLength : ℤ) : Bool :=
  match s.options.maxInFlightBytes with
  | some max => byteLength ≤ max - s.inFlightBytes
  | none => true

def isFull (s : StreamSender ρ) (byteLength : ℤ) : Bool :=
  s.options.maxInFlight ≤ s.inFlightCalls.length || !s.hasByteCapacity byteLength

/-! ## Waiting -/

/-- Only the holder of the drain lock ever waits for a change of the state. -/
def notifyStateChange (s : StreamSender ρ) : StreamSender ρ :=
  match s.drainHolder with
  | some op => s.setOp op fun o =>
    match o.stage with
    | .draining oldest .pending => { o with stage := .draining oldest .resolved }
    | _ => o
  | none => s

def rememberError (s : StreamSender ρ) (error : Thrown) : StreamSender ρ :=
  match s.firstError with
  | some _ => s
  | none => notifyStateChange { s with firstError := some error }

/-! ## The drain -/

def withDrainLock (s : StreamSender ρ) (op : StreamOpId) : StreamSender ρ :=
  { s.goTo op .locked with drainQueue := s.drainQueue ++ [op] }

/-- The lock is released. -/
def finishDrain (s : StreamSender ρ) (op : StreamOpId) (result : Except Thrown (Option CallIndex)) :
    StreamSender ρ :=
  { s.goTo op (.drained result) with drainHolder := none, handing := s.handing ++ [op] }

/-- `takeSettledHead`, from the condition of its loop on. -/
def takeSettledHead (s : StreamSender ρ) (op : StreamOpId) (o : StreamOp) (oldest : CallIndex) :
    StreamSender ρ × List (StreamEffect ρ) :=
  match s.outcome oldest with
  | some _ =>
    (finishDrain { s with
      totalReceived := s.totalReceived + 1
      inFlightBytes := s.inFlightBytes - s.callByteLength oldest
      inFlightCalls := s.inFlightCalls.erase oldest } op (.ok (some oldest)), [.drained oldest])
  | none =>
    match if o.kind.allowClosed then none else s.checks with
    | some error => (s.finishDrain op (.error error), [])
    | none =>
      match o.aborted with
      | some reason => (s.finishDrain op (.error reason), [])
      | none => (s.goTo op (.draining oldest .pending), [])

def lockStarts (s : StreamSender ρ) : StreamSender ρ × List (StreamEffect ρ) :=
  match s.drainHolder, s.drainQueue with
  | none, op :: rest =>
    match s.ops[op]? with
    | some o =>
      let held := { s with drainHolder := some op, drainQueue := rest }
      match s.inFlightCalls with
      | oldest :: _ => held.takeSettledHead op o oldest
      | [] => (held.finishDrain op (.ok none), [])
    | none => (s, [])
  | _, _ => (s, [])

/-! ## Delivery -/

/-- `deliverSettled`, up to the return of the callback. -/
def deliverSettled (s : StreamSender ρ) (op : StreamOpId) (call : CallIndex) :
    StreamSender ρ × List (StreamEffect ρ) :=
  match s.outcome call with
  | none => (s.goTo op (.delivered none), [])
  | some (.ok value) =>
    if s.options.onResponse then (s.goTo op (.delivering call), [.onResponse call value])
    else (s.goTo op (.delivered none), [.discarded call])
  | some (.error error) =>
    if s.options.onError then (s.goTo op (.delivering call), [.onError call error])
    else ((s.rememberError error).goTo op (.delivered (some error)), [.thrown call error])

/-- `deliverReadyResponses`, from the condition of its loop on. -/
def deliverReadyResponses (s : StreamSender ρ) (op : StreamOpId) :
    StreamSender ρ × List (StreamEffect ρ) :=
  match s.readyResponses with
  | call :: rest => deliverSettled { s with readyResponses := rest } op call
  | [] => (s.goTo op .returned, [])

def callbackSettles (s : StreamSender ρ) (op : StreamOpId) (o : StreamOp) (thrown : Option Thrown) :
    StreamSender ρ × List (StreamEffect ρ) :=
  match o.stage with
  | .delivering _ =>
    match thrown with
    | some error => ((s.rememberError error).goTo op (.delivered (some error)), [])
    | none => (s.goTo op (.delivered none), [])
  | _ => (s, [])

/-! ## The operations -/

def settleOp (s : StreamSender ρ) (op : StreamOpId) (failure : Option Thrown) :
    StreamSender ρ × List (StreamEffect ρ) :=
  (s.goTo op (.settled failure), [])

/-- The call enters the window, and its `callFn` is called. -/
def push (s : StreamSender ρ) (op : StreamOpId) (params : StreamParams) :
    StreamSender ρ × List (StreamEffect ρ) :=
  let bounded := s.options.maxInFlightBytes.isSome
  let reserved := params != .object
  let call := s.calls.length
  ({ s.setOp op fun o => { o with accepted := true, stage := .calling call } with
    calls := s.calls ++ [{
      byteLength := params.initialBytes
      bytesReserved := reserved
      ownsEncoding := false
      ticket := bounded && !reserved
      attached := false
      settled := none
      admission := if reserved || !bounded then .resolved else .pending }]
    inFlightCalls := s.inFlightCalls ++ [call]
    inFlightBytes := s.inFlightBytes + params.initialBytes
    callStack := op :: s.callStack }, [.callFn call])

/-- `send`, from the condition of its loop on. -/
def sendLoop (s : StreamSender ρ) (op : StreamOpId) (params : StreamParams) :
    StreamSender ρ × List (StreamEffect ρ) :=
  if s.isFull (params.initialBytes) then (s.withDrainLock op, []) else s.push op params

def waitLoop (s : StreamSender ρ) (op : StreamOpId) (byteLength : ℤ) :
    StreamSender ρ × List (StreamEffect ρ) :=
  if s.isFull byteLength then (s.withDrainLock op, []) else s.settleOp op none

def flushLoop (s : StreamSender ρ) (op : StreamOpId) (o : StreamOp) :
    StreamSender ρ × List (StreamEffect ρ) :=
  if s.readyResponses ≠ [] then s.deliverReadyResponses op
  else if s.inFlightCalls ≠ [] then (s.withDrainLock op, [])
  else
    -- a cancel leaves the error to `onError`, if there is one
    (s.goTo op (.settled (if o.kind = .cancel ∧ s.options.onError = true then none
      else o.failure.or s.checkError)), [.flushed op])

/-- What the operation awaited is over, and nothing was thrown. -/
def goOn (s : StreamSender ρ) (op : StreamOpId) (o : StreamOp) :
    StreamSender ρ × List (StreamEffect ρ) :=
  match o.kind with
  | .send params =>
    if o.accepted then s.settleOp op none
    else
      match s.checks with
      | some error => s.settleOp op (some error)
      | none => s.sendLoop op params
  | .waitForCapacity byteLength =>
    match s.checks with
    | some error => s.settleOp op (some error)
    | none => s.waitLoop op byteLength
  | .flush | .cancel => s.flushLoop op o
  | .prepare _ | .reserveBytes _ _ => (s, [])

/-- What the operation awaited has thrown. -/
def fails (s : StreamSender ρ) (op : StreamOpId) (o : StreamOp) (error : Thrown) :
    StreamSender ρ × List (StreamEffect ρ) :=
  match o.kind with
  | .flush | .cancel =>
    let failed := { o with failure := o.failure.or (some error) }
    (s.setOp op fun _ => failed).flushLoop op failed
  | .send _ | .waitForCapacity _ | .prepare _ | .reserveBytes _ _ => s.settleOp op (some error)

/-! ## The bytes of a call -/

def releaseEncoding (s : StreamSender ρ) (call : CallIndex) : StreamSender ρ :=
  (s.setCall call fun c => { c with ownsEncoding := false, ticket := false }).notifyStateChange

/-- `reserveBytes` is over. -/
def endReservation (s : StreamSender ρ) (op : StreamOpId) (call : CallIndex)
    (failure : Option Thrown) :
    StreamSender ρ × List (StreamEffect ρ) :=
  (s.releaseEncoding call).settleOp op failure

def grant (s : StreamSender ρ) (call : CallIndex) (byteLength : ℤ) : StreamSender ρ :=
  { s.setCall call fun c => { c with
      byteLength := byteLength, bytesReserved := true, admission := c.admission.resolve } with
    inFlightBytes := s.inFlightBytes + byteLength }

/-- `reserveBytes`, from the condition of its loop on. -/
def reserveLoop (s : StreamSender ρ) (op : StreamOpId) (call : CallIndex) (byteLength : ℤ) :
    StreamSender ρ × List (StreamEffect ρ) :=
  if !s.hasByteCapacity byteLength then (s.withDrainLock op, [])
  else
    match s.checks with
    | some error => s.endReservation op call (some error)
    | none => (s.grant call byteLength).endReservation op call none

/-- The tickets of the calls before are released. -/
def previousEncoding (s : StreamSender ρ) (call : CallIndex) : Bool :=
  (s.calls.take call).all fun c => !c.ticket

def ownsEncoding (s : StreamSender ρ) (call : CallIndex) : Bool :=
  s.calls[call]?.any (·.ownsEncoding)

/-- `prepare` returns at once. -/
def isPrepared (s : StreamSender ρ) (call : CallIndex) : Bool :=
  s.options.maxInFlightBytes.isNone || s.ownsEncoding call

/-- `prepare`, after its wait. -/
def prepared (s : StreamSender ρ) (op : StreamOpId) (o : StreamOp) :
    StreamSender ρ × List (StreamEffect ρ) :=
  match o.kind with
  | .prepare call =>
    if !s.previousEncoding call then (s, [])
    else
      match s.checks with
      | some error => s.settleOp op (some error)
      | none => (s.setCall call fun c => { c with ownsEncoding := true }).settleOp op none
  | .reserveBytes call _ =>
    if !s.previousEncoding call then (s, [])
    else
      match s.checks with
      | some error => s.endReservation op call (some error)
      | none => ((s.setCall call fun c => { c with ownsEncoding := true }).goTo op .encoding, [])
  | .send _ | .waitForCapacity _ | .flush | .cancel => (s, [])

/-- The operation past the drain lock goes on. -/
def goPastLock (s : StreamSender ρ) (op : StreamOpId) (o : StreamOp) (taken : Option CallIndex) :
    StreamSender ρ × List (StreamEffect ρ) :=
  let s := { s with readyResponses := s.readyResponses ++ taken.toList }
  match o.kind with
  | .reserveBytes call byteLength =>
    match s.checks with
    | some error => s.endReservation op call (some error)
    | none => s.reserveLoop op call byteLength
  | .send _ | .waitForCapacity _ | .flush | .cancel | .prepare _ => s.deliverReadyResponses op

/-- The drain has thrown. -/
def failPastLock (s : StreamSender ρ) (op : StreamOpId) (o : StreamOp) (error : Thrown) :
    StreamSender ρ × List (StreamEffect ρ) :=
  match o.kind with
  | .reserveBytes call _ => s.endReservation op call (some error)
  | .send _ | .waitForCapacity _ | .flush | .cancel | .prepare _ => s.fails op o error

def handOver (s : StreamSender ρ) : StreamSender ρ × List (StreamEffect ρ) :=
  match s.handing with
  | op :: rest =>
    match s.ops[op]? with
    | some o =>
      match o.stage with
      | .drained (.ok taken) => goPastLock { s with handing := rest } op o taken
      | .drained (.error error) => failPastLock { s with handing := rest } op o error
      | _ => (s, [])
    | none => (s, [])
  | [] => (s, [])

/-! ## The outcome of a call -/

def abandonUnadmitted (s : StreamSender ρ) (call : CallIndex) (reserved : Bool) :
    StreamSender ρ × List (StreamEffect ρ) :=
  if reserved || s.options.maxInFlightBytes.isNone then (s, [])
  else
    ({ s with inFlightCalls := s.inFlightCalls.erase call },
      if call ∈ s.inFlightCalls then [.removed call] else [])

def callSettles (s : StreamSender ρ) (call : CallIndex) (c : InFlightCall ρ)
    (outcome : StreamCallSettled ρ) :
    StreamSender ρ × List (StreamEffect ρ) :=
  if c.attached && c.settled.isNone then
    let s := s.releaseEncoding call
    match outcome with
    | .ok value =>
      if !c.bytesReserved && s.options.maxInFlightBytes.isSome then
        let error := sessionError "byte-bounded call must reserve encoded bytes before sending"
        let s := s.setCall call fun c => { c with
          settled := some (.error error), admission := c.admission.reject error }
        let (s, effects) := s.abandonUnadmitted call c.bytesReserved
        (s.notifyStateChange, effects)
      else
        ((s.setCall call fun c => { c with
          settled := some (.ok value), admission := c.admission.resolve }).notifyStateChange, [])
    | .error error =>
      let s := s.setCall call fun c => { c with
        settled := some (.error error), admission := c.admission.reject error }
      let (s, effects) := s.abandonUnadmitted call c.bytesReserved
      (s.notifyStateChange, effects)
  else (s, [])

def callFnReturns (s : StreamSender ρ) (op : StreamOpId) (rest : List StreamOpId)
    (call : CallIndex) :
    StreamSender ρ × List (StreamEffect ρ) :=
  let s :=
    notifyStateChange { s.setCall call fun c => { c with attached := true } with callStack := rest }
  if s.options.maxInFlightBytes.isSome then (s.goTo op (.admission call), [])
    else s.settleOp op none

def callFnThrows (s : StreamSender ρ) (error : Thrown) (op : StreamOpId) (rest : List StreamOpId)
    (call : CallIndex) : StreamSender ρ × List (StreamEffect ρ) :=
  let s := s.releaseEncoding call
  let removed := if call ∈ s.inFlightCalls then [.removed call] else []
  let s := { s with
    inFlightCalls := s.inFlightCalls.erase call
    inFlightBytes := s.inFlightBytes - s.callByteLength call
    callStack := rest }
  let s := (s.rememberError error).setCall call fun c =>
    { c with admission := c.admission.reject error }
  (s.notifyStateChange.goTo op (.settled (some error)), removed)

/-- The `callFn` on top of the stack is over. -/
def atCallFn (s : StreamSender ρ)
    (act : StreamOpId → List StreamOpId → CallIndex → StreamSender ρ × List (StreamEffect ρ)) :
    StreamSender ρ × List (StreamEffect ρ) :=
  match s.callStack with
  | op :: rest =>
    match s.ops[op]? with
    | some o =>
      match o.stage with
      | .calling call => act op rest call
      | _ => (s, [])
    | none => (s, [])
  | [] => (s, [])

/-! ## Steps -/

/-- An operation begins. -/
def begin (s : StreamSender ρ) (kind : StreamOpKind) (aborted : Option Thrown)
    (act : StreamSender ρ → StreamOpId → StreamOp → StreamSender ρ × List (StreamEffect ρ)) :
    StreamSender ρ × List (StreamEffect ρ) :=
  let o : StreamOp := ⟨kind, aborted, none, false, .running⟩
  act { s with ops := s.ops ++ [o] } s.ops.length o

def startSend (params : StreamParams) (s : StreamSender ρ) (op : StreamOpId) (_ : StreamOp) :
    StreamSender ρ × List (StreamEffect ρ) :=
  match s.checks.or (s.validateByteLength (params.initialBytes)) with
  | some error => s.settleOp op (some error)
  | none => s.sendLoop op params

def startWait (byteLength : ℤ) (s : StreamSender ρ) (op : StreamOpId) (_ : StreamOp) :
    StreamSender ρ × List (StreamEffect ρ) :=
  match s.checks.or (s.validateByteLength byteLength) with
  | some error => s.settleOp op (some error)
  | none => s.waitLoop op byteLength

def startPrepare (call : CallIndex) (s : StreamSender ρ) (op : StreamOpId) (_ : StreamOp) :
    StreamSender ρ × List (StreamEffect ρ) :=
  if s.isPrepared call then s.settleOp op none else (s.goTo op .ticket, [])

def startReservation (call : CallIndex) (byteLength : ℤ) (c : InFlightCall ρ) (s : StreamSender ρ)
    (op : StreamOpId) (_ : StreamOp) : StreamSender ρ × List (StreamEffect ρ) :=
  match s.validateByteLength byteLength with
  | some error => s.endReservation op call (some error)
  | none =>
    if c.bytesReserved then
      s.endReservation op call
        (if byteLength = c.byteLength then none
          else some (sessionError "stream call byte reservation changed"))
    else if s.isPrepared call then (s.goTo op .encoding, [])
    else (s.goTo op .ticket, [])

/-- The stream is canceled, and the wait for a change of the state ends. -/
def cancelStream (s : StreamSender ρ) (reason : Option Thrown) : StreamSender ρ :=
  if s.canceled then s
  else
    notifyStateChange { s with
      canceled := true, cancelReason := some (reason.getD (sessionError "stream canceled")) }

def waitAborts (s : StreamSender ρ) (op : StreamOpId) (reason : Thrown) : StreamSender ρ :=
  s.setOp op fun o =>
    match o.kind, o.aborted with
    | .waitForCapacity _, none =>
      match o.stage with
      | .draining oldest .pending =>
        { o with aborted := some reason, stage := .draining oldest (.rejected reason) }
      | _ => { o with aborted := some reason }
    | _, _ => o

def resume (s : StreamSender ρ) (op : StreamOpId) (o : StreamOp) :
    StreamSender ρ × List (StreamEffect ρ) :=
  match o.stage with
  | .ticket => s.prepared op o
  | .encoding =>
    match o.kind with
    | .reserveBytes call byteLength => s.reserveLoop op call byteLength
    | _ => (s, [])
  | .draining oldest .resolved => s.takeSettledHead op o oldest
  | .draining _ (.rejected error) => (s.finishDrain op (.error error), [])
  | .delivered none => s.deliverReadyResponses op
  | .delivered (some error) => s.fails op o error
  | .returned => s.goOn op o
  | .admission call =>
    match s.calls[call]? with
    | some c =>
      match c.admission with
      | .resolved => s.deliverReadyResponses op
      | .rejected error => s.settleOp op (some error)
      | .pending => (s, [])
    | none => (s, [])
  | .running | .calling _ | .locked | .draining _ .pending | .drained _ | .delivering _
  | .settled _ => (s, [])

def atOp (s : StreamSender ρ) (op : StreamOpId)
    (act : StreamOp → StreamSender ρ × List (StreamEffect ρ)) :
    StreamSender ρ × List (StreamEffect ρ) :=
  match s.ops[op]? with
  | some o => act o
  | none => (s, [])

def atCall (s : StreamSender ρ) (call : CallIndex)
    (act : InFlightCall ρ → StreamSender ρ × List (StreamEffect ρ)) :
    StreamSender ρ × List (StreamEffect ρ) :=
  match s.calls[call]? with
  | some c => act c
  | none => (s, [])

/-- What needs the stack to be empty. -/
def idly (s : StreamSender ρ) (result : StreamSender ρ × List (StreamEffect ρ)) :
    StreamSender ρ × List (StreamEffect ρ) :=
  if s.callStack = [] then result else (s, [])

def step (s : StreamSender ρ) : StreamEvent ρ → StreamSender ρ × List (StreamEffect ρ)
  | .send params => s.begin (.send params) none (startSend params)
  | .waitForCapacity byteLength aborted =>
    let least := byteLength.getD (if s.options.maxInFlightBytes.isNone then 0 else 1)
    s.begin (.waitForCapacity least) aborted (startWait least)
  | .flush => s.begin .flush none flushLoop
  | .cancel reason => (s.cancelStream reason, [])
  | .cancelFlush => s.begin .cancel none flushLoop
  | .prepare call => s.atCall call fun _ => s.begin (.prepare call) none (startPrepare call)
  | .reserveBytes call byteLength =>
    s.atCall call fun c => s.begin (.reserveBytes call byteLength) none
      (startReservation call byteLength c)
  | .callFnReturns => s.atCallFn s.callFnReturns
  | .callFnThrows error => s.atCallFn (s.callFnThrows error)
  | .callSettles call outcome => s.idly (s.atCall call fun c => s.callSettles call c outcome)
  | .callbackSettles op thrown => s.idly (s.atOp op fun o => s.callbackSettles op o thrown)
  | .signalAborts =>
    (if s.options.signal then notifyStateChange { s with signalAborted := true } else s, [])
  | .waitAborts op reason => (s.waitAborts op reason, [])
  | .lockStarts => s.idly s.lockStarts
  | .handOver => s.idly s.handOver
  | .resume op => s.idly (s.atOp op fun o => s.resume op o)

/-- The sender, just created. -/
def initial (options : StreamSenderOptions) : StreamSender ρ :=
  ⟨options, 0, [], [], [], 0, none, false, none, false, none, [], [], [], []⟩

end StreamSender

end CapnpDeno
