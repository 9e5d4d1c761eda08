import CapnpDeno.Errors
import CapnpDeno.Lib.Runs

/-!
# RpcConnectionPool

The pool of client connections.  An acquire and a connect attempt are known by their places; a
connection is known by the attempt that established it, since the factory returns a fresh object
each time.  A step is a stretch of the source between two awaits.
-/

namespace CapnpDeno

abbrev AcquireId := ℕ

/-- A connection, and the attempt to establish it. -/
abbrev ConnId := ℕ

/-- The constructor throws unless the bounds hold. -/
structure RpcConnectionPoolOptions where
  minConnections : ℕ
  maxConnections : ℕ
  acquireTimeoutMs : ℕ
  /-- There is a health check. -/
  healthCheck : Bool
  healthCheckIdleMs : ℕ
  positive : 0 < maxConnections
  within : minConnections ≤ maxConnections

inductive AcquireStage
  /-- It looks for a connection, and awaits nothing. -/
  | looking
  /-- It awaits the health check of the connection. -/
  | checking (conn : ConnId)
  /-- It awaits the connect attempt. -/
  | connecting (conn : ConnId)
  /-- So it did, and its signal was aborted first. -/
  | abandoned (conn : ConnId)
  /-- It awaits the close of a connection that came too late. -/
  | closing
  /-- It waits among the pending ones. -/
  | queued
  | fulfilled (conn : ConnId)
  | rejected (error : Thrown)
deriving DecidableEq

/-- `signal` says that there is an abort signal; `released` that the acquirer has given its
connection back. -/
structure PoolAcquire where
  signal : Bool
  aborted : Bool
  timeoutMs : ℕ
  released : Bool
  stage : AcquireStage
deriving DecidableEq

/-- Who takes the outcome of a connect attempt. -/
inductive AttemptOwner
  | acquire (i : AcquireId)
  | drain
  | warmUp
  /-- The acquire was aborted. -/
  | late
  /-- The pool was closed during the warm-up. -/
  | closing
deriving DecidableEq

inductive AttemptStage
  | connecting
  | settled (failure : Option Thrown)
  /-- The warm-up has taken it, and its `finally` is due. -/
  | warmedUp
  | taken
deriving DecidableEq

structure ConnectAttempt where
  owner : AttemptOwner
  stage : AttemptStage
deriving DecidableEq

/-- `#drainPendingAcquires`; the drain awaits its connect attempt, or its `finally` is due. -/
inductive PendingCreateDrain
  | off
  | connecting
  | ending
deriving DecidableEq

/-- `idle` has the connections with the times of their last use, in order; `swept` says that
`#doClose` has been through the sets. -/
structure RpcConnectionPool where
  options : RpcConnectionPoolOptions
  now : ℕ
  idle : List (ConnId × ℕ)
  active : List ConnId
  pending : List AcquireId
  pendingSettled : ℤ
  closed : Bool
  swept : Bool
  connecting : ℕ
  drain : PendingCreateDrain
  attempts : List ConnectAttempt
  acquires : List PoolAcquire

inductive PoolEvent
  /-- `aborted` is the state of the abort signal, if there is one. -/
  | acquire (aborted : Option Bool) (timeoutMs : Option ℕ)
  /-- The health check settles; it is unhealthy too if it throws. -/
  | healthCheckSettles (i : AcquireId) (healthy : Bool)
  | connectSettles (conn : ConnId) (failure : Option Thrown)
  /-- The outcome of the attempt comes to its owner. -/
  | connectContinues (conn : ConnId)
  /-- The acquire goes on after it was aborted. -/
  | abandonedContinues (i : AcquireId)
  | closeSettles (i : AcquireId)
  | abort (i : AcquireId)
  | timeout (i : AcquireId)
  /-- The acquirer calls `release` with its connection. -/
  | release (i : AcquireId)
  | idleTimeout (conn : ConnId)
  | drainEnds
  | warmUpEnds (conn : ConnId)
  | advance (ms : ℕ)
  | close
  /-- `#doClose` goes on after the warm-up. -/
  | sweep

inductive PoolEffect
  /-- The connect attempt has failed. -/
  | failed (conn : ConnId)
  | fulfilled (i : AcquireId) (conn : ConnId)
  | rejected (i : AcquireId) (error : Thrown)
  /-- The connection is passed to its `close`. -/
  | connectionClosed (conn : ConnId)
  | closed
deriving DecidableEq

namespace RpcConnectionPool

def poolClosed : Thrown := sessionError "connection pool is closed"

def acquireAborted : Thrown := sessionError "connection pool acquire aborted"

def goTo (s : RpcConnectionPool) (i : AcquireId) (stage : AcquireStage) : RpcConnectionPool :=
  { s with acquires := s.acquires.modify i fun call => { call with stage := stage } }

def reject (s : RpcConnectionPool) (i : AcquireId) (error : Thrown) :
    RpcConnectionPool × List PoolEffect :=
  (s.goTo i (.rejected error), [.rejected i error])

/-- The connection becomes active, and the acquire resolves with it. -/
def fulfil (s : RpcConnectionPool) (i : AcquireId) (conn : ConnId) :
    RpcConnectionPool × List PoolEffect :=
  (goTo { s with active := s.active ++ [conn] } i (.fulfilled conn), [.fulfilled i conn])

def canCreateConnection (s : RpcConnectionPool) : Bool :=
  s.idle.length + s.active.length + s.connecting < s.options.maxConnections

/-! ## Pending acquires -/

/-- The entry of the acquire is settled. -/
def hasSettled (s : RpcConnectionPool) (i : AcquireId) : Bool :=
  !s.acquires[i]?.any (·.stage = .queued)

def hasPendingAcquires (s : RpcConnectionPool) : Bool := s.pendingSettled < s.pending.length

def compactPending (s : RpcConnectionPool) : RpcConnectionPool :=
  if s.pendingSettled < 16 then s
  else { s with pending := s.pending.filter fun i => !s.hasSettled i, pendingSettled := 0 }

/-- The settled entries at the head are dropped, and counted. -/
def dropSettled (settled : AcquireId → Bool) : List AcquireId → ℤ → List AcquireId × ℤ
  | [], count => ([], count)
  | i :: rest, count => if settled i then dropSettled settled rest (count - 1)
      else (i :: rest, count)

def takeNextPendingAcquire (s : RpcConnectionPool) : RpcConnectionPool × Option AcquireId :=
  match dropSettled s.hasSettled s.pending s.pendingSettled with
  | ([], count) => ({ s with pending := [], pendingSettled := count }, none)
  | (i :: rest, count) =>
    (compactPending { s with pending := rest, pendingSettled := count }, some i)

def rejectPendingAcquire (s : RpcConnectionPool) (i : AcquireId) (error : Thrown) :
    RpcConnectionPool × List PoolEffect :=
  if s.hasSettled i then (s, [])
  else
    let (s, effects) := s.reject i error
    (if i ∈ s.pending then compactPending { s with pendingSettled := s.pendingSettled + 1 }
      else s, effects)

/-- Whether some acquire has taken the connection. -/
def handoffPendingAcquire (s : RpcConnectionPool) (conn : ConnId) :
    RpcConnectionPool × List PoolEffect × Bool :=
  match s.takeNextPendingAcquire with
  | (s, none) => (s, [], false)
  | (s, some i) =>
    let (s, effects) := s.fulfil i conn
    (s, effects, true)

def parkIdleConnection (s : RpcConnectionPool) (conn : ConnId) (lastUsedAt : ℕ) :
    RpcConnectionPool :=
  { s with idle := s.idle ++ [(conn, lastUsedAt)] }

/-- The connection is handed off, or else parked. -/
def handoffOrPark (s : RpcConnectionPool) (conn : ConnId) : RpcConnectionPool × List PoolEffect :=
  match s.handoffPendingAcquire conn with
  | (s, effects, true) => (s, effects)
  | (s, effects, false) => (s.parkIdleConnection conn s.now, effects)

/-! ## Connect attempts -/

def beginConnectAttempt (s : RpcConnectionPool) (owner : AttemptOwner) : Option RpcConnectionPool :=
  if s.canCreateConnection then
    some { s with connecting := s.connecting + 1, attempts := s.attempts ++ [⟨owner, .connecting⟩] }
  else none

def setAttempt (s : RpcConnectionPool) (conn : ConnId) (f : ConnectAttempt → ConnectAttempt) :
    RpcConnectionPool :=
  { s with attempts := s.attempts.modify conn f }

/-- `#drainPendingAcquires`, from the condition of its loop on. -/
def drainPendingAcquires (s : RpcConnectionPool) : RpcConnectionPool :=
  if !s.closed && s.hasPendingAcquires && s.canCreateConnection then
    match s.beginConnectAttempt .drain with
    | some s => { s with drain := .connecting }
    | none => { s with drain := .ending }
  else { s with drain := .ending }

def schedulePendingCreateDrain (s : RpcConnectionPool) : RpcConnectionPool :=
  if s.drain = .off ∧ s.closed = false ∧ s.hasPendingAcquires = true ∧ s.canCreateConnection =
    true then
    s.drainPendingAcquires
  else s

def normalizeConnectionCreateError (error : Thrown) : Thrown :=
  if error.cls = .sessionError then error
    else sessionError "connection pool: failed to create connection"

/-- `#createConnection`, up to its wait. -/
def createConnection (s : RpcConnectionPool) (i : AcquireId) (call : PoolAcquire) :
    RpcConnectionPool × List PoolEffect :=
  if call.aborted then s.reject i acquireAborted
  else
    match s.beginConnectAttempt (.acquire i) with
    | some begun => (begun.goTo i (.connecting s.attempts.length), [])
    | none => s.reject i (sessionError "connection pool is at capacity")

/-- `#createConnection` fails. -/
def failCreate (s : RpcConnectionPool) (i : AcquireId) (error : Thrown) :
    RpcConnectionPool × List PoolEffect :=
  s.schedulePendingCreateDrain.reject i (normalizeConnectionCreateError error)

/-! ## Acquire -/

/-- The connection has been taken from the idle ones, and is healthy. -/
def handOver (s : RpcConnectionPool) (i : AcquireId) (call : PoolAcquire) (conn : ConnId) :
    RpcConnectionPool × List PoolEffect :=
  if call.aborted then
    let (s, given) := if s.closed then (s, [.connectionClosed conn]) else s.handoffOrPark conn
    let (s, rejected) := s.reject i acquireAborted
    (s, given ++ rejected)
  else s.fulfil i conn

/-- `acquire`, from the loop over the idle connections on. -/
def takeIdle (s : RpcConnectionPool) (i : AcquireId) (call : PoolAcquire) :
    RpcConnectionPool × List PoolEffect :=
  match s.idle with
  | (conn, lastUsedAt) :: rest =>
    let s := { s with idle := rest }
    if s.options.healthCheck && s.options.healthCheckIdleMs ≤
      s.now - lastUsedAt then (s.goTo i (.checking conn), [])
    else s.handOver i call conn
  | [] =>
    if s.canCreateConnection then s.createConnection i call
    else if call.aborted then s.reject i acquireAborted
    else ({ s.goTo i .queued with pending := s.pending ++ [i] }, [])

def acquire (s : RpcConnectionPool) (aborted : Option Bool) (timeoutMs : Option ℕ) :
    RpcConnectionPool × List PoolEffect :=
  let call : PoolAcquire :=
    ⟨aborted.isSome, aborted.getD false, timeoutMs.getD s.options.acquireTimeoutMs, false, .looking⟩
  let i := s.acquires.length
  let s := { s with acquires := s.acquires ++ [call] }
  if call.aborted then s.reject i acquireAborted
  else if s.closed then s.reject i poolClosed
  else s.takeIdle i call

def healthCheckSettles (s : RpcConnectionPool) (i : AcquireId) (healthy : Bool)
    (call : PoolAcquire) :
    RpcConnectionPool × List PoolEffect :=
  match call.stage with
  | .checking conn =>
    let s := s.goTo i .looking
    if healthy then s.handOver i call conn
    else
      let (s, effects) := s.takeIdle i call
      (s, .connectionClosed conn :: effects)
  | _ => (s, [])

/-- The acquire goes on after its signal was aborted: the outcome of the attempt is left to the
pool. -/
def abandonedContinues (s : RpcConnectionPool) (i : AcquireId) (call : PoolAcquire) :
    RpcConnectionPool × List PoolEffect :=
  match call.stage with
  | .abandoned conn =>
    (s.setAttempt conn fun attempt => { attempt with owner := .late }).failCreate i acquireAborted
  | _ => (s, [])

def closeSettles (s : RpcConnectionPool) (i : AcquireId) (call : PoolAcquire) :
    RpcConnectionPool × List PoolEffect :=
  match call.stage with
  | .closing => s.failCreate i poolClosed
  | _ => (s, [])

/-! ## The outcome of a connect attempt -/

def connectSettles (s : RpcConnectionPool) (conn : ConnId) (failure : Option Thrown)
    (attempt : ConnectAttempt) :
    RpcConnectionPool × List PoolEffect :=
  match attempt.stage with
  | .connecting =>
    ({ s.setAttempt conn fun attempt => { attempt with stage := .settled failure } with
      connecting := s.connecting - 1 }, if failure.isSome then [.failed conn] else [])
  | _ => (s, [])

/-- The outcome comes to the acquire. -/
def continueAcquire (s : RpcConnectionPool) (i : AcquireId) (call : PoolAcquire) (conn : ConnId) :
    Option Thrown → RpcConnectionPool × List PoolEffect
  | none =>
    let s := s.setAttempt conn fun attempt => { attempt with stage := .taken }
    if s.closed then (s.goTo i .closing, [.connectionClosed conn]) else s.fulfil i conn
  | some error =>
    -- an acquire that was aborted meanwhile leaves the failure to the pool as well
    if call.aborted then (s.setAttempt conn fun attempt =>
      { attempt with owner := .late }).failCreate i error
    else (s.setAttempt conn fun attempt => { attempt with stage := .taken }).failCreate i error

/-- The outcome comes to the drain. -/
def continueDrain (s : RpcConnectionPool) (conn : ConnId) :
    Option Thrown → RpcConnectionPool × List PoolEffect
  | none =>
    if s.closed then ({ s with drain := .ending }, [.connectionClosed conn])
    else
      match s.handoffPendingAcquire conn with
      | (s, given, true) => (s.drainPendingAcquires, given)
      | (s, given, false) => ({ s.parkIdleConnection conn s.now with drain := .ending }, given)
  | some error =>
    match s.takeNextPendingAcquire with
    | (s, none) => (s.drainPendingAcquires, [])
    | (s, some i) =>
      let (s, rejected) := s.reject i (normalizeConnectionCreateError error)
      (s.drainPendingAcquires, rejected)

/-- The outcome comes to the warm-up. -/
def continueWarmUp (s : RpcConnectionPool) (conn : ConnId) :
    Option Thrown → RpcConnectionPool × List PoolEffect
  | none => if s.closed then (s, [.connectionClosed conn]) else s.handoffOrPark conn
  | some _ => (s, [])

/-- The outcome comes to the pool, since the acquire was aborted. -/
def continueLate (s : RpcConnectionPool) (conn : ConnId) :
    Option Thrown → RpcConnectionPool × List PoolEffect
  | none =>
    if s.closed then (s.schedulePendingCreateDrain, [.connectionClosed conn])
    else
      match s.handoffPendingAcquire conn with
      | (s, given, true) => (s.schedulePendingCreateDrain, given)
      | (s, given, false) => (s.schedulePendingCreateDrain, given ++ [.connectionClosed conn])
  | some _ => (s.schedulePendingCreateDrain, [])

def connectContinues (s : RpcConnectionPool) (conn : ConnId) (attempt : ConnectAttempt) :
    RpcConnectionPool × List PoolEffect :=
  match attempt.stage with
  | .settled failure =>
    let taken := s.setAttempt conn fun attempt => { attempt with stage := .taken }
    match attempt.owner with
    | .acquire i =>
      match s.acquires[i]? with
      | some call => if call.stage = .connecting conn then s.continueAcquire i call conn failure
          else (s, [])
      | none => (s, [])
    | .drain => taken.continueDrain conn failure
    | .warmUp =>
      continueWarmUp (s.setAttempt conn fun attempt => { attempt with stage := .warmedUp })
        conn failure
    | .late => taken.continueLate conn failure
    | .closing => (taken, if failure.isSome then [] else [.connectionClosed conn])
  | _ => (s, [])

def warmUpEnds (s : RpcConnectionPool) (conn : ConnId) (attempt : ConnectAttempt) :
    RpcConnectionPool × List PoolEffect :=
  match attempt.stage with
  | .warmedUp =>
    ((s.setAttempt conn fun attempt => { attempt with stage := .taken }).schedulePendingCreateDrain,
      [])
  | _ => (s, [])

/-! ## The other operations -/

/-- The attempt of the acquire is still under way. -/
def isConnecting (s : RpcConnectionPool) (conn : ConnId) : Bool :=
  s.attempts[conn]?.any (·.stage = .connecting)

def abort (s : RpcConnectionPool) (i : AcquireId) (call : PoolAcquire) :
    RpcConnectionPool × List PoolEffect :=
  if call.signal then
    let s := { s with acquires := s.acquires.modify i fun call => { call with aborted := true } }
    match call.stage with
    | .queued => s.rejectPendingAcquire i acquireAborted
    | .connecting conn => (if s.isConnecting conn then s.goTo i (.abandoned conn) else s, [])
    | _ => (s, [])
  else (s, [])

def timeout (s : RpcConnectionPool) (i : AcquireId) (call : PoolAcquire) :
    RpcConnectionPool × List PoolEffect :=
  match call.stage with
  | .queued =>
    s.rejectPendingAcquire i
      (sessionError s!"connection pool acquire timed out after {call.timeoutMs}ms")
  | _ => (s, [])

def release (s : RpcConnectionPool) (i : AcquireId) (call : PoolAcquire) :
    RpcConnectionPool × List PoolEffect :=
  match call.stage with
  | .fulfilled conn =>
    let s := { s with acquires := s.acquires.modify i fun call => { call with released := true } }
    if conn ∈ s.active then
      let s := { s with active := s.active.erase conn }
      if s.closed then (s, [.connectionClosed conn]) else s.handoffOrPark conn
    else (s, [])
  | _ => (s, [])

def evictIdle (s : RpcConnectionPool) (conn : ConnId) : RpcConnectionPool × List PoolEffect :=
  match s.idle.find? (·.1 = conn) with
  | some (_, lastUsedAt) =>
    let s := { s with idle := s.idle.eraseP (·.1 = conn) }
    if s.options.minConnections ≤ s.idle.length + s.active.length then (s, [.connectionClosed conn])
    else (s.parkIdleConnection conn lastUsedAt, [])
  | none => (s, [])

/-- The attempts of the warm-up that the pool waits for. -/
def warmupComplete (s : RpcConnectionPool) : Bool :=
  s.attempts.all fun attempt => attempt.owner ≠ .warmUp || attempt.stage = .taken

/-- The pool is closed, and the warm-up stops waiting for its attempts. -/
def close (s : RpcConnectionPool) : RpcConnectionPool × List PoolEffect :=
  if s.closed then (s, [])
  else
    ({ s with
      closed := true
      attempts := s.attempts.map fun attempt =>
        if attempt.owner = .warmUp ∧ attempt.stage =
          .connecting then { attempt with owner := .closing } else attempt },
      [.closed])

/-- `#doClose`, past its waits. -/
def sweep (s : RpcConnectionPool) : RpcConnectionPool × List PoolEffect :=
  if s.closed && !s.swept && s.warmupComplete then
    let waiting := s.pending.filter fun i => !s.hasSettled i
    let acquires := waiting.foldl (fun acquires i =>
      acquires.modify i fun call => { call with stage := .rejected poolClosed }) s.acquires
    ({ s with
        swept := true, pending := [], pendingSettled := 0, idle := [], active := [],
        acquires := acquires },
      waiting.map (.rejected · poolClosed) ++ s.idle.map (.connectionClosed ·.1) ++
        s.active.map .connectionClosed)
  else (s, [])

/-! ## Steps -/

def atAcquire (s : RpcConnectionPool) (i : AcquireId)
    (act : PoolAcquire → RpcConnectionPool × List PoolEffect) :
    RpcConnectionPool × List PoolEffect :=
  match s.acquires[i]? with
  | some call => act call
  | none => (s, [])

def atAttempt (s : RpcConnectionPool) (conn : ConnId)
    (act : ConnectAttempt → RpcConnectionPool × List PoolEffect) :
    RpcConnectionPool × List PoolEffect :=
  match s.attempts[conn]? with
  | some attempt => act attempt
  | none => (s, [])

def step (s : RpcConnectionPool) : PoolEvent → RpcConnectionPool × List PoolEffect
  | .acquire aborted timeoutMs => s.acquire aborted timeoutMs
  | .healthCheckSettles i healthy => s.atAcquire i (s.healthCheckSettles i healthy)
  | .connectSettles conn failure => s.atAttempt conn (s.connectSettles conn failure)
  | .connectContinues conn => s.atAttempt conn (s.connectContinues conn)
  | .abandonedContinues i => s.atAcquire i (s.abandonedContinues i)
  | .closeSettles i => s.atAcquire i (s.closeSettles i)
  | .abort i => s.atAcquire i (s.abort i)
  | .timeout i => s.atAcquire i (s.timeout i)
  | .release i => s.atAcquire i (s.release i)
  | .idleTimeout conn => s.evictIdle conn
  | .drainEnds =>
    (if s.drain = .ending then schedulePendingCreateDrain { s with drain := .off } else s, [])
  | .warmUpEnds conn => s.atAttempt conn (s.warmUpEnds conn)
  | .advance ms => ({ s with now := s.now + ms }, [])
  | .close => s.close
  | .sweep => s.sweep

/-- `#warmUp` begins its attempts. -/
def warmUp (s : RpcConnectionPool) : ℕ → RpcConnectionPool
  | 0 => s
  | count + 1 =>
    match s.beginConnectAttempt .warmUp with
    | some begun => begun.warmUp count
    | none => s.warmUp count

/-- The pool, just constructed. -/
def initial (options : RpcConnectionPoolOptions) : RpcConnectionPool :=
  warmUp ⟨options, 0, [], [], [], 0, false, false, 0, .off, [], []⟩ options.minConnections

end RpcConnectionPool

end CapnpDeno
