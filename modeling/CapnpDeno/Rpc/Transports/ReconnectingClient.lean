import CapnpDeno.Lib.Acts
import CapnpDeno.Rpc.Client.ClientCall

/-!
# ReconnectingRpcClientTransport

The client transport that connects again when its connection is lost.  A connection is known by the
number of those before it.  The operations run one after the other; a step is a stretch of the
source between two awaits.  The method and the parameters of a call pass through and are left out;
its options pass through as well, and name capabilities.
-/

namespace CapnpDeno

abbrev ClientId := ℕ

/-- The optional methods of an `RpcClientTransportLike`. -/
structure RpcClientFeatures where
  bootstrap : Bool
  finish : Bool
  release : Bool
  close : Bool
deriving DecidableEq

/-- `remapCapabilityOnReconnect` says that there is such a callback. -/
structure ReconnectingRpcClientTransportOptions where
  retryInFlightCalls : Bool
  rebootstrapOnReconnect : Bool
  remapCapabilityOnReconnect : Bool
  shouldReconnectError : Option (Thrown → Bool)

inductive LaneOp
  | bootstrap
  | call (capability : ℤ) (options : RpcClientCallOptions)
  | finish (questionId : ℕ)
  | release (capability : ℤ)
  | close
deriving DecidableEq

/-- Why the transport connects again. -/
inductive Reconnect
  | call (capability : ℤ) (options : RpcClientCallOptions) (previousBootstrap : Option ℤ)
  | finish (questionId : ℕ)
  | release (capability : ℤ)
deriving DecidableEq

/-- What the operation that runs awaits. -/
inductive LaneStage
  | idle
  | connecting (op : LaneOp)
  | bootstrapping
  | calling (capability : ℤ) (options : RpcClientCallOptions)
  | finishing (questionId : ℕ)
  | releasing (capability : ℤ)
  | closing
  /-- `#reconnect` closes the previous client. -/
  | dropping (reason : Reconnect)
  | reconnecting (reason : Reconnect)
  /-- The bootstrap capability is mapped. -/
  | refreshing (options : RpcClientCallOptions)
  /-- Another capability is mapped, and the bootstrap capability comes first. -/
  | rebootstrapping (capability : ℤ) (options : RpcClientCallOptions)
  | remapping (capability : ℤ) (options : RpcClientCallOptions)
  | retrying
deriving DecidableEq

/-- `issued` has the capabilities that were obtained on each connection. -/
structure ReconnectingRpcClientTransport where
  options : ReconnectingRpcClientTransportOptions
  client : Option (ClientId × RpcClientFeatures)
  closed : Bool
  bootstrapCapability : Option ℤ
  connections : ℕ
  queue : List LaneOp
  stage : LaneStage
  issued : List (ClientId × ℤ)

inductive LaneEvent
  | enqueue (op : LaneOp)
  /-- The next operation begins. -/
  | next
  | connects (outcome : Except Thrown RpcClientFeatures)
  | bootstraps (outcome : Except Thrown ℤ)
  /-- The call of the client returns, with the capabilities in its result. -/
  | returns (outcome : Except Thrown (List ℤ))
  /-- `finish` or `release` of the client is over. -/
  | settles (failure : Option Thrown)
  | closes (failure : Option Thrown)
  | remaps (outcome : Except Thrown (Option ℤ))

inductive LaneEffect
  | connect
  | bootstrap (client : ClientId)
  | call (client : ClientId) (capability : ℤ) (options : RpcClientCallOptions)
  | finish (client : ClientId) (questionId : ℕ)
  | release (client : ClientId) (capability : ℤ)
  | close (client : ClientId)
  | remap (capability : ℤ) (currentBootstrapCapability : Option ℤ)
  /-- The capability was obtained on the connection. -/
  | issued (client : ClientId) (capability : ℤ)
  /-- The operation is over; a bootstrap has a capability as its outcome. -/
  | settled (outcome : Except Thrown (Option ℤ))

def normalizeCapability (capability : ℤ) : Except Thrown ℤ :=
  if 0 ≤ capability ∧ capability ≤ 0xffffffff then .ok capability
  else .error
    (sessionError s!"capabilityIndex must be a non-negative 32-bit integer, got {capability}")

namespace ReconnectingRpcClientTransport

def shouldReconnect (s : ReconnectingRpcClientTransport) (error : Thrown) : Bool :=
  match s.options.shouldReconnectError with
  | some decide => decide error
  | none => error.cls = .transportError ∨ error.cls = .sessionError

/-- The operation is over. -/
def respond (s : ReconnectingRpcClientTransport) (outcome : Except Thrown (Option ℤ)) :
    ReconnectingRpcClientTransport × List LaneEffect :=
  ({ s with stage := .idle }, [.settled outcome])

def fails (s : ReconnectingRpcClientTransport) (message : String) :
    ReconnectingRpcClientTransport × List LaneEffect :=
  s.respond (.error (sessionError message))

/-- Capabilities were obtained on the connection. -/
def issue (s : ReconnectingRpcClientTransport) (client : ClientId) (capabilities : List ℤ) :
    ReconnectingRpcClientTransport :=
  { s with issued := s.issued ++ capabilities.map fun capability => (client, capability) }

def issues (client : ClientId) (capabilities : List ℤ) : List LaneEffect :=
  capabilities.map (.issued client)

/-! ## The operations -/

/-- The operation, once there is a connection. -/
def runOn (s : ReconnectingRpcClientTransport) (client : ClientId) (features : RpcClientFeatures) :
    LaneOp → ReconnectingRpcClientTransport × List LaneEffect
  | .bootstrap =>
    if features.bootstrap then ({ s with stage := .bootstrapping }, [.bootstrap client])
    else s.fails "underlying client transport does not support bootstrap()"
  | .call capability options =>
    ({ s with stage := .calling capability options }, [.call client capability options])
  | .finish questionId =>
    if features.finish then ({ s with stage := .finishing questionId }, [.finish client questionId])
    else s.fails "underlying client transport does not support finish() calls"
  | .release capability =>
    if features.release then ({ s with stage := .releasing capability },
      [.release client capability])
    else s.fails "underlying client transport does not support release() calls"
  | .close => (s, [])

def ensureConnected (s : ReconnectingRpcClientTransport) (op : LaneOp) :
    ReconnectingRpcClientTransport × List LaneEffect :=
  match s.client with
  | some (client, features) => s.runOn client features op
  | none => ({ s with stage := .connecting op }, [.connect])

def close (s : ReconnectingRpcClientTransport) : ReconnectingRpcClientTransport × List LaneEffect :=
  if s.closed then s.respond (.ok none)
  else
    let next := { s with closed := true, client := none, bootstrapCapability := none }
    match s.client with
    | some (client, features) =>
      if features.close then ({ next with stage := .closing }, [.close client])
        else next.respond (.ok none)
    | none => next.respond (.ok none)

def begin (s : ReconnectingRpcClientTransport) (op : LaneOp) :
    ReconnectingRpcClientTransport × List LaneEffect :=
  match op with
  | .close => s.close
  | .bootstrap | .finish _ =>
    if s.closed then s.fails "reconnecting client transport is closed" else s.ensureConnected op
  | .call capability _ | .release capability =>
    if s.closed then s.fails "reconnecting client transport is closed"
    else
      match normalizeCapability capability with
      | .ok _ => s.ensureConnected op
      | .error error => s.respond (.error error)

/-- `#reconnect`, up to its first wait. -/
def reconnect (s : ReconnectingRpcClientTransport) (reason : Reconnect) :
    ReconnectingRpcClientTransport × List LaneEffect :=
  let next := { s with client := none, bootstrapCapability := none }
  match s.client with
  | some (client, features) =>
    if features.close then ({ next with stage := .dropping reason }, [.close client])
    else ({ next with stage := .reconnecting reason }, [.connect])
  | none => ({ next with stage := .reconnecting reason }, [.connect])

/-! ## The retry of a call -/

def retry (s : ReconnectingRpcClientTransport) (client : ClientId) (capability : ℤ)
    (options : RpcClientCallOptions) :
    ReconnectingRpcClientTransport × List LaneEffect :=
  ({ s with stage := .retrying }, [.call client capability options])

/-- `#mapCapabilityAfterReconnect`, from the check for the callback on. -/
def askRemap (s : ReconnectingRpcClientTransport) (capability : ℤ) (options : RpcClientCallOptions)
    (currentBootstrapCapability : Option ℤ) : ReconnectingRpcClientTransport × List LaneEffect :=
  if s.options.remapCapabilityOnReconnect then
    ({ s with stage := .remapping capability options },
      [.remap capability currentBootstrapCapability])
  else s.fails s!"cannot automatically retry non-bootstrap capability {capability} after reconnect"

def mapCapabilityAfterReconnect (s : ReconnectingRpcClientTransport) (client : ClientId)
    (features : RpcClientFeatures) (capability : ℤ) (options : RpcClientCallOptions) :
    Option ℤ → ReconnectingRpcClientTransport × List LaneEffect
  | none => s.retry client capability options
  | some previousBootstrap =>
    if capability = previousBootstrap then
      if s.options.rebootstrapOnReconnect then
        if features.bootstrap then ({ s with stage := .refreshing options }, [.bootstrap client])
        else s.fails "underlying client transport does not support bootstrap()"
      else s.fails "call retry requires bootstrap remap, but rebootstrapOnReconnect is disabled"
    else if s.options.rebootstrapOnReconnect && features.bootstrap then
      ({ s with stage := .rebootstrapping capability options }, [.bootstrap client])
    else s.askRemap capability options none

def afterReconnect (s : ReconnectingRpcClientTransport) (client : ClientId)
    (features : RpcClientFeatures) :
    Reconnect → ReconnectingRpcClientTransport × List LaneEffect
  | .call capability options previousBootstrap =>
    s.mapCapabilityAfterReconnect client features capability options previousBootstrap
  | .finish questionId =>
    s.fails
      (s!"finish({questionId}) failed during reconnect; question IDs are connection-scoped " ++
      "and are not retried")
  | .release capability =>
    s.fails
      (s!"release({capability}) failed during reconnect; capability references are connection-scoped " ++
      "and are not retried")

/-! ## Steps -/

/-- The connection is there. -/
def connected (s : ReconnectingRpcClientTransport) (features : RpcClientFeatures) :
    ReconnectingRpcClientTransport :=
  { s with client := some (s.connections, features), connections := s.connections + 1 }

def connects (s : ReconnectingRpcClientTransport) (outcome : Except Thrown RpcClientFeatures) :
    ReconnectingRpcClientTransport × List LaneEffect :=
  match s.stage, outcome with
  | .connecting op, .ok features => (s.connected features).runOn s.connections features op
  | .reconnecting reason, .ok features =>
    (s.connected features).afterReconnect s.connections features reason
  | .connecting _, .error error | .reconnecting _, .error error =>
    s.respond (.error (normalizeSessionError error "rpc client connect failed"))
  | _, _ => (s, [])

/-- `#runBootstrap` has its capability. -/
def bootstrapped (s : ReconnectingRpcClientTransport) (client : ClientId) (capability : ℤ) :
    ReconnectingRpcClientTransport × List LaneEffect :=
  let next := { s with bootstrapCapability := some capability }.issue client [capability]
  match s.stage with
  | .refreshing options =>
    let (next, effects) := next.retry client capability options
    (next, .issued client capability :: effects)
  | .rebootstrapping other options =>
    let (next, effects) := next.askRemap other options (some capability)
    (next, .issued client capability :: effects)
  | _ =>
    let (next, effects) := next.respond (.ok (some capability))
    (next, .issued client capability :: effects)

def awaitsBootstrap (s : ReconnectingRpcClientTransport) : Bool :=
  match s.stage with
  | .bootstrapping | .refreshing _ | .rebootstrapping _ _ => true
  | _ => false

def bootstraps (s : ReconnectingRpcClientTransport) (client : ClientId)
    (outcome : Except Thrown ℤ) :
    ReconnectingRpcClientTransport × List LaneEffect :=
  if s.awaitsBootstrap then
    match outcome with
    | .ok capability =>
      match normalizeCapability capability with
      | .ok capability => s.bootstrapped client capability
      | .error error => s.respond (.error error)
    | .error error => s.respond (.error (normalizeSessionError error "rpc bootstrap failed"))
  else (s, [])

/-- The call has its result. -/
def succeeds (s : ReconnectingRpcClientTransport) (client : ClientId) (capabilities : List ℤ) :
    ReconnectingRpcClientTransport × List LaneEffect :=
  let (next, effects) := (s.issue client capabilities).respond (.ok none)
  (next, issues client capabilities ++ effects)

def returns (s : ReconnectingRpcClientTransport) (client : ClientId)
    (outcome : Except Thrown (List ℤ)) :
    ReconnectingRpcClientTransport × List LaneEffect :=
  match s.stage, outcome with
  | .calling _ _, .ok capabilities | .retrying, .ok capabilities => s.succeeds client capabilities
  | .calling capability options, .error error =>
    let normalized := normalizeSessionError error "rpc call failed"
    if s.options.retryInFlightCalls && s.shouldReconnect normalized then
      s.reconnect (.call capability options s.bootstrapCapability)
    else s.respond (.error normalized)
  | .retrying, .error error =>
    s.respond (.error (normalizeSessionError error "rpc call retry failed"))
  | _, _ => (s, [])

def settles (s : ReconnectingRpcClientTransport) (failure : Option Thrown) :
    ReconnectingRpcClientTransport × List LaneEffect :=
  match s.stage, failure with
  | .finishing _, none | .releasing _, none => s.respond (.ok none)
  | .finishing questionId, some error =>
    let normalized := normalizeSessionError error "rpc finish failed"
    if s.shouldReconnect normalized then s.reconnect (.finish questionId)
      else s.respond (.error normalized)
  | .releasing capability, some error =>
    let normalized := normalizeSessionError error "rpc release failed"
    if s.shouldReconnect normalized then s.reconnect (.release capability)
      else s.respond (.error normalized)
  | _, _ => (s, [])

def closes (s : ReconnectingRpcClientTransport) (failure : Option Thrown) :
    ReconnectingRpcClientTransport × List LaneEffect :=
  match s.stage, failure with
  | .closing, none => s.respond (.ok none)
  | .dropping reason, none => ({ s with stage := .reconnecting reason }, [.connect])
  | .closing, some error | .dropping _, some error =>
    s.respond (.error (normalizeSessionError error "rpc client close failed"))
  | _, _ => (s, [])

def remaps (s : ReconnectingRpcClientTransport) (client : ClientId)
    (outcome : Except Thrown (Option ℤ)) :
    ReconnectingRpcClientTransport × List LaneEffect :=
  match s.stage, outcome with
  | .remapping _ options, .ok (some remapped) =>
    match normalizeCapability remapped with
    | .ok remapped =>
      let (next, effects) := (s.issue client [remapped]).retry client remapped options
      (next, .issued client remapped :: effects)
    | .error error => s.respond (.error error)
  | .remapping capability _, .ok none =>
    s.fails s!"remapCapabilityOnReconnect did not provide a replacement for capability {capability}"
  | .remapping _ _, .error error => s.respond (.error error)
  | _, _ => (s, [])

/-- What the client of the connection does. -/
def atClient (s : ReconnectingRpcClientTransport)
    (act : ClientId → ReconnectingRpcClientTransport × List LaneEffect) :
    ReconnectingRpcClientTransport × List LaneEffect :=
  match s.client with
  | some (client, _) => act client
  | none => (s, [])

def next (s : ReconnectingRpcClientTransport) : ReconnectingRpcClientTransport × List LaneEffect :=
  match s.stage, s.queue with
  | .idle, op :: queue => begin { s with queue := queue } op
  | _, _ => (s, [])

def step (s : ReconnectingRpcClientTransport) :
    LaneEvent → ReconnectingRpcClientTransport × List LaneEffect
  | .enqueue op => ({ s with queue := s.queue ++ [op] }, [])
  | .next => s.next
  | .connects outcome => s.connects outcome
  | .bootstraps outcome => s.atClient fun client => s.bootstraps client outcome
  | .returns outcome => s.atClient fun client => s.returns client outcome
  | .settles failure => s.settles failure
  | .closes failure => s.closes failure
  | .remaps outcome => s.atClient fun client => s.remaps client outcome

def initial (options : ReconnectingRpcClientTransportOptions) : ReconnectingRpcClientTransport :=
  ⟨options, none, false, none, 0, [], .idle, []⟩

end ReconnectingRpcClientTransport

end CapnpDeno
