import CapnpDeno.Errors
import CapnpDeno.Lib.ByteList
import CapnpDeno.Lib.Heap
import CapnpDeno.Lib.Runs

/-!
# MiddlewareTransport

A stack of hooks in front of a transport.  Every `send`, and every frame from below, runs a chain of
its own through the stack; a step is a stretch of the source between two awaits.  What a hook
returns comes as an event, at any time and in any order.
-/

namespace CapnpDeno

/-- An `RpcTransportMiddleware`, by the hooks it has. -/
structure Middleware where
  onSend : Bool
  onReceive : Bool
deriving DecidableEq

inductive Direction
  | send
  | receive
deriving DecidableEq

def Middleware.hooked (mw : Middleware) : Direction → Bool
  | .send => mw.onSend
  | .receive => mw.onReceive

/-- What a hook or a chain comes to: a frame, none to drop it, or what was thrown. -/
abbrev HookResult := Except Thrown (Option Bytes)

abbrev ChainId := ℕ

inductive ChainStage
  /-- A hook has the frame; the rest of the stack comes after it. -/
  | awaits (rest : List (Middleware × ℕ))
  /-- The chain is over, and its caller has not gone on. -/
  | finished (result : HookResult)
  /-- The transport below, or the callback above, has the frame. -/
  | handed
  | settled
deriving DecidableEq

structure Chain where
  direction : Direction
  frame : Bytes
  stage : ChainStage
deriving DecidableEq

/-- `resumes` are the finished chains whose callers go on next, in this order. -/
structure MiddlewareTransport where
  middleware : List Middleware
  chains : List Chain
  resumes : List ChainId

inductive MiddlewareEvent
  | send (frame : Bytes)
  /-- The transport below delivers a frame. -/
  | receive (frame : Bytes)
  /-- The hook that the chain awaits is done. -/
  | hooked (chain : ChainId) (result : HookResult)
  /-- The caller of the oldest finished chain goes on. -/
  | resume
  /-- `inner.send` or the callback is done. -/
  | handled (chain : ChainId) (failure : Option Thrown)

inductive MiddlewareEffect
  /-- The hook of the middleware at the position is called. -/
  | hook (chain : ChainId) (position : ℕ) (frame : Bytes)
  | hooked (chain : ChainId) (result : HookResult)
  | finished (chain : ChainId) (direction : Direction) (result : HookResult)
  /-- `inner.send` or the callback is called. -/
  | hand (chain : ChainId) (direction : Direction) (frame : Bytes)
  | settled (chain : ChainId) (failure : Option Thrown)
deriving DecidableEq

namespace MiddlewareTransport

/-- `#applySendChain` and `#applyReceiveChain`, up to the next hook. -/
def applyChain (direction : Direction) (chain : ChainId) :
    List (Middleware × ℕ) → Bytes → ChainStage × List MiddlewareEffect
  | [], current =>
    (.finished (.ok (some current)), [.finished chain direction (.ok (some current))])
  | (mw, position) :: rest, current =>
    if mw.hooked direction then (.awaits rest, [.hook chain position current])
    else applyChain direction chain rest current

/-- The chain goes on with what the hook returned. -/
def applyResult (direction : Direction) (chain : ChainId) (rest : List (Middleware × ℕ)) :
    HookResult → ChainStage × List MiddlewareEffect
  | .ok (some current) => applyChain direction chain rest current
  | .ok none => (.finished (.ok none), [.finished chain direction (.ok none)])
  | .error error => (.finished (.error error), [.finished chain direction (.error error)])

/-- The chain stands there now; if it is over, its caller will go on. -/
def enter (s : MiddlewareTransport) (chain : ChainId) (stage : ChainStage) : MiddlewareTransport :=
  let chains := s.chains.modify chain fun x => { x with stage := stage }
  match stage with
  | .finished _ => { s with chains := chains, resumes := s.resumes ++ [chain] }
  | .awaits _ | .handed | .settled => { s with chains := chains }

/-- `send`, and the callback that `start` gives to the transport below. -/
def begin (s : MiddlewareTransport) (direction : Direction) (frame : Bytes) :
    MiddlewareTransport × List MiddlewareEffect :=
  let chain := s.chains.length
  let (stage, effects) := applyChain direction chain s.middleware.zipIdx frame
  ({ s with chains := s.chains ++ [Chain.mk direction frame stage] }.enter chain stage, effects)

def hooked (s : MiddlewareTransport) (chain : ChainId) (result : HookResult) :
    MiddlewareTransport × List MiddlewareEffect :=
  match s.chains[chain]? with
  | some ⟨direction, _, .awaits rest⟩ =>
    let (stage, effects) := applyResult direction chain rest result
    (s.enter chain stage, .hooked chain result :: effects)
  | _ => (s, [])

/-- The rest of `send`, or of the callback, after its chain. -/
def goOn (direction : Direction) (chain : ChainId) : HookResult → ChainStage × List MiddlewareEffect
  | .ok (some frame) => (.handed, [.hand chain direction frame])
  | .ok none => (.settled, [.settled chain none])
  | .error error => (.settled, [.settled chain (some error)])

def resume (s : MiddlewareTransport) : MiddlewareTransport × List MiddlewareEffect :=
  match s.resumes with
  | chain :: resumes =>
    match s.chains[chain]? with
    | some ⟨direction, _, .finished result⟩ =>
      let (stage, effects) := goOn direction chain result
      ({ s with resumes := resumes }.enter chain stage, effects)
    | _ => ({ s with resumes := resumes }, [])
  | [] => (s, [])

def handled (s : MiddlewareTransport) (chain : ChainId) (failure : Option Thrown) :
    MiddlewareTransport × List MiddlewareEffect :=
  match s.chains[chain]? with
  | some ⟨_, _, .handed⟩ => (s.enter chain .settled, [.settled chain failure])
  | _ => (s, [])

def step (s : MiddlewareTransport) : MiddlewareEvent → MiddlewareTransport × List MiddlewareEffect
  | .send frame => s.begin .send frame
  | .receive frame => s.begin .receive frame
  | .hooked chain result => s.hooked chain result
  | .resume => s.resume
  | .handled chain failure => s.handled chain failure

def initial (middleware : List Middleware) : MiddlewareTransport := ⟨middleware, [], []⟩

/-- The transport below delivers a frame only after the callback for the one before settled. -/
def inTurn (s : MiddlewareTransport) : MiddlewareEvent → Prop
  | .receive _ => ∀ x ∈ s.chains, x.direction = .receive → x.stage = .settled
  | .send _ | .hooked _ _ | .resume | .handled _ _ => True

end MiddlewareTransport

end CapnpDeno
