import CapnpDeno.Lib.Runs
import CapnpDeno.Rpc.Server.Bridge

/-!
# PostInboundHookTransport

The transport that holds back what the session sends while an inbound frame is processed, until the
hook for that frame has run.  A step is a stretch of the source between two awaits; the hook and
what it sends are events.  Frames sent while no inbound frame is processed go straight to the inner
transport, so they may pass those held back; of those held back none passes another.
-/

namespace CapnpDeno

/-- Where the link of the after-inbound chain stands for one inbound frame. -/
inductive AfterInboundStage
  /-- It awaits its turn, and then the promise of `onFrame`. -/
  | queued
  | hooking
  /-- It awaits the send of the deferred frame at the index. -/
  | sending (index : ℕ)
deriving DecidableEq

/-- An inbound frame, by its number: the frames deferred for it, and what its `onFrame` promise is
settled with. -/
structure AfterInbound where
  inbound : ℕ
  deferred : List Bytes
  onFrame : Option (Except Thrown Unit)
  stage : AfterInboundStage

def AfterInbound.goTo (link : AfterInbound) (stage : AfterInboundStage) : AfterInbound :=
  { link with stage := stage }

/-- `deferredOutboundFrames` refers to the list of the inbound frame; `afterInboundChain` holds the
links that are not over, the running one first. -/
structure PostInboundHookTransport where
  inboundFrames : ℕ
  deferredOutboundFrames : Option ℕ
  afterInboundChain : List AfterInbound
  afterInboundError : Option Thrown

inductive HookEvent
  | inbound
  | onFrameSettles (inbound : ℕ) (outcome : Except Thrown Unit)
  | send (frame : Bytes)
  /-- The chain goes on to the hook of its first link. -/
  | proceed
  | hookSettles (failure : Option Thrown)
  | innerSendSettles (failure : Option Thrown)

inductive HookEffect
  /-- The inner transport is handed the frame. -/
  | written (frame : Bytes)
  | afterInbound (inbound : ℕ) (outbound : List Bytes)
deriving DecidableEq

namespace PostInboundHookTransport

def initial : PostInboundHookTransport := ⟨0, none, [], none⟩

def updateLink (s : PostInboundHookTransport) (inbound : ℕ) (f : AfterInbound → AfterInbound) :
    PostInboundHookTransport :=
  { s with
    afterInboundChain := s.afterInboundChain.map fun link => if link.inbound = inbound then f link
      else link }

/-- The callback of `start`. -/
def onInbound (s : PostInboundHookTransport) : PostInboundHookTransport :=
  { s with
    inboundFrames := s.inboundFrames + 1
    deferredOutboundFrames := some s.inboundFrames
    afterInboundChain := s.afterInboundChain ++ [⟨s.inboundFrames, [], none, .queued⟩] }

def send (s : PostInboundHookTransport) (frame : Bytes) :
    PostInboundHookTransport × List HookEffect :=
  match s.deferredOutboundFrames with
  | some inbound =>
    (s.updateLink inbound fun link => { link with deferred := link.deferred ++ [frame] }, [])
  | none => (s, [.written frame])

/-- The first link is over, and the rest of the chain stays. -/
def goOn (s : PostInboundHookTransport) (rest : List AfterInbound) : PostInboundHookTransport :=
  { s with afterInboundChain := rest }

/-- The catch of the chain. -/
def fail (s : PostInboundHookTransport) (rest : List AfterInbound) (error : Thrown) :
    PostInboundHookTransport :=
  { s.goOn rest with afterInboundError := s.afterInboundError <|> some error }

/-- The loop over the deferred frames, from the index on. -/
def sendDeferred (s : PostInboundHookTransport) (link : AfterInbound) (rest : List AfterInbound)
    (index : ℕ) :
    PostInboundHookTransport × List HookEffect :=
  match link.deferred[index]? with
  | some frame => (s.goOn (link.goTo (.sending index) :: rest), [.written frame])
  | none => (s.goOn rest, [])

def proceed (s : PostInboundHookTransport) (link : AfterInbound) (rest : List AfterInbound) :
    PostInboundHookTransport × List HookEffect :=
  if s.afterInboundError.isSome then (s.goOn rest, [])
  else
    match link.onFrame with
    | none => (s, [])
    | some (.error error) => (s.fail rest error, [])
    | some (.ok ()) =>
      (s.goOn (link.goTo .hooking :: rest), [.afterInbound link.inbound link.deferred])

def atLink (s : PostInboundHookTransport)
    (act : AfterInbound → List AfterInbound → PostInboundHookTransport × List HookEffect) :
    PostInboundHookTransport × List HookEffect :=
  match s.afterInboundChain with
  | link :: rest => act link rest
  | [] => (s, [])

def step (s : PostInboundHookTransport) : HookEvent → PostInboundHookTransport × List HookEffect
  | .inbound => (s.onInbound, [])
  | .onFrameSettles inbound outcome =>
    ({ s.updateLink inbound fun link => { link with onFrame := some outcome } with
      deferredOutboundFrames := none }, [])
  | .send frame => s.send frame
  | .proceed =>
    s.atLink fun link rest =>
      match link.stage with
      | .queued => s.proceed link rest
      | _ => (s, [])
  | .hookSettles failure =>
    s.atLink fun link rest =>
      match link.stage, failure with
      | .hooking, none => s.sendDeferred link rest 0
      | .hooking, some error => (s.fail rest error, [])
      | _, _ => (s, [])
  | .innerSendSettles failure =>
    s.atLink fun link rest =>
      match link.stage, failure with
      | .sending index, none => s.sendDeferred link rest (index + 1)
      | .sending _, some error => (s.fail rest error, [])
      | _, _ => (s, [])

/-- `flushAfterInbound`, after the wait for the chain. -/
def flushAfterInbound (s : PostInboundHookTransport) : Except Thrown Unit :=
  match s.afterInboundError with
  | some error => .error error
  | none => .ok ()

end PostInboundHookTransport

end CapnpDeno
