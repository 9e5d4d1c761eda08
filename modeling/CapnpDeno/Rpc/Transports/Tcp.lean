import CapnpDeno.Errors
import CapnpDeno.Lib.Acts
import CapnpDeno.Lib.ByteList
import CapnpDeno.Lib.Heap

/-!
# TcpTransport

The sending side of the TCP transport with its queue of outbound frames.  A frame that was accepted
is known by its place.  `writeFully` has one `conn.write` at a time, so a write is known by its
frame; the connection resolves it with the number of bytes it has put on the wire.  A step is a
stretch of the source between two awaits.
-/

namespace CapnpDeno

/-- A frame that was accepted. -/
abbrev SendId := ℕ

structure TcpTransportOptions where
  sendTimeoutMs : Option ℕ
  maxOutboundFrameBytes : Option ℕ
  maxQueuedOutboundFrames : Option ℕ
  maxQueuedOutboundBytes : Option ℕ
  onError : Bool

inductive SendStage
  | queued
  | inflight
  | fulfilled
  | rejected (error : Thrown)
deriving DecidableEq

/-- `offset` is that of `writeFully`, `put` counts the bytes that the connection has put on the
wire, and `writing` says that a `conn.write` for the rest of the frame is pending. -/
structure TcpSend where
  frame : Bytes
  stage : SendStage
  offset : ℕ
  put : ℕ
  writing : Bool
deriving DecidableEq

/-- How the wait for a `conn.write` ends. -/
inductive WriteOutcome
  | written
  /-- The result is no positive integer. -/
  | invalid (result : String)
  | failed (error : Thrown)
deriving DecidableEq

inductive TcpDrain
  /-- There is no drain loop. -/
  | idle
  /-- It waits for a `conn.write`, or that wait is over. -/
  | writing (send : SendId) (outcome : Option WriteOutcome)
  /-- `writeFully` has returned. -/
  | written (send : SendId)
  /-- `writeFully` has thrown. -/
  | failed (send : SendId) (error : Thrown)
  /-- The loop is over, and its `finally` is due. -/
  | ending
deriving DecidableEq

structure TcpTransport where
  options : TcpTransportOptions
  started : Bool
  closed : Bool
  remoteClosed : Bool
  sends : List TcpSend
  queue : List SendId
  queuedBytes : ℤ
  inflightFrames : ℤ
  inflightBytes : ℤ
  drain : TcpDrain
  wire : Bytes

inductive TcpEvent
  | start
  | send (frame : Bytes)
  | close
  /-- The read loop meets the end of the stream, or fails. -/
  | remoteCloses
  /-- The connection puts the next bytes of a pending write on the wire. -/
  | puts (send : SendId) (bytes : ℕ)
  /-- The promise of a pending write settles. -/
  | writeSettles (send : SendId) (outcome : WriteOutcome)
  | timesOut
  /-- The drain loop goes on. -/
  | drainGoesOn

inductive TcpEffect
  | thrown (error : Thrown)
  | accepted (send : SendId)
  | fulfilled (send : SendId)
  | rejected (send : SendId) (error : Thrown)
  | onError (error : Thrown)
deriving DecidableEq

def tcpClosed : Thrown := transportError "TcpTransport is closed"

namespace TcpTransport

def setSend (s : TcpTransport) (send : SendId) (f : TcpSend → TcpSend) : TcpTransport :=
  { s with sends := s.sends.modify send f }

def byteLength (s : TcpTransport) (send : SendId) : ℕ :=
  (s.sends[send]?.map (·.frame.length)).getD 0

/-! ## OutboundFrameQueue -/

def assertCapacity (s : TcpTransport) (frameBytes : ℕ) : Option Thrown :=
  let used := s.inflightFrames + s.queue.length
  let usedBytes := s.inflightBytes + s.queuedBytes
  let frames :=
    match s.options.maxQueuedOutboundFrames with
    | some maxFrames =>
      if maxFrames < used + 1 then
        some (transportError s!"tcp outbound queue frame limit exceeded: {used + 1} > {maxFrames}")
      else none
    | none => none
  let bytes :=
    match s.options.maxQueuedOutboundBytes with
    | some maxBytes =>
      if maxBytes < usedBytes + frameBytes then
        some
          (transportError
            s!"tcp outbound queue byte limit exceeded: {usedBytes + frameBytes} > {maxBytes}")
      else none
    | none => none
  frames.or bytes

/-- `enqueue`, once there is room. -/
def enqueue (s : TcpTransport) (frame : Bytes) : TcpTransport :=
  { s with
    sends := s.sends ++ [⟨frame, .queued, 0, 0, false⟩]
    queue := s.queue ++ [s.sends.length]
    queuedBytes := s.queuedBytes + frame.length }

def settle (s : TcpTransport) (frameBytes : ℕ) : TcpTransport :=
  { s with inflightFrames := s.inflightFrames - 1, inflightBytes := s.inflightBytes - frameBytes }

/-- One round of the loop of `rejectQueued`. -/
def rejectNext (s : TcpTransport) (next : SendId) (rest : List SendId) (error : Thrown) :
    TcpTransport :=
  { s.setSend next fun x => { x with stage := .rejected error } with
    queue := rest
    queuedBytes := s.queuedBytes - s.byteLength next }

def rejectFrames (error : Thrown) : List SendId → TcpTransport → TcpTransport × List TcpEffect
  | [], s => (s, [])
  | next :: rest, s =>
    let (s, effects) := rejectFrames error rest (s.rejectNext next rest error)
    (s, [.rejected next error] ++ effects)

def rejectQueued (s : TcpTransport) (error : Thrown) : TcpTransport × List TcpEffect :=
  rejectFrames error s.queue s

/-! ## The drain loop -/

/-- `dequeue`, and `writeFully` up to its first wait. -/
def dequeue (s : TcpTransport) (next : SendId) (rest : List SendId) : TcpTransport :=
  let empty := s.byteLength next = 0
  { s.setSend next fun x => { x with stage := .inflight, writing := !empty } with
    queue := rest
    queuedBytes := s.queuedBytes - s.byteLength next
    inflightFrames := s.inflightFrames + 1
    inflightBytes := s.inflightBytes + s.byteLength next
    drain := if empty then .written next else .writing next none }

/-- `#drainOutbound`, from the condition of its loop on. -/
def drainOutbound (s : TcpTransport) : TcpTransport :=
  match s.queue with
  | next :: rest => if s.closed then { s with drain := .ending } else s.dequeue next rest
  | [] => { s with drain := .ending }

def ensureDrainLoop (s : TcpTransport) : TcpTransport :=
  if s.drain = .idle then s.drainOutbound else s

/-- `writeFully`, after its wait for a write. -/
def afterWrite (s : TcpTransport) (send : SendId) (x : TcpSend) : WriteOutcome → TcpTransport
  | .written =>
    if x.put ≤
      x.offset then { s with drain := .failed send (transportError "invalid tcp write result: 0") }
    else if x.put < x.frame.length then
      { s.setSend send fun x => { x with offset := x.put, writing := true } with
        drain := .writing send none }
    else { s.setSend send fun x => { x with offset := x.put } with drain := .written send }
  | .invalid result =>
    { s with drain := .failed send (transportError s!"invalid tcp write result: {result}") }
  | .failed error => { s with drain := .failed send error }

/-- The frame that was in flight settles. -/
def finish (s : TcpTransport) (send : SendId) (x : TcpSend) (stage : SendStage) : TcpTransport :=
  { (s.setSend send fun x => { x with stage := stage }).settle x.frame.length with
    drain := .ending }

def fail (s : TcpTransport) (send : SendId) (x : TcpSend) (error : Thrown) :
    TcpTransport × List TcpEffect :=
  let normalized := normalizeTransportError error "tcp send failed"
  -- `settle` comes last in the source, and `rejectQueued` does not look at what it changes
  let (s, effects) := (s.finish send x (.rejected normalized)).rejectQueued normalized
  (s, [.rejected send normalized] ++ effects ++ if s.options.onError then [.onError normalized]
    else [])

def drainGoesOn (s : TcpTransport) : TcpTransport × List TcpEffect :=
  match s.drain with
  | .writing send (some outcome) =>
    match s.sends[send]? with
    | some x => (s.afterWrite send x outcome, [])
    | none => (s, [])
  | .written send =>
    match s.sends[send]? with
    | some x => ((s.finish send x .fulfilled).drainOutbound, [.fulfilled send])
    | none => (s, [])
  | .failed send error =>
    match s.sends[send]? with
    | some x => s.fail send x error
    | none => (s, [])
  | .ending =>
    let s := { s with drain := .idle }
    (if s.queue ≠ [] ∧ s.closed = false then s.ensureDrainLoop else s, [])
  | .idle | .writing _ none => (s, [])

/-! ## The transport -/

/-- `send` throws before the frame is copied. -/
def refusal (s : TcpTransport) (frame : Bytes) : Option Thrown :=
  if s.started = false then some (transportError "TcpTransport not started")
  else if s.closed || s.remoteClosed then some tcpClosed
  else
    match s.options.maxOutboundFrameBytes with
    | some max =>
      if max < frame.length then
        some
          (transportError s!"tcp outbound frame size {frame.length} exceeds configured limit {max}")
      else none
    | none => none

def send (s : TcpTransport) (frame : Bytes) : TcpTransport × List TcpEffect :=
  match s.refusal frame with
  | some error => (s, [.thrown error])
  | none =>
    match s.assertCapacity frame.length with
    | some error => (s.ensureDrainLoop, [.thrown error])
    | none => ((s.enqueue frame).ensureDrainLoop, [.accepted s.sends.length])

def start (s : TcpTransport) : TcpTransport × List TcpEffect :=
  if s.closed then (s, [.thrown tcpClosed])
  else if s.started then (s, [.thrown (transportError "TcpTransport already started")])
  else ({ s with started := true }, [])

def close (s : TcpTransport) : TcpTransport × List TcpEffect :=
  if s.closed then (s, []) else rejectQueued { s with closed := true } tcpClosed

def markRemoteClosed (s : TcpTransport) : TcpTransport × List TcpEffect :=
  if s.remoteClosed then (s, []) else rejectQueued { s with remoteClosed := true, closed := true }
    tcpClosed

/-- The next bytes of the frame, which the connection puts on the wire. -/
def puts (s : TcpTransport) (send : SendId) (x : TcpSend) (bytes : ℕ) : TcpTransport :=
  { s.setSend send fun x => { x with put := min (x.put + bytes) x.frame.length } with
    wire := s.wire ++ (x.frame.drop x.put).take bytes }

def writeSettles (s : TcpTransport) (send : SendId) (outcome : WriteOutcome) : TcpTransport :=
  { s.setSend send fun x => { x with writing := false } with
    drain := if s.drain = .writing send none then .writing send (some outcome) else s.drain }

def timesOut (s : TcpTransport) : TcpTransport :=
  match s.drain, s.options.sendTimeoutMs with
  | .writing send none, some timeoutMs =>
    { s with drain :=
      .writing send (some (.failed (transportError s!"tcp send timed out after {timeoutMs}ms"))) }
  | _, _ => s

/-- The connection acts on a pending write. -/
def atWrite (s : TcpTransport) (send : SendId) (act : TcpSend → TcpTransport) : TcpTransport :=
  match s.sends[send]? with
  | some x => if x.writing then act x else s
  | none => s

def step (s : TcpTransport) : TcpEvent → TcpTransport × List TcpEffect
  | .start => s.start
  | .send frame => s.send frame
  | .close => s.close
  | .remoteCloses => s.markRemoteClosed
  | .puts send bytes => (s.atWrite send fun x => s.puts send x bytes, [])
  | .writeSettles send outcome => (s.atWrite send fun _ => s.writeSettles send outcome, [])
  | .timesOut => (s.timesOut, [])
  | .drainGoesOn => s.drainGoesOn

def initial (options : TcpTransportOptions) : TcpTransport :=
  ⟨options, false, false, false, [], [], 0, 0, 0, .idle, []⟩

end TcpTransport

end CapnpDeno
