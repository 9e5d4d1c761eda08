import CapnpDeno.Rpc.Wire.FrameLimits

/-!
# Message framing

`CapnpFrameFramer` collects the chunks of a byte stream and hands out complete frames.  A frame is a
view of an array of bytes, and the framer goes on writing to arrays it has allocated; the arrays are
therefore part of the state, and a frame is what its view shows in them.
-/

namespace CapnpDeno

open ByteList FrameLimits

/-- A `Uint8Array` over one of the framer's arrays. -/
structure View where
  array : ℕ
  byteOffset : ℕ
  byteLength : ℕ
deriving DecidableEq

/-- What a view shows. -/
def View.contents (v : View) (arrays : List Bytes) : Bytes :=
  slice (arrays[v.array]?.getD []) v.byteOffset v.byteLength

structure CapnpFrameFramerOptions extends CapnpFrameLimitsOptions where
  maxBufferedBytes : Option JsNumber

/-- The framer's fields, and the arrays it has allocated so far. -/
structure CapnpFrameFramer where
  options : CapnpFrameLimitsOptions
  maxBufferedBytes : JsNumber
  arrays : List Bytes
  buffer : ℕ
  length : ℕ
  expectedTotal : Option ℕ
  live : buffer < arrays.length
  room : length ≤ (arrays[buffer]?.getD []).length

namespace CapnpFrameFramer

/-- `Math.max(DEFAULT_MAX_FRAME_BYTES, options.maxFrameBytes ?? DEFAULT_MAX_FRAME_BYTES)`. -/
def defaultMaxBufferedBytes (options : CapnpFrameFramerOptions) : JsNumber :=
  match options.maxFrameBytes with
  | none => .ofNat DEFAULT_MAX_FRAME_BYTES
  | some x => if x.natGt DEFAULT_MAX_FRAME_BYTES then .ofNat DEFAULT_MAX_FRAME_BYTES else x

/-- `x === Infinity`. -/
def isInfinity (x : JsNumber) : Bool := !x.isFinite && x.fraction == 0 && !x.negative

/-- `new CapnpFrameFramer(options)`. -/
def new (options : CapnpFrameFramerOptions) : Except Thrown CapnpFrameFramer := do
  let maxBufferedBytes := options.maxBufferedBytes.getD (defaultMaxBufferedBytes options)
  if isInfinity maxBufferedBytes = false ∧
      (maxBufferedBytes.isSafeInteger = false ∨ maxBufferedBytes.trunc < 0) then
    throw (protocolError "maxBufferedBytes must be a non-negative safe integer or Infinity")
  return ⟨options.toCapnpFrameLimitsOptions, maxBufferedBytes, [[]], 0, 0, none, Nat.one_pos,
    Nat.zero_le _⟩

/-- `this.#buffer`. -/
def bytes (s : CapnpFrameFramer) : Bytes := s.arrays[s.buffer]?.getD []

/-- The bytes that were pushed and not yet handed out. -/
def buffered (s : CapnpFrameFramer) : Bytes := slice s.bytes 0 s.length

def bufferedBytes (s : CapnpFrameFramer) : ℕ := s.length

def assertBufferedBytes (s : CapnpFrameFramer) (totalBytes : ℕ) : Except Thrown Unit := do
  if s.maxBufferedBytes.natGt totalBytes then
    throw (protocolError (s!"capnp framer buffer size {totalBytes} exceeds configured limit " ++
      s.maxBufferedBytes.toText))

def assertFrameBytes (s : CapnpFrameFramer) (totalBytes : ℕ) : Except Thrown Unit := do
  if exceeds totalBytes s.options.maxFrameBytes DEFAULT_MAX_FRAME_BYTES then
    throw (protocolError (s!"capnp frame size {totalBytes} exceeds configured limit " ++
      limitText s.options.maxFrameBytes DEFAULT_MAX_FRAME_BYTES))

/-- `Math.min(this.options.maxBufferedBytes, n)`. -/
def clamp (s : CapnpFrameFramer) (n : ℕ) : ℕ :=
  if s.maxBufferedBytes.natGt n then s.maxBufferedBytes.trunc.toNat else n

/-- Switch to a larger array that begins with the buffered bytes. -/
def grow (s : CapnpFrameFramer) (capacity : ℕ) (larger : s.length ≤ capacity) : CapnpFrameFramer :=
  { s with
    arrays := s.arrays ++ [splice (List.replicate capacity 0) 0 s.buffered]
    buffer := s.arrays.length
    live := by simp
    room := by
      have size : s.buffered.length = s.length := length_slice (by simpa [bytes] using s.room)
      simp [size, larger] }

/-- `this.#buffer.set(data, this.#length)`, which throws when the data does not fit. -/
def append (s : CapnpFrameFramer) (data : Bytes) : Except Thrown CapnpFrameFramer :=
  if fits : s.length + data.length ≤ s.bytes.length then
    .ok { s with
      arrays := s.arrays.set s.buffer (splice s.bytes s.length data)
      length := s.length + data.length
      live := by simpa using s.live
      room := by
        rw [List.getElem?_set_self s.live, Option.getD_some, length_splice fits]
        exact fits }
  else .error ⟨.rangeError, "offset is out of bounds"⟩

def push (s : CapnpFrameFramer) (data : Bytes) : Except Thrown CapnpFrameFramer := do
  if data.length = 0 then
    return s
  let needed := s.length + data.length
  s.assertBufferedBytes needed
  if needed > s.bytes.length then
    let capacity := s.clamp (max needed (s.bytes.length * 2))
    if larger : s.length ≤ capacity then (s.grow capacity larger).append data
    else throw ⟨.rangeError, "offset is out of bounds"⟩
  else s.append data

def updateExpectedTotal (s : CapnpFrameFramer) : Except Thrown (Option ℕ) := do
  if s.expectedTotal.isSome then
    return s.expectedTotal
  if s.length < 4 then
    return none
  let view := s.buffered
  let segmentCount := readLE view 0 4 + 1
  if segmentCount < 1 then
    throw (protocolError "invalid capnp frame segment count")
  if exceeds segmentCount s.options.maxSegmentCount DEFAULT_MAX_SEGMENT_COUNT then
    throw (protocolError (s!"capnp frame segment count {segmentCount} exceeds configured limit " ++
      limitText s.options.maxSegmentCount DEFAULT_MAX_SEGMENT_COUNT))
  let headerBytes := headerBytesOf segmentCount
  if s.length < headerBytes then
    return none
  let totalWords := (segmentWordsOf view segmentCount).sum
  if exceeds totalWords s.options.maxTraversalWords DEFAULT_MAX_TRAVERSAL_WORDS then
    throw (protocolError (s!"capnp frame traversal words {totalWords} exceeds configured limit " ++
      limitText s.options.maxTraversalWords DEFAULT_MAX_TRAVERSAL_WORDS))
  let totalBytes := headerBytes + totalWords * 8
  s.assertFrameBytes totalBytes
  s.assertBufferedBytes totalBytes
  return some totalBytes

/-- Hand out the whole buffer and start a fresh one. -/
def takeBuffer (s : CapnpFrameFramer) (total : ℕ) : View × CapnpFrameFramer :=
  (⟨s.buffer, 0, total⟩,
    { s with
      arrays := s.arrays ++ [[]]
      buffer := s.arrays.length
      length := 0
      expectedTotal := none
      live := by simp
      room := Nat.zero_le _ })

/-- Hand out a copy of the first `total` bytes and move the rest to the front. -/
def copyOut (s : CapnpFrameFramer) (total : ℕ) (enough : total ≤ s.length) :
    View × CapnpFrameFramer :=
  let rest := slice s.bytes total (s.length - total)
  (⟨s.arrays.length, 0, total⟩,
    { s with
      arrays := s.arrays.set s.buffer (splice s.bytes 0 rest) ++ [slice s.bytes 0 total]
      length := s.length - total
      expectedTotal := none
      live := by simpa using s.live.trans (Nat.lt_succ_self _)
      room := by
        have size : s.length ≤ s.bytes.length := s.room
        have rest_length : rest.length = s.length - total := length_slice (by omega)
        rw [List.getElem?_append_left (by simpa using s.live), List.getElem?_set_self s.live,
          Option.getD_some, length_splice (by omega)]
        omega })

/-- The result and the state after the call; an error of the final validation comes when the frame
has already been taken out. -/
def popFrame (s : CapnpFrameFramer) : Except Thrown (Option View) × CapnpFrameFramer :=
  match s.updateExpectedTotal with
  | .error e => (.error e, s)
  | .ok none => (.ok none, { s with expectedTotal := none })
  | .ok (some total) =>
    if enough : total ≤ s.length then
      let (frame, s') := if s.length - total = 0 then s.takeBuffer total
        else s.copyOut total enough
      match s.options.maxNestingDepth with
      | none => (.ok (some frame), s')
      | some _ =>
        ((fun _ => some frame) <$> validateCapnpFrame (frame.contents s'.arrays) s.options, s')
    else (.ok none, { s with expectedTotal := some total })

end CapnpFrameFramer

end CapnpDeno
