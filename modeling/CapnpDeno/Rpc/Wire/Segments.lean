import CapnpDeno.Encoding.RuntimeMessage

/-!
# Segment tables of the RPC layer

The RPC layer cuts a frame into segments with its own parser, and reads words of them with its own
range checks.
-/

namespace CapnpDeno

open ByteList MessageBuilder

namespace Wire

structure SegmentTable where
  segments : List Bytes
deriving DecidableEq

/-! ## Range checks -/

def ensureSegmentRange (table : SegmentTable) (segmentId : ℕ) (byteOffset : ℤ) (len : ℕ)
    (context : String) :
    Except Thrown Unit :=
  match table.segments[segmentId]? with
  | none => throw (protocolError (context ++ s!" references missing segment {segmentId}"))
  | some seg =>
    if byteOffset < 0 ∨ byteOffset + len > seg.length then
      throw
        (protocolError (context ++ s!" out of range: segment={segmentId} offset={byteOffset} " ++
        s!"len={len} segmentSize={seg.length}"))
    else pure ()

def readWordFromTable (table : SegmentTable) (segmentId : ℕ) (wordIndex : ℤ) (context : String) :
    Except Thrown ℕ := do
  ensureSegmentRange table segmentId (wordIndex * WORD_BYTES) WORD_BYTES context
  pure (readLE (table.segments[segmentId]?.getD []) (wordIndex.toNat * WORD_BYTES) 8)

/-! ## Frame parsing -/

/-- The loop of `segmentsFromFrame` over the remaining entries of the size table. -/
def cutPayload (frame : Bytes) : ℕ → List ℕ → Except Thrown (List Bytes)
  | _, [] => pure []
  | cursor, i :: entries => do
    let segmentWords := readLE frame (4 + i * 4) 4
    let segmentBytes := segmentWords * WORD_BYTES
    if cursor + segmentBytes > frame.length then
      throw (protocolError "rpc frame segment payload is truncated")
    let rest ← cutPayload frame (cursor + segmentBytes) entries
    pure (slice frame cursor segmentBytes :: rest)

def segmentsFromFrame (frame : Bytes) : Except Thrown SegmentTable := do
  if frame.length < 8 then
    throw (protocolError "rpc frame is too short")
  let segmentCount := readLE frame 0 4 + 1
  let headerU32Count := 1 + segmentCount
  -- `Math.ceil(n / 8) * 8`
  let headerBytes := (headerU32Count * 4 + 7) / WORD_BYTES * WORD_BYTES
  if frame.length < headerBytes then
    throw (protocolError "rpc frame header is truncated")
  let segments ← cutPayload frame headerBytes (List.range segmentCount)
  pure ⟨segments⟩

def segmentFromFrame (frame : Bytes) : Except Thrown Bytes := do
  let table ← segmentsFromFrame frame
  match table.segments with
  | [segment] => pure segment
  | segments =>
    throw (protocolError s!"expected single-segment payload message, got {segments.length}")

/-- The allocation of the frame may fail; `setUint32` keeps the low 32 bits of the number of
words. -/
def frameFromSegment (segment : Bytes) : Except Thrown Bytes := do
  if segment.length % WORD_BYTES ≠ 0 then
    throw (protocolError s!"segment length must be word-aligned, got {segment.length}")
  let words := segment.length / WORD_BYTES
  if 8 + segment.length > MAX_BYTE_LENGTH then
    throw (invalidTypedArrayLength (8 + segment.length))
  let out := List.replicate (8 + segment.length) 0
  let out := writeLE out 0 4 0
  let out := writeLE out 4 4 words
  pure (splice out 8 segment)

end Wire

end CapnpDeno
