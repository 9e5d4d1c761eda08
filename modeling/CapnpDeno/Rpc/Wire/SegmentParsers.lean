import CapnpDeno.Rpc.Wire.FrameLimitsWalk
import CapnpDeno.Rpc.Wire.FramerProof
import CapnpDeno.Rpc.Wire.Segments

/-!
# The segment-table parsers agree

Four functions read the header of a frame.  Each accepts a frame when the header and the declared
words are there, and cuts the payload at the same places.  A frame that the framer hands out has no
byte more, and passes the size limits of the validator, which are its own.
-/

namespace CapnpDeno

open ByteList FrameLimits

/-! ## What a header declares -/

theorem segmentCountOf_append {frame rest : Bytes} (long : 4 ≤ frame.length) :
    segmentCountOf (frame ++ rest) = segmentCountOf frame := by
  rw [segmentCountOf, segmentCountOf, readLE_append_left (by omega)]

theorem totalWordsOf_append {frame rest : Bytes}
    (header : headerBytesOf (segmentCountOf frame) ≤ frame.length) :
    totalWordsOf (frame ++ rest) = totalWordsOf frame := by
  have long := headerBytesOf_ge frame
  have ahead : frame ++ rest <+: frame ++ rest := List.prefix_rfl
  have same :=
    CapnpFrameFramer.segmentWordsOf_ahead ahead (by rw [List.length_append]; omega) header
  rw [totalWordsOf, totalWordsOf, segmentCountOf_append (by omega), same]

/-! ## The parsers -/

theorem takeSegments_eq_ok {bytes : Bytes} {cursor : ℕ} {sizes : List ℕ} {segments : List Bytes}
    (room : cursor ≤ bytes.length) : MessageReader.takeSegments bytes cursor sizes = .ok segments ↔
      cursor + sizes.sum * 8 ≤ bytes.length ∧ segments = cutSegments bytes cursor sizes := by
  induction sizes generalizing cursor segments with
  | nil => simp [MessageReader.takeSegments, cutSegments, eq_comm, room]
  | cons words sizes ih =>
    rw [MessageReader.takeSegments]
    simp only [List.sum_cons, cutSegments, WORD_BYTES, Fallible.throw_eq_error, Fallible.pure_eq_ok]
    split_ifs with short
    · simp only [Fallible.error_bind, reduceCtorEq, false_iff, not_and]
      omega
    · simp only [not_lt] at short
      simp only [Fallible.bind_eq_ok, ih short, Except.ok.injEq]
      constructor
      · rintro ⟨rest, ⟨fits, rfl⟩, rfl⟩
        exact ⟨by omega, rfl⟩
      · rintro ⟨fits, rfl⟩
        exact ⟨_, ⟨by omega, rfl⟩, rfl⟩

/-- The loop that reads each size when it comes to it cuts like the others. -/
theorem cutPayload_eq_ok {frame : Bytes} {cursor : ℕ} {entries : List ℕ} {segments : List Bytes}
    (room : cursor ≤ frame.length) : Wire.cutPayload frame cursor entries = .ok segments ↔
      cursor + (entries.map fun i => readLE frame (4 + i * 4) 4).sum * 8 ≤ frame.length ∧
        segments = cutSegments frame cursor (entries.map fun i => readLE frame (4 + i * 4) 4) := by
  induction entries generalizing cursor segments with
  | nil => simp [Wire.cutPayload, cutSegments, eq_comm, room]
  | cons i entries ih =>
    rw [Wire.cutPayload]
    simp only [List.map_cons, List.sum_cons, cutSegments, WORD_BYTES, Fallible.throw_eq_error,
      Fallible.pure_eq_ok]
    split_ifs with short
    · simp only [Fallible.error_bind, reduceCtorEq, false_iff, not_and]
      omega
    · simp only [not_lt] at short
      simp only [Fallible.bind_eq_ok, ih short, Except.ok.injEq]
      constructor
      · rintro ⟨rest, ⟨fits, rfl⟩, rfl⟩
        exact ⟨by omega, rfl⟩
      · rintro ⟨fits, rfl⟩
        exact ⟨_, ⟨by omega, rfl⟩, rfl⟩

theorem ofBytes_eq_ok {bytes : Bytes} {r : MessageReader} : MessageReader.ofBytes bytes = .ok r ↔
    headerBytesOf (segmentCountOf bytes) + totalWordsOf bytes * 8 ≤ bytes.length ∧
    r = ⟨segmentsOf bytes⟩ := by
  have long := headerBytesOf_ge bytes
  unfold MessageReader.ofBytes segmentsOf
  have header : (1 + (readLE bytes 0 4 + 1) + (if (readLE bytes 0 4 + 1) % 2 = 0 then 1 else 0)) *
      4 = headerBytesOf (segmentCountOf bytes) := rfl
  simp only [header, Fallible.throw_eq_error, Fallible.pure_eq_ok, Fallible.error_bind]
  split_ifs with short truncated
  · simp only [false_iff, not_and]
    intro fits
    omega
  · simp only [false_iff, not_and]
    intro fits
    omega
  · simp only [Fallible.bind_eq_ok, takeSegments_eq_ok (not_lt.1 truncated), Except.ok.injEq]
    constructor
    · rintro ⟨segments, ⟨fits, rfl⟩, rfl⟩
      exact ⟨fits, rfl⟩
    · rintro ⟨fits, rfl⟩
      exact ⟨_, ⟨fits, rfl⟩, rfl⟩

/-- Rounding up to a multiple of eight is the padding word of the other parsers. -/
theorem headerBytes_rounded (segmentCount : ℕ) :
    ((1 + segmentCount) * 4 + 7) / 8 * 8 = headerBytesOf segmentCount := by
  unfold headerBytesOf
  split_ifs <;> omega

theorem segmentsFromFrame_eq_ok {frame : Bytes} {table : Wire.SegmentTable} :
    Wire.segmentsFromFrame frame = .ok table ↔
      headerBytesOf (segmentCountOf frame) + totalWordsOf frame * 8 ≤ frame.length ∧
        table = ⟨segmentsOf frame⟩ := by
  have long := headerBytesOf_ge frame
  unfold Wire.segmentsFromFrame segmentsOf
  have count : readLE frame 0 4 + 1 = segmentCountOf frame := rfl
  simp only [count, WORD_BYTES, headerBytes_rounded, Fallible.throw_eq_error, Fallible.pure_eq_ok,
    Fallible.error_bind]
  split_ifs with short truncated
  · simp only [false_iff, not_and]
    intro fits
    omega
  · simp only [false_iff, not_and]
    intro fits
    omega
  · simp only [Fallible.bind_eq_ok, cutPayload_eq_ok (not_lt.1 truncated), Except.ok.injEq]
    constructor
    · rintro ⟨segments, ⟨fits, rfl⟩, rfl⟩
      exact ⟨fits, rfl⟩
    · rintro ⟨fits, rfl⟩
      exact ⟨_, ⟨fits, rfl⟩, rfl⟩

/-- The checks of the limits themselves, with which the validator begins. -/
def assertLimits (limits : CapnpFrameLimitsOptions) : Except Thrown Unit := do
  assertNonNegativeInteger limits.maxSegmentCount "maxSegmentCount"
  assertNonNegativeInteger limits.maxFrameBytes "maxFrameBytes"
  assertNonNegativeInteger limits.maxTraversalWords "maxTraversalWords"
  assertNonNegativeInteger limits.maxNestingDepth "maxNestingDepth"

/-- A frame of exactly the declared bytes, within the limits on its size. -/
structure Sized (limits : CapnpFrameLimitsOptions) (frame : Bytes) : Prop where
  exact : frame.length = headerBytesOf (segmentCountOf frame) + totalWordsOf frame * 8
  segmentCount : exceeds (segmentCountOf frame) limits.maxSegmentCount DEFAULT_MAX_SEGMENT_COUNT =
    false
  words : exceeds (totalWordsOf frame) limits.maxTraversalWords DEFAULT_MAX_TRAVERSAL_WORDS = false
  size : exceeds frame.length limits.maxFrameBytes DEFAULT_MAX_FRAME_BYTES = false

/-- Nothing but the limits themselves and the walk over the pointers can reject such a frame. -/
theorem Sized.validateCapnpFrame_eq {frame : Bytes} {limits : CapnpFrameLimitsOptions}
    (sized : Sized limits frame) :
    validateCapnpFrame frame limits =
      (assertLimits limits >>= fun _ => enforceNestingDepth (segmentsOf frame)
        limits.maxNestingDepth) := by
  obtain ⟨exact, count, words, size⟩ := sized
  have parsed : parseFrame frame limits =
      (assertLimits limits >>= fun _ => .ok ⟨segmentsOf frame, totalWordsOf frame⟩) := by
    have header := headerBytesOf_ge frame
    rw [exact] at size
    unfold parseFrame assertLimits
    simp only [Fallible.throw_eq_error, Fallible.error_bind, Fallible.pure_eq_ok,
      show readLE frame 0 4 + 1 = segmentCountOf frame from rfl,
      show (segmentWordsOf frame (segmentCountOf frame)).sum = totalWordsOf frame from rfl]
    rw [if_neg (by omega)]
    cases assertNonNegativeInteger limits.maxSegmentCount "maxSegmentCount" with
    | error e => rfl
    | ok _ =>
    cases assertNonNegativeInteger limits.maxFrameBytes "maxFrameBytes" with
    | error e => rfl
    | ok _ =>
    cases assertNonNegativeInteger limits.maxTraversalWords "maxTraversalWords" with
    | error e => rfl
    | ok _ =>
    cases assertNonNegativeInteger limits.maxNestingDepth "maxNestingDepth" with
    | error e => rfl
    | ok _ =>
      simp only [Fallible.ok_bind]
      rw [if_neg (Bool.eq_false_iff.1 count), if_neg (by omega), if_neg (Bool.eq_false_iff.1 words),
        if_neg (Bool.eq_false_iff.1 size), if_neg exact.ge.not_gt, if_neg exact.le.not_gt]
      rfl
  unfold validateCapnpFrame
  rw [parsed]
  cases assertLimits limits with
  | error e => rfl
  | ok _ =>
    simp only [Fallible.ok_bind, words, Bool.false_eq_true, if_false, Fallible.pure_eq_ok]
    cases enforceNestingDepth (segmentsOf frame) limits.maxNestingDepth with
    | error e => rfl
    | ok _ => rfl

/-! ## What the framer hands out -/

namespace CapnpFrameFramer

/-- The states of a framer with the given options.  A push that fails leaves the framer as it
was. -/
inductive Reached (options : CapnpFrameFramerOptions) : CapnpFrameFramer → Prop
  | new {s : CapnpFrameFramer} (made : new options = .ok s) : Reached options s
  | push {s s' : CapnpFrameFramer} {data : Bytes} (before : Reached options s)
    (done : s.push data = .ok s') :
      Reached options s'
  | popFrame {s : CapnpFrameFramer} (before : Reached options s) : Reached options s.popFrame.2

/-- The buffer holds a whole header, which declares so many bytes and is within the limits. -/
structure Expects (s : CapnpFrameFramer) (total : ℕ) : Prop where
  header : headerBytesOf (segmentCountOf s.buffered) ≤ s.length
  declared : total = headerBytesOf (segmentCountOf s.buffered) + totalWordsOf s.buffered * 8
  segmentCount : exceeds (segmentCountOf s.buffered) s.options.maxSegmentCount
    DEFAULT_MAX_SEGMENT_COUNT = false
  words : exceeds (totalWordsOf s.buffered) s.options.maxTraversalWords
    DEFAULT_MAX_TRAVERSAL_WORDS = false
  size : exceeds total s.options.maxFrameBytes DEFAULT_MAX_FRAME_BYTES = false

/-- What is cached was computed from the header that is still at the front. -/
def Cached (s : CapnpFrameFramer) : Prop := ∀ total, s.expectedTotal = some total → s.Expects total

theorem Expects.append {s s' : CapnpFrameFramer} {data : Bytes} {total : ℕ}
    (known : s.Expects total) (buffered : s'.buffered = s.buffered ++ data)
    (options : s'.options = s.options) : s'.Expects total := by
  obtain ⟨header, declared, segmentCount, words, size⟩ := known
  have long := headerBytesOf_ge s.buffered
  have length := s.length_buffered
  have length' := s'.length_buffered
  have count : segmentCountOf s'.buffered = segmentCountOf s.buffered := by
    rw [buffered]
    exact segmentCountOf_append (by omega)
  have total_words : totalWordsOf s'.buffered = totalWordsOf s.buffered := by
    rw [buffered]
    exact totalWordsOf_append (by omega)
  rw [buffered, List.length_append] at length'
  constructor
  · rw [count]
    omega
  · rw [count, total_words]
    exact declared
  · rw [count, options]
    exact segmentCount
  · rw [total_words, options]
    exact words
  · rw [options]
    exact size

theorem assertFrameBytes_eq_ok {s : CapnpFrameFramer} {n : ℕ} {u : Unit}
    (passed : s.assertFrameBytes n = .ok u) :
    exceeds n s.options.maxFrameBytes DEFAULT_MAX_FRAME_BYTES = false := by
  exact Bool.eq_false_iff.2 (Fallible.guard_eq_ok.1 passed)

theorem updateExpectedTotal_expects {s : CapnpFrameFramer} {total : ℕ} (cached : s.Cached)
    (known : s.updateExpectedTotal = .ok (some total)) : s.Expects total := by
  unfold updateExpectedTotal at known
  cases before : s.expectedTotal with
  | some t =>
    rw [before] at known
    cases known
    exact cached _ before
  | none =>
    simp only [before, Option.isSome_none, Bool.false_eq_true, if_false, Fallible.throw_eq_error,
      Fallible.error_bind, Fallible.pure_eq_ok] at known
    split_ifs at known with short none many incomplete long
    · cases known
    · cases known
    · obtain ⟨_, size, known⟩ := Fallible.bind_eq_ok.1 known
      obtain ⟨_, -, known⟩ := Fallible.bind_eq_ok.1 known
      cases known
      exact ⟨not_lt.1 incomplete, rfl, Bool.eq_false_iff.2 many, Bool.eq_false_iff.2 long,
        assertFrameBytes_eq_ok size⟩

/-- A push that is done has put the data behind what was buffered. -/
theorem push_eq_ok {s s' : CapnpFrameFramer} {data : Bytes} (done : s.push data = .ok s') :
    s'.buffered = s.buffered ++ data ∧ s'.expectedTotal = s.expectedTotal ∧ Keeps s s' := by
  by_cases admitted : s.maxBufferedBytes.natGt (s.length + data.length) = true
  · unfold push at done
    split_ifs at done with empty
    · cases done
      rw [List.length_eq_zero_iff] at empty
      rw [empty, List.append_nil]
      exact ⟨rfl, rfl, .refl s⟩
    · obtain ⟨_, passed, _⟩ := Fallible.bind_eq_ok.1 done
      exact absurd admitted (Fallible.guard_eq_ok.1 passed)
  · obtain ⟨t, same, spec⟩ := push_spec (Bool.eq_false_iff.2 admitted)
    cases same.symm.trans done
    exact spec

/-- What one call of `popFrame` does: nothing, note the size of the next frame, or take it out. -/
theorem popFrame_cases (s : CapnpFrameFramer) :
    (∃ e, s.popFrame = (.error e, s)) ∨ s.popFrame = (.ok none, { s with expectedTotal := none }) ∨
      (∃ total, s.updateExpectedTotal = .ok (some total) ∧
        s.popFrame = (.ok none, { s with expectedTotal := some total })) ∨
      ∃ total v s', s.updateExpectedTotal = .ok (some total) ∧ s.popFrame.2 = s' ∧
        total ≤ s.length ∧
        v.contents s'.arrays = s.buffered.take total ∧ s'.expectedTotal = none ∧ Keeps s s' ∧
        ∀ w, s.popFrame.1 = .ok (some w) → w = v := by
  unfold popFrame
  cases known : s.updateExpectedTotal with
  | error e => exact .inl ⟨e, rfl⟩
  | ok expected =>
  cases expected with
  | none => exact .inr (.inl rfl)
  | some total =>
  by_cases enough : total ≤ s.length
  · right; right; right
    simp only [dif_pos enough]
    obtain ⟨v, s', taken, content, fresh, kept⟩ : ∃ v s',
        (if s.length - total = 0 then s.takeBuffer total else s.copyOut total enough) = (v, s') ∧
        v.contents s'.arrays = s.buffered.take total ∧ s'.expectedTotal = none ∧ Keeps s s' := by
      by_cases all : s.length - total = 0
      · have same : total = s.length := by omega
        obtain ⟨content, -, -, kept⟩ := s.takeBuffer_spec
        rw [if_pos all, same]
        refine ⟨_, _, rfl, content.trans ?_, rfl, kept⟩
        rw [← s.length_buffered, List.take_length]
      · obtain ⟨content, -, -, kept⟩ := s.copyOut_spec enough
        rw [if_neg all]
        exact ⟨_, _, rfl, content, rfl, kept⟩
    refine ⟨total, v, s', rfl, ?_, enough, content, fresh, kept, ?_⟩
    · rw [taken]
      cases s.options.maxNestingDepth <;> rfl
    · intro w popped
      simp only [taken] at popped
      cases depth : s.options.maxNestingDepth with
      | none =>
        rw [depth] at popped
        cases popped
        rfl
      | some limit =>
        rw [depth] at popped
        obtain ⟨u, -, same⟩ := Fallible.map_eq_ok.1 popped
        cases same
        rfl
  · right; right; left
    simp only [dif_neg enough]
    exact ⟨total, rfl, rfl⟩

theorem Reached.cached {options : CapnpFrameFramerOptions} {s : CapnpFrameFramer}
    (reached : Reached options s) :
    s.Cached := by
  induction reached with
  | @new s made =>
    unfold CapnpFrameFramer.new at made
    simp only [Fallible.throw_eq_error, Fallible.error_bind, Fallible.pure_eq_ok] at made
    split_ifs at made
    cases made
    intro total known
    cases known
  | @push s s' data before done ih =>
    obtain ⟨buffered, same, kept⟩ := push_eq_ok done
    intro total known
    exact (ih total (same ▸ known)).append buffered kept.options
  | @popFrame s before ih =>
    obtain ⟨e, popped⟩ | popped | ⟨total, known, popped⟩ |
        ⟨total, v, s', -, popped, -, -, fresh, -, -⟩ :=
      s.popFrame_cases
    · rw [popped]
      exact ih
    · rw [popped]
      intro total known
      cases known
    · rw [popped]
      intro total' same
      cases same
      obtain ⟨header, declared, segmentCount, words, size⟩ := updateExpectedTotal_expects ih known
      exact ⟨header, declared, segmentCount, words, size⟩
    · rw [popped]
      intro total' same
      rw [fresh] at same
      cases same

theorem Reached.options {options : CapnpFrameFramerOptions} {s : CapnpFrameFramer}
    (reached : Reached options s) :
    s.options = options.toCapnpFrameLimitsOptions := by
  induction reached with
  | @new s made =>
    unfold CapnpFrameFramer.new at made
    simp only [Fallible.throw_eq_error, Fallible.error_bind, Fallible.pure_eq_ok] at made
    split_ifs at made
    cases made
    rfl
  | @push s s' data before done ih => exact (push_eq_ok done).2.2.options.trans ih
  | @popFrame s before ih =>
    obtain ⟨e, popped⟩ | popped | ⟨total, -, popped⟩ |
        ⟨total, v, s', -, popped, -, -, -, kept, -⟩ :=
      s.popFrame_cases
    · rw [popped]
      exact ih
    · rw [popped]
      exact ih
    · rw [popped]
      exact ih
    · rw [popped]
      exact kept.options.trans ih

/-- A frame that is handed out has exactly the bytes it declares and is within the limits. -/
theorem Reached.sized {options : CapnpFrameFramerOptions} {s s' : CapnpFrameFramer} {v : View}
    (reached : Reached options s) (popped : s.popFrame = (.ok (some v), s')) :
    Sized options.toCapnpFrameLimitsOptions (v.contents s'.arrays) := by
  rw [← reached.options]
  obtain ⟨e, none⟩ | none | ⟨total, -, none⟩ |
      ⟨total, w, t, known, state, enough, content, -, -, same⟩ :=
    s.popFrame_cases
  · cases none.symm.trans popped
  · cases none.symm.trans popped
  · cases none.symm.trans popped
  rw [popped] at state same
  cases state
  cases same v rfl
  obtain ⟨header, declared, segmentCount, words, size⟩ :=
    updateExpectedTotal_expects reached.cached known
  have length : (s.buffered.take total).length = total := by
    rw [List.length_take, s.length_buffered]
    omega
  have long := headerBytesOf_ge s.buffered
  have count : segmentCountOf (s.buffered.take total) = segmentCountOf s.buffered := by
    conv_rhs => rw [← List.take_append_drop total s.buffered]
    exact (segmentCountOf_append (by omega)).symm
  have total_words : totalWordsOf (s.buffered.take total) = totalWordsOf s.buffered := by
    conv_rhs => rw [← List.take_append_drop total s.buffered]
    exact (totalWordsOf_append (by rw [count, length]; omega)).symm
  rw [content]
  constructor
  · rw [length, count, total_words]
    exact declared
  · rw [count]
    exact segmentCount
  · rw [total_words]
    exact words
  · rw [length]
    exact size

end CapnpFrameFramer

/-! ## Frames of one segment -/

namespace Wire

theorem frameFromSegment_eq {segment : Bytes} (aligned : segment.length % 8 = 0) :
    frameFromSegment segment =
      if 8 + segment.length > MessageBuilder.MAX_BYTE_LENGTH then .error
        (invalidTypedArrayLength (8 + segment.length))
      else .ok (toLE 4 0 ++ toLE 4 (segment.length / 8) ++ segment) := by
  have written :
      splice (writeLE (writeLE (List.replicate (8 + segment.length) 0) 0 4 0) 4 4
        (segment.length / 8)) 8
      segment = toLE 4 0 ++ toLE 4 (segment.length / 8) ++ segment := by
    rw [List.replicate_add]
    simp [writeLE, splice]
    omega
  unfold frameFromSegment
  simp only [WORD_BYTES, Fallible.throw_eq_error, Fallible.error_bind, Fallible.pure_eq_ok, written]
  rw [if_neg (by omega)]

theorem segmentFromFrame_single {segment : Bytes} {words : ℕ} (size : segment.length = 8 * words)
    (small : words < 2 ^ 32) : segmentFromFrame (toLE 4 0 ++ toLE 4 words ++ segment) =
      .ok segment := by
  obtain ⟨fits, same⟩ := ofBytes_eq_ok.1 (ofBytes_single size small)
  have table : segmentsFromFrame (toLE 4 0 ++ toLE 4 words ++ segment) = .ok ⟨[segment]⟩ :=
    segmentsFromFrame_eq_ok.2 ⟨fits, congrArg (fun r : MessageReader =>
      SegmentTable.mk r.segments) same⟩
  unfold segmentFromFrame
  rw [table]
  rfl

theorem segmentFromFrame_frameFromSegment {segment : Bytes} (aligned : segment.length % 8 = 0) :
    frameFromSegment segment >>= segmentFromFrame =
      if 8 + segment.length > MessageBuilder.MAX_BYTE_LENGTH then .error
        (invalidTypedArrayLength (8 + segment.length))
      else .ok segment := by
  rw [frameFromSegment_eq aligned]
  split_ifs with long
  · rfl
  · have fits : 8 + 8 * (segment.length / 8) ≤ MessageBuilder.MAX_BYTE_LENGTH := by omega
    exact segmentFromFrame_single (by omega) (MessageBuilder.words_lt_of_fits fits)

end Wire

/-! ## Agreement -/

/-- One of the four parsers accepts the frame and cuts it into these segments. -/
inductive Splits : Bytes → List Bytes → Prop
  | framer {options : CapnpFrameFramerOptions} {s s' : CapnpFrameFramer} {v : View}
      (reached : CapnpFrameFramer.Reached options s) (popped : s.popFrame = (.ok (some v), s')) :
      Splits (v.contents s'.arrays) (segmentsOf (v.contents s'.arrays))
  | validator {frame : Bytes} {limits : CapnpFrameLimitsOptions} {parsed : ParsedCapnpFrame}
      (done : parseFrame frame limits = .ok parsed) : Splits frame parsed.segments
  | table {frame : Bytes} {table : Wire.SegmentTable}
    (done : Wire.segmentsFromFrame frame = .ok table) :
      Splits frame table.segments
  | reader {frame : Bytes} {r : MessageReader} (done : MessageReader.ofBytes frame = .ok r) :
    Splits frame r.segments

theorem Splits.eq {frame : Bytes} {segments : List Bytes} (split : Splits frame segments) :
    segments = segmentsOf frame := by
  cases split with
  | framer reached popped => rfl
  | validator done => rw [(parseFrame_eq_ok.1 done).2]
  | table done => rw [(segmentsFromFrame_eq_ok.1 done).2]
  | reader done => rw [(ofBytes_eq_ok.1 done).2]

/-- **The segment-table parsers agree.**  Whichever two of them accept a frame, they cut it alike.
A frame from the framer, after any pushes and pops under any limits, is accepted by the two parsers
without limits, has no byte beyond what it declares, and under the framer's limits the validator can
reject it for nothing but an invalid limit or its pointers.  A segment that is framed and taken out
again is the same, unless the frame is too long to allocate. -/
theorem segment_parsers_agree :
    (∀ frame segments segments', Splits frame segments → Splits frame segments' →
      segments = segments') ∧
    (∀ options s s' v, CapnpFrameFramer.Reached options s → s.popFrame = (.ok (some v), s') →
      let frame := v.contents s'.arrays
      let limits := options.toCapnpFrameLimitsOptions
      Wire.segmentsFromFrame frame = .ok ⟨segmentsOf frame⟩ ∧
      MessageReader.ofBytes frame = .ok ⟨segmentsOf frame⟩ ∧
      frame.length = headerBytesOf (segmentCountOf frame) + totalWordsOf frame * 8 ∧
      validateCapnpFrame frame limits =
        (assertLimits limits >>= fun _ =>
          enforceNestingDepth (segmentsOf frame) limits.maxNestingDepth)) ∧
    ∀ segment : Bytes, segment.length % 8 = 0 →
      Wire.frameFromSegment segment >>= Wire.segmentFromFrame =
        if 8 + segment.length > MessageBuilder.MAX_BYTE_LENGTH then
          .error (invalidTypedArrayLength (8 + segment.length))
        else .ok segment := by
  refine ⟨fun frame segments segments' split split' => split.eq.trans split'.eq.symm, ?_,
    fun segment aligned => Wire.segmentFromFrame_frameFromSegment aligned⟩
  intro options s s' v reached popped
  have sized := reached.sized popped
  have exact := sized.exact
  exact ⟨segmentsFromFrame_eq_ok.2 ⟨exact.ge, rfl⟩, ofBytes_eq_ok.2 ⟨exact.ge, rfl⟩, exact,
    sized.validateCapnpFrame_eq⟩

/-- The second of two frames that come in one chunk, which has two segments, and the round trip of a
segment. -/
theorem segment_parsers_agree_popped :
    (∃ (s s' : CapnpFrameFramer) (v : View), CapnpFrameFramer.Reached ⟨noLimits, none⟩ s ∧
      s.popFrame = (.ok (some v), s') ∧ CapnpFrameFramer.twoFrames[1]? =
        some (v.contents s'.arrays) ∧
      Wire.segmentsFromFrame (v.contents s'.arrays) = .ok ⟨[toLE 8 7, toLE 8 8 ++ toLE 8 9]⟩ ∧
      MessageReader.ofBytes (v.contents s'.arrays) = .ok ⟨[toLE 8 7, toLE 8 8 ++ toLE 8 9]⟩ ∧
      validateCapnpFrame (v.contents s'.arrays) noLimits = (assertLimits noLimits >>= fun _ =>
        enforceNestingDepth [toLE 8 7, toLE 8 8 ++ toLE 8 9] noLimits.maxNestingDepth)) ∧
    Wire.frameFromSegment (toLE 8 7 ++ toLE 8 8) >>= Wire.segmentFromFrame =
      .ok (toLE 8 7 ++ toLE 8 8) := by
  refine ⟨?_, segment_parsers_agree.2.2 (toLE 8 7 ++ toLE 8 8) (by decide)⟩
  let framer : CapnpFrameFramer :=
    ⟨noLimits, .ofNat DEFAULT_MAX_FRAME_BYTES, [[]], 0, 0, none, Nat.one_pos, Nat.zero_le _⟩
  have created : CapnpFrameFramer.new ⟨noLimits, none⟩ = .ok framer := by
    unfold CapnpFrameFramer.new
    rw [if_neg (by decide +kernel)]
    rfl
  let first : Bytes := toLE 4 0 ++ toLE 4 1 ++ toLE 8 42
  let second : Bytes := toLE 4 1 ++ toLE 4 1 ++ toLE 4 2 ++ toLE 4 0 ++ toLE 8 7 ++
    (toLE 8 8 ++ toLE 8 9)
  have acceptable : framer.Acceptable first ∧ framer.Acceptable second := by
    constructor
    all_goals
      exact ⟨by decide, by decide, by decide, by decide, by decide, by decide +kernel,
        fun limited => absurd rfl limited⟩
  obtain ⟨s, pushed, buffered, total, kept⟩ := CapnpFrameFramer.push_spec
    (show framer.maxBufferedBytes.natGt (framer.length + (first ++ second).length) =
      false by decide +kernel)
  have whole : s.buffered = first ++ second := buffered
  have reached : CapnpFrameFramer.Reached ⟨noLimits, none⟩ s := .push (.new created) pushed
  obtain ⟨v, s₁, popped, -, left, total₁, -, kept₁⟩ := CapnpFrameFramer.popFrame_complete
    (kept.acceptable acceptable.1) (show s.buffered <+: first ++ second by rw [whole])
    (by rw [total]; exact nofun) (by rw [← s.length_buffered, whole]; decide)
  have rest : s₁.buffered = second := List.append_cancel_left (left.symm.trans whole)
  have reached₁ : CapnpFrameFramer.Reached ⟨noLimits, none⟩ s₁ := by
    have after := reached.popFrame
    rwa [popped] at after
  obtain ⟨v', s₂, popped₁, content, -⟩ := CapnpFrameFramer.popFrame_complete
    (kept₁.acceptable (kept.acceptable acceptable.2))
    (show s₁.buffered <+: second ++ [] by rw [rest, List.append_nil]) (by rw [total₁]; exact nofun)
    (by rw [← s₁.length_buffered, rest])
  obtain ⟨wire, reader, -, validated⟩ := segment_parsers_agree.2.1 _ s₁ s₂ v' reached₁ popped₁
  have cut : segmentsOf second = [toLE 8 7, toLE 8 8 ++ toLE 8 9] := by decide
  rw [content, cut] at wire reader validated
  exact ⟨s₁, s₂, v', reached₁, popped₁, by rw [content]; rfl, by rw [content]; exact wire,
    by rw [content]; exact reader, by rw [content]; exact validated⟩

end CapnpDeno
