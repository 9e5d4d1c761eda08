import CapnpDeno.Lib.Fallible
import CapnpDeno.Rpc.Wire.Framer

/-!
# Chunking independence of the framer

However a sequence of frames is cut into chunks, and however pushes and pops are interleaved, the
framer hands out the frames one by one.  The invariant `Follows` relates a state to the frames still
to come: what is buffered is the beginning of their concatenation, and a cached total is the length
of the first.
-/

namespace CapnpDeno

open ByteList FrameLimits

namespace CapnpFrameFramer

/-! ## Runs -/

/-- A call of one of the two methods that change the state. -/
inductive Call
  | push (data : Bytes)
  | popFrame

/-- The bytes that a sequence of calls pushes. -/
def pushed : List Call → Bytes
  | [] => []
  | .push data :: calls => data ++ pushed calls
  | .popFrame :: calls => pushed calls

/-- A sequence of calls: the frames handed out and the last state. -/
def run : CapnpFrameFramer → List Call → Except Thrown (List View × CapnpFrameFramer)
  | s, [] => pure ([], s)
  | s, .push data :: calls => do
    let s ← s.push data
    s.run calls
  | s, .popFrame :: calls => do
    let frame ← s.popFrame.1
    let (frames, s) ← s.popFrame.2.run calls
    pure (frame.toList ++ frames, s)

/-- No push would leave more than `maxBufferedBytes` bytes undrained. -/
def PushesFit : CapnpFrameFramer → List Call → Prop
  | _, [] => True
  | s, .push data :: calls =>
    s.maxBufferedBytes.natGt (s.bufferedBytes + data.length) = false ∧
      ∀ s', s.push data = .ok s' → s'.PushesFit calls
  | s, .popFrame :: calls => s.popFrame.2.PushesFit calls

instance decidablePushesFit : ∀ (s : CapnpFrameFramer) (calls : List Call),
    Decidable (s.PushesFit calls)
  | _, [] => .isTrue trivial
  | s, .push data :: calls =>
    have (s' : CapnpFrameFramer) : Decidable (s'.PushesFit calls) := decidablePushesFit s' calls
    decidable_of_iff (s.maxBufferedBytes.natGt (s.bufferedBytes + data.length) = false ∧
        ∀ s' ∈ (s.push data).toOption, s'.PushesFit calls)
      (by simp [PushesFit, Fallible.toOption_eq_some])
  | s, .popFrame :: calls => decidablePushesFit s.popFrame.2 calls

/-- A frame of exactly the declared length, within all limits of the framer. -/
structure Acceptable (s : CapnpFrameFramer) (frame : Bytes) : Prop where
  header : 4 ≤ frame.length
  segmentCount :
    exceeds (segmentCountOf frame) s.options.maxSegmentCount DEFAULT_MAX_SEGMENT_COUNT = false
  exact : frame.length = headerBytesOf (segmentCountOf frame) + totalWordsOf frame * 8
  words :
    exceeds (totalWordsOf frame) s.options.maxTraversalWords DEFAULT_MAX_TRAVERSAL_WORDS = false
  size : exceeds frame.length s.options.maxFrameBytes DEFAULT_MAX_FRAME_BYTES = false
  buffer : s.maxBufferedBytes.natGt frame.length = false
  nesting : s.options.maxNestingDepth ≠ none → validateCapnpFrame frame s.options = .ok ()

/-! ## What a method does to the buffered bytes -/

theorem length_buffered (s : CapnpFrameFramer) : s.buffered.length = s.length :=
  length_slice (by simpa [bytes] using s.room)

/-- A view that the framer will not write to again. -/
def Retired (s : CapnpFrameFramer) (v : View) : Prop :=
  v.array < s.arrays.length ∧ v.array ≠ s.buffer

/-- What all later states have in common with an earlier one: the limits, and the contents of the
frames handed out. -/
structure Keeps (s s' : CapnpFrameFramer) : Prop where
  options : s'.options = s.options
  maxBufferedBytes : s'.maxBufferedBytes = s.maxBufferedBytes
  retired : ∀ v, s.Retired v → s'.Retired v ∧ v.contents s'.arrays = v.contents s.arrays

theorem Keeps.refl (s : CapnpFrameFramer) : Keeps s s := ⟨rfl, rfl, fun _ h => ⟨h, rfl⟩⟩

theorem Keeps.trans {s s' s'' : CapnpFrameFramer} (h : Keeps s s') (h' : Keeps s' s'') :
    Keeps s s'' := by
  refine ⟨h'.options.trans h.options, h'.maxBufferedBytes.trans h.maxBufferedBytes, ?_⟩
  intro v old
  obtain ⟨mid, first⟩ := h.retired v old
  obtain ⟨new, second⟩ := h'.retired v mid
  exact ⟨new, second.trans first⟩

theorem Keeps.acceptable {s s' : CapnpFrameFramer} (h : Keeps s s') {frame : Bytes}
    (ok : s.Acceptable frame) : s'.Acceptable frame := by
  obtain ⟨header, segmentCount, exact, words, size, buffer, nesting⟩ := ok
  rw [← h.options] at segmentCount words size nesting
  rw [← h.maxBufferedBytes] at buffer
  exact ⟨header, segmentCount, exact, words, size, buffer, nesting⟩

theorem grow_spec (s : CapnpFrameFramer) {capacity : ℕ} (larger : s.length ≤ capacity) :
    (s.grow capacity larger).buffered = s.buffered ∧
      (s.grow capacity larger).bytes.length = capacity ∧ Keeps s (s.grow capacity larger) := by
  have bytes_eq : (s.grow capacity larger).bytes =
      splice (List.replicate capacity 0) 0 s.buffered := by
    simp [grow, bytes]
  have fits : 0 + s.buffered.length ≤ (List.replicate capacity (0 : UInt8)).length := by
    rw [length_buffered, List.length_replicate]
    omega
  refine ⟨?_, ?_, rfl, rfl, ?_⟩
  · have whole := slice_splice_self fits
    rwa [length_buffered, ← bytes_eq] at whole
  · rw [bytes_eq, length_splice fits, List.length_replicate]
  · rintro v ⟨old, apart⟩
    refine ⟨⟨?_, ?_⟩, ?_⟩
    · show v.array < (s.arrays ++ [_]).length
      rw [List.length_append]
      omega
    · show v.array ≠ s.arrays.length
      omega
    · show slice ((s.arrays ++ [_])[v.array]?.getD []) _ _ = _
      rw [List.getElem?_append_left old]
      rfl

theorem append_spec {s : CapnpFrameFramer} {data : Bytes}
    (fits : s.length + data.length ≤ s.bytes.length) :
    ∃ s', s.append data = .ok s' ∧ s'.buffered = s.buffered ++ data ∧
      s'.expectedTotal = s.expectedTotal ∧ Keeps s s' := by
  unfold append
  rw [dif_pos fits]
  refine ⟨_, rfl, ?_, rfl, rfl, rfl, ?_⟩
  · have written : (s.arrays.set s.buffer (splice s.bytes s.length data))[s.buffer]?.getD [] =
        splice s.bytes s.length data := by
      rw [List.getElem?_set_self s.live, Option.getD_some]
    show slice (Option.getD _ []) 0 (s.length + data.length) = s.buffered ++ data
    rw [written, slice_append_slice, Nat.zero_add, slice_splice_self fits,
      slice_splice_of_apart fits (.inl (by omega))]
    rfl
  · rintro v ⟨old, apart⟩
    refine ⟨⟨by simpa using old, apart⟩, ?_⟩
    show slice ((s.arrays.set _ _)[v.array]?.getD []) _ _ = _
    rw [List.getElem?_set_ne (Ne.symm apart)]
    rfl

/-- Clamping to the buffer limit leaves room for whatever the limit admits. -/
theorem le_clamp {s : CapnpFrameFramer} {n m : ℕ} (admitted : s.maxBufferedBytes.natGt n = false)
    (below : n ≤ m) : n ≤ s.clamp m := by
  unfold clamp
  split_ifs with h
  · unfold JsNumber.natGt at admitted h
    split_ifs at admitted h with finite
    · simp only [Bool.or_eq_false_iff, decide_eq_false_iff_not, not_lt] at admitted
      omega
    · rw [h] at admitted
      cases admitted
  · exact below

theorem assertBufferedBytes_ok {s : CapnpFrameFramer} {n : ℕ}
    (admitted : s.maxBufferedBytes.natGt n = false) : s.assertBufferedBytes n = .ok () := by
  unfold assertBufferedBytes
  rw [admitted]
  rfl

theorem assertFrameBytes_ok {s : CapnpFrameFramer} {n : ℕ}
    (small : exceeds n s.options.maxFrameBytes DEFAULT_MAX_FRAME_BYTES = false) :
    s.assertFrameBytes n = .ok () := by
  unfold assertFrameBytes
  rw [small]
  rfl

theorem push_spec {s : CapnpFrameFramer} {data : Bytes}
    (admitted : s.maxBufferedBytes.natGt (s.length + data.length) = false) :
    ∃ s', s.push data = .ok s' ∧ s'.buffered = s.buffered ++ data ∧
      s'.expectedTotal = s.expectedTotal ∧ Keeps s s' := by
  unfold push
  by_cases empty : data.length = 0
  · rw [List.length_eq_zero_iff] at empty
    exact ⟨s, by simp [empty], by simp [empty], rfl, .refl s⟩
  simp only [empty, if_false, assertBufferedBytes_ok admitted, Fallible.ok_bind]
  by_cases more : s.length + data.length > s.bytes.length
  · have enough := le_clamp admitted
      (le_max_left (s.length + data.length) (s.bytes.length * 2))
    have larger : s.length ≤ s.clamp (max (s.length + data.length) (s.bytes.length * 2)) := by
      omega
    obtain ⟨same, size, kept⟩ := s.grow_spec larger
    obtain ⟨s', result, content, total, kept'⟩ := append_spec
      (show (s.grow _ larger).length + data.length ≤ (s.grow _ larger).bytes.length by
        rw [size]; exact enough)
    rw [if_pos more, dif_pos larger]
    exact ⟨s', result, by rw [content, same], total, kept.trans kept'⟩
  · rw [if_neg more]
    exact append_spec (by omega)

/-! ## What `popFrame` sees of the next frame -/

/-- A field that lies inside both the buffered bytes and the frame is the frame's. -/
theorem readLE_ahead {p frame rest : Bytes} (ahead : p <+: frame ++ rest) {off w : ℕ}
    (inBuffer : off + w ≤ p.length) (inFrame : off + w ≤ frame.length) :
    readLE p off w = readLE frame off w := by
  obtain ⟨later, stream⟩ := ahead
  rw [← readLE_append_left (x := later) inBuffer, stream, readLE_append_left inFrame]

theorem segmentWordsOf_ahead {p frame rest : Bytes} (ahead : p <+: frame ++ rest) {count : ℕ}
    (inBuffer : headerBytesOf count ≤ p.length) (inFrame : headerBytesOf count ≤ frame.length) :
    segmentWordsOf p count = segmentWordsOf frame count := by
  apply List.map_congr_left
  intro i mem
  rw [List.mem_range] at mem
  unfold headerBytesOf at inBuffer inFrame
  exact readLE_ahead ahead (by omega) (by omega)

/-- The total is known as soon as the header is complete, and is the length of the frame. -/
theorem updateExpectedTotal_spec {s : CapnpFrameFramer} {frame rest : Bytes}
    (ok : s.Acceptable frame) (ahead : s.buffered <+: frame ++ rest)
    (cached : ∀ total, s.expectedTotal = some total → total = frame.length) :
    s.updateExpectedTotal = .ok (some frame.length) ∨
      s.updateExpectedTotal = .ok none ∧ s.length < frame.length := by
  unfold updateExpectedTotal
  have size := s.length_buffered
  have exact := ok.exact
  cases known : s.expectedTotal with
  | some total =>
    left
    rw [cached total known]
    rfl
  | none =>
    by_cases short : s.length < 4
    · right
      have long := ok.header
      simp only [Option.isSome_none, Bool.false_eq_true, if_false, short, if_true]
      exact ⟨rfl, by omega⟩
    have count : readLE s.buffered 0 4 + 1 = segmentCountOf frame := by
      rw [readLE_ahead ahead (by omega) (by have := ok.header; omega), segmentCountOf]
    by_cases incomplete : s.length < headerBytesOf (segmentCountOf frame)
    · right
      refine ⟨?_, by omega⟩
      simp only [Option.isSome_none, Bool.false_eq_true, if_false, short, count, ok.segmentCount,
        incomplete, if_true]
      rfl
    · left
      have words : (segmentWordsOf s.buffered (segmentCountOf frame)).sum = totalWordsOf frame := by
        rw [segmentWordsOf_ahead ahead (by omega) (by omega), totalWordsOf]
      simp only [Option.isSome_none, Bool.false_eq_true, if_false, short, count, ok.segmentCount,
        incomplete, words, ok.words, ← exact, assertFrameBytes_ok ok.size,
        assertBufferedBytes_ok ok.buffer]
      rfl

theorem takeBuffer_spec (s : CapnpFrameFramer) :
    let (v, s') := s.takeBuffer s.length
    v.contents s'.arrays = s.buffered ∧ s'.buffered = [] ∧ s'.Retired v ∧ Keeps s s' := by
  refine ⟨?_, rfl, ?_, rfl, rfl, ?_⟩
  · show slice ((s.arrays ++ [[]])[s.buffer]?.getD []) _ _ = _
    rw [List.getElem?_append_left s.live]
    rfl
  · have := s.live
    refine ⟨?_, ?_⟩
    · show s.buffer < (s.arrays ++ [[]]).length
      rw [List.length_append]
      omega
    · show s.buffer ≠ s.arrays.length
      omega
  · rintro v ⟨old, apart⟩
    refine ⟨⟨?_, ?_⟩, ?_⟩
    · show v.array < (s.arrays ++ [[]]).length
      rw [List.length_append]
      omega
    · show v.array ≠ s.arrays.length
      omega
    · show slice ((s.arrays ++ [[]])[v.array]?.getD []) _ _ = _
      rw [List.getElem?_append_left old]
      rfl

theorem copyOut_spec (s : CapnpFrameFramer) {total : ℕ} (enough : total ≤ s.length) :
    let (v, s') := s.copyOut total enough
    v.contents s'.arrays = s.buffered.take total ∧ s'.buffered = s.buffered.drop total ∧
      s'.Retired v ∧ Keeps s s' := by
  have size : s.length ≤ s.bytes.length := s.room
  have buffered_eq : s.buffered = s.bytes.take s.length := rfl
  have rest_length : (slice s.bytes total (s.length - total)).length = s.length - total :=
    length_slice (by omega)
  have moved : ∀ x : Bytes, ((s.arrays.set s.buffer x ++ [slice s.bytes 0 total])[s.buffer]?).getD
      [] = x := by
    intro x
    rw [List.getElem?_append_left (by simpa using s.live), List.getElem?_set_self s.live,
      Option.getD_some]
  refine ⟨?_, ?_, ?_, rfl, rfl, ?_⟩
  · show slice ((s.arrays.set s.buffer _ ++ [_])[s.arrays.length]?.getD []) 0 total = _
    rw [List.getElem?_append_right (by simp)]
    simp [slice, buffered_eq, List.take_take, enough]
  · show slice ((s.arrays.set s.buffer _ ++ [_])[s.buffer]?.getD []) 0 (s.length - total) = _
    rw [moved]
    have written := slice_splice_self (show 0 + (slice s.bytes total (s.length - total)).length ≤
      s.bytes.length by omega)
    rw [rest_length] at written
    rw [written, buffered_eq, slice, List.drop_take]
  · have := s.live
    refine ⟨?_, ?_⟩
    · show s.arrays.length < (s.arrays.set s.buffer _ ++ [_]).length
      simp
    · show s.arrays.length ≠ s.buffer
      omega
  · rintro v ⟨old, apart⟩
    refine ⟨⟨?_, apart⟩, ?_⟩
    · show v.array < (s.arrays.set s.buffer _ ++ [_]).length
      rw [List.length_append, List.length_set]
      omega
    · show slice ((s.arrays.set s.buffer _ ++ [_])[v.array]?.getD []) _ _ = _
      rw [List.getElem?_append_left (by simpa using old), List.getElem?_set_ne (Ne.symm apart)]
      rfl

/-- With the whole frame buffered, `popFrame` hands it out and keeps the rest. -/
theorem popFrame_complete {s : CapnpFrameFramer} {frame rest : Bytes} (ok : s.Acceptable frame)
    (ahead : s.buffered <+: frame ++ rest)
    (cached : ∀ total, s.expectedTotal = some total → total = frame.length)
    (complete : frame.length ≤ s.length) :
    ∃ v s', s.popFrame = (.ok (some v), s') ∧ v.contents s'.arrays = frame ∧
      s.buffered = frame ++ s'.buffered ∧ s'.expectedTotal = none ∧ s'.Retired v ∧ Keeps s s' := by
  have size := s.length_buffered
  have front : s.buffered.take frame.length = frame := by
    have := List.prefix_of_prefix_length_le (List.prefix_append frame rest) ahead (by omega)
    exact (List.prefix_iff_eq_take.1 this).symm
  have total : s.updateExpectedTotal = .ok (some frame.length) := by
    rcases updateExpectedTotal_spec ok ahead cached with known | ⟨-, short⟩
    · exact known
    · omega
  -- the two ways of taking the frame out, described alike
  obtain ⟨v, s', taken, content, left, fresh, retired, kept⟩ : ∃ v s',
      (if s.length - frame.length = 0 then s.takeBuffer frame.length
        else s.copyOut frame.length complete) = (v, s') ∧
      v.contents s'.arrays = frame ∧ s.buffered = frame ++ s'.buffered ∧
      s'.expectedTotal = none ∧ s'.Retired v ∧ Keeps s s' := by
    by_cases all : s.length - frame.length = 0
    · have same : frame.length = s.length := by omega
      obtain ⟨content, left, retired, kept⟩ := s.takeBuffer_spec
      have whole : s.buffered = frame := by rw [← front, same, ← size, List.take_length]
      rw [if_pos all, same]
      exact ⟨_, _, rfl, content.trans whole, by rw [left, List.append_nil, whole], rfl, retired,
        kept⟩
    · obtain ⟨content, left, retired, kept⟩ := s.copyOut_spec complete
      rw [if_neg all]
      refine ⟨_, _, rfl, content.trans front, ?_, rfl, retired, kept⟩
      conv_lhs => rw [← List.take_append_drop frame.length s.buffered, front]
      rw [left]
  refine ⟨v, s', ?_, content, left, fresh, retired, kept⟩
  unfold popFrame
  simp only [total, complete, dif_pos, taken]
  cases depth : s.options.maxNestingDepth with
  | none => rfl
  | some limit =>
    have valid := ok.nesting (by simp [depth])
    simp only [content, valid]
    rfl

/-- Before the whole frame is buffered, `popFrame` returns null and keeps everything. -/
theorem popFrame_incomplete {s : CapnpFrameFramer} {frame rest : Bytes} (ok : s.Acceptable frame)
    (ahead : s.buffered <+: frame ++ rest)
    (cached : ∀ total, s.expectedTotal = some total → total = frame.length)
    (incomplete : s.length < frame.length) :
    ∃ s', s.popFrame = (.ok none, s') ∧ s'.buffered = s.buffered ∧
      (∀ total, s'.expectedTotal = some total → total = frame.length) ∧ Keeps s s' := by
  unfold popFrame
  rcases updateExpectedTotal_spec ok ahead cached with known | ⟨unknown, -⟩
  · simp only [known, show ¬ frame.length ≤ s.length by omega, dif_neg, not_false_eq_true]
    refine ⟨_, rfl, rfl, ?_, rfl, rfl, fun _ h => ⟨h, rfl⟩⟩
    rintro total ⟨⟩
    rfl
  · simp only [unknown]
    exact ⟨_, rfl, rfl, nofun, rfl, rfl, fun _ h => ⟨h, rfl⟩⟩

theorem popFrame_drained {s : CapnpFrameFramer} (empty : s.buffered = [])
    (uncached : s.expectedTotal = none) :
    ∃ s', s.popFrame = (.ok none, s') ∧ s'.buffered = [] ∧ s'.expectedTotal = none ∧
    Keeps s s' := by
  have size : s.length = 0 := by
    rw [← s.length_buffered, empty, List.length_nil]
  have unknown : s.updateExpectedTotal = .ok none := by
    unfold updateExpectedTotal
    rw [uncached, size]
    rfl
  unfold popFrame
  rw [unknown]
  exact ⟨_, rfl, empty, rfl, rfl, rfl, fun _ h => ⟨h, rfl⟩⟩

/-! ## The invariant and the runs -/

/-- What is buffered begins the frames to come, and a cached total is that of the first. -/
structure Follows (s : CapnpFrameFramer) (coming : List Bytes) : Prop where
  acceptable : ∀ frame ∈ coming, s.Acceptable frame
  ahead : s.buffered <+: coming.flatten
  cached : ∀ total, s.expectedTotal = some total → coming.head?.map List.length = some total

theorem Follows.push {s s' : CapnpFrameFramer} {coming : List Bytes} {data : Bytes}
    (h : s.Follows coming) (kept : Keeps s s') (content : s'.buffered = s.buffered ++ data)
    (total : s'.expectedTotal = s.expectedTotal) (more : s.buffered ++ data <+: coming.flatten) :
    s'.Follows coming :=
  ⟨fun frame mem => kept.acceptable (h.acceptable frame mem), by rwa [content],
    fun t known => h.cached t (total ▸ known)⟩

/-- One `popFrame`: the first of the frames to come when it is complete, else null. -/
theorem Follows.popFrame {s : CapnpFrameFramer} {coming : List Bytes} (h : s.Follows coming) :
    (∃ frame rest v s', coming = frame :: rest ∧ s.popFrame = (.ok (some v), s') ∧
      v.contents s'.arrays = frame ∧ s.buffered = frame ++ s'.buffered ∧ s'.Follows rest ∧
      s'.Retired v ∧ Keeps s s') ∨
    ∃ s', s.popFrame = (.ok none, s') ∧ s'.buffered = s.buffered ∧ s'.Follows coming ∧ Keeps s s' ∧
      ∀ frame rest, coming = frame :: rest → s.length < frame.length := by
  cases coming with
  | nil =>
    have empty : s.buffered = [] := List.prefix_nil.1 h.ahead
    have uncached : s.expectedTotal = none := by
      cases known : s.expectedTotal with
      | none => rfl
      | some total => cases h.cached total known
    obtain ⟨s', result, left, fresh, kept⟩ := popFrame_drained empty uncached
    refine .inr ⟨s', result, left.trans empty.symm, ⟨nofun, ?_, ?_⟩, kept, nofun⟩
    · rw [left]
      exact List.nil_prefix
    · intro total known
      rw [fresh] at known
      cases known
  | cons frame rest =>
    have ok := h.acceptable frame List.mem_cons_self
    have later : ∀ s', Keeps s s' → ∀ f ∈ rest, s'.Acceptable f := fun s' kept f mem =>
      kept.acceptable (h.acceptable f (List.mem_cons_of_mem frame mem))
    have ahead : s.buffered <+: frame ++ rest.flatten := by simpa using h.ahead
    have cached : ∀ total, s.expectedTotal = some total → total = frame.length := by
      intro total known
      exact (Option.some.inj (h.cached total known)).symm
    by_cases complete : frame.length ≤ s.length
    · obtain ⟨v, s', result, content, left, fresh, retired, kept⟩ :=
        popFrame_complete ok ahead cached complete
      refine .inl ⟨frame, rest, v, s', rfl, result, content, left, ⟨later s' kept, ?_, ?_⟩, retired,
        kept⟩
      · rw [left] at ahead
        exact (List.prefix_append_right_inj frame).1 ahead
      · intro total known
        rw [fresh] at known
        cases known
    · obtain ⟨s', result, left, cached', kept⟩ :=
        popFrame_incomplete ok ahead cached (by omega)
      refine .inr ⟨s', result, left, ⟨?_, by rw [left]; exact h.ahead, ?_⟩, kept, ?_⟩
      · intro f mem
        exact kept.acceptable (h.acceptable f mem)
      · intro total known
        rw [cached' total known]
        rfl
      · rintro f fs ⟨⟩
        omega

/-- A run hands out the first frames to come, and what it leaves buffered begins the others. -/
theorem run_spec {s : CapnpFrameFramer} {coming : List Bytes} {calls : List Call}
    (h : s.Follows coming) (stream : s.buffered ++ pushed calls <+: coming.flatten)
    (fits : s.PushesFit calls) :
    ∃ popped s' k, s.run calls = .ok (popped, s') ∧
      popped.map (·.contents s'.arrays) = coming.take k ∧
      s.buffered ++ pushed calls = (coming.take k).flatten ++ s'.buffered ∧
      s'.Follows (coming.drop k) ∧ Keeps s s' := by
  induction calls generalizing s coming with
  | nil => exact ⟨[], s, 0, rfl, rfl, by simp [pushed], h, .refl s⟩
  | cons call calls ih =>
    cases call with
    | push data =>
      obtain ⟨admitted, next⟩ := fits
      obtain ⟨s₁, result, content, total, kept⟩ := push_spec admitted
      have stream' : s₁.buffered ++ pushed calls <+: coming.flatten := by
        rwa [content, List.append_assoc]
      have follows : s₁.Follows coming := h.push kept content total
        (List.IsPrefix.trans (by simp [pushed, ← List.append_assoc]) stream)
      obtain ⟨popped, s', k, rest, frames, bytes, inv, kept'⟩ := ih follows stream' (next s₁ result)
      refine ⟨popped, s', k, ?_, frames, ?_, inv, kept.trans kept'⟩
      · simp only [run, result, Fallible.ok_bind, rest]
      · rw [← bytes, content, pushed, List.append_assoc]
    | popFrame =>
      rcases h.popFrame with ⟨frame, rest, v, s₁, rfl, result, content, left, follows, retired,
        kept⟩ | ⟨s₁, result, left, follows, kept, -⟩
      · have stream' : s₁.buffered ++ pushed calls <+: rest.flatten := by
          rw [left, pushed, List.append_assoc, List.flatten_cons] at stream
          exact (List.prefix_append_right_inj frame).1 stream
        simp only [PushesFit, result] at fits
        obtain ⟨popped, s', k, run_rest, frames, bytes, inv, kept'⟩ := ih follows stream' fits
        refine ⟨v :: popped, s', k + 1, ?_, ?_, ?_, inv, kept.trans kept'⟩
        · simp only [run, result, Fallible.ok_bind, run_rest, Fallible.pure_eq_ok,
            Option.toList_some, List.singleton_append]
        · -- the view handed out first still shows its frame in the last state
          rw [List.map_cons, (kept'.retired v retired).2, content, frames, List.take_succ_cons]
        · rw [left, List.append_assoc, pushed, bytes, List.take_succ_cons, List.flatten_cons,
            List.append_assoc]
      · simp only [PushesFit, result] at fits
        obtain ⟨popped, s', k, run_rest, frames, bytes, inv, kept'⟩ :=
          ih follows (by rw [left]; exact stream) fits
        refine ⟨popped, s', k, ?_, frames, ?_, inv, kept.trans kept'⟩
        · simp only [run, result, Fallible.ok_bind, run_rest, Fallible.pure_eq_ok,
            Option.toList_none, List.nil_append]
        · rw [← bytes, left, pushed]

theorem new_follows {options : CapnpFrameFramerOptions} {framer : CapnpFrameFramer}
    (created : new options = .ok framer) {frames : List Bytes}
    (acceptable : ∀ frame ∈ frames, framer.Acceptable frame) :
    framer.buffered = [] ∧ framer.Follows frames := by
  unfold new at created
  simp only [] at created
  split_ifs at created
  · cases created
  · cases created
    exact ⟨rfl, acceptable, List.nil_prefix, nofun⟩

/-- **Chunking independence.**  For every cut of the frames into chunks and every interleaving of
pushes and pops, the frames handed out are the first ones of the stream, they still show the same
bytes at the end of the run, and what is neither handed out nor buffered is nothing.  The next pop
hands out the next frame exactly when it is complete. -/
theorem frames_delivered {options : CapnpFrameFramerOptions} {framer : CapnpFrameFramer}
    (created : new options = .ok framer) {frames : List Bytes}
    (acceptable : ∀ frame ∈ frames, framer.Acceptable frame) {calls : List Call}
    (stream : pushed calls <+: frames.flatten) (fits : framer.PushesFit calls) :
    ∃ popped s k, framer.run calls = .ok (popped, s) ∧
      popped.map (·.contents s.arrays) = frames.take k ∧
      pushed calls = (frames.take k).flatten ++ s.buffered ∧
      s.bufferedBytes = s.buffered.length ∧
      (frames.length ≤ k → s.bufferedBytes = 0) ∧
      (∀ frame, frames[k]? = some frame →
        if frame.length ≤ s.bufferedBytes then
          ∃ v s', s.popFrame = (.ok (some v), s') ∧ v.contents s'.arrays = frame ∧
            s.buffered = frame ++ s'.buffered
        else ∃ s', s.popFrame = (.ok none, s') ∧ s'.buffered = s.buffered) ∧
      (pushed calls = frames.flatten → s.popFrame.1 = .ok none →
        popped.map (·.contents s.arrays) = frames ∧ s.bufferedBytes = 0) := by
  obtain ⟨empty, start⟩ := new_follows created acceptable
  obtain ⟨popped, s, k, result, contents, bytes, inv, -⟩ :=
    run_spec start (by rwa [empty]) fits
  rw [empty, List.nil_append] at bytes
  have size := s.length_buffered
  have drained : frames.length ≤ k → s.bufferedBytes = 0 := by
    intro all
    have ahead := inv.ahead
    rw [List.drop_eq_nil_of_le all] at ahead
    rw [bufferedBytes, ← size, List.prefix_nil.1 ahead, List.length_nil]
  refine ⟨popped, s, k, result, contents, bytes, size.symm, drained, ?_, ?_⟩
  · intro frame next
    have coming : frames.drop k = frame :: frames.drop (k + 1) :=
      List.drop_eq_getElem?_toList_append.trans (by rw [next]; rfl)
    rw [coming] at inv
    rcases inv.popFrame with ⟨f, fs, v, s', same, pop, content, left, -⟩ |
      ⟨s', pop, left, -, -, short⟩
    · cases same
      rw [if_pos (by rw [bufferedBytes, ← size, left, List.length_append]; omega)]
      exact ⟨v, s', pop, content, left⟩
    · rw [if_neg (by have := short frame _ rfl; rw [bufferedBytes]; omega)]
      exact ⟨s', pop, left⟩
  · intro all none
    suffices frames.length ≤ k from ⟨by rw [contents, List.take_of_length_le this], drained this⟩
    by_contra more
    -- otherwise the next frame is complete and would have been handed out
    have coming := List.drop_eq_getElem_cons (not_le.1 more)
    have whole : s.buffered = (frames.drop k).flatten := by
      have joined := bytes.symm.trans all
      rw [← List.take_append_drop k frames, List.flatten_append] at joined
      rw [List.take_left' (List.length_take_of_le (not_le.1 more).le)] at joined
      exact List.append_cancel_left joined
    rcases inv.popFrame with ⟨f, fs, v, s', -, pop, -⟩ | ⟨s', pop, -, -, -, short⟩
    · rw [pop] at none
      cases none
    · have := short _ _ coming
      rw [coming, List.flatten_cons] at whole
      rw [← size, whole, List.length_append] at this
      omega

/-- A frame of one word, and one of two segments. -/
def twoFrames : List Bytes :=
  [toLE 4 0 ++ toLE 4 1 ++ toLE 8 42,
    toLE 4 1 ++ toLE 4 1 ++ toLE 4 2 ++ toLE 4 0 ++ toLE 8 7 ++ (toLE 8 8 ++ toLE 8 9)]

/-- Three chunks, which cut the first frame inside its segment table and the second inside its
words. -/
def threeChunks : List Call :=
  [.push (twoFrames.flatten.take 5), .popFrame, .push ((twoFrames.flatten.drop 5).take 40),
    .popFrame, .popFrame, .push (twoFrames.flatten.drop 45), .popFrame, .popFrame]

theorem frames_delivered_chunks : ∃ framer popped s, new ⟨noLimits, none⟩ = .ok framer ∧
    framer.run threeChunks = .ok (popped, s) ∧ popped.map (·.contents s.arrays) = twoFrames ∧
    s.bufferedBytes = 0 := by
  let framer : CapnpFrameFramer :=
    ⟨noLimits, .ofNat DEFAULT_MAX_FRAME_BYTES, [[]], 0, 0, none, Nat.one_pos, Nat.zero_le _⟩
  have created : new ⟨noLimits, none⟩ = .ok framer := by
    unfold new
    rw [if_neg (by decide +kernel)]
    rfl
  have acceptable : ∀ frame ∈ twoFrames, framer.Acceptable frame := by
    unfold twoFrames
    rw [List.forall_mem_cons, List.forall_mem_singleton]
    constructor
    all_goals
      exact ⟨by decide, by decide, by decide, by decide, by decide, by decide +kernel,
        fun limited => absurd rfl limited⟩
  obtain ⟨popped, s, k, result, -, -, -, -, -, all⟩ :=
    frames_delivered created acceptable (by decide)
      (by decide +kernel : framer.PushesFit threeChunks)
  -- the last pop finds no frame
  have none : ∀ r ∈ (framer.run threeChunks).toOption, (r.2.popFrame.1.toOption = some none) := by
    decide +kernel
  rw [result] at none
  obtain ⟨contents, empty⟩ := all (by decide) (Fallible.toOption_eq_some.1 (none _ rfl))
  exact ⟨framer, popped, s, created, result, contents, empty⟩

end CapnpFrameFramer

end CapnpDeno
