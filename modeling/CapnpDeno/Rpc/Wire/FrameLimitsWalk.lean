import CapnpDeno.Encoding.AnyPointerCopyProof
import CapnpDeno.Rpc.Wire.FrameLimitsProof

/-!
# What the validator accepts

The frames that `parseFrame` lets through, and the walk over their pointers: what it accepts is
exactly what the validator's own graph shows to be in bounds and shallow enough, as long as no two
states of the walk share a key.
-/

namespace CapnpDeno

open ByteList

namespace FrameLimits

/-! ## Limits -/

/-- The limits that the option check lets through. -/
def Accepted : Option JsNumber → Prop
  | none => True
  | some x => x.isInteger = true ∧ 0 ≤ x.trunc

/-- The limit in force. -/
def limitOf (limit : Option JsNumber) (fallback : ℕ) : ℕ :=
  match limit with
  | none => fallback
  | some x => x.trunc.toNat

theorem assertNonNegativeInteger_eq_ok {value : Option JsNumber} {name : String} :
    assertNonNegativeInteger value name = .ok () ↔ Accepted value := by
  cases value with
  | none => exact ⟨fun _ => trivial, fun _ => rfl⟩
  | some x =>
    refine Fallible.guard_eq_ok.trans ?_
    rw [not_or, not_not, not_lt]
    rfl

theorem exceeds_iff {limit : Option JsNumber} {fallback n : ℕ} (accepted : Accepted limit) :
    exceeds n limit fallback = true ↔ limitOf limit fallback < n := by
  cases limit with
  | none => exact decide_eq_true_iff
  | some x =>
    obtain ⟨integer, nonneg⟩ := accepted
    have finite : x.isFinite = true := by
      unfold JsNumber.isInteger at integer
      exact (Bool.and_eq_true_iff.1 integer).1
    simp only [exceeds, JsNumber.natGt, finite, if_true, integer, Bool.not_true, Bool.and_false,
      Bool.or_false, decide_eq_true_eq, limitOf]
    omega

theorem exceeds_eq_false {limit : Option JsNumber} {fallback n : ℕ} (accepted : Accepted limit) :
    exceeds n limit fallback = false ↔ n ≤ limitOf limit fallback := by
  rw [← not_lt, ← exceeds_iff accepted, Bool.not_eq_true]

/-! ## Frames -/

/-- A frame of exactly the declared length, within limits that are accepted themselves. -/
structure Admitted (frame : Bytes) (limits : CapnpFrameLimitsOptions) : Prop where
  options : Accepted limits.maxSegmentCount ∧ Accepted limits.maxFrameBytes ∧
    Accepted limits.maxTraversalWords ∧ Accepted limits.maxNestingDepth
  exact : frame.length = headerBytesOf (segmentCountOf frame) + totalWordsOf frame * 8
  count : exceeds (segmentCountOf frame) limits.maxSegmentCount DEFAULT_MAX_SEGMENT_COUNT = false
  words : exceeds (totalWordsOf frame) limits.maxTraversalWords DEFAULT_MAX_TRAVERSAL_WORDS = false
  size : exceeds frame.length limits.maxFrameBytes DEFAULT_MAX_FRAME_BYTES = false

/-- The segments a frame declares. -/
def segmentsOf (frame : Bytes) : List Bytes :=
  cutSegments frame (headerBytesOf (segmentCountOf frame))
    (segmentWordsOf frame (segmentCountOf frame))

theorem headerBytesOf_ge (frame : Bytes) : 8 ≤ headerBytesOf (segmentCountOf frame) := by
  unfold headerBytesOf segmentCountOf
  split_ifs <;> omega

theorem parseFrame_eq_ok {frame : Bytes} {limits : CapnpFrameLimitsOptions}
    {parsed : ParsedCapnpFrame} : parseFrame frame limits = .ok parsed ↔
      Admitted frame limits ∧ parsed = ⟨segmentsOf frame, totalWordsOf frame⟩ := by
  have header := headerBytesOf_ge frame
  unfold parseFrame
  simp only [Fallible.throw_eq_error, Fallible.error_bind, Fallible.pure_eq_ok,
    show readLE frame 0 4 + 1 = segmentCountOf frame from rfl,
    show (segmentWordsOf frame (segmentCountOf frame)).sum = totalWordsOf frame from rfl]
  constructor
  · intro done
    by_cases short : frame.length < 4
    · rw [if_pos short] at done
      cases done
    rw [if_neg short] at done
    obtain ⟨_, count, done⟩ := Fallible.bind_eq_ok.1 done
    obtain ⟨_, bytes, done⟩ := Fallible.bind_eq_ok.1 done
    obtain ⟨_, words, done⟩ := Fallible.bind_eq_ok.1 done
    obtain ⟨_, depth, done⟩ := Fallible.bind_eq_ok.1 done
    rw [assertNonNegativeInteger_eq_ok] at count bytes words depth
    split_ifs at done with many truncated long large few more
    have exact : frame.length = headerBytesOf (segmentCountOf frame) + totalWordsOf frame * 8 :=
      Nat.le_antisymm (not_lt.1 more) (not_lt.1 few)
    rw [Bool.not_eq_true] at many long large
    cases done
    exact ⟨⟨⟨count, bytes, words, depth⟩, exact, many, long, exact ▸ large⟩, rfl⟩
  · rintro ⟨⟨⟨count, bytes, words, depth⟩, exact, many, long, large⟩, rfl⟩
    rw [exact] at large
    rw [if_neg (by omega), assertNonNegativeInteger_eq_ok.2 count,
      assertNonNegativeInteger_eq_ok.2 bytes, assertNonNegativeInteger_eq_ok.2 words,
      assertNonNegativeInteger_eq_ok.2 depth]
    simp only [Fallible.ok_bind]
    rw [if_neg (Bool.eq_false_iff.1 many), if_neg (by omega), if_neg (Bool.eq_false_iff.1 long),
      if_neg (Bool.eq_false_iff.1 large), if_neg exact.ge.not_gt, if_neg exact.le.not_gt]
    rfl

theorem takeSegments_eq {bytes : Bytes} {cursor : ℕ} {sizes : List ℕ}
    (fits : cursor + sizes.sum * 8 ≤ bytes.length) :
    MessageReader.takeSegments bytes cursor sizes = .ok (cutSegments bytes cursor sizes) := by
  induction sizes generalizing cursor with
  | nil => rfl
  | cons words sizes ih =>
    rw [List.sum_cons, Nat.add_mul] at fits
    unfold MessageReader.takeSegments
    simp only [WORD_BYTES, Fallible.throw_eq_error, Fallible.error_bind]
    rw [if_neg (by omega), ih (by omega)]
    rfl

/-- The reader cuts an admitted frame into the same segments. -/
theorem Admitted.reader {frame : Bytes} {limits : CapnpFrameLimitsOptions}
    (admitted : Admitted frame limits) :
    MessageReader.ofBytes frame = .ok ⟨segmentsOf frame⟩ := by
  have header := headerBytesOf_ge frame
  have exact := admitted.exact
  have cut : MessageReader.takeSegments frame (headerBytesOf (segmentCountOf frame))
      (segmentWordsOf frame (segmentCountOf frame)) = .ok (segmentsOf frame) :=
    takeSegments_eq exact.ge
  unfold MessageReader.ofBytes
  simp only [Fallible.throw_eq_error, Fallible.error_bind]
  rw [if_neg (by omega), if_neg]
  · exact Fallible.bind_eq_ok.2 ⟨segmentsOf frame, cut, rfl⟩
  · show ¬ frame.length < headerBytesOf (segmentCountOf frame)
    omega

/-- Segment sizes are read from four bytes each. -/
theorem segment_small {frame segment : Bytes} (mem : segment ∈ segmentsOf frame) :
    segment.length / 8 < 2 ^ 32 := by
  have cut : ∀ (sizes : List ℕ) (cursor : ℕ), (∀ words ∈ sizes, words < 2 ^ 32) →
      segment ∈ cutSegments frame cursor sizes → segment.length / 8 < 2 ^ 32 := by
    intro sizes
    induction sizes with
    | nil => exact fun _ _ mem => nomatch mem
    | cons words sizes ih =>
      intro cursor small mem
      rcases List.mem_cons.1 mem with rfl | later
      · have := small words List.mem_cons_self
        have short : (slice frame cursor (words * WORD_BYTES)).length ≤ words * 8 :=
          List.length_take_le _ _
        omega
      · exact ih _ (fun w mem => small w (List.mem_cons_of_mem words mem)) later
  refine cut _ _ (fun words mem => ?_) mem
  obtain ⟨i, -, rfl⟩ := List.mem_map.1 mem
  exact readLE_lt frame (4 + i * 4) 4

/-! ## The walk -/

/-- The nesting depth in force. -/
def depthLimit (maxDepth : Option JsNumber) : ℕ := limitOf maxDepth DEFAULT_MAX_NESTING_DEPTH

/-- The state of the root pointer. -/
def rootState : PointerState := ⟨0, 0, 1⟩

theorem look_inRange {segments : List Bytes} {slot : Slot} {target : Target}
    (found : look segments slot = some target) : inRange segments slot.1 slot.2 1 = true := by
  by_contra outside
  have missing : (readWordAt segments slot.1 slot.2 "pointer word").toOption = none := by
    rw [readWordAt_toOption, if_neg outside]
  unfold look resolvePointer at found
  rw [Fallible.toOption_bind, missing] at found
  cases found

/-- The object at the end of a pointer lies in its segment. -/
theorem look_object {segments : List Bytes} {slot : Slot} {shape : Shape} {s start : ℕ}
    (found : look segments slot = some (.object shape s start)) :
    shape.Valid ∧ inRange segments s start shape.words = true := by
  obtain ⟨resolved, -, found⟩ := Option.bind_eq_some_iff.1 found
  split_ifs at found
  · cases found
  · obtain ⟨valid, inside, -⟩ := targetOf_object found
    exact ⟨valid, inside⟩

theorem look_slots {segments : List Bytes} {slot slot' : Slot} {target : Target}
    (found : look segments slot = some target) (mem : slot' ∈ target.slots) :
    inRange segments slot'.1 slot'.2 1 = true := by
  cases target with
  | null => cases mem
  | capability word => cases mem
  | object shape s start =>
    obtain ⟨valid, inside⟩ := look_object found
    obtain ⟨segment, known, -, high⟩ := inRange_iff.1 inside
    obtain ⟨i, inBlock, rfl⟩ := List.mem_map.1 mem
    have := Shape.slot_lt valid inBlock
    exact inRange_iff.2 ⟨segment, known, by omega, by push_cast at high ⊢; omega⟩

/-- A state is expanded exactly when its pointer can be followed and does not lie too deep. -/
theorem expand_eq_ok {segments : List Bytes} {maxDepth : Option JsNumber}
    (accepted : Accepted maxDepth) {state : PointerState} {children : List PointerState} :
    (walk segments maxDepth).expand state = .ok children ↔
      ∃ target, look segments (state.segmentId, state.pointerWord) = some target ∧
        (target ≠ .null → state.depth ≤ depthLimit maxDepth) ∧
        children = (statesAt (nextDepth state.depth) target).reverse := by
  have spec := visit_spec segments maxDepth state
  have expand : (walk segments maxDepth).expand state = .ok children ↔
      (visit segments maxDepth state).toOption.map List.reverse = some children := by
    show (List.reverse <$> visit segments maxDepth state) = .ok children ↔ _
    cases visit segments maxDepth state with
    | error e => simp
    | ok states =>
      exact ⟨fun h => congrArg some (Except.ok.inj h), fun h =>
        congrArg Except.ok (Option.some.inj h)⟩
  rw [expand, spec]
  cases look segments (state.segmentId, state.pointerWord) with
  | none => simp
  | some target =>
    simp only [Option.bind_some, Option.some.injEq, exists_eq_left']
    have deep : exceeds state.depth maxDepth DEFAULT_MAX_NESTING_DEPTH = false ↔
        state.depth ≤ depthLimit maxDepth := exceeds_eq_false accepted
    have turned : target ≠ .null → turn maxDepth state.depth target =
        if exceeds state.depth maxDepth DEFAULT_MAX_NESTING_DEPTH then none
        else some (statesAt (nextDepth state.depth) target) := by
      intro present
      cases target with
      | null => exact absurd rfl present
      | capability word => rfl
      | object shape s start => rfl
    by_cases null : target = .null
    · subst null
      simp [turn, statesAt, Target.slots, eq_comm]
    · rw [turned null]
      cases deeper : exceeds state.depth maxDepth DEFAULT_MAX_NESTING_DEPTH with
      | true =>
        refine ⟨by simp, fun h => ?_⟩
        rw [deep.2 (h.1 null)] at deeper
        cases deeper
      | false =>
        exact ⟨fun h => ⟨fun _ => deep.1 deeper, (Option.some.inj h).symm⟩,
          fun h => congrArg some h.2.symm⟩

/-! ### The walk ends -/

theorem slots_length_le {shape : Shape} (valid : shape.Valid) :
    shape.slots.length ≤ shape.words := by
  have distinct : shape.slots.Nodup := shape.slots_sorted.imp fun before => before.ne
  have below : shape.slots.toFinset ⊆ Finset.range shape.words := fun slot mem =>
    Finset.mem_range.2 (Shape.slot_lt valid (List.mem_toFinset.1 mem))
  have few := Finset.card_le_card below
  rwa [List.toFinset_card_of_nodup distinct, Finset.card_range] at few

theorem inRange_lt {segments : List Bytes} {s start count : ℕ}
    (inside : inRange segments s start count = true) :
    s < segments.length ∧ start + count ≤ (segments.map List.length).sum := by
  obtain ⟨segment, known, -, high⟩ := inRange_iff.1 inside
  have member := List.mem_of_getElem? known
  have part :=
    List.single_le_sum (fun _ _ => Nat.zero_le _) _ (List.mem_map_of_mem (f := List.length) member)
  exact ⟨(List.getElem?_eq_some_iff.1 known).1, by omega⟩

theorem nextDepth_le (depth : ℕ) : nextDepth depth ≤ depth + 1 := Nat.min_le_left _ _

/-- A key is expanded at most once, and there are too few keys to run out of turns. -/
theorem run_ne_none {segments : List Bytes} {maxDepth : Option JsNumber}
    (accepted : Accepted maxDepth) (root : inRange segments 0 0 1 = true) :
    (walk segments maxDepth).run (maxTurns segments) [rootState] [] ≠ none := by
  let total := (segments.map List.length).sum
  let keys : Finset ℕ := ((Finset.range segments.length ×ˢ Finset.range total) ×ˢ
    Finset.Icc 1 (2 ^ 53)).image fun x => stateKey ⟨x.1.1, x.1.2, x.2⟩
  have few : keys.card ≤ segments.length * total * 2 ^ 53 := by
    refine Finset.card_image_le.trans ?_
    rw [Finset.card_product, Finset.card_product, Finset.card_range, Finset.card_range,
      Nat.card_Icc, Nat.add_sub_cancel]
  refine Worklist.run_total (fun state => inRange segments state.segmentId state.pointerWord 1 =
    true ∧
    1 ≤ state.depth ∧ state.depth ≤ 2 ^ 53) keys total ?_ ?_ ?_
  · rintro ⟨s, p, depth⟩ ⟨inside, low, high⟩
    constructor
    · obtain ⟨known, below⟩ := inRange_lt inside
      refine Finset.mem_image.2 ⟨((s, p), depth), ?_, rfl⟩
      simp only [Finset.mem_product, Finset.mem_range, Finset.mem_Icc]
      exact ⟨⟨known, below⟩, low, high⟩
    · intro children expanded
      obtain ⟨target, found, -, rfl⟩ := (expand_eq_ok accepted).1 expanded
      constructor
      · rw [List.length_reverse, statesAt, List.length_map]
        cases target with
        | null => exact Nat.zero_le _
        | capability word => exact Nat.zero_le _
        | object shape s' start =>
          obtain ⟨valid, inside⟩ := look_object found
          have := slots_length_le valid
          have := (inRange_lt inside).2
          rw [Target.slots, List.length_map]
          omega
      · intro c mem
        obtain ⟨slot, behind, rfl⟩ := List.mem_map.1 (List.mem_reverse.1 mem)
        refine ⟨look_slots found behind, ?_, Nat.min_le_right _ _⟩
        exact Nat.le_min.2 ⟨Nat.le_add_left 1 depth, by norm_num⟩
  · intro state mem
    rw [List.mem_singleton.1 mem]
    exact ⟨root, le_rfl, by norm_num [rootState]⟩
  · have : (keys \ ([] : List ℕ).toFinset).card * (total + 1) ≤
        segments.length * total * 2 ^ 53 * (total + 1) := by
      rw [List.toFinset_nil, Finset.sdiff_empty]
      exact Nat.mul_le_mul_right _ few
    have turns : maxTurns segments = 1 + segments.length * total * 2 ^ 53 * (total + 1) := by
      show 1 + 2 ^ 53 * segments.length * total * (total + 1) = _
      ring
    rw [turns, List.length_singleton]
    omega

/-- With a root pointer to start from, the check is the walk. -/
theorem enforceNestingDepth_eq_ok {segments : List Bytes} {maxDepth : Option JsNumber}
    (accepted : Accepted maxDepth) (root : inRange segments 0 0 1 = true) :
    enforceNestingDepth segments maxDepth = .ok () ↔
      ∃ seen, (walk segments maxDepth).run (maxTurns segments) [rootState]
      [] = some (.ok seen) := by
  obtain ⟨segment, known, -, high⟩ := inRange_iff.1 root
  have present : ¬ (segments.length = 0 ∨ (segments.head?.getD []).length < WORD_BYTES) := by
    rw [List.head?_eq_getElem?, known, Option.getD_some, WORD_BYTES]
    have := (List.getElem?_eq_some_iff.1 known).1
    omega
  have ends := run_ne_none accepted root
  unfold enforceNestingDepth
  rw [if_neg present]
  cases result : (walk segments maxDepth).run (maxTurns segments) [rootState] [] with
  | none => exact absurd result ends
  | some outcome =>
    rw [result] at ends
    have ran : (walk segments maxDepth).run (maxTurns segments) [⟨0, 0, 1⟩] [] = some outcome :=
      result
    simp only [ran]
    cases outcome with
    | error e => simp [Except.map]
    | ok seen => exact ⟨fun _ => ⟨seen, rfl⟩, fun _ => rfl⟩

/-! ### What it accepts -/

/-- The walk does not leave a graph that is shallow enough. -/
theorem within_of_reach {segments : List Bytes} {maxDepth : Option JsNumber}
    (accepted : Accepted maxDepth)
    (shallow : (look segments).WithinDepth (depthLimit maxDepth) (0, 0)) {state : PointerState}
    (reach : (walk segments maxDepth).Reach rootState state) :
    ∃ n, (look segments).WithinDepth n (state.segmentId, state.pointerWord) ∧
      state.depth + n ≤ depthLimit maxDepth + 1 := by
  induction reach with
  | refl => exact ⟨_, shallow, (Nat.add_comm 1 _).le⟩
  | @tail state state' _ edge ih =>
    obtain ⟨n, within, bound⟩ := ih
    obtain ⟨children, expanded, child⟩ := edge
    obtain ⟨target, found, -, rfl⟩ := (expand_eq_ok accepted).1 expanded
    obtain ⟨slot, behind, rfl⟩ := List.mem_map.1 (List.mem_reverse.1 child)
    cases n with
    | zero =>
      cases found.symm.trans within
      cases behind
    | succ n =>
      obtain ⟨target', found', next⟩ := within
      cases found.symm.trans found'
      have := nextDepth_le state.depth
      exact ⟨n, next slot behind, by show nextDepth state.depth + n ≤ _; omega⟩

theorem enforceNestingDepth_of_withinDepth {segments : List Bytes} {maxDepth : Option JsNumber}
    (accepted : Accepted maxDepth)
    (shallow : (look segments).WithinDepth (depthLimit maxDepth) (0, 0)) :
    enforceNestingDepth segments maxDepth = .ok () := by
  obtain ⟨target, found⟩ := shallow.found
  have root : inRange segments 0 0 1 = true := look_inRange found
  rw [enforceNestingDepth_eq_ok accepted root]
  cases result : (walk segments maxDepth).run (maxTurns segments) [rootState] [] with
  | none => exact absurd result (run_ne_none accepted root)
  | some result' =>
    cases result' with
    | ok seen => exact ⟨seen, rfl⟩
    | error e =>
      obtain ⟨start, head, state, reach, failed⟩ := Worklist.run_error result
      rw [List.mem_singleton.1 head] at reach
      obtain ⟨n, within, bound⟩ := within_of_reach accepted shallow reach
      have fine : ∃ children, (walk segments maxDepth).expand state = .ok children := by
        cases n with
        | zero => exact ⟨_, (expand_eq_ok accepted).2 ⟨.null, within, fun h => absurd rfl h, rfl⟩⟩
        | succ n =>
          obtain ⟨target, found, -⟩ := within
          exact ⟨_, (expand_eq_ok accepted).2 ⟨target, found, fun _ => by omega, rfl⟩⟩
      obtain ⟨children, expanded⟩ := fine
      cases expanded.symm.trans failed

/-! ### What it rejects -/

theorem stateKey_eq (s : ℕ) {p d : ℕ} (pointer : p < 2 ^ 32) (depth : d < 2 ^ 8) :
    stateKey ⟨s, p, d⟩ = s * 2 ^ 40 + p * 2 ^ 8 + d := by
  have low : d + p * 2 ^ 8 < 2 ^ 40 := by omega
  show s <<< 40 ||| p <<< 8 ||| d = _
  rw [Nat.lor_assoc, Nat.lor_comm (p <<< 8), BitField.or_shiftLeft depth, Nat.lor_comm,
    BitField.or_shiftLeft low]
  omega

/-- Segments as the segment table can declare them. -/
def Declarable (segments : List Bytes) : Prop := ∀ segment ∈ segments, segment.length / 8 < 2 ^ 32

theorem reach_bounds {segments : List Bytes} {maxDepth : Option JsNumber}
    (accepted : Accepted maxDepth) (declarable : Declarable segments)
    {state : PointerState} (reach : (walk segments maxDepth).Reach rootState state) :
    state.pointerWord < 2 ^ 32 ∧ state.depth ≤ depthLimit maxDepth + 1 := by
  induction reach with
  | refl => exact ⟨by decide, Nat.le_add_left 1 _⟩
  | @tail state state' _ edge ih =>
    obtain ⟨children, expanded, child⟩ := edge
    obtain ⟨target, found, deep, rfl⟩ := (expand_eq_ok accepted).1 expanded
    obtain ⟨slot, behind, rfl⟩ := List.mem_map.1 (List.mem_reverse.1 child)
    obtain ⟨segment, known, -, high⟩ := inRange_iff.1 (look_slots found behind)
    have := declarable segment (List.mem_of_getElem? known)
    have present : target ≠ .null := fun null => by
      rw [null] at behind
      cases behind
    have := deep present
    have := nextDepth_le state.depth
    exact ⟨by show slot.2 < _; omega, by show nextDepth state.depth ≤ _; omega⟩

/-- A state that is reached lies at the end of a chain as long as it is deep. -/
theorem chain_of_reach {segments : List Bytes} {maxDepth : Option JsNumber}
    (accepted : Accepted maxDepth) {state : PointerState}
    (reach : (walk segments maxDepth).Reach rootState state) :
    1 ≤ state.depth ∧ ∀ n, (look segments).Chain n (state.segmentId, state.pointerWord) →
      (look segments).Chain (n + (state.depth - 1)) (0, 0) := by
  induction reach with
  | refl => exact ⟨le_rfl, fun n chain => chain⟩
  | @tail state state' _ edge ih =>
    obtain ⟨positive, extend⟩ := ih
    obtain ⟨children, expanded, child⟩ := edge
    obtain ⟨target, found, -, rfl⟩ := (expand_eq_ok accepted).1 expanded
    obtain ⟨slot, behind, rfl⟩ := List.mem_map.1 (List.mem_reverse.1 child)
    have present : target ≠ .null := fun null => by
      rw [null] at behind
      cases behind
    have next : nextDepth state.depth ≤ state.depth + 1 := nextDepth_le state.depth
    refine ⟨?_, fun n chain => ?_⟩
    · show 1 ≤ nextDepth state.depth
      unfold nextDepth
      omega
    · have longer := extend (n + 1) ⟨target, found, present, .inr ⟨slot, behind, chain⟩⟩
      refine longer.mono ?_
      show n + (nextDepth state.depth - 1) ≤ n + 1 + (state.depth - 1)
      omega

/-- The depths that the walk counts fit in the byte that a key has for them. -/
def DepthsFit (segments : List Bytes) (maxDepth : Option JsNumber) : Prop :=
  depthLimit maxDepth ≤ 254 ∨ ¬ (look segments).Chain 255 (0, 0)

theorem state_bounds {segments : List Bytes} {maxDepth : Option JsNumber}
    (accepted : Accepted maxDepth) (declarable : Declarable segments)
    (fit : DepthsFit segments maxDepth) {state : PointerState}
    (reach : (walk segments maxDepth).Reach rootState state) :
    state.pointerWord < 2 ^ 32 ∧ state.depth < 2 ^ 8 := by
  obtain ⟨pointer, depth⟩ := reach_bounds accepted declarable reach
  refine ⟨pointer, ?_⟩
  obtain low | short := fit
  · omega
  · by_contra deep
    obtain ⟨-, extend⟩ := chain_of_reach accepted reach
    exact short ((extend 0 trivial).mono (by omega))

/-- Where the depths fit in their byte, a key stands for one state. -/
theorem keys_distinct {segments : List Bytes} {maxDepth : Option JsNumber}
    (accepted : Accepted maxDepth) (declarable : Declarable segments)
    (fit : DepthsFit segments maxDepth) (s t : PointerState)
    (reachS : (walk segments maxDepth).Reach rootState s)
    (reachT : (walk segments maxDepth).Reach rootState t) (same : stateKey s = stateKey t) :
    s = t := by
  obtain ⟨ps, ds⟩ := state_bounds accepted declarable fit reachS
  obtain ⟨pt, dt⟩ := state_bounds accepted declarable fit reachT
  obtain ⟨ss, sp, sd⟩ := s
  obtain ⟨ts, tp, td⟩ := t
  simp only [PointerState.mk.injEq] at ps ds pt dt ⊢
  rw [stateKey_eq ss ps ds, stateKey_eq ts pt dt] at same
  omega

theorem withinDepth_of_enforceNestingDepth {segments : List Bytes} {maxDepth : Option JsNumber}
    (accepted : Accepted maxDepth) (declarable : Declarable segments)
    (fit : DepthsFit segments maxDepth) (root : inRange segments 0 0 1 = true)
    (passed : enforceNestingDepth segments maxDepth = .ok ()) :
    (look segments).WithinDepth (depthLimit maxDepth) (0, 0) := by
  obtain ⟨seen, finished⟩ := (enforceNestingDepth_eq_ok accepted root).1 passed
  have complete := fun state => Worklist.run_complete finished
    (keys_distinct accepted declarable fit) (s := state)
  -- below a state that is reached, there is as much room as the depth limit leaves
  suffices ∀ n state, (walk segments maxDepth).Reach rootState state →
      state.depth + n = depthLimit maxDepth + 1 →
      (look segments).WithinDepth n (state.segmentId, state.pointerWord) by
    exact this _ rootState .refl (Nat.add_comm 1 _)
  intro n
  induction n with
  | zero =>
    intro state reach bottom
    obtain ⟨children, expanded⟩ := complete state reach
    obtain ⟨target, found, deep, -⟩ := (expand_eq_ok accepted).1 expanded
    have null : target = .null := by
      by_contra present
      have := deep present
      omega
    rw [null] at found
    exact found
  | succ n ih =>
    intro state reach room
    obtain ⟨children, expanded⟩ := complete state reach
    obtain ⟨target, found, -, rfl⟩ := (expand_eq_ok accepted).1 expanded
    refine ⟨target, found, fun slot behind => ih ⟨slot.1, slot.2, nextDepth state.depth⟩ ?_ ?_⟩
    · refine reach.tail ⟨_, expanded, List.mem_reverse.2 (List.mem_map.2 ⟨slot, behind, rfl⟩)⟩
    · have := (state_bounds accepted declarable fit reach).2
      show nextDepth state.depth + n = _
      unfold nextDepth
      omega

/-! ## Validated frames -/

theorem validateCapnpFrame_eq_ok {frame : Bytes} {limits : CapnpFrameLimitsOptions} :
    validateCapnpFrame frame limits = .ok () ↔ Admitted frame limits ∧
      enforceNestingDepth (segmentsOf frame) limits.maxNestingDepth = .ok () := by
  unfold validateCapnpFrame
  simp only [Fallible.throw_eq_error, Fallible.pure_eq_ok, Fallible.bind_eq_ok]
  constructor
  · rintro ⟨parsed, parsed_ok, _, passed, -⟩
    obtain ⟨admitted, rfl⟩ := parseFrame_eq_ok.1 parsed_ok
    exact ⟨admitted, passed⟩
  · rintro ⟨admitted, passed⟩
    refine ⟨_, parseFrame_eq_ok.2 ⟨admitted, rfl⟩, (), passed, ?_⟩
    rw [if_neg (Bool.eq_false_iff.1 admitted.words)]

theorem segmentsOf_declarable (frame : Bytes) : Declarable (segmentsOf frame) :=
  fun _ mem => segment_small mem

/-- The copier takes the depth limit as it is. -/
theorem copyLimit_maxDepth {maxDepth : Option JsNumber} (accepted : Accepted maxDepth)
    (low : depthLimit maxDepth ≤ 254) : copyLimit maxDepth 64 "maxDepth" =
      .ok (depthLimit maxDepth) := by
  cases maxDepth with
  | none => rfl
  | some x =>
    obtain ⟨integer, nonneg⟩ := accepted
    have small : x.trunc.toNat ≤ 254 := low
    have safe : x.isSafeInteger = true := by
      unfold JsNumber.isSafeInteger
      rw [integer, Bool.true_and, decide_eq_true_iff]
      omega
    unfold copyLimit
    simp only [safe, Bool.true_eq_false, false_or]
    rw [if_neg (by omega)]
    rfl

/-- **A validated frame can be read.**  Where the root word exists, no double-far pointer is met and
the depth limit leaves the depth in its byte, the tree of a validated frame is in bounds and within
the depth limit, and a copy of it can fail at the limits of the copy only. -/
theorem validated_frame_reads {frame : Bytes} {limits : CapnpFrameLimitsOptions} {r : MessageReader}
    (passed : validateCapnpFrame frame limits = .ok ())
    (opened : MessageReader.ofBytes frame = .ok r) (root : inRange r.segments 0 0 1 = true)
    (near : NoDoubleFar r.segments) (low : depthLimit limits.maxNestingDepth ≤ 254) :
    ∃ t, r.Reads 0 0 t ∧ t.depth ≤ depthLimit limits.maxNestingDepth ∧
      ∀ maxWork maxOutputWords e, decodeAnyPointerMessageFromReader r 0 0
          ⟨maxWork, maxOutputWords, limits.maxNestingDepth⟩ = .error e →
        CopyLimited ⟨maxWork, maxOutputWords, limits.maxNestingDepth⟩ e := by
  obtain ⟨admitted, walked⟩ := validateCapnpFrame_eq_ok.1 passed
  cases admitted.reader.symm.trans opened
  have accepted := admitted.options.2.2.2
  have within := withinDepth_of_enforceNestingDepth accepted (segmentsOf_declarable frame)
    (.inl low) root walked
  have seen : (MessageReader.look ⟨segmentsOf frame⟩).WithinDepth
      (depthLimit limits.maxNestingDepth) (0, 0) := by
    refine within.congr fun slot reach => (near.look_eq (reach.congr fun slot' reach' => ?_)).symm
    exact near.look_eq reach'
  obtain ⟨t, reads, shallow⟩ := MessageReader.withinDepth_iff_reads.1 seen
  refine ⟨t, reads, shallow, fun maxWork maxOutputWords e failed => ?_⟩
  exact copyLimited_of_shallow reads (copyLimit_maxDepth accepted low) shallow failed

/-- A frame of two segments: a far pointer to a struct of one word. -/
def farFrame : Bytes :=
  [1, 0, 0, 0, 1, 0, 0, 0, 2, 0, 0, 0, 0, 0, 0, 0] ++ farSource.segments.flatten

theorem farFrame_reads : ∃ t, farSource.Reads 0 0 t ∧ t.depth ≤ 64 ∧
    ∀ maxWork maxOutputWords e,
      decodeAnyPointerMessageFromReader farSource 0 0 ⟨maxWork, maxOutputWords, none⟩ = .error e →
        CopyLimited ⟨maxWork, maxOutputWords, none⟩ e := by
  have passed : validateCapnpFrame farFrame noLimits = .ok () := by decide
  have opened : MessageReader.ofBytes farFrame = .ok farSource := by decide
  have root : inRange farSource.segments 0 0 1 = true := by decide
  have near : NoDoubleFar farSource.segments := by
    intro slot reach
    have leaf : (MessageReader.look ⟨farSource.segments⟩) (0, 0) =
        some (.object (.struct 1 0) 1 1) := by decide
    obtain rfl | ⟨slot', ⟨target, found, behind⟩, -⟩ := Relation.ReflTransGen.cases_head reach
    · decide
    · cases leaf.symm.trans found
      cases behind
  exact validated_frame_reads passed opened root near (by decide)

/-- A frame whose only segment is empty is accepted, and has no root pointer to read. -/
theorem empty_segment_accepted :
    validateCapnpFrame [0, 0, 0, 0, 0, 0, 0, 0] noLimits = .ok () ∧
      MessageReader.ofBytes [0, 0, 0, 0, 0, 0, 0, 0] = .ok ⟨[[]]⟩ ∧
      (∀ t, ¬ MessageReader.Reads ⟨[[]]⟩ 0 0 t) ∧
      decodeAnyPointerMessageFromReader ⟨[[]]⟩ 0 0 .default =
        .error (plainError "readWord out of range: segment=0 word=0 count=1 words=0") := by
  refine ⟨by decide, by decide, fun t reads => ?_, by decide⟩
  have unreadable : (MessageReader.look ⟨[[]]⟩) (0, 0) = none := by decide
  obtain ⟨target, found⟩ : ∃ target, MessageReader.locate ⟨[[]]⟩ 0 0 = .ok target := by
    cases reads with
    | null target => exact ⟨_, target⟩
    | capability target => exact ⟨_, target⟩
    | object target => exact ⟨_, target⟩
  cases unreadable.symm.trans (MessageReader.look_eq_some.2 found)

/-! ### Well-formed frames -/

/-- **What is rejected.**  A frame of admissible size whose tree is in bounds and within the depth
limit is accepted if it is so also in the validator's own graph, which takes the content of
double-far pointers one word late; and only then, where the depth limit leaves the depth in its
byte.  The two graphs are one when no double-far pointer is met. -/
theorem wellFormed_frame_accepted {frame : Bytes} {limits : CapnpFrameLimitsOptions}
    {r : MessageReader} (admitted : Admitted frame limits)
    (opened : MessageReader.ofBytes frame = .ok r)
    (wellFormed : r.look.WithinDepth (depthLimit limits.maxNestingDepth) (0, 0)) :
    ((look r.segments).WithinDepth (depthLimit limits.maxNestingDepth) (0, 0) →
      validateCapnpFrame frame limits = .ok ()) ∧
    (depthLimit limits.maxNestingDepth ≤ 254 → validateCapnpFrame frame limits = .ok () →
      (look r.segments).WithinDepth (depthLimit limits.maxNestingDepth) (0, 0)) ∧
    (NoDoubleFar r.segments →
      (look r.segments).WithinDepth (depthLimit limits.maxNestingDepth) (0, 0)) := by
  cases admitted.reader.symm.trans opened
  have accepted := admitted.options.2.2.2
  refine ⟨fun late => ?_, fun low passed => ?_, fun near => ?_⟩
  · exact validateCapnpFrame_eq_ok.2 ⟨admitted, enforceNestingDepth_of_withinDepth accepted late⟩
  · obtain ⟨target, found⟩ := wellFormed.found
    have root := MessageReader.look_inRange found
    exact withinDepth_of_enforceNestingDepth accepted (segmentsOf_declarable frame) (.inl low) root
      (validateCapnpFrame_eq_ok.1 passed).2
  · exact wellFormed.congr fun slot reach => near.look_eq reach

theorem farFrame_accepted :
    ((look farSource.segments).WithinDepth 64 (0, 0) →
      validateCapnpFrame farFrame noLimits = .ok ()) ∧
    (64 ≤ 254 → validateCapnpFrame farFrame noLimits = .ok () →
      (look farSource.segments).WithinDepth 64 (0, 0)) ∧
    (NoDoubleFar farSource.segments → (look farSource.segments).WithinDepth 64 (0, 0)) := by
  have admitted : Admitted farFrame noLimits :=
    ⟨⟨trivial, trivial, trivial, trivial⟩, by decide, by decide, by decide, by decide⟩
  have opened : MessageReader.ofBytes farFrame = .ok farSource := by decide
  have shallow : farSource.look.WithinDepth 64 (0, 0) :=
    ⟨.object (.struct 1 0) 1 1, by decide, nofun⟩
  exact wellFormed_frame_accepted admitted opened shallow

/-- A double-far pointer to a struct at the end of its segment. -/
def doubleFarFrame : Bytes :=
  [2, 0, 0, 0, 1, 0, 0, 0, 2, 0, 0, 0, 1, 0, 0, 0] ++
    [6, 0, 0, 0, 1, 0, 0, 0] ++
    [2, 0, 0, 0, 2, 0, 0, 0, 0, 0, 0, 0, 1, 0, 0, 0] ++
    [42, 0, 0, 0, 0, 0, 0, 0]

/-- The struct is in bounds for the reader, and one word out of bounds for the validator. -/
theorem doubleFarFrame_rejected :
    Admitted doubleFarFrame noLimits ∧
      ∃ r, MessageReader.ofBytes doubleFarFrame = .ok r ∧
        r.resolvePointer 0 0 = .ok ⟨2, -1, structWord 0 1 0, some 0⟩ ∧
        r.look.WithinDepth 1 (0, 0) ∧
        validateCapnpFrame doubleFarFrame noLimits = .error (protocolError
          "struct pointer target out of range: segment=2 start=1 words=1 segmentWords=1") := by
  refine ⟨?_, ⟨segmentsOf doubleFarFrame⟩, by decide, by decide, ?_, by decide⟩
  · exact ⟨⟨trivial, trivial, trivial, trivial⟩, by decide, by decide, by decide, by decide⟩
  · exact ⟨.object (.struct 1 0) 2 0, by decide, nofun⟩

/-! ### Chains -/

/-- A frame with a chain of more pointers than the depth limit allows, as the reader follows them,
does not get through; and the walk skips only what it has visited. -/
def RejectsChains (frame : Bytes) (limits : CapnpFrameLimitsOptions) : Prop :=
  ((MessageReader.look ⟨segmentsOf frame⟩).Chain (depthLimit limits.maxNestingDepth + 1) (0, 0) →
    ∃ e, validateCapnpFrame frame limits = .error e) ∧
  ¬ (walk (segmentsOf frame) limits.maxNestingDepth).Skips rootState

/-- The frame has too long a chain, but everything is in bounds and shallow enough where the content
of each double-far pointer is taken one word late. -/
def Misread (frame : Bytes) (limits : CapnpFrameLimitsOptions) : Prop :=
  (MessageReader.look ⟨segmentsOf frame⟩).Chain (depthLimit limits.maxNestingDepth + 1) (0, 0) ∧
    (look (segmentsOf frame)).WithinDepth (depthLimit limits.maxNestingDepth) (0, 0)

theorem NoDoubleFar.not_misread {frame : Bytes} {limits : CapnpFrameLimitsOptions}
    (near : NoDoubleFar (segmentsOf frame)) : ¬ Misread frame limits := by
  rintro ⟨chain, within⟩
  exact within.not_chain (chain.congr fun slot reach => near.look_eq reach)

theorem Chain_found {look : PointerGraph} {n : ℕ} {slot : Slot} (chain : look.Chain (n + 1) slot) :
    ∃ target, look slot = some target := by
  obtain ⟨target, found, -⟩ := chain
  exact ⟨target, found⟩

theorem rejectsChains_of_fit {frame : Bytes} {limits : CapnpFrameLimitsOptions}
    (admitted : Admitted frame limits)
    (fit : DepthsFit (segmentsOf frame) limits.maxNestingDepth) :
    RejectsChains frame limits ↔ ¬ Misread frame limits := by
  have accepted := admitted.options.2.2.2
  constructor
  · rintro ⟨rejects, -⟩ ⟨chain, within⟩
    obtain ⟨e, failed⟩ := rejects chain
    have passed := enforceNestingDepth_of_withinDepth accepted within
    cases failed.symm.trans (validateCapnpFrame_eq_ok.2 ⟨admitted, passed⟩)
  · intro clear
    refine ⟨fun chain => ?_,
      Worklist.not_skips (keys_distinct accepted (segmentsOf_declarable frame) fit)⟩
    cases result : validateCapnpFrame frame limits with
    | error e => exact ⟨e, rfl⟩
    | ok u =>
      obtain ⟨target, found⟩ := Chain_found chain
      have root := MessageReader.look_inRange found
      exact absurd ⟨chain, withinDepth_of_enforceNestingDepth accepted (segmentsOf_declarable frame)
        fit root (validateCapnpFrame_eq_ok.1 result).2⟩ clear

/-- A struct whose second pointer pair is its own: every path to word 2 is a cycle. -/
def cyclicFrame : Bytes :=
  [0, 0, 0, 0, 4, 0, 0, 0] ++
    [4, 0, 0, 0, 0, 0, 2, 0] ++ [0, 0, 0, 0, 0, 0, 0, 0] ++
    [252, 255, 255, 255, 0, 0, 2, 0] ++ [0, 0, 0, 0, 0, 0, 0, 0]

theorem cyclicFrame_root :
    look (segmentsOf cyclicFrame) (0, 0) = some (.object (.struct 0 2) 0 2) := by decide

theorem cyclicFrame_loop :
    look (segmentsOf cyclicFrame) (0, 2) = some (.object (.struct 0 2) 0 2) := by decide

theorem cyclicFrame_null : look (segmentsOf cyclicFrame) (0, 3) = some .null := by decide

theorem cyclicFrame_chain (n : ℕ) :
    (MessageReader.look ⟨segmentsOf cyclicFrame⟩).Chain n (0, 0) := by
  have root : MessageReader.look ⟨segmentsOf cyclicFrame⟩ (0, 0) =
      some (.object (.struct 0 2) 0 2) := by decide
  have loop : MessageReader.look ⟨segmentsOf cyclicFrame⟩ (0, 2) =
      some (.object (.struct 0 2) 0 2) := by decide
  cases n with
  | zero => trivial
  | succ n =>
    have behind := PointerGraph.chain_of_loop loop (by simp) (by decide) n
    exact ⟨_, root, by simp, .inr ⟨(0, 2), by decide, behind⟩⟩

theorem cyclicFrame_expand {maxDepth : Option JsNumber} (accepted : Accepted maxDepth) (d : ℕ) :
    (walk (segmentsOf cyclicFrame) maxDepth).expand ⟨0, 3, d⟩ = .ok [] ∧
      (d ≤ depthLimit maxDepth → (walk (segmentsOf cyclicFrame) maxDepth).expand ⟨0, 2, d⟩ =
        .ok [⟨0, 3, nextDepth d⟩, ⟨0, 2, nextDepth d⟩]) :=
  ⟨(expand_eq_ok accepted).2 ⟨_, cyclicFrame_null, fun present => absurd rfl present, rfl⟩,
    fun shallow => (expand_eq_ok accepted).2 ⟨_, cyclicFrame_loop, fun _ => shallow, rfl⟩⟩

/-- Round by round down to depth 256, where the states of words 2 and 3 share a key and the walk
gives up the cycle. -/
theorem cyclicFrame_run {maxDepth : Option JsNumber} (accepted : Accepted maxDepth)
    (high : 255 ≤ depthLimit maxDepth) (n : ℕ) : ∀ (d steps : ℕ) (seen : List ℕ), d + n = 256 →
      2 ≤ d → 2 * n + 2 ≤ steps → (∀ k ∈ seen, k < 512 + d ∨ 770 ≤ k ∧ k < 768 + d) →
      ∃ seen', (walk (segmentsOf cyclicFrame) maxDepth).run steps [⟨0, 3, d⟩, ⟨0, 2, d⟩] seen =
        some (.ok seen') := by
  induction n with
  | zero =>
    intro d steps seen bottom _ enough old
    obtain rfl : d = 256 := bottom
    obtain ⟨steps, rfl⟩ := Nat.exists_eq_add_of_le' enough
    have fresh : stateKey ⟨0, 3, 256⟩ ∉ seen := fun mem => by
      have key : stateKey ⟨0, 3, 256⟩ = 768 := by decide
      have := old _ mem
      omega
    have again : stateKey ⟨0, 2, 256⟩ ∈ stateKey ⟨0, 3, 256⟩ :: seen := by
      rw [show stateKey ⟨0, 2, 256⟩ = stateKey ⟨0, 3, 256⟩ from by decide]
      exact List.mem_cons_self
    refine ⟨stateKey ⟨0, 3, 256⟩ :: seen, ?_⟩
    exact (Worklist.run_visit fresh (cyclicFrame_expand accepted 256).1).trans
      ((Worklist.run_skip again).trans (by cases steps <;> rfl))
  | succ n ih =>
    intro d steps seen room low enough old
    obtain ⟨steps, rfl⟩ := Nat.exists_eq_add_of_le' (show 2 ≤ steps by omega)
    have key3 : stateKey ⟨0, 3, d⟩ = 768 + d :=
      (stateKey_eq 0 (by decide) (show d < 2 ^ 8 by omega)).trans (by omega)
    have key2 : stateKey ⟨0, 2, d⟩ = 512 + d :=
      (stateKey_eq 0 (by decide) (show d < 2 ^ 8 by omega)).trans (by omega)
    have fresh3 : stateKey ⟨0, 3, d⟩ ∉ seen := fun mem => by
      have := old _ mem
      omega
    have fresh2 : stateKey ⟨0, 2, d⟩ ∉ stateKey ⟨0, 3, d⟩ :: seen := fun mem => by
      obtain same | mem := List.mem_cons.1 mem
      · omega
      · have := old _ mem
        omega
    have next : nextDepth d = d + 1 := by
      unfold nextDepth
      omega
    obtain ⟨seen', finished⟩ := ih (d + 1) steps (stateKey ⟨0, 2, d⟩ :: stateKey ⟨0, 3, d⟩ :: seen)
      (by omega) (by omega) (by omega) (by
        intro k mem
        obtain rfl | mem := List.mem_cons.1 mem
        · omega
        obtain rfl | mem := List.mem_cons.1 mem
        · omega
        · have := old k mem
          omega)
    have expanded := (cyclicFrame_expand accepted d).2 (by omega)
    rw [next] at expanded
    refine ⟨seen', ?_⟩
    exact (Worklist.run_visit fresh3 (cyclicFrame_expand accepted d).1).trans
      ((Worklist.run_visit fresh2 expanded).trans finished)

theorem cyclicFrame_accepted {maxDepth : Option JsNumber} (accepted : Accepted maxDepth)
    (high : 255 ≤ depthLimit maxDepth) :
    Admitted cyclicFrame ⟨none, none, none, maxDepth⟩ ∧
      validateCapnpFrame cyclicFrame ⟨none, none, none, maxDepth⟩ = .ok () := by
  have admitted : Admitted cyclicFrame ⟨none, none, none, maxDepth⟩ :=
    ⟨⟨trivial, trivial, trivial, accepted⟩, by decide, rfl, rfl, rfl⟩
  refine ⟨admitted, validateCapnpFrame_eq_ok.2 ⟨admitted, ?_⟩⟩
  have expanded : (walk (segmentsOf cyclicFrame) maxDepth).expand rootState =
      .ok [⟨0, 3, 2⟩, ⟨0, 2, 2⟩] :=
    (expand_eq_ok accepted).2 ⟨_, cyclicFrame_root, fun _ => by show 1 ≤ _; omega, rfl⟩
  obtain ⟨turns, enough⟩ : ∃ turns, maxTurns (segmentsOf cyclicFrame) = turns + 600 :=
    Nat.exists_eq_add_of_le' (by decide)
  rw [enforceNestingDepth_eq_ok accepted (by decide), enough]
  obtain ⟨seen, finished⟩ := cyclicFrame_run accepted high 254 2 (turns + 599) [stateKey rootState]
    (by decide) (by decide) (by omega) (by decide)
  exact ⟨seen, (Worklist.run_visit List.not_mem_nil expanded).trans finished⟩

theorem cyclicFrame_noDoubleFar : NoDoubleFar (segmentsOf cyclicFrame) := by
  have root : MessageReader.look ⟨segmentsOf cyclicFrame⟩ (0, 0) =
      some (.object (.struct 0 2) 0 2) := by decide
  have loop : MessageReader.look ⟨segmentsOf cyclicFrame⟩ (0, 2) =
      some (.object (.struct 0 2) 0 2) := by decide
  have leaf : MessageReader.look ⟨segmentsOf cyclicFrame⟩ (0, 3) = some .null := by decide
  have slots : (Target.object (.struct 0 2) 0 2).slots = [(0, 2), (0, 3)] := by decide
  intro slot reach
  have known : slot = (0, 0) ∨ slot = (0, 2) ∨ slot = (0, 3) := by
    induction reach with
    | refl => exact .inl rfl
    | tail _ edge ih =>
      obtain ⟨target, found, behind⟩ := edge
      obtain rfl | rfl | rfl := ih
      · cases root.symm.trans found
        rw [slots, List.mem_pair] at behind
        exact .inr behind
      · cases loop.symm.trans found
        rw [slots, List.mem_pair] at behind
        exact .inr behind
      · cases leaf.symm.trans found
        cases behind
  obtain rfl | rfl | rfl := known <;> decide

/-- A double-far pointer to a struct whose only pointer is its own; behind the struct lies a null
word. -/
def doubleFarCycle : Bytes :=
  [2, 0, 0, 0, 1, 0, 0, 0, 2, 0, 0, 0, 2, 0, 0, 0] ++
    [6, 0, 0, 0, 1, 0, 0, 0] ++
    [2, 0, 0, 0, 2, 0, 0, 0, 0, 0, 0, 0, 0, 0, 1, 0] ++
    [252, 255, 255, 255, 0, 0, 1, 0] ++ [0, 0, 0, 0, 0, 0, 0, 0]

theorem doubleFarCycle_chain (n : ℕ) :
    (MessageReader.look ⟨segmentsOf doubleFarCycle⟩).Chain n (0, 0) := by
  have root : MessageReader.look ⟨segmentsOf doubleFarCycle⟩ (0, 0) =
      some (.object (.struct 0 1) 2 0) := by decide
  have loop : MessageReader.look ⟨segmentsOf doubleFarCycle⟩ (2, 0) =
      some (.object (.struct 0 1) 2 0) := by decide
  cases n with
  | zero => trivial
  | succ n =>
    have behind := PointerGraph.chain_of_loop loop (by simp) (by decide) n
    exact ⟨_, root, by simp, .inr ⟨(2, 0), by decide, behind⟩⟩

/-- The validator finds the null word in the struct. -/
theorem doubleFarCycle_shallow :
    (look (segmentsOf doubleFarCycle)).WithinDepth (depthLimit noLimits.maxNestingDepth)
    (0, 0) := by
  have root : look (segmentsOf doubleFarCycle) (0, 0) =
      some (.object (.struct 0 1) 2 1) := by decide
  have leaf : look (segmentsOf doubleFarCycle) (2, 1) = some .null := by decide
  refine ⟨_, root, fun slot behind => ?_⟩
  have slots : (Target.object (.struct 0 1) 2 1).slots = [(2, 1)] := by decide
  rw [slots, List.mem_singleton] at behind
  rw [behind]
  exact ⟨.null, leaf, fun slot none => by cases none⟩

end FrameLimits

end CapnpDeno
