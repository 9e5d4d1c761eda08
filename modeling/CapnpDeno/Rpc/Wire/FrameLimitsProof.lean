import CapnpDeno.Encoding.Locate
import CapnpDeno.Encoding.PointerGraph
import CapnpDeno.Rpc.Wire.FrameLimits

/-!
# The validator against the reader

Where no double-far pointer is met, the validator's pointer code resolves a slot to what
`MessageReader` finds there, so that one turn of its walk (`visit_spec`) is a look at one slot of
the reader's pointer graph.
-/

namespace CapnpDeno

open ByteList

namespace FrameLimits

/-! ## The same primitives -/

theorem requireWordRange_toOption (segments : List Bytes) (s : ℕ) (start : ℤ) (count : ℕ)
    (context : String) : (requireWordRange segments s start count context).toOption =
      if inRange segments s start count then some () else none := by
  unfold requireWordRange inRange
  cases segments[s]? with
  | none => rfl
  | some segment =>
    simp only [Fallible.throw_eq_error, Fallible.error_bind, Fallible.pure_eq_ok,
      Fallible.toOption_ite, Fallible.toOption_error, Fallible.toOption_ok, WORD_BYTES,
      decide_eq_true_eq]
    by_cases low : start < 0
    · rw [if_pos low, if_neg (by omega)]
    by_cases high : start + count > (segment.length / 8 : ℕ)
    · rw [if_neg low, if_pos high, if_neg (by omega)]
    · rw [if_neg low, if_neg high, if_pos (by omega)]

theorem readWordAt_toOption (segments : List Bytes) (s : ℕ) (start : ℤ) (context : String) :
    (readWordAt segments s start context).toOption =
      if inRange segments s start 1 then some (wordAt segments s start.toNat) else none := by
  unfold readWordAt
  rw [Fallible.toOption_bind, requireWordRange_toOption]
  cases inRange segments s start 1 with
  | false => rfl
  | true =>
    show some (readLE _ (start.toNat * WORD_BYTES) 8) = _
    rw [Nat.mul_comm]
    rfl

theorem wordsForFlatList_toOption (es n : ℕ) :
    (wordsForFlatList es n).toOption = if es < 7 then some (flatWords es n) else none := by
  match es with
  | 0 | 1 | 2 | 5 | 6 => rfl
  | 3 =>
    show some ((n + 3) / 4) = some ((n * 2 + 7) / 8)
    rw [Option.some.injEq]
    omega
  | 4 =>
    show some ((n + 1) / 2) = some ((n * 4 + 7) / 8)
    rw [Option.some.injEq]
    omega
  | k + 7 =>
    rw [if_neg (by omega)]
    rfl

theorem asSigned30_eq (raw : ℕ) : asSigned30 raw = signed30 raw := rfl

/-! ## Far pointers -/

/-- Following the word through single-far landing pads ends at a double-far pointer. -/
def meetsDoubleFar (segments : List Bytes) : ℕ → ℕ → Bool
  | 0, _ => false
  | hops + 1, word =>
    if word % 4 ≠ 2 then false
    else if word / 4 % 2 = 1 then true
    else
      let landingSegmentId : ℕ := word / 2 ^ 32 % 2 ^ 32
      let landingPadWord : ℕ := word / 8 % 2 ^ 29
      inRange segments landingSegmentId landingPadWord 1 &&
        meetsDoubleFar segments hops (wordAt segments landingSegmentId landingPadWord)

/-- The pointer at the slot is a double-far pointer, or leads to one through far pointers. -/
def slotMeetsDoubleFar (segments : List Bytes) (segmentId pointerWord : ℕ) : Bool :=
  inRange segments segmentId pointerWord 1 &&
    meetsDoubleFar segments POINTER_HOP_LIMIT (wordAt segments segmentId pointerWord)

/-- The validator's result in the reader's terms. -/
def ResolvedPointer.toReader (resolved : ResolvedPointer) : CapnpDeno.ResolvedPointer :=
  ⟨resolved.segmentId, resolved.pointerWord, resolved.word, none⟩

theorem and_doubleFar (w : ℕ) : (w >>> 2) &&& 0x1 = w / 4 % 2 :=
  shift_and (show 0x1 = 2 ^ 1 - 1 from rfl)

theorem resolveHops_agree {segments : List Bytes} {hops word : ℕ}
    (near : meetsDoubleFar segments hops word = false) (s p : ℕ) :
    (MessageReader.resolveHops ⟨segments⟩ hops s p word).toOption =
      (resolveHops segments hops s p word).toOption.map ResolvedPointer.toReader := by
  induction hops generalizing s p word with
  | zero => rfl
  | succ hops ih =>
    unfold meetsDoubleFar at near
    unfold resolveHops MessageReader.resolveHops
    simp only [and_kind, and_landing, and_segment, and_doubleFar]
    by_cases far : word % 4 = 2
    · have single : ¬ word / 4 % 2 = 1 := by
        intro double
        simp [far, double] at near
      simp only [far, ne_eq, not_true_eq_false, if_false, single, not_false_eq_true, if_true,
        Fallible.toOption_bind, readWordAt_toOption, MessageReader.readWord_toOption] at near ⊢
      cases inside : inRange segments (word / 2 ^ 32 % 2 ^ 32) (word / 8 % 2 ^ 29 : ℕ) 1 with
      | false => rfl
      | true =>
        rw [inside, Bool.true_and] at near
        exact ih near _ _
    · simp only [far, ne_eq, not_false_eq_true, if_true, Fallible.pure_eq_ok, Fallible.toOption_ok]
      rfl

theorem resolvePointer_agree {segments : List Bytes} {s p : ℕ}
    (near : slotMeetsDoubleFar segments s p = false) :
    (MessageReader.resolvePointer ⟨segments⟩ s p).toOption =
      (resolvePointer segments s p).toOption.map ResolvedPointer.toReader := by
  unfold resolvePointer MessageReader.resolvePointer
  unfold slotMeetsDoubleFar at near
  simp only [Fallible.toOption_bind, readWordAt_toOption, MessageReader.readWord_toOption]
  cases inside : inRange segments s p 1 with
  | false => rfl
  | true =>
    rw [inside, Bool.true_and] at near
    exact resolveHops_agree near s p

/-! ## One turn of the walk -/

/-- The states of the slots of an object. -/
def statesAt (depth : ℕ) (target : Target) : List PointerState :=
  target.slots.map fun slot => ⟨slot.1, slot.2, depth⟩

theorem statesAt_struct (depth s start dw pc : ℕ) :
    statesAt depth (.object (.struct dw pc) s start) = pointerStates s (start + dw) pc depth := by
  simp [statesAt, Target.slots, Shape.slots, pointerStates, Nat.add_assoc]

theorem statesAt_flat (depth s start es n : ℕ) :
    statesAt depth (.object (.flat es n) s start) =
      if es = 6 then pointerStates s start n depth else [] := by
  by_cases pointers : es = 6 <;> simp [statesAt, Target.slots, Shape.slots, pointerStates, pointers]

theorem statesAt_inlineComposite (depth s start w n dw pc : ℕ) :
    statesAt depth (.object (.inlineComposite w n dw pc) s start) =
      if pc > 0 then (List.range n).flatMap fun i =>
        pointerStates s (start + 1 + i * (dw + pc) + dw) pc depth
      else [] := by
  by_cases pointers : pc > 0
  · simp [statesAt, Target.slots, Shape.slots, pointerStates, pointers, List.map_flatMap,
      Nat.add_assoc, Function.comp_def]
  · obtain rfl : pc = 0 := by omega
    simp [statesAt, Target.slots, Shape.slots]

/-- What the walk does with a target: an object one level further down, unless it lies too deep. -/
def turn (maxDepth : Option JsNumber) (depth : ℕ) (target : Target) : Option (List PointerState) :=
  match target with
  | .null => some []
  | target =>
    if exceeds depth maxDepth DEFAULT_MAX_NESTING_DEPTH then none
    else some (statesAt (nextDepth depth) target)

theorem visit_resolved {segments : List Bytes} {maxDepth : Option JsNumber} {s p depth : ℕ}
    {resolved : ResolvedPointer} (done : resolvePointer segments s p = .ok resolved)
    (present : resolved.word ≠ 0) :
    (visit segments maxDepth ⟨s, p, depth⟩).toOption =
      if exceeds depth maxDepth DEFAULT_MAX_NESTING_DEPTH then none
      else (targetOf segments resolved.segmentId (resolved.pointerWord + 1) resolved.word).map
        (statesAt (nextDepth depth)) := by
  unfold visit targetOf
  simp only [done, Fallible.ok_bind, Fallible.throw_eq_error, Fallible.error_bind,
    Fallible.pure_eq_ok, present, if_false, and_kind, and_offset, and_low16, and_high16,
    and_elementSize, and_count, asSigned30_eq, Fallible.toOption_ite, Fallible.toOption_bind,
    Fallible.toOption_error, Fallible.toOption_ok, requireWordRange_toOption, readWordAt_toOption,
    wordsForFlatList_toOption]
  cases exceeds depth maxDepth DEFAULT_MAX_NESTING_DEPTH with
  | true => rfl
  | false =>
    simp only [Bool.false_eq_true, if_false]
    generalize (resolved.pointerWord : ℤ) + 1 + signed30 (resolved.word / 4 % 2 ^ 30) = start
    have below : resolved.word / 2 ^ 32 % 8 < 8 := Nat.mod_lt _ (by decide)
    have kinds : resolved.word % 4 < 4 := Nat.mod_lt _ (by decide)
    obtain kind | kind | kind | kind : resolved.word % 4 = 0 ∨ resolved.word % 4 = 1 ∨
        resolved.word % 4 = 2 ∨ resolved.word % 4 = 3 := by omega
    · simp only [kind, if_true, if_false, OfNat.zero_ne_ofNat]
      generalize resolved.word / 2 ^ 32 % 2 ^ 16 = dw, resolved.word / 2 ^ 48 % 2 ^ 16 = pc
      cases inRange segments resolved.segmentId start (dw + pc) <;> simp [statesAt_struct]
    · simp only [kind, if_false, OfNat.one_ne_ofNat, one_ne_zero, ne_eq, not_true_eq_false]
      generalize resolved.word / 2 ^ 32 % 8 = es at *
      generalize resolved.word / 2 ^ 35 % 2 ^ 29 = n
      by_cases composite : es = 7
      · rw [if_pos composite, if_pos composite, inRange_split, Nat.cast_one]
        generalize wordAt segments resolved.segmentId start.toNat = tag
        cases inRange segments resolved.segmentId start 1 with
        | false => simp
        | true =>
          simp only [if_true, Option.bind_some]
          generalize tag / 2 ^ 32 % 2 ^ 16 = dw, tag / 2 ^ 48 % 2 ^ 16 = pc,
            tag / 4 % 2 ^ 30 = count
          by_cases tagKind : tag % 4 = 0
          · by_cases long : (dw + pc) * count > n
            · simp [tagKind, not_le.2 long]
            · cases inRange segments resolved.segmentId (start + 1) n with
              | false => simp
              | true =>
                simp only [tagKind, long, not_lt.1 long, not_true_eq_false, if_false, if_true,
                  Option.bind_some, Bool.true_and, true_and, Option.map_some,
                  statesAt_inlineComposite]
                split_ifs <;> rfl
          · simp [tagKind]
      · rw [if_neg composite, if_neg composite, if_pos (show es < 7 by omega), Option.bind_some]
        cases inRange segments resolved.segmentId start (flatWords es n) with
        | false => rfl
        | true =>
          simp only [if_true, Option.bind_some, Option.map_some, statesAt_flat]
          split_ifs <;> rfl
    · simp [kind]
    · simp [kind, statesAt, Target.slots]

/-! ## The validator's graph -/

/-- The pointers as the validator follows them: the content of a double-far pointer is taken to
start one word after the word that its landing pad names. -/
def look (segments : List Bytes) : PointerGraph := fun slot =>
  (resolvePointer segments slot.1 slot.2).toOption.bind fun resolved =>
    if resolved.word = 0 then some .null
    else targetOf segments resolved.segmentId (resolved.pointerWord + 1) resolved.word

/-- A turn of the walk looks at one slot. -/
theorem visit_spec (segments : List Bytes) (maxDepth : Option JsNumber) (state : PointerState) :
    (visit segments maxDepth state).toOption =
      (look segments (state.segmentId, state.pointerWord)).bind (turn maxDepth state.depth) := by
  obtain ⟨s, p, depth⟩ := state
  unfold look
  cases done : resolvePointer segments s p with
  | error e =>
    unfold visit
    simp only [done]
    rfl
  | ok resolved =>
    simp only [Fallible.toOption_ok, Option.bind_some]
    by_cases null : resolved.word = 0
    · unfold visit
      simp only [done, Fallible.ok_bind, null, if_true]
      rfl
    · rw [if_neg null, visit_resolved done null]
      cases target : targetOf segments resolved.segmentId (resolved.pointerWord + 1)
          resolved.word with
      | none =>
        rw [Option.map_none, ite_self]
        rfl
      | some t =>
        cases t with
        | null => exact absurd target targetOf_ne_null
        | capability w => rfl
        | object shape s' start => rfl

/-- Where no double-far pointer is met, the validator sees what the reader sees. -/
theorem look_agree {segments : List Bytes} {slot : Slot}
    (near : slotMeetsDoubleFar segments slot.1 slot.2 = false) :
    look segments slot = MessageReader.look ⟨segments⟩ slot := by
  obtain ⟨s, p⟩ := slot
  have agree := resolvePointer_agree near
  unfold look MessageReader.look
  cases done : resolvePointer segments s p with
  | error e =>
    simp only [] at agree
    rw [done, Fallible.toOption_error, Option.map_none, Fallible.toOption_eq_none] at agree
    obtain ⟨e', failed⟩ := agree
    unfold MessageReader.locate MessageReader.readResolvedPointer
    simp only [failed]
    rfl
  | ok resolved =>
    simp only [] at agree
    rw [done, Fallible.toOption_ok, Option.map_some, Fallible.toOption_eq_some] at agree
    have fine : ¬ (resolved.toReader.badTag ∧ resolved.toReader.word % 4 = 0) := fun h => h.1.1 rfl
    rw [MessageReader.locate_toOption agree, if_neg fine, Fallible.toOption_ok, Option.bind_some]
    by_cases null : resolved.word = 0
    · rw [if_pos (show resolved.toReader.isNull from ⟨null, rfl⟩), if_pos null]
    · rw [if_neg (fun h : resolved.toReader.isNull => null h.1), if_neg null]
      rfl

/-- No pointer that the reader can reach from the root is, or leads to, a double-far pointer. -/
def NoDoubleFar (segments : List Bytes) : Prop :=
  ∀ slot, (MessageReader.look ⟨segments⟩).Reach (0, 0) slot →
    slotMeetsDoubleFar segments slot.1 slot.2 = false

theorem NoDoubleFar.look_eq {segments : List Bytes} (near : NoDoubleFar segments) {slot : Slot}
    (reach : (MessageReader.look ⟨segments⟩).Reach (0, 0) slot) :
    look segments slot = MessageReader.look ⟨segments⟩ slot := look_agree (near slot reach)

/-- A double-far pointer whose landing pad names the word `content` and holds `tag`. -/
structure DoubleFar (segments : List Bytes) (slot : Slot) (segmentId content tag : ℕ) : Prop where
  landing : ∃ landingSegmentId landingPadWord,
    inRange segments slot.1 slot.2 1 = true ∧
    wordAt segments slot.1 slot.2 % 4 = 2 ∧ wordAt segments slot.1 slot.2 / 4 % 2 = 1 ∧
    wordAt segments slot.1 slot.2 / 8 % 2 ^ 29 = landingPadWord ∧
    wordAt segments slot.1 slot.2 / 2 ^ 32 % 2 ^ 32 = landingSegmentId ∧
    inRange segments landingSegmentId landingPadWord 2 = true ∧
    wordAt segments landingSegmentId landingPadWord % 4 = 2 ∧
    wordAt segments landingSegmentId landingPadWord / 4 % 2 = 0 ∧
    wordAt segments landingSegmentId landingPadWord / 8 % 2 ^ 29 = content ∧
    wordAt segments landingSegmentId landingPadWord / 2 ^ 32 % 2 ^ 32 = segmentId ∧
    wordAt segments landingSegmentId (landingPadWord + 1) = tag
  near : tag % 4 ≠ 2
  present : tag ≠ 0

theorem readWordAt_ok {segments : List Bytes} {s : ℕ} {start : ℤ} (context : String)
    (inside : inRange segments s start 1 = true) :
    readWordAt segments s start context = .ok (wordAt segments s start.toNat) := by
  rw [← Fallible.toOption_eq_some, readWordAt_toOption, if_pos inside]

/-- At a double-far pointer the two graphs are a word apart: the offset of the tag counts from the
content for the reader, and from the word after it for the validator. -/
theorem DoubleFar.look {segments : List Bytes} {slot : Slot} {segmentId content tag : ℕ}
    (h : DoubleFar segments slot segmentId content tag) :
    FrameLimits.look segments slot = (if inRange segments segmentId content 1 then
        targetOf segments segmentId (content + 1) tag else none) ∧
      MessageReader.look ⟨segments⟩ slot =
        (if tag % 4 = 0 ∧ signed30 (tag / 4 % 2 ^ 30) ≠ 0 then none
        else targetOf segments segmentId content tag) := by
  obtain ⟨⟨ls, lp, inside, far, double, padWord, padSegment, pads, padFar, padSingle, padContent,
    padTarget, tagged⟩, near, present⟩ := h
  have both : inRange segments ls lp (1 + 1) = true := pads
  rw [inRange_split, Bool.and_eq_true_iff, ← Nat.cast_add] at both
  obtain ⟨first, second⟩ := both
  constructor
  · have resolved : (resolvePointer segments slot.1 slot.2).toOption =
        if inRange segments segmentId content 1 then some ⟨segmentId, content, tag⟩ else none := by
      unfold resolvePointer
      rw [readWordAt_ok _ inside, Fallible.ok_bind, POINTER_HOP_LIMIT, resolveHops]
      simp only [Int.toNat_natCast, and_kind, and_landing, and_segment, and_doubleFar, far, double,
        padWord, padSegment, ne_eq, not_true_eq_false, if_false, Fallible.toOption_bind,
        requireWordRange_toOption, pads, if_true, Option.bind_some, readWordAt_ok _ first,
        readWordAt_ok _ second, padFar, padSingle, padContent, padTarget,
        tagged, zero_ne_one, Fallible.ok_bind]
      cases inRange segments segmentId content 1 with
      | false => rfl
      | true =>
        simp only [if_true, Option.bind_some, resolveHops, and_kind]
        rw [if_pos near]
        rfl
    unfold FrameLimits.look
    rw [resolved]
    split_ifs
    · simp [present]
    · rfl
  · have resolved : MessageReader.resolvePointer ⟨segments⟩ slot.1 slot.2 =
        .ok ⟨segmentId, (content : ℤ) - 1, tag, some content⟩ := by
      unfold MessageReader.resolvePointer
      rw [MessageReader.readWord_ok inside, Fallible.ok_bind, MessageReader.resolveHops]
      simp only [Int.toNat_natCast, and_kind, and_landing, and_segment, and_doubleFar, far, double,
        padWord, padSegment, ne_eq, not_true_eq_false, if_false, if_true]
      unfold MessageReader.resolveDoubleFar
      rw [MessageReader.requireWordRange_ok _ pads, MessageReader.readWord_ok first,
        ← Nat.cast_add_one, MessageReader.readWord_ok second]
      simp only [Fallible.ok_bind, Int.toNat_natCast, and_kind, and_landing, and_segment,
        and_doubleFar,
        padFar, padSingle, padContent, padTarget, tagged, ne_eq, not_true_eq_false, if_false,
        zero_ne_one, Fallible.pure_eq_ok]
    unfold MessageReader.look
    rw [MessageReader.locate_toOption resolved, if_neg (fun null => present null.1)]
    simp only [ResolvedPointer.badTag, ResolvedPointer.base, sub_add_cancel, ne_eq, reduceCtorEq,
      not_false_eq_true, true_and, and_comm]

end FrameLimits

end CapnpDeno
