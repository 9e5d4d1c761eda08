import CapnpDeno.Encoding.AnyPointerCopyProof
import CapnpDeno.Encoding.TreeDrawing

/-!
# The encoder draws the tree

The segment that the encoder leaves behind shows, behind its root pointer, the tree that
`drawStructMessage` draws: each object is realized in words allocated for it, its bytes as in its
sketch and the trees of its pointers behind them.
-/

namespace CapnpDeno

open ByteList

variable {ι : Type}

/-! ## Shapes -/

theorem listTag_fields {dw pc : ℕ} (n : ℕ) (small : dw < 2 ^ 16) (few : pc < 2 ^ 16) :
    listTag dw pc n % 4 = 0 ∧ listTag dw pc n / 4 % 2 ^ 30 = n % 2 ^ 30 ∧
      dw ≤ listTag dw pc n / 2 ^ 32 % 2 ^ 16 ∧
      pc ≤ listTag dw pc n / 2 ^ 48 % 2 ^ 16 := by
  have cut : ∀ k j, k + j ≤ 64 → listTag dw pc n / 2 ^ k % 2 ^ j =
      n * 2 ^ 2 / 2 ^ k % 2 ^ j ||| dw * 2 ^ 32 / 2 ^ k % 2 ^ j ||| pc * 2 ^ 48 / 2 ^ k %
      2 ^ j := by
    intro k j fits
    rw [listTag, Nat.shiftLeft_eq, Nat.shiftLeft_eq, Nat.shiftLeft_eq, ← Nat.or_mod_two_pow,
      ← Nat.or_mod_two_pow, ← Nat.or_div_two_pow, ← Nat.or_div_two_pow]
    apply Nat.eq_of_testBit_eq
    intro i
    simp only [Nat.testBit_mod_two_pow, Nat.testBit_div_two_pow]
    by_cases low : i < j
    · simp [low, show i + k < 64 by omega]
    · simp [low]
  refine ⟨?_, ?_, ?_, ?_⟩
  · have := cut 0 2 (by decide)
    simp only [pow_zero, Nat.div_one] at this
    rw [show 4 = 2 ^ 2 from rfl, this, show n * 2 ^ 2 % 2 ^ 2 =
      0 by omega, show dw * 2 ^ 32 % 2 ^ 2 = 0 by omega,
      show pc * 2 ^ 48 % 2 ^ 2 = 0 by omega]
    rfl
  · rw [show 4 = 2 ^ 2 from rfl, cut 2 30 (by decide), show n * 2 ^ 2 / 2 ^ 2 = n by omega,
      show dw * 2 ^ 32 / 2 ^ 2 % 2 ^ 30 =
        0 by omega, show pc * 2 ^ 48 / 2 ^ 2 % 2 ^ 30 = 0 by omega, Nat.or_zero,
      Nat.or_zero]
  · rw [cut 32 16 (by decide), show dw * 2 ^ 32 / 2 ^ 32 % 2 ^ 16 = dw by omega]
    exact Nat.right_le_or.trans Nat.left_le_or
  · rw [cut 48 16 (by decide), show pc * 2 ^ 48 / 2 ^ 48 % 2 ^ 16 = pc by omega]
    exact Nat.right_le_or

theorem structListShape_valid {dw pc n : ℕ} (small : dw < 2 ^ 16) (few : pc < 2 ^ 16)
    (valid : (structListShape dw pc n).Valid) : ∃ dw' pc',
      structListShape dw pc n = .inlineComposite ((dw + pc) * (n % 2 ^ 30)) (n % 2 ^ 30) dw' pc' ∧
        (n % 2 ^ 30 ≠ 0 → dw' = dw ∧ pc' = pc) := by
  obtain ⟨-, elements, data, pointers⟩ := listTag_fields n small few
  obtain ⟨-, -, -, -, room⟩ := valid
  rw [elements] at room
  have wrapped : (dw + pc) * n % 2 ^ 29 = (dw + pc) * (n % 2 ^ 30) % 2 ^ 29 := by
    rw [Nat.mul_mod, Nat.mul_mod _ (n % 2 ^ 30),
      Nat.mod_mod_of_dvd n (show 2 ^ 29 ∣ 2 ^ 30 by decide)]
  have short : (dw + pc) * (n % 2 ^ 30) % 2 ^ 29 ≤ (dw + pc) * (n % 2 ^ 30) := Nat.mod_le _ _
  have stride : (dw + pc) * (n % 2 ^ 30) ≤
      (listTag dw pc n / 2 ^ 32 % 2 ^ 16 + listTag dw pc n / 2 ^ 48 % 2 ^ 16) * (n % 2 ^ 30) :=
    Nat.mul_le_mul_right _ (by omega)
  refine ⟨listTag dw pc n / 2 ^ 32 % 2 ^ 16, listTag dw pc n / 2 ^ 48 % 2 ^ 16, ?_, fun some => ?_⟩
  · rw [structListShape]
    simp only [elements]
    congr 1
    omega
  · have := Nat.le_of_mul_le_mul_right (room.trans (wrapped.trans_le short))
      (Nat.pos_of_ne_zero some)
    omega
/-! ## Objects in the segment -/

/-- The segment holds the object of the sketch: its bytes outside the pointers, and behind the
pointers, in words from `lo` on, the trees. -/
structure Realizes (b : MessageBuilder) (lo : ℕ) (s : Sketch) (isSlot : ℕ → Prop) : Prop where
  words : b.words = s.words
  room : s.start + s.block.words ≤ lo
  inside : lo ≤ b.words
  plain : ∀ i, i < 8 * s.block.words → ¬ isSlot (i / 8) → b.bytes[8 * s.start + i]? =
    s.block.bytes[i]?
  slot : ∀ w, w < s.block.words → isSlot w → Placed b.bytes lo b.words (s.start + w) (s.slots w)

theorem slice_congr {m m' : Bytes} {off off' n : ℕ} (same : ∀ i < n, m[off + i]? = m'[off' + i]?) :
    slice m off n = slice m' off' n := by
  apply List.ext_getElem?
  intro i
  rw [getElem?_slice, getElem?_slice]
  split_ifs with low
  · exact same i low
  · rfl

namespace Realizes

variable {b b' : MessageBuilder} {lo : ℕ} {s : Sketch} {isSlot : ℕ → Prop} {touched : ℕ → Prop}

theorem fresh (b : MessageBuilder) (size : ℕ) (isSlot : ℕ → Prop) :
    Realizes (b.allocWords size).2 (b.words + size) (Sketch.fresh b.words size) isSlot := by
  refine ⟨rfl, le_rfl, le_rfl, fun i low _ => ?_, fun w low _ => .null ?_⟩
  · show (b.allocWords size).2.bytes[8 * b.words + i]? = _
    rw [MessageBuilder.bytes_allocWords, List.getElem?_append_right (by rw [b.size]; omega), b.size,
      Nat.add_sub_cancel_left]
    rfl
  · have low : w < size := low
    show readLE _ (8 * (b.words + w)) 8 = 0
    rw [MessageBuilder.bytes_allocWords, readLE, slice_append_right (by rw [b.size]; omega), b.size]
    exact readLE_replicate_zero (by omega)

/-- The object stays as it is under a write in front of it. -/
theorem elsewhere (h : Realizes b lo s isSlot) (grown : Grows b b' touched)
    (words : b'.words = b.words) (apart : ∀ i, touched i → i < 8 * s.start) :
    Realizes b' lo s isSlot := by
  have room := h.room
  have inside := h.inside
  have kept : ∀ i, 8 * s.start ≤ i → i < 8 * b.words → b'.bytes[i]? = b.bytes[i]? :=
    fun i low high =>
    grown.same i high fun touches => Nat.not_lt.2 low (apart i touches)
  refine ⟨words.trans h.words, room, inside.trans words.ge, fun i low plain =>
    ?_, fun w low slotted => ?_⟩
  · rw [kept _ (by omega) (by omega), h.plain i low plain]
  · have frame : Agree b.bytes b'.bytes (8 * s.start) (8 * b.words) :=
      fun i low high => (kept i low high).symm
    apply ((h.slot w low slotted).frame (frame.mono (by omega) le_rfl) ?_).mono le_rfl words.ge
    exact (frame.readLE_eq (by omega) (by omega)).symm

/-- Bytes of the object that belong to no pointer are set. -/
theorem set (h : Realizes b lo s isSlot) {place : ℕ} {xs : Bytes} {context : String}
    (done : b.setBytes (8 * s.start + place) xs context = .ok b')
    (fits : place + xs.length ≤ 8 * s.block.words)
    (plain : ∀ i, place ≤ i → i < place + xs.length → ¬ isSlot (i / 8)) :
    ∃ block, s.block.setBytes place xs context = .ok block ∧
    Realizes b' lo (s.write block) isSlot := by
  have room := h.room
  have inside := h.inside
  unfold MessageBuilder.setBytes at done ⊢
  split_ifs at done with large
  cases done
  rw [dif_pos fits]
  refine ⟨_, rfl, h.words, room, inside, fun i low other => ?_, fun w low slotted => ?_⟩
  · show (splice b.bytes (8 * s.start + place) xs)[8 * s.start + i]? =
      (splice s.block.bytes place xs)[i]?
    rw [getElem?_splice (by rw [b.size]; exact large), getElem?_splice
      (by rw [s.block.size]; exact fits)]
    have same := h.plain i low other
    by_cases here : place ≤ i ∧ i < place + xs.length
    · rw [if_pos here, if_pos (by omega)]
      congr 1
      omega
    · rw [if_neg here, if_neg (by omega), same]
  · -- the word of a pointer is out of reach of the write
    have outside : ∀ i, (8 * (s.start + w) ≤ i ∧ i < 8 * (s.start + w) + 8) ∨ 8 * lo ≤ i →
        (splice b.bytes (8 * s.start + place) xs)[i]? = b.bytes[i]? := by
      intro i where_
      rw [getElem?_splice (by rw [b.size]; exact large), if_neg]
      rintro ⟨low', high'⟩
      rcases where_ with ⟨low'', high''⟩ | far
      · refine plain (i - 8 * s.start) (by omega) (by omega) ?_
        rwa [show (i - 8 * s.start) / 8 = w by omega]
      · omega
    have frame : Agree b.bytes (splice b.bytes (8 * s.start + place) xs) (8 * lo) (8 * b.words) :=
      fun i low' _ => (outside i (.inr low')).symm
    have word : Agree b.bytes (splice b.bytes (8 * s.start + place) xs) (8 * (s.start + w))
        (8 * (s.start + w) + 8) :=
      fun i low' high' => (outside i (.inl ⟨low', high'⟩)).symm
    exact (h.slot w low slotted).frame frame (word.readLE_eq le_rfl le_rfl).symm

/-- A pointer of the object is set. -/
theorem point (h : Realizes b lo s isSlot) {w : ℕ} {drawn : ObjectTree × ℕ}
    (grown : Grows b b' fun i => i / 8 = s.start + w) (low : w < s.block.words) (slotted : isSlot w)
    (placed : Placed b'.bytes b.words b'.words (s.start + w) drawn.1) (words : b'.words = drawn.2) :
    Realizes b' lo (s.put w drawn) isSlot := by
  have room := h.room
  have inside := h.inside
  refine ⟨words, room, inside.trans grown.words, fun i low' plain => ?_, fun w' low' slotted' => ?_⟩
  · have low' : i < 8 * s.block.words := low'
    show b'.bytes[8 * s.start + i]? = s.block.bytes[i]?
    rw [grown.same _ (by omega), h.plain i low' plain]
    intro same
    exact plain (by rwa [show i / 8 = w by omega])
  · have low' : w' < s.block.words := low'
    by_cases same : w' = w
    · subst same
      rw [Sketch.put_slots_self]
      exact placed.mono inside le_rfl
    · rw [s.put_slots_of_ne drawn same]
      have frame : Agree b.bytes b'.bytes (8 * lo) (8 * b.words) := fun i low'' high'' =>
        (grown.same i high'' (by omega)).symm
      have word : Agree b.bytes b'.bytes (8 * (s.start + w')) (8 * (s.start + w') + 8) :=
        fun i low'' high'' =>
        (grown.same i (by omega) (by omega)).symm
      exact ((h.slot w' low' slotted').frame frame (word.readLE_eq le_rfl le_rfl).symm).mono le_rfl
        grown.words

/-- A scalar of a struct in the object is written. -/
theorem scalar (h : Realizes b lo s isSlot)
    {step : MessageBuilder → ℕ → Except Thrown MessageBuilder} {bits : Set ℕ}
    (write : ScalarWrite step bits) {structWord : ℕ} (done : step b (s.start + structWord) = .ok b')
    (bound : ∀ k ∈ bits, structWord + k / 64 < s.block.words ∧ ¬ isSlot (structWord + k / 64)) :
    ∃ block, step s.block structWord = .ok block ∧ Realizes b' lo (s.write block) isSlot := by
  cases write with
  | idle same =>
    cases (same b _).symm.trans done
    exact ⟨_, same _ _, h⟩
  | fails e same => cases (same b _).symm.trans done
  | sets place width xs context size some covers same =>
    have at_byte : ∀ i, place ≤ i → i < place + width →
        8 * structWord + i < 8 * s.block.words ∧ ¬ isSlot ((8 * structWord + i) / 8) := by
      intro i low high
      obtain ⟨k, mem, rfl⟩ := covers i low high
      have := bound k mem
      rw [show (8 * structWord + k / 8) / 8 = structWord + k / 64 by omega]
      exact ⟨by omega, this.2⟩
    have first := at_byte place le_rfl (by omega)
    have byte : readLE b.bytes ((s.start + structWord) * WORD_BYTES + place) 1 =
        readLE s.block.bytes (structWord * WORD_BYTES + place) 1 := by
      refine congrArg ofLE (slice_congr fun i low => ?_)
      obtain rfl : i = 0 := by omega
      have seen := h.plain (8 * structWord + place) first.1 first.2
      rw [WORD_BYTES, show (s.start + structWord) * 8 + place + 0 =
        8 * s.start + (8 * structWord + place) by ring, seen]
      congr 1
      omega
    have last := at_byte (place + width - 1) (by omega) (by omega)
    rw [same, byte, WORD_BYTES,
      show (s.start + structWord) * 8 + place =
        8 * s.start + (structWord * 8 + place) by ring] at done
    rw [same]
    apply h.set done
    · rw [size]
      omega
    · intro i low high
      rw [size] at high
      have := (at_byte (i - structWord * 8) (by omega) (by omega)).2
      rwa [show 8 * structWord + (i - structWord * 8) = i by omega] at this

/-- The pointer to a finished object leads to its tree. -/
theorem placed (h : Realizes b lo s isSlot) {shape : Shape} {dst : ℕ} (below : dst < s.start)
    (valid : shape.Valid) (short : shape.words ≤ s.block.words)
    (slots : ∀ w, w < shape.words → (isSlot w ↔ w ∈ shape.slots))
    (tagged : shape.Tagged (slice s.block.bytes 0 (8 * shape.words)))
    (fits : OffsetFits (shape.offset dst s.start))
    (word : readLE b.bytes (8 * dst) 8 = shape.pointerWord (shape.offset dst s.start)) :
    Placed b.bytes s.start b.words dst (s.tree shape) := by
  have room := h.room
  have inside := h.inside
  obtain ⟨start', target, place⟩ := offset_target shape dst s.start
  have size : (slice s.block.bytes 0 (8 * shape.words)).length = 8 * shape.words :=
    length_slice (by rw [s.block.size]; omega)
  have size' : (blockAt b.bytes shape start').length = 8 * shape.words :=
    length_slice (by rw [b.size]; omega)
  have same : blank shape.slots (slice s.block.bytes 0 (8 * shape.words)) =
      blank shape.slots (blockAt b.bytes shape start') := by
    apply blank_congr (size.trans size'.symm)
    intro i plain
    rw [blockAt, getElem?_slice, getElem?_slice]
    split_ifs with near
    · obtain rfl : start' = s.start := by omega
      rw [Nat.zero_add]
      refine (h.plain i (by omega) fun slotted => plain ?_).symm
      exact (slots _ (by omega)).1 slotted
    · rfl
  rw [Sketch.tree, if_pos valid, same]
  apply Placed.object valid _ fits word target (pointerWord_offset_ne_zero dst s.start)
    (by omega) (by omega) (tagged.of_blank_eq same) (List.length_map _).symm
  intro i slot t known known'
  rw [List.getElem?_map, known, Option.map_some, Option.some.injEq] at known'
  have mem := List.mem_of_getElem? known
  have low := Shape.slot_lt valid mem
  obtain rfl : start' = s.start := by omega
  rw [← known']
  exact (h.slot slot (by omega) ((slots slot low).2 mem)).mono (by omega) le_rfl

end Realizes

/-! ## Lists -/

theorem setListPointer_mod (b : MessageBuilder) (pointerWord targetWord elementSize count : ℕ) :
    b.setListPointer pointerWord targetWord elementSize count =
      b.setListPointer pointerWord targetWord elementSize (count % 2 ^ 29) := by
  unfold MessageBuilder.setListPointer
  rw [show 0x1fff_ffff = 2 ^ 29 - 1 from rfl, BitField.and_low_mask, BitField.and_low_mask,
    Nat.mod_mod]

/-- What writing the pointer to a list amounts to. -/
theorem setListPointer_eq_ok {b b' : MessageBuilder} {dst start elementSize count : ℕ}
    (size : elementSize < 8) (done : b.setListPointer dst start elementSize count = .ok b') :
    OffsetFits ((start : ℤ) - (dst + 1)) ∧
      Rewrites b b' dst (listWord ((start : ℤ) - (dst + 1)) elementSize (count % 2 ^ 29)) := by
  rw [setListPointer_mod] at done
  have short : count % 2 ^ 29 < 2 ^ 29 := Nat.mod_lt _ (by decide)
  unfold MessageBuilder.setListPointer at done
  obtain ⟨encoded, offset, done⟩ := Fallible.bind_eq_ok.1 done
  by_cases fits : OffsetFits ((start : ℤ) - (dst + 1))
  · rw [encodeSigned30_ok fits] at offset
    cases offset
    rw [listWord_eq_or _ size short] at done
    exact ⟨fits, MessageBuilder.writeWord_eq_ok.1 done⟩
  · rw [encodeSigned30_error fits] at offset
    cases offset

namespace Realizes

variable {b b' : MessageBuilder} {lo dst count : ℕ} {s : Sketch} {isSlot : ℕ → Prop}

/-- The pointer that is written last, to a flat list. -/
theorem placed_flat (h : Realizes b lo s isSlot) (below : dst < s.start) {elementSize : ℕ}
    (size : elementSize < 7) (short : flatWords elementSize (count % 2 ^ 29) ≤ s.block.words)
    (slots : ∀ w, isSlot w ↔ elementSize = 6)
    (done : b.setListPointer dst s.start elementSize count = .ok b') :
    Placed b'.bytes s.start b'.words dst (s.tree (flatShape elementSize count)) := by
  have few : count % 2 ^ 29 < 2 ^ 29 := Nat.mod_lt _ (by decide)
  obtain ⟨fits, rewrites⟩ := setListPointer_eq_ok (by omega) done
  have h' := h.elsewhere rewrites.grows rewrites.words fun i place => by omega
  apply h'.placed below (show (flatShape elementSize count).Valid from ⟨size, few⟩) short _
    trivial fits
  · rw [rewrites.read]
    exact Nat.mod_eq_of_lt (listWord_lt (by omega) few)
  · intro w low
    rw [slots, flatShape, Shape.slots]
    by_cases pointers : elementSize = 6
    · subst pointers
      have low : w < count % 2 ^ 29 := low
      simpa using low
    · simp [pointers]

end Realizes

/-- The words of a list of structs that are pointers. -/
def elementSlot (dataWordCount pointerCount w : ℕ) : Prop :=
  0 < w ∧ dataWordCount ≤ (w - 1) % (dataWordCount + pointerCount)

theorem elementSlot_iff {dw pc n w : ℕ} (words : ℕ) (low : w < 1 + (dw + pc) * n) :
    elementSlot dw pc w ↔ w ∈ (Shape.inlineComposite words n dw pc).slots := by
  rw [Shape.slots]
  simp only [List.mem_flatMap, List.mem_map, List.mem_range]
  constructor
  · rintro ⟨positive, high⟩
    have some : 0 < dw + pc := Nat.pos_of_ne_zero fun none => by
      rw [none, Nat.zero_mul] at low
      omega
    have cut := Nat.div_add_mod (w - 1) (dw + pc)
    have rest := Nat.mod_lt (w - 1) some
    refine ⟨(w - 1) / (dw + pc), (Nat.div_lt_iff_lt_mul some).2 ?_,
      (w - 1) % (dw + pc) - dw, by omega, ?_⟩
    · rw [Nat.mul_comm n]
      omega
    · rw [Nat.mul_comm _ (dw + pc)]
      omega
  · rintro ⟨i, -, j, few, rfl⟩
    refine ⟨by omega, ?_⟩
    rw [show 1 + i * (dw + pc) + dw + j - 1 =
      dw + j + i * (dw + pc) by omega, Nat.add_mul_mod_self_right,
      Nat.mod_eq_of_lt (by omega)]
    exact Nat.le_add_right dw j

namespace Realizes

variable {b b' : MessageBuilder} {lo dst dw pc n : ℕ} {s : Sketch}

/-- The pointer that is written last, to a list of structs. -/
theorem placed_structList (h : Realizes b lo s (elementSlot dw pc)) (below : dst < s.start)
    (small : dw < 2 ^ 16) (few : pc < 2 ^ 16) (size : s.block.words = 1 + (dw + pc) * n)
    (tag : readLE s.block.bytes 0 8 = listTag dw pc n)
    (done : b.setListPointer dst s.start 7 ((dw + pc) * n) = .ok b') :
    Placed b'.bytes s.start b'.words dst (s.tree (structListShape dw pc n)) := by
  obtain ⟨fits, rewrites⟩ := setListPointer_eq_ok (by decide) done
  have h' := h.elsewhere rewrites.grows rewrites.words fun i place => by omega
  have kind := (listTag_fields n small few).1
  have long : (dw + pc) * n % 2 ^ 29 < 2 ^ 29 := Nat.mod_lt _ (by decide)
  have word : readLE b'.bytes (8 * dst) 8 =
      (structListShape dw pc n).pointerWord ((structListShape dw pc n).offset dst s.start) :=
    rewrites.read.trans (Nat.mod_eq_of_lt (listWord_lt (by decide) long))
  have fields : listTag dw pc n =
      tagWord (listTag dw pc n / 4 % 2 ^ 30) (listTag dw pc n / 2 ^ 32 % 2 ^ 16)
      (listTag dw pc n / 2 ^ 48 % 2 ^ 16) :=
    (tagWord_of_fields kind (Nat.mod_lt _ (by decide))).symm
  by_cases valid : (structListShape dw pc n).Valid
  · obtain ⟨dw', pc', shape, same⟩ := structListShape_valid small few valid
    have words : (structListShape dw pc n).words = 1 + (dw + pc) * (n % 2 ^ 30) := by
      rw [shape]
      rfl
    have short : (dw + pc) * (n % 2 ^ 30) ≤ (dw + pc) * n := Nat.mul_le_mul_left _ (Nat.mod_le n _)
    apply h'.placed below valid (by omega) _ _ fits word
    · intro w low
      rw [words] at low
      rw [elementSlot_iff ((dw + pc) * (n % 2 ^ 30)) low, shape]
      by_cases some : n % 2 ^ 30 = 0
      · simp only [some, Shape.slots, List.range_zero, List.flatMap_nil]
      · obtain ⟨rfl, rfl⟩ := same some
        rfl
    · show readLE (slice _ 0 _) 0 8 = _
      rw [readLE_slice (by omega), Nat.zero_add, tag]
      exact fields
  · have more : (dw + pc) * n % 2 ^ 29 <
        (listTag dw pc n / 2 ^ 32 % 2 ^ 16 + listTag dw pc n / 2 ^ 48 % 2 ^ 16) *
        (listTag dw pc n / 4 % 2 ^ 30) := by
      by_contra room
      exact valid ⟨long, Nat.mod_lt _ (by decide), Nat.mod_lt _ (by decide), Nat.mod_lt _
        (by decide), not_lt.1 room⟩
    have inside := h'.inside
    have room := h'.room
    rw [Sketch.tree, if_neg valid]
    apply Placed.broken ((s.start : ℤ) - (dst + 1)) fits word long (by omega) le_rfl (by omega) _
      ⟨Nat.mod_lt _ (by decide), Nat.mod_lt _ (by decide), Nat.mod_lt _ (by decide)⟩ more
    rw [← fields, ← tag]
    refine congrArg ofLE (slice_congr fun i low => ?_)
    rw [h'.plain i (by omega) fun slotted => by have := slotted.1; omega, Nat.zero_add]

end Realizes

/-! ## Leaves -/

/-- A pointer was written as it is drawn: its tree lies in new words. -/
structure Encoded (b b' : MessageBuilder) (pointerWord : ℕ) (drawn : ObjectTree × ℕ) : Prop where
  placed : Placed b'.bytes b.words b'.words pointerWord drawn.1
  words : b'.words = drawn.2

section Leaves

variable {b b₁ b' : MessageBuilder} {pointerWord : ℕ}

theorem encoded_null (done : b.writeWord pointerWord 0 = .ok b') :
    Encoded b b' pointerWord (.null, b.words) := by
  have rewrites := MessageBuilder.writeWord_eq_ok.1 done
  exact ⟨.null rewrites.read, rewrites.words⟩

theorem encoded_capability {capabilityIndex word : ℕ}
    (encoded : encodeCapabilityPointerWord capabilityIndex = .ok word)
    (done : b.writeWord pointerWord word = .ok b') :
    ∃ drawn, drawCapability b.words capabilityIndex = .ok drawn ∧
    Encoded b b' pointerWord drawn := by
  have rewrites := MessageBuilder.writeWord_eq_ok.1 done
  refine ⟨(.capability word, b.words), ?_, .capability ?_ ?_, rewrites.words⟩
  · rw [drawCapability, encoded]
    rfl
  all_goals
    unfold encodeCapabilityPointerWord at encoded
    split_ifs at encoded with large
    cases encoded
    rw [BitField.or_shiftLeft (show 0x3 < 2 ^ 32 by decide)]
  · rw [rewrites.read, BitField.or_shiftLeft (show 0x3 < 2 ^ 32 by decide)]
    omega
  · omega

theorem flatWords_bytes_le (n : ℕ) : flatWords 2 (n % 2 ^ 29) ≤ bytesToWords n := by
  show bytesToWords (n % 2 ^ 29) ≤ bytesToWords n
  unfold bytesToWords
  have := Nat.mod_le n (2 ^ 29)
  omega

theorem encoded_bytes {value : Bytes} {context : String} (inside : pointerWord < b.words)
    (written : (b.allocWords (bytesToWords value.length)).2.setBytes (b.words * WORD_BYTES) value
      context = .ok b₁)
    (pointed : b₁.setListPointer pointerWord b.words 2 value.length = .ok b') :
    ∃ drawn, drawBytes b.words value context = .ok drawn ∧ Encoded b b' pointerWord drawn := by
  have fresh := Realizes.fresh b (bytesToWords value.length) fun _ => False
  rw [WORD_BYTES, show b.words * 8 = 8 * b.words + 0 by omega] at written
  obtain ⟨block, drawn, realized⟩ := fresh.set written
    (by show 0 + value.length ≤ 8 * bytesToWords value.length; unfold bytesToWords; omega)
    (fun _ _ _ => id)
  have size : block.words = bytesToWords value.length := by
    unfold MessageBuilder.setBytes at drawn
    split_ifs at drawn
    cases drawn
    rfl
  have short : flatWords 2 (value.length % 2 ^ 29) ≤ block.words :=
    size ▸ flatWords_bytes_le value.length
  have rewrites := (setListPointer_eq_ok (by decide) pointed).2
  refine ⟨(_, b.words + bytesToWords value.length), ?_,
    realized.placed_flat inside (by decide) short (fun _ => by simp) pointed,
      rewrites.words.trans realized.words⟩
  rw [drawBytes, drawn]
  rfl

theorem encoded_void {count : ℕ} (inside : pointerWord < b.words)
    (done : b.setListPointer pointerWord (pointerWord + 1) 0 count = .ok b') :
    Encoded b b' pointerWord ((Sketch.fresh b.words 0).tree (flatShape 0 count), b.words) := by
  obtain ⟨fits, rewrites⟩ := setListPointer_eq_ok (by decide) done
  have few : count % 2 ^ 29 < 2 ^ 29 := Nat.mod_lt _ (by decide)
  have valid : (flatShape 0 count).Valid := ⟨by decide, few⟩
  have none : (flatShape 0 count).words = 0 := rfl
  have content : ∀ m start, blockAt m (flatShape 0 count) start = [] := fun m start => by
    rw [blockAt, none, Nat.mul_zero, slice_zero_right]
  refine ⟨?_, rewrites.words⟩
  rw [Sketch.tree, if_pos valid, none, Nat.mul_zero, slice_zero_right,
    ← content b'.bytes (pointerWord + 1)]
  have target : (pointerWord : ℤ) + 1 + (((pointerWord + 1 : ℕ) : ℤ) - (pointerWord + 1)) =
      (pointerWord + 1 : ℕ) := by
    push_cast
    ring
  apply Placed.object valid _ fits _ target _ (.inr none) _ trivial rfl
    fun _ _ _ known => by cases known
  · rw [rewrites.read]
    exact Nat.mod_eq_of_lt (listWord_lt (by decide) few)
  · show listWord _ 0 _ ≠ 0
    unfold listWord
    omega
  · rw [none, rewrites.words]
    omega

/-- The bits of a list element of a size. -/
def elementBits : ℕ → ℕ
  | 1 => 1
  | 2 => 8
  | 3 => 16
  | 4 => 32
  | _ => 64

theorem dataListWords_eq_ok {elementSize count size : ℕ}
    (done : dataListWords elementSize count = .ok size) :
    elementSize < 6 ∧ count * elementBits elementSize ≤ 64 * size ∧
      flatWords elementSize (count % 2 ^ 29) ≤ size := by
  have less := Nat.mod_le count (2 ^ 29)
  unfold dataListWords at done
  split at done
  all_goals cases done
  all_goals
    refine ⟨by decide, ?_, ?_⟩
    · simp only [elementBits, bytesToWords]
      omega
    · simp only [flatWords, bytesToWords]
      omega

theorem scalarWrite_element {step : MessageBuilder → ℕ → Except Thrown MessageBuilder}
    {n place width elementSize : ℕ} {xs : Bytes} {context : String} (size : xs.length = width)
    (some : 0 < width) (first : place = n * width) (bits : elementBits elementSize = 8 * width)
    (same : ∀ b structWord, step b structWord =
      b.setBytes (structWord * WORD_BYTES + place) xs context) :
    ScalarWrite step {k | k < (n + 1) * elementBits elementSize} := by
  apply ScalarWrite.of_bytes place (size ▸ some) _ same
  intro k inside
  have last := inside.2
  rw [size, first] at last
  show k < (n + 1) * elementBits elementSize
  calc k < 8 * (n * width) + 8 * width := last
    _ = (n + 1) * elementBits elementSize := by rw [bits]; ring

theorem scalarWrite_encodeDataElement {elementType : TypeDescriptor ι}
    (scalar : isDataType elementType = true) (some : elementType ≠ .primitive .void) (n : ℕ)
    (value : Value) :
    ScalarWrite (fun b structWord => encodeDataElement b (structWord * WORD_BYTES)
      elementType n value) {k | k < (n + 1) * elementBits (listElementSize elementType)} := by
  cases elementType with
  | enum byOrdinal toOrdinal =>
    exact scalarWrite_element (length_toLE _ _) (by decide) rfl rfl fun _ _ => rfl
  | primitive kind =>
    cases kind with
    | void => exact absurd rfl some
    | bool => exact .of_bit (show n < (n + 1) * 1 by omega) fun _ _ => rfl
    | int8 | uint8 =>
      exact scalarWrite_element (length_toLE _ _) (by decide) n.mul_one.symm rfl fun _ _ => rfl
    | _ => exact scalarWrite_element (length_toLE _ _) (by decide) rfl rfl fun _ _ => rfl
  | _ => cases scalar

end Leaves

/-! ## Copied messages -/

/-- A pointer word without its offset, and another offset in its place. -/
theorem clearOffset_pointerWord {shape : Shape} (valid : shape.Valid) (offset offset' : ℤ) :
    clearOffset (shape.pointerWord offset) ||| offsetField offset' <<< 2 =
      shape.pointerWord offset' := by
  have word : ∃ kind high, kind < 4 ∧ ∀ o, shape.pointerWord o = kind + offsetField o * 4 + high *
      2 ^ 32 := by
    cases shape with
    | struct dw pc =>
      exact ⟨0, dw + pc * 2 ^ 16, by decide, fun o => by
        show structWord o dw pc = _; unfold structWord; ring⟩
    | flat es n =>
      exact ⟨1, es + n * 8, by decide, fun o => by show listWord o es n = _; unfold listWord; ring⟩
    | inlineComposite w n dw pc =>
      exact ⟨1, 7 + w * 8, by decide, fun o => by show listWord o 7 w = _; unfold listWord; ring⟩
  obtain ⟨kind, high, small, word⟩ := word
  have low := offsetField_lt offset
  have low' := offsetField_lt offset'
  have cleared : clearOffset (shape.pointerWord offset) = kind + high * 2 ^ 32 := by
    rw [clearOffset, BitField.and_clear_window (pointerWord_lt valid offset) (show 2 ≤ 32 by decide)
      (show 32 ≤ 64 by decide) (by decide), word]
    omega
  rw [cleared, word, ← BitField.or_shiftLeft (show kind < 2 ^ 32 by omega), Nat.lor_assoc,
    Nat.lor_comm (high <<< 32),
    ← Nat.lor_assoc, BitField.or_shiftLeft (show kind < 2 ^ 2 by omega), BitField.or_shiftLeft
      (by omega)]
  rfl

theorem pointerWord_offset {shape : Shape} (valid : shape.Valid) (offset : ℤ) :
    (shape.pointerWord offset % 4 = 0 ∨ shape.pointerWord offset % 4 = 1) ∧
      shape.pointerWord offset / 4 % 2 ^ 30 = offsetField offset := by
  cases shape with
  | struct dw pc =>
    obtain ⟨kind, field, -⟩ := structWord_fields offset valid.1 valid.2
    exact ⟨.inl kind, field⟩
  | flat es n =>
    obtain ⟨kind, field, -⟩ :=
      listWord_fields offset (show es < 8 from valid.1.trans (by decide)) valid.2
    exact ⟨.inr kind, field⟩
  | inlineComposite w n dw pc =>
    obtain ⟨kind, field, -⟩ := listWord_fields offset (show 7 < 8 by decide) valid.1
    exact ⟨.inr kind, field⟩

/-- The pointer to an object of a copy, as it is written elsewhere. -/
theorem rebase_pointerWord {shape : Shape} (valid : shape.Valid) {offset : ℤ}
    (fits : OffsetFits offset) (present : shape.pointerWord offset ≠ 0) {base slot word : ℕ}
    (rebased : rebaseCopiedAnyPointerRootPointer (shape.pointerWord offset) base slot = .ok word) :
    OffsetFits ((base : ℤ) + (1 + offset) - (slot + 1)) ∧
      word = shape.pointerWord ((base : ℤ) + (1 + offset) - (slot + 1)) := by
  obtain ⟨kind, field⟩ := pointerWord_offset valid offset
  unfold rebaseCopiedAnyPointerRootPointer at rebased
  simp only [Fallible.throw_eq_error, Fallible.pure_eq_ok, and_kind, and_offset] at rebased
  rw [if_neg present, if_pos kind, field, signed30_offsetField fits] at rebased
  obtain ⟨encoded, found, same⟩ := Fallible.bind_eq_ok.1 rebased
  by_cases near : OffsetFits ((base : ℤ) + (1 + offset) - (slot + 1))
  · rw [encodeSigned30_ok near] at found
    cases found
    cases same
    exact ⟨near, clearOffset_pointerWord valid _ _⟩
  · rw [encodeSigned30_error near] at found
    cases found

theorem rebase_capability {source base slot word : ℕ} (kind : source % 4 = 3)
    (rebased : rebaseCopiedAnyPointerRootPointer source base slot = .ok word) : word = source := by
  unfold rebaseCopiedAnyPointerRootPointer at rebased
  simp only [Fallible.throw_eq_error, Fallible.pure_eq_ok, and_kind, and_offset] at rebased
  rw [if_neg (fun null => by rw [null] at kind; cases kind), if_neg (by omega), if_neg
    (by omega)] at rebased
  exact (Except.ok.inj rebased).symm

/-- A layout is reached from another slot, too, whose pointer has the offset from there. -/
theorem Laid.rebase {m : Bytes} {lo hi base slot : ℕ} {t : ObjectTree} (h : Laid m lo hi base t)
    {word : ℕ} (rebased : rebaseCopiedAnyPointerRootPointer (readLE m (8 * base) 8) base slot =
      .ok word) (present : word ≠ 0)
    {m' : Bytes} (agree : Agree m m' (8 * lo) (8 * hi))
    (read : readLE m' (8 * slot) 8 = word % 2 ^ 64) :
    Laid m' lo hi slot t := by
  cases h with
  | null null =>
    rw [null] at rebased
    cases rebased
    exact absurd rfl present
  | @capability _ w source kind =>
    subst source
    rw [rebase_capability kind rebased] at read
    exact .capability (read.trans (Nat.mod_eq_of_lt (readLE_lt m _ 8))) kind
  | @object _ start shape children valid offset fits source target present' low high tagged
      arity child =>
    rw [source] at rebased
    obtain ⟨near, rfl⟩ := rebase_pointerWord valid fits present' rebased
    rw [Nat.mod_eq_of_lt (pointerWord_lt valid _)] at read
    have block : blockAt m shape start = blockAt m' shape start := by
      unfold blockAt
      rcases low with low | empty
      · exact agree.slice_eq (by omega) (by omega)
      · rw [empty, Nat.mul_zero, slice_zero_right, slice_zero_right]
    rw [block]
    apply Laid.object valid _ near read (by omega) present low high (block ▸ tagged) arity
    intro i slot' t known known'
    have inside := Shape.slot_lt valid (List.mem_of_getElem? known)
    apply (child i slot' t known known').frame agree
    exact (agree.readLE_eq (by omega) (by omega)).symm

/-- The words of a copied segment are appended. -/
theorem append_segment {segment : Bytes} {n : ℕ} (size : segment.length = 8 * n)
    {b b' : MessageBuilder}
    (done : (List.range n).foldlM (fun t i => t.writeWord (b.words + i)
      (readLE segment (i * WORD_BYTES) 8)) (b.allocWords n).2 = .ok b') :
      b'.words = b.words + n ∧ b'.bytes = b.bytes ++ segment := by
  have readable : ∀ i k : ℕ, i + k ≤ n → inRange (flatReader segment).segments 0 (i : ℤ) k = true :=
    fun i k low =>
    inRange_iff.2 ⟨segment, rfl, by omega, by omega⟩
  have loop : copyWordsForAnyPointer (flatReader segment) 0 0 n (b.allocWords n).2 b.words =
      .ok b' := by
    rw [← done]
    apply Fallible.foldlM_congr
    intro t i mem
    rw [MessageReader.readWord_ok (readable (0 + i) 1 (by rw [List.mem_range] at mem; omega)),
      Fallible.ok_bind, Int.toNat_natCast, Nat.zero_add, Nat.mul_comm i WORD_BYTES]
    rfl
  obtain ⟨b₁, copied, words, bytes⟩ := copyWords_ok (readable 0 n (by omega))
    (show b.words + n ≤ (b.allocWords n).2.words from le_rfl)
  cases copied.symm.trans loop
  refine ⟨words, bytes.trans ?_⟩
  have whole : slice segment 0 (8 * n) = segment := by
    rw [← size]
    exact slice_self segment
  rw [MessageBuilder.bytes_allocWords]
  show splice _ _ (slice segment (8 * 0) (8 * n)) = _
  rw [Nat.mul_zero, whole]
  apply List.ext_getElem?
  intro i
  have before := b.size
  rw [getElem?_splice (by rw [List.length_append, List.length_replicate]; omega)]
  split_ifs with inside
  · rw [List.getElem?_append_right (by omega), before]
  · by_cases low : i < 8 * b.words
    · rw [List.getElem?_append_left (by omega), List.getElem?_append_left (by omega)]
    · rw [List.getElem?_eq_none (by rw [List.length_append, List.length_replicate]; omega),
        List.getElem?_eq_none (by rw [List.length_append]; omega)]

theorem encoded_message {b b' : MessageBuilder} {pointerWord : ℕ} {message : Bytes}
    (inside : pointerWord < b.words)
    (done : encodeAnyPointerMessageIntoBuilder b pointerWord message .default = .ok b') :
    ∃ drawn, drawMessage pointerWord b.words message = .ok drawn ∧
    Encoded b b' pointerWord drawn := by
  unfold encodeAnyPointerMessageIntoBuilder at done
  obtain ⟨r, opened, done⟩ := Fallible.bind_eq_ok.1 done
  obtain ⟨flatMessage, copied, done⟩ := Fallible.bind_eq_ok.1 done
  obtain ⟨t, copy, reads, some, laid, -, rfl⟩ := decodeAnyPointerMessageFromReader_eq_ok copied
  have root : messageRoot message = t := messageRoot_eq ⟨r, opened, reads⟩
  have segment : (toLE 4 0 ++ toLE 4 copy.words ++ copy.bytes).drop 8 = copy.bytes := by
    rw [List.drop_append_of_le_length (by simp [length_toLE])]
    simp [length_toLE]
  have count : copy.bytes.length / WORD_BYTES = copy.words := by
    rw [copy.size, WORD_BYTES]
    omega
  unfold drawMessage
  rw [opened, Fallible.ok_bind, copied, Fallible.ok_bind]
  simp only [segment, count] at done ⊢
  rw [if_neg (by omega)] at done ⊢
  by_cases null : readLE copy.bytes 0 8 = 0
  · rw [if_pos null] at done ⊢
    exact ⟨_, rfl, encoded_null done⟩
  rw [if_neg null] at done ⊢
  obtain ⟨b₁, appended, done⟩ := Fallible.bind_eq_ok.1 done
  obtain ⟨word, rebased, done⟩ := Fallible.bind_eq_ok.1 done
  rw [MessageBuilder.allocWords_fst] at rebased
  obtain ⟨words, bytes⟩ := append_segment copy.size appended
  have rewrites := MessageBuilder.writeWord_eq_ok.1 done
  rw [rebased]
  refine ⟨_, rfl, ?_, rewrites.words.trans words⟩
  show Placed _ _ _ _ (if word = 0 then .null else messageRoot message)
  split_ifs with absent
  · exact .null (rewrites.read.trans (by rw [absent, Nat.zero_mod]))
  rw [root]
  have length := b.size
  have first : readLE b₁.bytes (8 * b.words) 8 = readLE copy.bytes 0 8 := by
    unfold readLE
    rw [bytes, slice_append_right (by omega), length, Nat.sub_self]
  have rest : slice b₁.bytes (8 * (b.words + 1)) (8 * (copy.words - 1)) =
      slice copy.bytes (8 * 1) (8 * (copy.words - 1)) := by
    rw [bytes, slice_append_right (by omega), length]
    congr 1
    omega
  have moved : Laid b₁.bytes (b.words + 1) (b.words + copy.words) b.words t := laid.shift rest first
  have there :=
    moved.rebase (first ▸ rebased) absent (rewrites.agree (.inr (by omega))) rewrites.read
  rw [rewrites.words, words]
  exact (Placed.of_laid there).mono (by omega) le_rfl

end CapnpDeno
