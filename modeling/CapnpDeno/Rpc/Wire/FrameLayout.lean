import CapnpDeno.Encoding.CopyLimits
import CapnpDeno.Encoding.TreeTwins
import CapnpDeno.Rpc.Wire.Decode
import CapnpDeno.Rpc.Wire.PointersProof
import CapnpDeno.Rpc.Wire.SegmentParsers

/-!
# What a step of the frame encoder writes

A step owns the bytes that it writes for good.  What is read from them alone is read from every
later segment, as long as no later step touches them (`Writes.andThen`), so that each part of a
frame is read back by its own decoder whatever the encoder puts around it.
-/

/-! ## Parts of numbers -/

namespace ByteList

theorem ofLE_append (xs ys : Bytes) : ofLE (xs ++ ys) = ofLE xs + 256 ^ xs.length * ofLE ys := by
  induction xs with
  | nil => simp [ofLE]
  | cons x xs ih =>
    rw [List.cons_append, ofLE, ofLE, ih, List.length_cons, pow_succ']
    ring

/-- A number is its low bytes and its high bytes. -/
theorem readLE_add {m : Bytes} {off : ℕ} (low high : ℕ) (inside : off + low ≤ m.length) :
    readLE m off (low + high) = readLE m off low + 256 ^ low * readLE m (off + low) high := by
  rw [readLE, slice_append_slice, ofLE_append, length_slice inside]
  rfl

theorem readLE_low {m : Bytes} {off low len : ℕ} (part : low ≤ len)
    (inside : off + low ≤ m.length) :
    readLE m off low = readLE m off len % 256 ^ low := by
  rw [← Nat.add_sub_cancel' part, readLE_add low _ inside, Nat.add_mul_mod_self_left,
    Nat.mod_eq_of_lt (readLE_lt m off low)]

theorem readLE_congr {m m' : Bytes} {off w : ℕ}
    (same : ∀ i, off ≤ i → i < off + w → m[i]? = m'[i]?) :
    readLE m off w = readLE m' off w := by
  have agree : Agree m m' off (off + w) := same
  exact agree.readLE_eq le_rfl le_rfl

theorem slice_one {m : Bytes} {off : ℕ} {x : UInt8} (here : m[off]? = some x) :
    slice m off 1 = [x] := by
  apply List.ext_getElem?
  intro i
  rw [getElem?_slice]
  cases i with
  | zero => exact here
  | succ i => rw [if_neg (by omega), List.getElem?_cons_succ, List.getElem?_nil]

end ByteList

namespace CapnpDeno

open ByteList

namespace Wire

/-! ## Steps -/

/-- From `b` to `b'`, only `touched` bytes of `b` change; whoever keeps the `owned` bytes of `b'`
shows `P`. -/
structure Writes (b b' : RpcWireMessageBuilder) (touched owned : ℕ → Prop) (P : Bytes → Prop) :
    Prop where
  grown : Grows b b' touched
  bound : ∀ i, owned i → i < 8 * b'.words
  shows : ∀ m, 8 * b'.words ≤ m.length → (∀ i, owned i → m[i]? = b'.bytes[i]?) → P m

section Steps

variable {b b₁ b' : RpcWireMessageBuilder} {touched touched' owned owned' : ℕ → Prop}
  {P Q : Bytes → Prop}

/-- The second step leaves alone what the first one owns. -/
theorem Writes.andThen (h : Writes b b₁ touched owned P) (h' : Writes b₁ b' touched' owned' Q)
    (apart : ∀ i, owned i → ¬ touched' i) :
    Writes b b' (fun i => touched i ∨ touched' i) (fun i => owned i ∨ owned' i) fun m => P m ∧
    Q m := by
  have more := h'.grown.words
  refine ⟨?_, ?_, fun m long same => ⟨?_, ?_⟩⟩
  · exact (h.grown.mono fun i _ => .inl).trans (h'.grown.mono fun i _ => .inr)
  · rintro i (mine | mine)
    · exact (h.bound i mine).trans_le (by omega)
    · exact h'.bound i mine
  · apply h.shows m (by omega)
    intro i mine
    rw [same i (.inl mine)]
    exact h'.grown.same i (h.bound i mine) (apart i mine)
  · exact h'.shows m long fun i mine => same i (.inr mine)

theorem Writes.weaken (h : Writes b b' touched owned P)
    (sub : ∀ i, i < 8 * b.words → touched i → touched' i) (bound : ∀ i, owned' i → i < 8 * b'.words)
    (more : ∀ i, owned i → owned' i) (less : ∀ m, 8 * b'.words ≤ m.length → P m → Q m) :
    Writes b b' touched' owned' Q :=
  ⟨h.grown.mono sub, bound, fun m long same =>
    less m long (h.shows m long fun i mine => same i (more i mine))⟩

/-- What is shown follows with the length of the segment. -/
theorem Writes.imp (h : Writes b b' touched owned P)
    (less : ∀ m, 8 * b'.words ≤ m.length → P m → Q m) :
    Writes b b' touched owned Q :=
  h.weaken (fun _ _ => id) h.bound (fun _ => id) less

theorem Writes.self (h : Writes b b' touched owned P) : P b'.bytes :=
  h.shows _ b'.size.ge fun _ _ => rfl

theorem Writes.nothing (b : RpcWireMessageBuilder) (touched : ℕ → Prop) :
    Writes b b touched (fun _ => False) fun _ => True :=
  ⟨.refl b touched, fun _ => False.elim, fun _ _ _ => trivial⟩

/-- The bytes of a number in a word. -/
def At (wordIndex byteOffset len i : ℕ) : Prop :=
  8 * wordIndex + byteOffset ≤ i ∧ i < 8 * wordIndex + byteOffset + len

/-- The bytes of a pointer, and the words that were added behind. -/
def Behind (b b' : RpcWireMessageBuilder) (pointerWord i : ℕ) : Prop :=
  i / 8 = pointerWord ∨ 8 * b.words ≤ i ∧ i < 8 * b'.words

/-- A step that writes a pointer and everything behind it. -/
def Points (b b' : RpcWireMessageBuilder) (pointerWord : ℕ) (P : Bytes → Prop) : Prop :=
  Writes b b' (fun i => i / 8 = pointerWord) (Behind b b' pointerWord) P

/-! ## Numbers and words -/

/-- A number is written; its low bytes may be all that stays. -/
theorem writes_writeUint {len kept wordIndex byteOffset value : ℕ} {context : String}
    (done : writeUint len context b wordIndex byteOffset value = .ok b') (part : kept ≤ len) :
    b'.words = b.words ∧ wordIndex < b.words ∧ byteOffset + len ≤ 8 ∧
      Writes b b' (At wordIndex byteOffset len) (At wordIndex byteOffset kept) fun m =>
        readLE m (8 * wordIndex + byteOffset) kept = value % 256 ^ kept := by
  unfold writeUint at done
  split_ifs at done with inside fits
  cases done
  rw [WORD_BYTES] at fits
  have room : wordIndex * WORD_BYTES + byteOffset + (toLE len value).length ≤ b.bytes.length := by
    rw [length_toLE, b.size, WORD_BYTES]
    omega
  refine ⟨rfl, inside, fits, ⟨⟨le_rfl, fun i low free => ?_⟩, fun i mine =>
    ?_, fun m long same => ?_⟩⟩
  · show (splice b.bytes _ _)[i]? = _
    rw [getElem?_splice room, if_neg]
    rw [length_toLE, WORD_BYTES]
    rintro ⟨first, last⟩
    exact free ⟨by omega, by omega⟩
  · obtain ⟨first, last⟩ := mine
    show i < 8 * b.words
    omega
  · have written : readLE m (8 * wordIndex + byteOffset) kept =
        readLE (writeLE b.bytes (wordIndex * WORD_BYTES + byteOffset) len value)
        (wordIndex * WORD_BYTES + byteOffset)
          kept := by
      rw [WORD_BYTES, Nat.mul_comm wordIndex]
      apply readLE_congr
      intro i first last
      rw [same i ⟨first, last⟩]
      show (splice b.bytes (wordIndex * WORD_BYTES + byteOffset) _)[i]? = _
      rw [WORD_BYTES, Nat.mul_comm wordIndex]
      rfl
    rw [length_toLE] at room
    rw [written, readLE_low part (by rw [length_writeLE room]; omega), readLE_writeLE_self room,
      Nat.mod_mod_of_dvd _ (pow_dvd_pow 256 part)]

theorem writes_number {len wordIndex byteOffset value : ℕ} {context : String}
    (small : value < 256 ^ len) (done : writeUint len context b wordIndex byteOffset value =
      .ok b') :
    b'.words = b.words ∧ wordIndex < b.words ∧ byteOffset + len ≤ 8 ∧
      Writes b b' (At wordIndex byteOffset len) (At wordIndex byteOffset len) fun m =>
        readLE m (8 * wordIndex + byteOffset) len = value := by
  obtain ⟨words, inside, fits, writes⟩ := writes_writeUint done le_rfl
  exact ⟨words, inside, fits, writes.imp fun m _ read => read.trans (Nat.mod_eq_of_lt small)⟩

/-! ## Pointers -/

theorem encodeSigned30_eq_ok {offset : ℤ} {encoded : ℕ}
    (done : encodeSigned30 offset = .ok encoded) :
    OffsetFits offset ∧ encoded = offsetField offset := by
  have same : CapnpDeno.encodeSigned30 offset = .ok encoded := by
    unfold encodeSigned30 at done
    unfold CapnpDeno.encodeSigned30
    by_cases outside : offset < -(1 <<< 29 : ℕ) ∨ offset > (1 <<< 29 : ℕ) - 1
    · rw [if_pos outside] at done
      cases done
    · rw [if_neg outside] at done ⊢
      exact done
  by_cases fits : OffsetFits offset
  · rw [encodeSigned30_ok fits] at same
    exact ⟨fits, (Except.ok.inj same).symm⟩
  · rw [encodeSigned30_error fits] at same
    cases same

theorem writes_writeWord {wordIndex value : ℕ} (done : writeWord b wordIndex value = .ok b') :
    b'.words = b.words ∧ wordIndex < b.words ∧
      Writes b b' (fun i => i / 8 = wordIndex) (fun i => i / 8 = wordIndex) fun m =>
        readLE m (8 * wordIndex) 8 = value % 2 ^ 64 := by
  have plain : b.writeWord wordIndex value = .ok b' := by
    unfold writeWord at done
    unfold MessageBuilder.writeWord
    split_ifs at done ⊢
    exact done
  have rewrites := MessageBuilder.writeWord_eq_ok.1 plain
  refine ⟨rewrites.words, rewrites.inside, rewrites.grows, fun i mine => ?_, fun m long same => ?_⟩
  · have inside := rewrites.inside
    rw [rewrites.words]
    omega
  · rw [← rewrites.read]
    exact readLE_congr fun i first last => same i (by omega)

theorem writes_setStructPointer {pointerWord targetWord dataWordCount pointerCount : ℕ}
    (small : dataWordCount < 2 ^ 16) (few : pointerCount < 2 ^ 16)
    (done : setStructPointer b pointerWord targetWord dataWordCount pointerCount = .ok b') :
    b'.words = b.words ∧ pointerWord < b.words ∧ OffsetFits ((targetWord : ℤ) - (pointerWord + 1)) ∧
      Writes b b' (fun i => i / 8 = pointerWord) (fun i => i / 8 = pointerWord) fun m =>
        readLE m (8 * pointerWord) 8 = structWord ((targetWord : ℤ) - (pointerWord + 1))
          dataWordCount pointerCount := by
  obtain ⟨encoded, offset, done⟩ := Fallible.bind_eq_ok.1 done
  obtain ⟨fits, rfl⟩ := encodeSigned30_eq_ok offset
  rw [structWord_eq_or _ small few] at done
  obtain ⟨words, inside, writes⟩ := writes_writeWord done
  refine ⟨words, inside, fits, writes.imp fun m _ read => ?_⟩
  rw [read, Nat.mod_eq_of_lt (structWord_lt small few)]

theorem writes_setListPointer {pointerWord targetWord elementSize count : ℕ}
    (size : elementSize < 8) (done : setListPointer b pointerWord targetWord elementSize count =
      .ok b') :
    b'.words = b.words ∧ pointerWord < b.words ∧ OffsetFits ((targetWord : ℤ) - (pointerWord + 1)) ∧
      Writes b b' (fun i => i / 8 = pointerWord) (fun i => i / 8 = pointerWord) fun m =>
        readLE m (8 * pointerWord) 8 =
          listWord ((targetWord : ℤ) - (pointerWord + 1)) elementSize (count % 2 ^ 29) := by
  have short : count % 2 ^ 29 < 2 ^ 29 := Nat.mod_lt _ (by decide)
  obtain ⟨encoded, offset, done⟩ := Fallible.bind_eq_ok.1 done
  obtain ⟨fits, rfl⟩ := encodeSigned30_eq_ok offset
  have masked : count &&& 0x1fff_ffff = count % 2 ^ 29 &&& 0x1fff_ffff := by
    rw [show 0x1fff_ffff = 2 ^ 29 - 1 from rfl, BitField.and_low_mask, BitField.and_low_mask,
      Nat.mod_mod]
  rw [masked, listWord_eq_or _ size short] at done
  obtain ⟨words, inside, writes⟩ := writes_writeWord done
  refine ⟨words, inside, fits, writes.imp fun m _ read => ?_⟩
  rw [read, Nat.mod_eq_of_lt (listWord_lt size short)]

end Steps

/-! ## Reading back -/

section Reading

variable {m : Bytes} {pointerWord start : ℕ} {offset : ℤ}

/-- A pointer that is not far is its own end. -/
theorem chase_near (inside : 8 * (pointerWord + 1) ≤ m.length)
    (near : readLE m (8 * pointerWord) 8 % 4 ≠ 2) :
    chase [m] 8 0 pointerWord = some ⟨0, pointerWord + 1, readLE m (8 * pointerWord) 8, false⟩ := by
  have range : inRange [m] 0 pointerWord 1 = true := inRange_iff.2 ⟨m, rfl, by omega, by omega⟩
  have word : wordAt [m] 0 pointerWord = readLE m (8 * pointerWord) 8 := rfl
  unfold chase
  simp only [range, word, Bool.true_eq_false, if_false, if_pos near]

theorem decodeStructPointer_near {dataWordCount pointerCount : ℕ}
    (inside : 8 * (pointerWord + 1) ≤ m.length)
    (word : readLE m (8 * pointerWord) 8 = structWord offset dataWordCount pointerCount)
    (fits : OffsetFits offset) (small : dataWordCount < 2 ^ 16) (few : pointerCount < 2 ^ 16)
    (present : 0 < dataWordCount + pointerCount) (target : (pointerWord : ℤ) + 1 + offset = start)
    (room : 8 * (start + dataWordCount + pointerCount) ≤ m.length) :
    decodeStructPointer ⟨[m]⟩ ⟨0, pointerWord⟩ =
      .ok (some ⟨0, start, dataWordCount, pointerCount⟩) := by
  obtain ⟨kind, field, data, pointers⟩ := structWord_fields offset small few
  have null : structWord offset dataWordCount pointerCount ≠ 0 := by
    unfold structWord
    omega
  have range : inRange [m] 0 (start : ℤ) (dataWordCount + pointerCount) = true :=
    inRange_iff.2 ⟨m, rfl, by omega, by omega⟩
  rw [← Fallible.toOption_eq_some, wire_decodeStructPointer,
    chase_near inside (by omega), Option.bind_some,
    if_pos (End.accepted_near Bool.false_ne_true), word, if_neg null, if_pos kind]
  simp only [End.struct, End.start, data, pointers, field, signed30_offsetField fits, Nat.cast_add,
    Nat.cast_one]
  rw [target, range]
  rfl

theorem decodeByteListPointer_near {count : ℕ} (inside : 8 * (pointerWord + 1) ≤ m.length)
    (word : readLE m (8 * pointerWord) 8 = listWord offset 2 count) (fits : OffsetFits offset)
    (short : count < 2 ^ 29) (target : (pointerWord : ℤ) + 1 + offset = start)
    (room : 8 * (start + bytesToWords count) ≤ m.length) :
    decodeByteListPointer ⟨[m]⟩ ⟨0, pointerWord⟩ = .ok (some ⟨0, start, count⟩) := by
  obtain ⟨kind, field, size, elements⟩ := listWord_fields offset (show 2 < 8 by decide) short
  have null : listWord offset 2 count ≠ 0 := by omega
  have range : inRange [m] 0 (start : ℤ) ((count + 7) / 8) = true := by
    refine inRange_iff.2 ⟨m, rfl, by omega, ?_⟩
    rw [bytesToWords] at room
    omega
  rw [← Fallible.toOption_eq_some, wire_decodeByteListPointer,
    chase_near inside (by omega), Option.bind_some,
    if_pos (End.accepted_near Bool.false_ne_true), word, if_neg null, if_pos kind, End.elementSize,
      if_pos size]
  simp only [End.byteList, End.start, elements, field, signed30_offsetField fits, Nat.cast_add,
    Nat.cast_one]
  rw [target, range]
  rfl

theorem decodeStructListPointer_near {words count dataWordCount pointerCount : ℕ}
    (inside : 8 * (pointerWord + 1) ≤ m.length)
    (word : readLE m (8 * pointerWord) 8 = listWord offset 7 words) (fits : OffsetFits offset)
    (short : words < 2 ^ 29) (target : (pointerWord : ℤ) + 1 + offset = start)
    (tag : readLE m (8 * start) 8 = tagWord count dataWordCount pointerCount)
    (some : count < 2 ^ 30) (small : dataWordCount < 2 ^ 16) (few : pointerCount < 2 ^ 16)
    (room : 8 * (start + 1) ≤ m.length) :
    decodeStructListPointer ⟨[m]⟩ ⟨0, pointerWord⟩ =
      .ok (Option.some ⟨0, start + 1, count, dataWordCount, pointerCount⟩) := by
  obtain ⟨kind, field, size, -⟩ := listWord_fields offset (show 7 < 8 by decide) short
  obtain ⟨kind', elements, data, pointers⟩ := tagWord_fields some small few
  have null : listWord offset 7 words ≠ 0 := by omega
  have range : inRange [m] 0 (start : ℤ) 1 = true := inRange_iff.2 ⟨m, rfl, by omega, by omega⟩
  have read : wordAt [m] 0 start = tagWord count dataWordCount pointerCount := tag
  rw [← Fallible.toOption_eq_some, wire_decodeStructListPointer,
    chase_near inside (by omega), Option.bind_some,
    if_pos (End.accepted_near Bool.false_ne_true), word, if_neg null, if_pos kind, End.elementSize,
      if_pos size]
  simp only [End.structList, End.start, field, signed30_offsetField fits, Nat.cast_add,
    Nat.cast_one]
  rw [target, Int.toNat_natCast, read, range, if_pos ⟨rfl, kind'⟩, elements, data, pointers]
  rfl

theorem decodeStructListPointer_null (inside : 8 * (pointerWord + 1) ≤ m.length)
    (word : readLE m (8 * pointerWord) 8 = 0) :
    decodeStructListPointer ⟨[m]⟩ ⟨0, pointerWord⟩ = .ok none := by
  rw [← Fallible.toOption_eq_some, wire_decodeStructListPointer,
    chase_near inside (by omega), Option.bind_some,
    if_pos (End.accepted_near Bool.false_ne_true), if_pos word]

theorem readUintInStruct_ok {len byteOffset dataWordCount pointerCount : ℕ} {context : String}
    (fits : byteOffset + len ≤ 8 * dataWordCount) (room : 8 * (start + dataWordCount) ≤ m.length) :
    readUintInStruct len context ⟨[m]⟩ ⟨0, start, dataWordCount, pointerCount⟩ byteOffset =
      .ok (readLE m (8 * start + byteOffset) len) := by
  unfold readUintInStruct
  simp only [WORD_BYTES, Fallible.throw_eq_error, Fallible.error_bind, Fallible.pure_eq_ok,
    List.getElem?_cons_zero, Option.getD_some]
  rw [if_neg (by omega), if_neg (by omega), Nat.mul_comm start]

theorem pointerWordIndex_ok {table : SegmentTable} {segmentId dataWordCount pointerCount i : ℕ}
    (low : i < pointerCount) :
    pointerWordIndex ⟨segmentId, start, dataWordCount, pointerCount⟩ i =
      .ok ⟨segmentId, start + dataWordCount + i⟩ ∧
      decodeStructField table ⟨segmentId, start, dataWordCount, pointerCount⟩ i =
        decodeStructPointer table ⟨segmentId, start + dataWordCount + i⟩ := by
  have index : pointerWordIndex ⟨segmentId, start, dataWordCount, pointerCount⟩ i =
      .ok ⟨segmentId, start + dataWordCount + i⟩ := if_neg (Nat.not_le.2 low)
  refine ⟨index, ?_⟩
  unfold decodeStructField
  rw [index, Fallible.ok_bind]

@[simp] theorem orThrow_some {α : Type} (message : String) (a : α) :
    orThrow message (some a) = .ok a := rfl

end Reading

/-! ## Structs and lists -/

section Parts

variable {b b' : RpcWireMessageBuilder} {pointerWord : ℕ}

/-- Words are allocated first. -/
theorem Writes.of_alloc {count : ℕ} {touched owned : ℕ → Prop} {P : Bytes → Prop}
    (h : Writes (b.allocWords count).2 b' touched owned P) : Writes b b' touched owned P :=
  ⟨(grows_allocWords b count touched).trans h.grown, h.bound, h.shows⟩

/-- A new struct is found behind its pointer. -/
theorem writes_allocStruct {start dataWordCount pointerCount : ℕ} (small : dataWordCount < 2 ^ 16)
    (few : pointerCount < 2 ^ 16) (present : 0 < dataWordCount + pointerCount)
    (done : allocStruct b pointerWord dataWordCount pointerCount = .ok (start, b')) :
    start = b.words ∧ b'.words = b.words + dataWordCount + pointerCount ∧ pointerWord < b'.words ∧
      Writes b b' (fun i => i / 8 = pointerWord) (fun i => i / 8 = pointerWord) fun m =>
        decodeStructPointer ⟨[m]⟩ ⟨0, pointerWord⟩ =
          .ok (some ⟨0, b.words, dataWordCount, pointerCount⟩) := by
  obtain ⟨b₁, pointed, same⟩ := Fallible.bind_eq_ok.1 done
  cases same
  obtain ⟨words, inside, fits, writes⟩ := writes_setStructPointer small few pointed
  have words : b'.words = b.words + (dataWordCount + pointerCount) := words
  have inside : pointerWord < b.words + (dataWordCount + pointerCount) := inside
  refine ⟨rfl, by omega, by omega, ?_⟩
  apply writes.of_alloc.imp
  intro m long word
  exact decodeStructPointer_near (by omega) word fits small few present (by omega) (by omega)

/-- The elements of a list, from the `k`-th on. -/
def Elements (base stride k n i : ℕ) : Prop :=
  8 * (base + k * stride) ≤ i ∧ i < 8 * (base + (k + n) * stride)

/-- The elements of a list are written one after the other. -/
theorem writes_elements {α : Type} {f : RpcWireMessageBuilder → α × ℕ →
      Except Thrown RpcWireMessageBuilder}
    {base stride : ℕ} (read : Bytes → ℕ → α → Prop) (good : α → Prop)
    (step : ∀ b a i b', good a → base + (i + 1) * stride ≤ b.words → f b (a, i) = .ok b' →
      Writes b b' (Elements base stride i 1)
      (fun k => Elements base stride i 1 k ∨ 8 * b.words ≤ k ∧ k < 8 * b'.words)
        fun m => read m i a) {entries : List α} {k : ℕ} (all_good : ∀ a ∈ entries, good a)
    (room : base + (k + entries.length) * stride ≤ b.words)
    (run : (entries.zipIdx k).foldlM f b = .ok b') :
    Writes b b' (Elements base stride k entries.length)
      (fun i => Elements base stride k entries.length i ∨ 8 * b.words ≤ i ∧ i < 8 * b'.words)
      fun m => ∀ j a, entries[j]? = some a → read m (k + j) a := by
  induction entries generalizing b k with
  | nil =>
    cases run
    refine (Writes.nothing _ fun _ => False).weaken (fun _ _ => False.elim) ?_
      (fun _ => False.elim) ?_
    · rintro i (⟨low, high⟩ | ⟨low, high⟩)
      · exact absurd (low.trans_lt high) (lt_irrefl _)
      · exact high
    · rintro m - - j a known
      cases known
  | cons a entries ih =>
    rw [List.zipIdx_cons, List.foldlM_cons] at run
    obtain ⟨b₁, first, rest⟩ := Fallible.bind_eq_ok.1 run
    rw [List.length_cons] at room ⊢
    have all : (k + (entries.length + 1)) * stride = k * stride + stride + entries.length *
        stride := by ring
    have one : (k + 1) * stride = k * stride + stride := by ring
    have others : (k + 1 + entries.length) * stride = k * stride + stride + entries.length *
        stride := by ring
    have here := step b a k b₁ (all_good a List.mem_cons_self) (by omega) first
    have more := here.grown.words
    have later := ih (fun a mem => all_good a (List.mem_cons_of_mem _ mem)) (by omega) rest
    have more' := later.grown.words
    apply (here.andThen later _).weaken
    · simp only [Elements]
      omega
    · simp only [Elements]
      omega
    · simp only [Elements]
      omega
    · rintro m - ⟨read, reads⟩ j a' known
      cases j with
      | zero =>
        cases known
        exact read
      | succ j =>
        have := reads j a' known
        rwa [show k + 1 + j = k + (j + 1) by omega] at this
    · simp only [Elements]
      omega

theorem decodeElements_ok {α β : Type} {decode : StructRef → Except Thrown β} {list : StructListRef}
    {entries : List α} {g : α → β} (count : list.elementCount = entries.length)
    (each : ∀ j a, entries[j]? = some a → decode ⟨list.segmentId,
      list.elementsStartWord + j * (list.dataWordCount + list.pointerCount), list.dataWordCount,
        list.pointerCount⟩ = .ok (g a)) : decodeElements decode list = .ok (entries.map g) := by
  apply Fallible.mapM_eq_ok.2
  rw [List.forall₂_iff_get]
  refine ⟨by rw [List.length_range, List.length_map, count], fun i low low' => ?_⟩
  rw [List.length_map] at low'
  simp only [List.get_eq_getElem, List.getElem_range, List.getElem_map]
  exact each i _ (List.getElem?_eq_getElem low')

/-- Bytes that are written behind words of their own. -/
theorem writes_writeBytes {start : ℕ} {value : Bytes} (done : writeBytes b start 0 value = .ok b') :
    b'.words = b.words ∧ 8 * start + value.length ≤ 8 * b.words ∧
      Writes b b' (At start 0 value.length) (At start 0 value.length) fun m =>
        slice m (8 * start) value.length = value := by
  unfold writeBytes at done
  split_ifs at done with fits
  cases done
  simp only [WORD_BYTES, Nat.add_zero, Nat.mul_comm start] at fits
  have room : 8 * start + value.length ≤ b.bytes.length := by rwa [b.size]
  refine ⟨rfl, fits, ⟨⟨le_rfl, fun i low free => ?_⟩, fun i mine => ?_, fun m long same => ?_⟩⟩
  · show (splice b.bytes (start * WORD_BYTES + 0) _)[i]? = _
    rw [WORD_BYTES, Nat.add_zero, Nat.mul_comm start, getElem?_splice room, if_neg]
    exact fun inside => free ⟨inside.1, inside.2⟩
  · exact mine.2.trans_le fits
  · refine Eq.trans (List.ext_getElem? fun i => ?_) (slice_splice_self room)
    rw [getElem?_slice, getElem?_slice]
    split_ifs with low
    · rw [same _ ⟨by omega, by omega⟩]
      show (splice b.bytes (start * WORD_BYTES + 0) _)[_]? = _
      rw [WORD_BYTES, Nat.add_zero, Nat.mul_comm start]
    · rfl

end Parts

end Wire

end CapnpDeno
