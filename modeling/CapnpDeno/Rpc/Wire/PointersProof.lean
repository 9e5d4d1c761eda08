import CapnpDeno.Rpc.Wire.FrameLimitsProof
import CapnpDeno.Rpc.Wire.Pointers
import CapnpDeno.Rpc.Wire.SegmentParsers

/-!
# The envelope's pointer code against the reader's

Both follow the far pointers of a slot to the same end.  They differ in what they make of it: the
envelope's code asks for a word at the target of every double-far pointer, takes a zero tag for
null, follows the offset of a struct tag, and does not check the elements of a composite list.
-/

namespace CapnpDeno

open ByteList

namespace Wire

variable {segments : List Bytes} {s p : ℕ}

/-! ## Where the far pointers of a slot end -/

/-- A pointer word other than a far pointer, and the word from which its offset counts: the one
behind it, or the target of a double-far pointer. -/
structure End where
  segmentId : ℕ
  base : ℕ
  word : ℕ
  doubleFar : Bool
deriving DecidableEq

/-- Follow the far pointers from a slot, at most so many words. -/
def chase (segments : List Bytes) : ℕ → ℕ → ℕ → Option End
  | 0, _, _ => none
  | hops + 1, s, p =>
    let word := wordAt segments s p
    let pad := word / 8 % 2 ^ 29
    let padSegment := word / 2 ^ 32 % 2 ^ 32
    if inRange segments s p 1 = false then none
    else if word % 4 ≠ 2 then some ⟨s, p + 1, word, false⟩
    else if word / 4 % 2 ≠ 1 then chase segments hops padSegment pad
    else
      let pad0 := wordAt segments padSegment pad
      if inRange segments padSegment pad 2 ∧ pad0 % 4 = 2 ∧ pad0 / 4 % 2 ≠ 1 then
        some ⟨pad0 / 2 ^ 32 % 2 ^ 32, pad0 / 8 % 2 ^ 29, wordAt segments padSegment (pad + 1), true⟩
      else none

theorem ensureSegmentRange_toOption (table : SegmentTable) (s : ℕ) (start : ℤ) (count : ℕ)
    (context : String) :
    (ensureSegmentRange table s (start * WORD_BYTES) (count * WORD_BYTES) context).toOption =
      if inRange table.segments s start count then some () else none := by
  unfold ensureSegmentRange inRange
  cases table.segments[s]? with
  | none => rfl
  | some seg =>
    simp only [Fallible.throw_eq_error, Fallible.pure_eq_ok, Fallible.toOption_ite,
      Fallible.toOption_error, Fallible.toOption_ok, WORD_BYTES, decide_eq_true_eq]
    by_cases outside : start * (8 : ℕ) < 0 ∨ start * (8 : ℕ) + (count * 8 : ℕ) > seg.length
    · rw [if_pos outside, if_neg (by omega)]
    · rw [if_neg outside, if_pos (by omega)]

theorem readWordFromTable_toOption (table : SegmentTable) (s : ℕ) (start : ℤ) (context : String) :
    (readWordFromTable table s start context).toOption =
      if inRange table.segments s start 1 then some (wordAt table.segments s start.toNat)
        else none := by
  have range := ensureSegmentRange_toOption table s start 1 context
  rw [Nat.one_mul] at range
  unfold readWordFromTable
  rw [Fallible.toOption_bind, range]
  cases inRange table.segments s start 1 with
  | false => rfl
  | true =>
    show some (readLE _ (start.toNat * WORD_BYTES) 8) = _
    rw [Nat.mul_comm]
    rfl

theorem targetOutOfRange_eq (table : SegmentTable) (s : ℕ) (start : ℤ) (count : ℕ) :
    targetOutOfRange table s start count = !inRange table.segments s start count := by
  unfold targetOutOfRange inRange
  cases table.segments[s]? with
  | none => rfl
  | some seg =>
    rw [← decide_not, decide_eq_decide, WORD_BYTES]
    omega

/-- The landing pad, as far as the target is not looked at. -/
theorem inRange_pad {s p : ℕ} (pad : inRange segments s p 2 = true) :
    inRange segments s p 1 = true ∧ inRange segments s (p + 1 : ℕ) 1 = true := by
  rw [show 2 = 1 + 1 from rfl, inRange_split, Bool.and_eq_true] at pad
  exact_mod_cast pad

/-- The reader's result in terms of the end. -/
def End.toReader (e : End) : CapnpDeno.ResolvedPointer :=
  ⟨e.segmentId, (e.base : ℤ) - 1, e.word, if e.doubleFar then some e.base else none⟩

theorem reader_resolveHops (r : MessageReader) {hops : ℕ}
    (inside : inRange r.segments s p 1 = true) :
    (r.resolveHops hops s p (wordAt r.segments s p)).toOption =
      (chase r.segments hops s p).map End.toReader := by
  induction hops generalizing s p with
  | zero => rfl
  | succ hops ih =>
    unfold chase MessageReader.resolveHops
    simp only [and_kind, and_landing, and_segment, FrameLimits.and_doubleFar, inside,
      Bool.true_eq_false, if_false]
    by_cases near : wordAt r.segments s p % 4 = 2
    · simp only [near, ne_eq, not_true_eq_false, if_false]
      by_cases double : wordAt r.segments s p / 4 % 2 = 1
      · simp only [double, if_true, not_true_eq_false, if_false]
        unfold MessageReader.resolveDoubleFar
        simp only [and_kind, and_landing, and_segment, FrameLimits.and_doubleFar,
          Fallible.toOption_bind,
          MessageReader.requireWordRange_toOption, MessageReader.readWord_toOption,
          Fallible.throw_eq_error,
          Fallible.error_bind, Fallible.toOption_ite, Fallible.toOption_error, Fallible.pure_eq_ok,
          Fallible.toOption_ok]
        generalize wordAt r.segments s p / 8 % 2 ^ 29 = pad, wordAt r.segments s p / 2 ^ 32 % 2 ^
          32 = padSegment
        cases range : inRange r.segments padSegment pad 2 with
        | false => simp
        | true =>
          obtain ⟨first, second⟩ := inRange_pad range
          push_cast at second
          simp only [first, second, if_true, Option.bind_some, Int.toNat_natCast, true_and]
          by_cases kind : wordAt r.segments padSegment pad % 4 = 2
          · by_cases single : wordAt r.segments padSegment pad / 4 % 2 = 1
            · simp [kind, single]
            · simp [kind, single, End.toReader, show ((pad : ℤ) + 1).toNat = pad + 1 by omega]
          · simp [kind]
      · simp only [double, if_false, not_false_eq_true, if_true, Fallible.toOption_bind,
          MessageReader.readWord_toOption]
        generalize wordAt r.segments s p / 8 % 2 ^ 29 = pad, wordAt r.segments s p / 2 ^ 32 % 2 ^
          32 = padSegment
        cases landing : inRange r.segments padSegment pad 1 with
        | false =>
          cases hops with
          | zero => rfl
          | succ hops =>
            unfold chase
            simp [landing]
        | true => exact ih landing
    · simp only [near, ne_eq, not_false_eq_true, if_true, Fallible.pure_eq_ok, Fallible.toOption_ok]
      simp [End.toReader]

theorem reader_resolvePointer (r : MessageReader) (s p : ℕ) :
    (r.resolvePointer s p).toOption = (chase r.segments 8 s p).map End.toReader := by
  unfold MessageReader.resolvePointer
  rw [Fallible.toOption_bind, MessageReader.readWord_toOption]
  cases inside : inRange r.segments s p 1 with
  | false =>
    unfold chase
    simp [inside]
  | true => exact reader_resolveHops r inside

/-- The envelope's code asks for a word at the target of a double-far pointer. -/
def End.Accepted (segments : List Bytes) (e : End) : Prop :=
  e.doubleFar = true → inRange segments e.segmentId e.base 1 = true

instance (segments : List Bytes) (e : End) : Decidable (e.Accepted segments) :=
  inferInstanceAs (Decidable (_ → _))

theorem End.accepted_near {e : End} (near : ¬ e.doubleFar = true) : e.Accepted segments :=
  fun far => absurd far near

def End.toWire (e : End) : ResolvedPointer := ⟨e.segmentId, (e.base : ℤ) - 1, e.word⟩

theorem wire_resolveHops (table : SegmentTable) {hops : ℕ}
    (inside : inRange table.segments s p 1 = true) :
    (resolveHops table hops s p (wordAt table.segments s p)).toOption =
      (chase table.segments hops s p).bind fun e => if e.Accepted table.segments then some e.toWire
        else none := by
  induction hops generalizing s p with
  | zero => rfl
  | succ hops ih =>
    unfold chase resolveHops
    simp only [and_kind, and_landing, and_segment, FrameLimits.and_doubleFar, inside,
      Bool.true_eq_false, if_false]
    by_cases near : wordAt table.segments s p % 4 = 2
    · simp only [near, ne_eq, not_true_eq_false, if_false]
      by_cases double : wordAt table.segments s p / 4 % 2 = 1
      · simp only [double, not_true_eq_false, if_false]
        unfold resolveDoubleFar
        simp only [and_kind, and_landing, and_segment, FrameLimits.and_doubleFar,
          Fallible.toOption_bind,
          Nat.cast_mul, ensureSegmentRange_toOption, readWordFromTable_toOption,
          Fallible.throw_eq_error,
          Fallible.error_bind, Fallible.toOption_ite, Fallible.toOption_error, Fallible.pure_eq_ok,
          Fallible.toOption_ok]
        generalize wordAt table.segments s p / 8 % 2 ^ 29 = pad,
          wordAt table.segments s p / 2 ^ 32 % 2 ^ 32 = padSegment
        cases range : inRange table.segments padSegment pad 2 with
        | false => simp
        | true =>
          obtain ⟨first, second⟩ := inRange_pad range
          simp only [first, second, if_true, Option.bind_some, Int.toNat_natCast, true_and]
          by_cases kind : wordAt table.segments padSegment pad % 4 = 2
          · by_cases single : wordAt table.segments padSegment pad / 4 % 2 = 1
            · simp [kind, single]
            · have target := ensureSegmentRange_toOption table
                (wordAt table.segments padSegment pad / 2 ^ 32 % 2 ^ 32)
                ((wordAt table.segments padSegment pad / 8 % 2 ^ 29 : ℕ) : ℤ) 1
                "double-far target word"
              rw [Nat.one_mul] at target
              simp only [kind, single, if_false, not_false_eq_true, and_self,
                if_true, target, Option.bind_some, End.Accepted, forall_const, End.toWire]
              cases inRange table.segments (wordAt table.segments padSegment pad / 2 ^ 32 % 2 ^ 32)
                ((wordAt table.segments padSegment pad / 8 % 2 ^ 29 : ℕ) : ℤ) 1 <;> rfl
          · simp [kind]
      · simp only [double, not_false_eq_true, if_true, Fallible.toOption_bind,
          readWordFromTable_toOption]
        generalize wordAt table.segments s p / 8 % 2 ^ 29 = pad,
          wordAt table.segments s p / 2 ^ 32 % 2 ^ 32 = padSegment
        cases landing : inRange table.segments padSegment pad 1 with
        | false =>
          cases hops with
          | zero => rfl
          | succ hops =>
            unfold chase
            simp [landing]
        | true => exact ih landing
    · simp only [near, ne_eq, not_false_eq_true, if_true, Fallible.pure_eq_ok, Fallible.toOption_ok]
      simp [End.toWire, End.Accepted]

theorem wire_resolvePointer (table : SegmentTable) (s p : ℕ) :
    (resolvePointer table s p).toOption =
      (chase table.segments 8 s p).bind fun e => if e.Accepted table.segments then some e.toWire
        else none := by
  unfold resolvePointer
  rw [Fallible.toOption_bind, readWordFromTable_toOption]
  cases inside : inRange table.segments s p 1 with
  | false =>
    unfold chase
    simp [inside]
  | true => exact wire_resolveHops table inside

/-! ## What the decoders make of an end -/

/-- Where the word's offset leads. -/
def End.start (e : End) : ℤ := e.base + signed30 (e.word / 4 % 2 ^ 30)

/-- The element size in a list pointer. -/
def End.elementSize (e : End) : ℕ := e.word / 2 ^ 32 % 8

/-- The list that the word describes, if it is in range. -/
def End.list (segments : List Bytes) (e : End) : Option Target :=
  targetOf segments e.segmentId e.base e.word

/-- A decoder begins by resolving its slot. -/
theorem resolvePointer_bind {α : Type} (table : SegmentTable) (loc : PointerLocation)
    (decode : ResolvedPointer → Except Thrown α) :
    (resolvePointer table loc.segmentId loc.wordIndex >>= decode).toOption =
      (chase table.segments 8 loc.segmentId loc.wordIndex).bind fun e =>
        if e.Accepted table.segments then (decode e.toWire).toOption else none := by
  rw [Fallible.toOption_bind, wire_resolvePointer, Option.bind_assoc]
  congr 1
  funext e
  split_ifs <;> rfl

/-- The struct that the word describes, if it is in range. -/
def End.struct (segments : List Bytes) (e : End) : Option StructRef :=
  let dw := e.word / 2 ^ 32 % 2 ^ 16
  let pc := e.word / 2 ^ 48 % 2 ^ 16
  if inRange segments e.segmentId e.start (dw + pc) then some ⟨e.segmentId, e.start.toNat, dw, pc⟩
    else none

theorem wire_decodeStructPointer (table : SegmentTable) (loc : PointerLocation) :
    (decodeStructPointer table loc).toOption =
      (chase table.segments 8 loc.segmentId loc.wordIndex).bind fun e =>
        if e.Accepted table.segments then
          if e.word = 0 then some none
          else if e.word % 4 = 0 then (e.struct table.segments).map some
          else none
        else none := by
  unfold decodeStructPointer
  rw [resolvePointer_bind]
  congr 1
  funext e
  congr 1
  have start : e.toWire.pointerWord + 1 + signed30 (e.word / 4 % 2 ^ 30) = e.start := by
    rw [End.toWire, End.start, sub_add_cancel]
  simp only [show e.toWire.word = e.word from rfl, show e.toWire.segmentId = e.segmentId from rfl,
    and_kind, and_offset,
    and_low16, and_high16, start, targetOutOfRange_eq, Fallible.throw_eq_error, Fallible.error_bind,
    Fallible.pure_eq_ok, Fallible.toOption_ite, Fallible.toOption_error, Fallible.toOption_ok,
    ne_eq, ite_not, End.struct]
  congr 2
  cases inRange table.segments e.segmentId e.start
    (e.word / 2 ^ 32 % 2 ^ 16 + e.word / 2 ^ 48 % 2 ^ 16) <;> rfl

/-- The byte list that the word describes, if it is in range. -/
def End.byteList (segments : List Bytes) (e : End) : Option ByteListRef :=
  let n := e.word / 2 ^ 35 % 2 ^ 29
  if inRange segments e.segmentId e.start ((n + 7) / 8) then some ⟨e.segmentId, e.start.toNat, n⟩
    else none

theorem wire_decodeByteListPointer (table : SegmentTable) (loc : PointerLocation) :
    (decodeByteListPointer table loc).toOption =
      (chase table.segments 8 loc.segmentId loc.wordIndex).bind fun e =>
        if e.Accepted table.segments then
          if e.word = 0 then some none
          else if e.word % 4 = 1 then
            if e.elementSize = 2 then (e.byteList table.segments).map some else none
          else none
        else none := by
  unfold decodeByteListPointer
  rw [resolvePointer_bind]
  congr 1
  funext e
  congr 1
  have start : e.toWire.pointerWord + 1 + signed30 (e.word / 4 % 2 ^ 30) = e.start := by
    rw [End.toWire, End.start, sub_add_cancel]
  simp only [show e.toWire.word = e.word from rfl, show e.toWire.segmentId = e.segmentId from rfl,
    and_kind, and_offset,
    and_elementSize, and_count, start, targetOutOfRange_eq, Fallible.throw_eq_error,
    Fallible.error_bind,
    Fallible.pure_eq_ok, Fallible.toOption_ite, Fallible.toOption_error, Fallible.toOption_ok,
    ne_eq, ite_not, WORD_BYTES, End.elementSize, End.byteList]
  congr 3
  cases inRange table.segments e.segmentId e.start ((e.word / 2 ^ 35 % 2 ^ 29 + 7) / 8) <;> rfl

/-- The composite list that the tag at the target describes, wherever its elements lie. -/
def End.structList (segments : List Bytes) (e : End) : Option StructListRef :=
  let tag := wordAt segments e.segmentId e.start.toNat
  if inRange segments e.segmentId e.start 1 ∧ tag % 4 = 0 then
    some ⟨e.segmentId, (e.start + 1).toNat, tag / 4 % 2 ^ 30, tag / 2 ^ 32 % 2 ^ 16,
      tag / 2 ^ 48 % 2 ^ 16⟩
  else none

theorem wire_decodeStructListPointer (table : SegmentTable) (loc : PointerLocation) :
    (decodeStructListPointer table loc).toOption =
      (chase table.segments 8 loc.segmentId loc.wordIndex).bind fun e =>
        if e.Accepted table.segments then
          if e.word = 0 then some none
          else if e.word % 4 = 1 then
            if e.elementSize = 7 then (e.structList table.segments).map some else none
          else none
        else none := by
  unfold decodeStructListPointer
  rw [resolvePointer_bind]
  congr 1
  funext e
  congr 1
  have start : e.toWire.pointerWord + 1 + signed30 (e.word / 4 % 2 ^ 30) = e.start := by
    rw [End.toWire, End.start, sub_add_cancel]
  simp only [show e.toWire.word = e.word from rfl, show e.toWire.segmentId = e.segmentId from rfl,
    and_kind, and_offset,
    and_low16, and_high16, and_elementSize, start, readWordFromTable_toOption,
    Fallible.toOption_bind,
    Fallible.throw_eq_error, Fallible.error_bind, Fallible.pure_eq_ok, Fallible.toOption_ite,
    Fallible.toOption_error, Fallible.toOption_ok, ne_eq, ite_not, End.elementSize, End.structList]
  congr 3
  cases inRange table.segments e.segmentId e.start 1 with
  | false => simp
  | true =>
    simp only [if_true, Option.bind_some, true_and]
    split_ifs <;> rfl

theorem End.toReader_base (e : End) : e.toReader.base = e.base := by
  rw [CapnpDeno.ResolvedPointer.base, End.toReader, sub_add_cancel]

theorem End.toReader_contentWord (e : End) :
    e.toReader.contentWord = none ↔ e.doubleFar = false := by
  unfold End.toReader
  cases e.doubleFar <;> simp

theorem reader_resolved (r : MessageReader) (s p : ℕ) :
    (∃ error, r.resolvePointer s p = .error error) ∧ chase r.segments 8 s p = none ∨
      ∃ e, r.resolvePointer s p = .ok e.toReader ∧ chase r.segments 8 s p = some e := by
  have resolved := reader_resolvePointer r s p
  cases found : chase r.segments 8 s p with
  | none =>
    rw [found, Option.map_none, Fallible.toOption_eq_none] at resolved
    exact .inl ⟨resolved, rfl⟩
  | some e =>
    rw [found, Option.map_some, Fallible.toOption_eq_some] at resolved
    exact .inr ⟨e, resolved, rfl⟩

theorem reader_readStructPointer (r : MessageReader) (s p : ℕ) :
    (r.readStructPointer s p).toOption =
      (chase r.segments 8 s p).bind fun e =>
        if e.word = 0 ∧ e.doubleFar = false then some none
        else if e.word % 4 = 0 then
          if e.doubleFar = true ∧ signed30 (e.word / 4 % 2 ^ 30) ≠ 0 then none
            else (e.struct r.segments).map some
        else none := by
  obtain ⟨⟨error, failed⟩, lost⟩ | ⟨e, done, found⟩ := reader_resolved r s p
  · rw [lost]
    unfold MessageReader.readStructPointer
    rw [failed]
    rfl
  rw [found, Option.bind_some]
  have far : e.toReader.contentWord = none ↔ e.doubleFar = false := e.toReader_contentWord
  by_cases null : e.word = 0 ∧ e.doubleFar = false
  · rw [if_pos null]
    unfold MessageReader.readStructPointer
    rw [done, Fallible.ok_bind, if_pos ⟨null.1, far.2 null.2⟩]
    rfl
  have present : ¬ e.toReader.isNull := fun isNull => null ⟨isNull.1, far.1 isNull.2⟩
  rw [if_neg null]
  by_cases kind : e.word % 4 = 0
  · have spec := MessageReader.readStructPointer_toOption done present kind
    rw [if_pos kind, spec, e.toReader_base]
    have bad : e.toReader.badTag ↔ e.doubleFar = true ∧ signed30 (e.word / 4 % 2 ^ 30) ≠ 0 := by
      rw [CapnpDeno.ResolvedPointer.badTag, Ne, far, Bool.not_eq_false]
      exact Iff.rfl
    by_cases tag : e.doubleFar = true ∧ signed30 (e.word / 4 % 2 ^ 30) ≠ 0
    · rw [if_pos tag]
      exact if_neg fun fine => fine.1 (bad.2 tag)
    · rw [if_neg tag, End.struct]
      have good : ¬ e.toReader.badTag := fun isBad => tag (bad.1 isBad)
      simp only [good, not_false_eq_true, true_and]
      split_ifs with inside inside' inside'
      · rfl
      · exact absurd inside inside'
      · exact absurd inside' inside
      · rfl
  · rw [if_neg kind]
    unfold MessageReader.readStructPointer
    rw [done, Fallible.ok_bind, if_neg present]
    simp only [and_kind, show e.toReader.word = e.word from rfl, kind, ne_eq,
      not_false_eq_true, if_true]
    rfl

theorem reader_readListPointer (r : MessageReader) (s p : ℕ) :
    (r.readListPointer s p).toOption.map (Option.map ListRef.target) =
      (chase r.segments 8 s p).bind fun e =>
        if e.word = 0 ∧ e.doubleFar = false then some none
        else if e.word % 4 = 1 then (e.list r.segments).map some
        else none := by
  obtain ⟨⟨error, failed⟩, lost⟩ | ⟨e, done, found⟩ := reader_resolved r s p
  · rw [lost]
    unfold MessageReader.readListPointer
    rw [failed]
    rfl
  rw [found, Option.bind_some]
  have far : e.toReader.contentWord = none ↔ e.doubleFar = false := e.toReader_contentWord
  by_cases null : e.word = 0 ∧ e.doubleFar = false
  · rw [if_pos null]
    unfold MessageReader.readListPointer
    rw [done, Fallible.ok_bind, if_pos ⟨null.1, far.2 null.2⟩]
    rfl
  have present : ¬ e.toReader.isNull := fun isNull => null ⟨isNull.1, far.1 isNull.2⟩
  rw [if_neg null]
  by_cases kind : e.word % 4 = 1
  · have spec := MessageReader.readListPointer_toOption done kind
    rw [if_pos kind, spec, e.toReader_base]
    rfl
  · rw [if_neg kind]
    unfold MessageReader.readListPointer
    rw [done, Fallible.ok_bind, if_neg present]
    simp only [and_kind, show e.toReader.word = e.word from rfl, kind, ne_eq,
      not_false_eq_true, if_true]
    rfl

/-! ## Where they agree -/

theorem chase_word_lt {hops : ℕ} {e : End} (found : chase segments hops s p = some e) :
    e.word < 2 ^ 64 := by
  induction hops generalizing s p with
  | zero => cases found
  | succ hops ih =>
    unfold chase at found
    simp only at found
    split_ifs at found
    · cases found
      exact readLE_lt _ _ 8
    · exact ih found
    · cases found
      exact readLE_lt _ _ 8

theorem inRange_mono {n m : ℕ} {start : ℤ} (inside : inRange segments s start n = true)
    (less : m ≤ n) :
    inRange segments s start m = true := by
  obtain ⟨bytes, found, low, high⟩ := inRange_iff.1 inside
  exact inRange_iff.2 ⟨bytes, found, low, by omega⟩

/-- The end of a double-far pointer that the two sides take for different structs: a zero tag whose
target position exists, or a tag with an offset that leads to a struct in range. -/
def StructDiverges (segments : List Bytes) (e : End) : Prop :=
  e.doubleFar = true ∧ e.word % 4 = 0 ∧
    (e.word = 0 ∧ inRange segments e.segmentId e.base 0 = true ∨
      signed30 (e.word / 4 % 2 ^ 30) ≠ 0 ∧ inRange segments e.segmentId e.base 1 = true ∧
        (e.struct segments).isSome = true)

/-- The end of a list pointer that the two sides take for different lists: a zero double-far tag, a
list of another element size than the decoder is for, a list behind a double-far pointer to where no
word is, or a composite list whose elements exceed the declared words or the segment. -/
def ListDiverges (segments : List Bytes) (elementSize : ℕ) (e : End) : Prop :=
  e.doubleFar = true ∧ e.word = 0 ∧ inRange segments e.segmentId e.base 1 = true ∨
    e.word % 4 = 1 ∧
      (e.elementSize ≠ elementSize ∧ (e.list segments).isSome = true ∨
        e.elementSize = elementSize ∧ ¬ e.Accepted segments ∧ (e.list segments).isSome = true ∨
        elementSize = 7 ∧ e.elementSize = 7 ∧ e.Accepted segments ∧
        (e.structList segments).isSome = true ∧
          e.list segments = none)

theorem signed30_eq_zero {v : ℕ} (small : v < 2 ^ 30) : signed30 v = 0 ↔ v = 0 := by
  rw [signed30_eq small]
  split_ifs <;> omega

theorem struct_agree_iff {e : End} (small : e.word < 2 ^ 64) :
    (if e.Accepted segments then
        if e.word = 0 then some none else if e.word % 4 = 0 then (e.struct segments).map some
          else none
      else none) =
      (if e.word = 0 ∧ e.doubleFar = false then some none
        else if e.word % 4 = 0 then
          if e.doubleFar = true ∧ signed30 (e.word / 4 % 2 ^ 30) ≠ 0 then none
            else (e.struct segments).map some
        else none) ↔ ¬ StructDiverges segments e := by
  unfold StructDiverges
  by_cases far : e.doubleFar = true
  swap
  · rw [if_pos (End.accepted_near far)]
    simp [far]
  have accepted_iff : e.Accepted segments ↔ inRange segments e.segmentId e.base 1 = true :=
    forall_prop_of_true far
  by_cases kind : e.word % 4 = 0
  · by_cases offset : signed30 (e.word / 4 % 2 ^ 30) = 0
    · have start : e.start = e.base := by rw [End.start, offset, add_zero]
      rw [signed30_eq_zero (Nat.mod_lt _ (by decide))] at offset
      by_cases null : e.word = 0
      · -- a zero tag: null for one side, an empty struct for the other
        have struct : e.struct segments = if inRange segments e.segmentId e.base 0 then
            some ⟨e.segmentId, e.start.toNat, 0, 0⟩ else none := by
          rw [End.struct, start, null]
          rfl
        have zero : signed30 0 = 0 := rfl
        cases inside : inRange segments e.segmentId e.base 0 with
        | false =>
          have outside : ¬ e.Accepted segments := fun accepted => by
            rw [inRange_mono (accepted_iff.1 accepted) (Nat.zero_le 1)] at inside
            cases inside
          rw [inside, if_neg Bool.false_ne_true] at struct
          rw [if_neg outside]
          simp [far, null, struct]
        | true =>
          rw [inside, if_pos rfl] at struct
          by_cases accepted : e.Accepted segments
          · rw [if_pos accepted]
            simp [far, null, struct]
          · rw [if_neg accepted]
            simp [far, null, struct, zero]
      · -- the tag describes at least one word
        have present : 1 ≤ e.word / 2 ^ 32 % 2 ^ 16 + e.word / 2 ^ 48 % 2 ^ 16 := by omega
        have struct_accepted : ∀ ref, e.struct segments = some ref → e.Accepted segments := by
          intro ref found
          rw [End.struct, start] at found
          split_ifs at found with inside
          exact accepted_iff.2 (inRange_mono inside present)
        have zero : signed30 (e.word / 4 % 2 ^ 30) = 0 := by rw [offset]; rfl
        simp only [far, null, kind, zero, false_and, if_false, if_true, ne_eq, not_true_eq_false,
          and_false, or_false, not_false_eq_true, iff_true]
        by_cases accepted : e.Accepted segments
        · rw [if_pos accepted]
        · cases found : e.struct segments with
          | none => simp
          | some ref => exact absurd (struct_accepted ref found) accepted
    · have present : e.word ≠ 0 := fun null => offset (by rw [null]; rfl)
      simp only [far, present, kind, offset, false_and, if_false, if_true, true_and, ne_eq,
        not_false_eq_true, false_or, ← accepted_iff]
      by_cases accepted : e.Accepted segments
      · rw [if_pos accepted]
        cases e.struct segments <;> simp [accepted]
      · rw [if_neg accepted]
        simp [accepted]
  · have present : e.word ≠ 0 := fun null => kind (by rw [null])
    simp [present, kind]

/-- The list object that a reference of the envelope's code stands for. -/
def ByteListRef.Denotes (ref : ByteListRef) (target : Target) : Prop :=
  target = .object (.flat 2 ref.elementCount) ref.segmentId ref.startWord

def StructListRef.Denotes (ref : StructListRef) (target : Target) : Prop :=
  ∃ tagWord words, ref.elementsStartWord = tagWord + 1 ∧ target =
    .object (.inlineComposite words ref.elementCount ref.dataWordCount ref.pointerCount)
    ref.segmentId tagWord

/-- Both fail, both are null, or both stand for the same object. -/
def Agree {α β : Type} (denotes : α → β → Prop) : Option (Option α) → Option (Option β) → Prop :=
  Option.Rel (Option.Rel denotes)

theorem agree_none {α β : Type} {denotes : α → β → Prop} {y : Option (Option β)} :
    Agree denotes none y ↔ y = none := by
  constructor
  · intro agree
    cases agree
    rfl
  · rintro rfl
    exact .none

theorem agree_null {α β : Type} {denotes : α → β → Prop} {y : Option (Option β)} :
    Agree denotes (some none) y ↔ y = some none := by
  constructor
  · intro agree
    cases agree with
    | some null =>
      cases null
      rfl
  · rintro rfl
    exact .some .none

theorem agree_some {α β : Type} {denotes : α → β → Prop} {a : α} {y : Option (Option β)} :
    Agree denotes (some (some a)) y ↔ ∃ b, y = some (some b) ∧ denotes a b := by
  constructor
  · intro agree
    cases agree with
    | some present =>
      cases present with
      | some same => exact ⟨_, rfl, same⟩
  · rintro ⟨b, rfl, same⟩
    exact .some (.some same)

/-- A decoder of lists of one element size agrees with the reader but for the cases named, if what
it accepts of its own kind stands for the reader's list where there is one, and includes it. -/
theorem list_agree_iff {α : Type} {denotes : α → Target → Prop} {e : End} {own : Option α}
    {elementSize : ℕ} (sound : e.word % 4 = 1 → e.elementSize = elementSize →
      ∀ a t, own = some a → e.list segments = some t → denotes a t)
    (complete : e.word % 4 = 1 → e.elementSize = elementSize → e.list segments ≠ none →
      own ≠ none) :
    Agree denotes
      (if e.Accepted segments then
        if e.word = 0 then some none
        else if e.word % 4 = 1 then if e.elementSize = elementSize then own.map some else none
        else none
      else none)
      (if e.word = 0 ∧ e.doubleFar = false then some none
      else if e.word % 4 = 1 then (e.list segments).map some
      else none) ↔
    ¬ (e.doubleFar = true ∧ e.word = 0 ∧ inRange segments e.segmentId e.base 1 = true ∨
      e.word % 4 = 1 ∧
        (e.elementSize ≠ elementSize ∧ (e.list segments).isSome = true ∨
          e.elementSize = elementSize ∧ ¬ e.Accepted segments ∧ (e.list segments).isSome = true ∨
          e.elementSize = elementSize ∧ e.Accepted segments ∧ own.isSome = true ∧
            e.list segments = none)) := by
  by_cases null : e.word = 0
  · have other : ¬ e.word % 4 = 1 := by rw [null]; decide
    by_cases far : e.doubleFar = true
    · by_cases inside : inRange segments e.segmentId e.base 1 = true
      · have accepted : e.Accepted segments := fun _ => inside
        rw [if_pos accepted, if_pos null, agree_null]
        simp [far, null, inside]
      · have outside : ¬ e.Accepted segments := fun accepted => inside (accepted far)
        rw [if_neg outside, agree_none]
        simp [far, null, inside]
    · rw [if_pos (End.accepted_near far), if_pos null, agree_null]
      simp [far, null]
  by_cases kind : e.word % 4 = 1
  swap
  · have absent : (if e.Accepted segments then
        if e.word = 0 then some none
        else if e.word % 4 = 1 then if e.elementSize = elementSize then own.map some else none
        else none
      else none) = (none : Option (Option α)) := by
      simp [null, kind]
    rw [absent, agree_none]
    simp [null, kind]
  simp only [null, kind, if_false, if_true, false_and, and_false, false_or, true_and]
  by_cases size : e.elementSize = elementSize
  · have sound := sound kind size
    have complete := complete kind size
    simp only [size, if_true, ne_eq, not_true_eq_false, false_and, false_or, true_and]
    by_cases accepted : e.Accepted segments
    · simp only [accepted, if_true, not_true_eq_false, false_and, false_or, true_and]
      cases found : own with
      | none =>
        have none : e.list segments = none := by
          by_contra present
          exact complete present found
        rw [Option.map_none, agree_none, none]
        simp
      | some a =>
        rw [Option.map_some, agree_some]
        cases list : e.list segments with
        | none => simp
        | some t =>
          have same := sound a t found list
          simp [same]
    · simp only [accepted, if_false, not_false_eq_true, true_and, false_and, or_false]
      rw [agree_none]
      cases e.list segments <;> simp
  · have absent : (if e.Accepted segments then if e.elementSize = elementSize then own.map some
        else none else none) = (none : Option (Option α)) := by
      simp [size]
    rw [absent, agree_none]
    simp only [size, ne_eq, not_false_eq_true, true_and, false_and, or_false]
    cases e.list segments <;> simp

theorem list_of_bytes {e : End} (kind : e.word % 4 = 1) (size : e.elementSize = 2) :
    e.list segments = (e.byteList segments).map fun ref =>
      .object (.flat 2 ref.elementCount) ref.segmentId ref.startWord := by
  unfold End.elementSize at size
  unfold End.list targetOf End.byteList End.start
  simp only [kind, size, Nat.reduceEqDiff, if_false]
  rw [show flatWords 2 (e.word / 2 ^ 35 % 2 ^ 29) = (e.word / 2 ^ 35 % 2 ^ 29 + 7) / 8 from rfl]
  split_ifs <;> rfl

theorem list_of_structs {e : End} (kind : e.word % 4 = 1) (size : e.elementSize = 7) :
    e.list segments =
      let n := e.word / 2 ^ 35 % 2 ^ 29
      let tag := wordAt segments e.segmentId e.start.toNat
      let count := tag / 4 % 2 ^ 30
      let dw := tag / 2 ^ 32 % 2 ^ 16
      let pc := tag / 2 ^ 48 % 2 ^ 16
      if inRange segments e.segmentId e.start (1 + n) ∧ tag % 4 = 0 ∧ (dw + pc) * count ≤ n then
        some (.object (.inlineComposite n count dw pc) e.segmentId e.start.toNat)
      else none := by
  unfold End.elementSize at size
  unfold End.list targetOf
  simp only [kind, size, if_true]
  rfl

/-- A composite list that the reader accepts is the one whose tag the envelope's code reads. -/
theorem structList_of_list {e : End} (kind : e.word % 4 = 1) (size : e.elementSize = 7) {t : Target}
    (found : e.list segments = some t) : ∃ ref, e.structList segments = some ref ∧
    ref.Denotes t := by
  rw [list_of_structs kind size] at found
  simp only at found
  split_ifs at found with fits
  cases found
  obtain ⟨inside, tag, -⟩ := fits
  have first : inRange segments e.segmentId e.start 1 = true := inRange_mono inside (by omega)
  obtain ⟨-, -, low, -⟩ := inRange_iff.1 first
  unfold End.structList
  simp only [first, tag, and_self, if_true]
  exact ⟨_, rfl, e.start.toNat, _, by simp only; omega, rfl⟩

/-- **The envelope's pointer code against the reader.**  For every slot of every frame, each decoder
agrees with the reader exactly when the far pointers of the slot do not end in a case that the two
sides take for different objects. -/
theorem wire_reader_agree {frame : Bytes} {table : SegmentTable} {r : MessageReader}
    (cut : segmentsFromFrame frame = .ok table) (opened : MessageReader.ofBytes frame = .ok r)
    (loc : PointerLocation) :
    ((decodeStructPointer table loc).toOption =
      (r.readStructPointer loc.segmentId loc.wordIndex).toOption ↔
      ∀ e, chase r.segments 8 loc.segmentId loc.wordIndex = some e →
        ¬ StructDiverges r.segments e) ∧
    (Agree ByteListRef.Denotes (decodeByteListPointer table loc).toOption
        ((r.readListPointer loc.segmentId loc.wordIndex).toOption.map (Option.map ListRef.target)) ↔
      ∀ e, chase r.segments 8 loc.segmentId loc.wordIndex = some e →
        ¬ ListDiverges r.segments 2 e) ∧
    (Agree StructListRef.Denotes (decodeStructListPointer table loc).toOption
        ((r.readListPointer loc.segmentId loc.wordIndex).toOption.map (Option.map ListRef.target)) ↔
      ∀ e, chase r.segments 8 loc.segmentId loc.wordIndex = some e →
        ¬ ListDiverges r.segments 7 e) := by
  have same : table.segments = r.segments := by
    rw [(segmentsFromFrame_eq_ok.1 cut).2, (ofBytes_eq_ok.1 opened).2]
  rw [wire_decodeStructPointer, wire_decodeByteListPointer, wire_decodeStructListPointer,
    reader_readStructPointer, reader_readListPointer, same]
  cases found : chase r.segments 8 loc.segmentId loc.wordIndex with
  | none =>
    simp only [Option.bind_none, reduceCtorEq, false_implies, implies_true, iff_true, true_and]
    exact ⟨agree_none.2 rfl, agree_none.2 rfl⟩
  | some e =>
    simp only [Option.bind_some, Option.some.injEq, forall_eq']
    refine ⟨struct_agree_iff (chase_word_lt found), ?_, ?_⟩
    · rw [list_agree_iff]
      · refine not_congr (or_congr_right (and_congr_right fun kind =>
          or_congr_right (or_congr_right ?_)))
        constructor
        · rintro ⟨size, -, own, absent⟩
          rw [list_of_bytes kind size, Option.map_eq_none_iff] at absent
          rw [absent] at own
          cases own
        · rintro ⟨size, -⟩
          cases size
      · intro kind size a t own list
        rw [list_of_bytes kind size, own] at list
        cases list
        rfl
      · intro kind size present absent
        rw [list_of_bytes kind size, absent] at present
        exact present rfl
    · rw [list_agree_iff]
      · unfold ListDiverges
        simp only [true_and]
      · intro kind size a t own list
        obtain ⟨ref, found, denotes⟩ := structList_of_list kind size list
        cases own.symm.trans found
        exact denotes
      · intro kind size present
        obtain ⟨t, list⟩ := Option.ne_none_iff_exists'.1 present
        obtain ⟨ref, found, -⟩ := structList_of_list kind size list
        rw [found]
        exact nofun

/-- A struct of three far pointers: to a struct of one word, to a text and to a list of one
struct. -/
def farSlotsFrame : Bytes :=
  toLE 4 1 ++ toLE 4 4 ++ toLE 4 7 ++ toLE 4 0 ++
    (toLE 8 (3 * 2 ^ 48) ++ toLE 8 (2 + 2 ^ 32) ++ toLE 8 (2 + 8 * 2 + 2 ^ 32) ++
      toLE 8 (2 + 8 * 4 + 2 ^ 32)) ++
    (toLE 8 (2 ^ 32) ++ toLE 8 42 ++ toLE 8 (1 + 2 * 2 ^ 32 + 3 * 2 ^ 35) ++
      toLE 8 (104 + 105 * 256) ++
      toLE 8 (1 + 7 * 2 ^ 32 + 2 ^ 35) ++ toLE 8 (4 + 2 ^ 32) ++ toLE 8 7)

theorem wire_reader_agree_far : ∃ table r, segmentsFromFrame farSlotsFrame = .ok table ∧
    MessageReader.ofBytes farSlotsFrame = .ok r ∧ r.readStructPointer 0 1 =
      .ok (some ⟨1, 1, 1, 0⟩) ∧
    (decodeStructPointer table ⟨0, 1⟩).toOption = (r.readStructPointer 0 1).toOption ∧
    Agree ByteListRef.Denotes (decodeByteListPointer table ⟨0, 2⟩).toOption
      ((r.readListPointer 0 2).toOption.map (Option.map ListRef.target)) ∧
    Agree StructListRef.Denotes (decodeStructListPointer table ⟨0, 3⟩).toOption
      ((r.readListPointer 0 3).toOption.map (Option.map ListRef.target)) := by
  have cut : segmentsFromFrame farSlotsFrame = .ok ⟨FrameLimits.segmentsOf farSlotsFrame⟩ := by
    decide
  have opened : MessageReader.ofBytes farSlotsFrame =
      .ok ⟨FrameLimits.segmentsOf farSlotsFrame⟩ := by decide
  have ends (slot word start : ℕ) (found : chase (FrameLimits.segmentsOf farSlotsFrame) 8 0 slot =
        some ⟨1, start, word, false⟩)
      (e : End) (end' : chase (FrameLimits.segmentsOf farSlotsFrame) 8 0 slot = some e) :
      e = ⟨1, start, word, false⟩ :=
    Option.some.inj (end'.symm.trans found)
  refine ⟨_, _, cut, opened, by decide, ?_, ?_, ?_⟩
  · refine (wire_reader_agree cut opened ⟨0, 1⟩).1.2 fun e found => ?_
    rw [ends 1 (2 ^ 32) 1 (by decide) e found]
    exact fun diverges => Bool.false_ne_true diverges.1
  · refine (wire_reader_agree cut opened ⟨0, 2⟩).2.1.2 fun e found => ?_
    rw [ends 2 (1 + 2 * 2 ^ 32 + 3 * 2 ^ 35) 3 (by decide) e found]
    unfold ListDiverges
    decide
  · refine (wire_reader_agree cut opened ⟨0, 3⟩).2.2.2 fun e found => ?_
    rw [ends 3 (1 + 7 * 2 ^ 32 + 2 ^ 35) 5 (by decide) e found]
    unfold ListDiverges
    decide

/-- A root pointer through a double-far landing pad in the same segment, with a zero tag. -/
def zeroTagFrame : Bytes :=
  toLE 4 0 ++ toLE 4 4 ++ toLE 8 (2 + 4 + 8 * 1) ++ toLE 8 (2 + 8 * 3) ++ toLE 8 0 ++ toLE 8 0

/-- A present empty struct for the reader, null for the envelope's code. -/
theorem wire_reader_disagree : ∃ table r, segmentsFromFrame zeroTagFrame = .ok table ∧
    MessageReader.ofBytes zeroTagFrame = .ok r ∧ decodeStructPointer table ⟨0, 0⟩ = .ok none ∧
    r.readStructPointer 0 0 = .ok (some ⟨0, 3, 0, 0⟩) ∧
    (decodeStructPointer table ⟨0, 0⟩).toOption ≠ (r.readStructPointer 0 0).toOption :=
  ⟨⟨[zeroTagFrame.drop 8]⟩, ⟨[zeroTagFrame.drop 8]⟩, by decide, by decide, by decide,
    by decide, by decide⟩

end Wire

end CapnpDeno
