import CapnpDeno.Capnpc.CapnpReader
import CapnpDeno.Rpc.Wire.PointersProof

/-!
# The code generator's reader against the runtime's

Both follow the far pointers of a slot to the same end.  Behind a double-far landing pad the
generator's reader counts one word too many, as if the tag stood in the target segment before the
object: the struct, list or text it finds there is not the one meant.
-/

namespace CapnpDeno

open ByteList
open TextDecoder
open Wire (End chase inRange_mono inRange_pad)

variable {s p : ℕ}

/-! ## Framing -/

theorem CapnpReader.takeSegments_toOption (bytes : Bytes) (cursor : ℕ) (sizes : List ℕ) :
    (CapnpReader.takeSegments bytes cursor sizes).toOption =
      (MessageReader.takeSegments bytes cursor sizes).toOption := by
  induction sizes generalizing cursor with
  | nil => rfl
  | cons size sizes ih =>
    unfold CapnpReader.takeSegments MessageReader.takeSegments
    simp only [Fallible.throw_eq_error, Fallible.error_bind, Fallible.pure_eq_ok,
      Fallible.toOption_ite,
      Fallible.toOption_error, Fallible.toOption_bind, Fallible.toOption_ok, ih]

/-- Both constructors accept the same messages and cut them into the same segments. -/
theorem CapnpReader.ofBytes_toOption (bytes : Bytes) :
    (CapnpReader.ofBytes bytes).toOption.map CapnpReader.segments =
      (MessageReader.ofBytes bytes).toOption.map MessageReader.segments := by
  unfold CapnpReader.ofBytes MessageReader.ofBytes
  simp only [Fallible.throw_eq_error, Fallible.error_bind, Fallible.pure_eq_ok,
    Fallible.toOption_ite,
    Fallible.toOption_error, Fallible.toOption_bind, Fallible.toOption_ok,
      CapnpReader.takeSegments_toOption]
  generalize (1 + (readLE bytes 0 4 + 1) + if (readLE bytes 0 4 + 1) % 2 = 0 then 1 else 0) * 4 =
    headerBytes
  split_ifs
  · rfl
  · rfl
  · cases (MessageReader.takeSegments bytes headerBytes _).toOption <;> rfl

/-! ## Following pointers -/

/-- What the generator's reader makes of the end of a slot. -/
def Wire.End.toPlugin (e : End) : CapnpReader.ResolvedPointer :=
  ⟨e.segmentId, (if e.doubleFar then (e.base : ℤ) else (e.base : ℤ) - 1) * WORD_BYTES, e.word⟩

theorem chase_inside {segments : List Bytes} {hops : ℕ} {e : End}
    (found : chase segments hops s p = some e) :
    inRange segments s p 1 = true := by
  cases hops with
  | zero => cases found
  | succ hops =>
    unfold chase at found
    by_contra outside
    rw [Bool.not_eq_true] at outside
    rw [if_pos outside] at found
    cases found

namespace CapnpReader

theorem readWordAt_word (r : CapnpReader) (s p : ℕ) :
    (r.readWordAt s ((p : ℤ) * WORD_BYTES)).toOption =
    if inRange r.segments s p 1 then some (wordAt r.segments s p) else none := by
  unfold readWordAt readWord requireRange inRange wordAt
  cases r.segments[s]? with
  | none => rfl
  | some segment =>
    simp only [Fallible.throw_eq_error, Fallible.pure_eq_ok, Fallible.toOption_bind,
      Fallible.toOption_ite,
      Fallible.toOption_error, Fallible.toOption_ok, decide_eq_true_eq, Option.getD_some,
        WORD_BYTES]
    have place : ((p : ℤ) * (8 : ℕ)).toNat = 8 * p := by omega
    rw [place]
    by_cases outside : (p : ℤ) * (8 : ℕ) < 0 ∨ (p : ℤ) * (8 : ℕ) + (8 : ℕ) > segment.length
    · rw [if_pos outside, if_neg (by omega)]
      rfl
    · rw [if_neg outside, if_pos (by omega)]
      rfl

theorem readWordAt_ok {r : CapnpReader} (inside : inRange r.segments s p 1 = true) :
    r.readWordAt s ((p : ℤ) * WORD_BYTES) = .ok (wordAt r.segments s p) := by
  rw [← Fallible.toOption_eq_some, readWordAt_word, if_pos inside]

theorem resolveDoubleFar_ok {r : CapnpReader} {pad padSegment : ℕ}
    (inside : inRange r.segments padSegment pad 2 = true)
    (far : wordAt r.segments padSegment pad % 4 = 2)
    (single : wordAt r.segments padSegment pad / 4 % 2 ≠ 1) :
    r.resolveDoubleFar padSegment ((pad : ℤ) * WORD_BYTES) =
      .ok ⟨wordAt r.segments padSegment pad / 2 ^ 32 % 2 ^ 32,
        ((wordAt r.segments padSegment pad / 8 % 2 ^ 29 : ℕ) : ℤ) * WORD_BYTES,
        wordAt r.segments padSegment (pad + 1)⟩ := by
  obtain ⟨first, second⟩ := inRange_pad inside
  have next : (pad : ℤ) * WORD_BYTES + WORD_BYTES = ((pad + 1 : ℕ) : ℤ) * WORD_BYTES := by
    push_cast
    ring
  unfold resolveDoubleFar
  rw [readWordAt_ok first, next, readWordAt_ok second]
  simp only [Fallible.ok_bind, Fallible.throw_eq_error, Fallible.error_bind, Fallible.pure_eq_ok,
    and_kind,
    and_landing, and_segment, FrameLimits.and_doubleFar, far, single, ne_eq, not_true_eq_false,
      if_false]

/-- The hop loop comes to the end of the slot; behind a double-far pointer it may still fail for
want of a hop. -/
theorem resolveHops_end {r : CapnpReader} {hops : ℕ} {e : End}
    (inside : inRange r.segments s p 1 = true) (found : chase r.segments hops s p = some e) :
    (e.doubleFar = false →
      r.resolveHops hops ⟨s, (p : ℤ) * WORD_BYTES, wordAt r.segments s p⟩ = .ok e.toPlugin) ∧
    (e.word % 4 ≠ 2 → ∀ resolved,
      r.resolveHops hops ⟨s, (p : ℤ) * WORD_BYTES, wordAt r.segments s p⟩ = .ok resolved →
        resolved = e.toPlugin) := by
  induction hops generalizing s p with
  | zero => cases found
  | succ hops ih =>
    unfold chase at found
    unfold resolveHops
    simp only [inside, Bool.true_eq_false, if_false] at found
    simp only [and_kind, and_landing, and_segment, FrameLimits.and_doubleFar, Fallible.pure_eq_ok]
    by_cases near : wordAt r.segments s p % 4 = 2
    swap
    · rw [if_pos near] at found ⊢
      cases found
      have same : (⟨s, (p : ℤ) * WORD_BYTES, wordAt r.segments s p⟩ : ResolvedPointer) =
          (⟨s, p + 1, wordAt r.segments s p, false⟩ : End).toPlugin := by
        simp [Wire.End.toPlugin]
      rw [same]
      exact ⟨fun _ => rfl, fun _ resolved done => (Except.ok.inj done).symm⟩
    rw [if_neg (not_not.2 near)] at found ⊢
    by_cases double : wordAt r.segments s p / 4 % 2 = 1
    · rw [if_neg (not_not.2 double)] at found
      rw [if_pos double]
      split_ifs at found with landed
      obtain ⟨landing, far, single⟩ := landed
      cases found
      refine ⟨by simp, fun tag resolved done => ?_⟩
      rw [resolveDoubleFar_ok landing far single, Fallible.ok_bind] at done
      cases hops with
      | zero => cases done
      | succ hops =>
        unfold resolveHops at done
        simp only [and_kind] at done
        rw [if_pos tag] at done
        exact (Except.ok.inj done).symm
    · rw [if_pos double] at found
      rw [if_neg double]
      have landing : inRange r.segments (wordAt r.segments s p / 2 ^ 32 % 2 ^ 32)
          (wordAt r.segments s p / 8 % 2 ^ 29 : ℕ) 1 = true := chase_inside found
      rw [readWordAt_ok landing, Fallible.ok_bind]
      exact ih landing found

theorem resolvePointer_end {r : CapnpReader} {e : End} (found : chase r.segments 8 s p = some e) :
    (e.doubleFar = false → r.resolvePointer s ((p : ℤ) * WORD_BYTES) = .ok e.toPlugin) ∧
    (e.word % 4 ≠ 2 → ∀ resolved, r.resolvePointer s ((p : ℤ) * WORD_BYTES) = .ok resolved →
      resolved = e.toPlugin) := by
  have inside := chase_inside found
  unfold resolvePointer
  rw [readWordAt_ok inside, Fallible.ok_bind]
  exact resolveHops_end inside found

end CapnpReader

@[simp] theorem Wire.End.toPlugin_word (e : End) : e.toPlugin.word = e.word := rfl

theorem Wire.End.toPlugin_target (e : End) :
    e.toPlugin.targetByteOffset = (if e.doubleFar then e.start + 1 else e.start) * WORD_BYTES := by
  unfold CapnpReader.ResolvedPointer.targetByteOffset Wire.End.toPlugin Wire.End.start
  simp only [and_offset, WORD_BYTES]
  split_ifs <;> omega

/-! ## The slots of a struct -/

/-- The struct of the runtime, as a position of the generator's reader. -/
def StructReader.ofRef (ref : StructRef) : StructReader :=
  ⟨ref.segmentId, ((ref.startWord * WORD_BYTES : ℕ) : ℤ), ref.dataWordCount, ref.pointerCount⟩

/-- A list of structs of the runtime; other lists are none. -/
def StructListReader.ofRef : ListRef → Option StructListReader
  | .inlineComposite segmentId tagWord elementCount dataWordCount pointerCount _ =>
    some ⟨segmentId, (((tagWord + 1) * WORD_BYTES : ℕ) : ℤ), elementCount, dataWordCount,
      pointerCount⟩
  | .flat .. => none

/-- The slot of a struct. -/
def StructRef.slot (ref : StructRef) (pointerIndex : ℕ) : ℕ :=
  ref.startWord + ref.dataWordCount + pointerIndex

theorem StructReader.resolve_ofRef (reader : CapnpReader) {ref : StructRef} {pointerIndex : ℕ}
    (inside : pointerIndex < ref.pointerCount) :
    (StructReader.ofRef ref).resolve reader pointerIndex =
      reader.resolvePointer ref.segmentId ((ref.slot pointerIndex : ℕ) * WORD_BYTES) := by
  unfold StructReader.resolve StructReader.pointerByteOffset
  rw [if_neg (show ¬ pointerIndex ≥ (StructReader.ofRef ref).pointerCount from not_le.2 inside),
    Fallible.pure_eq_ok, Fallible.ok_bind]
  congr 1
  simp only [StructReader.ofRef, StructRef.slot]
  push_cast
  ring

/-! ## Structs -/

section

variable {reader : CapnpReader} {m : MessageReader} {ref : StructRef} {pointerIndex : ℕ}

/-- Where the runtime finds a struct, or null, the generator's reader finds the same. -/
def StructAgrees (reader : CapnpReader) (m : MessageReader) (ref : StructRef) (pointerIndex : ℕ) :
    Prop :=
  ∀ result, m.readStructPointer ref.segmentId (ref.slot pointerIndex) = .ok result →
    (StructReader.ofRef ref).readStruct reader pointerIndex = .ok (result.map StructReader.ofRef)

/-- The end of a double-far pointer to a struct in range. -/
def FarStruct (segments : List Bytes) (e : End) : Prop :=
  e.doubleFar = true ∧ e.word % 4 = 0 ∧ signed30 (e.word / 4 % 2 ^ 30) = 0 ∧
    (e.struct segments).isSome = true

theorem readStruct_of_resolve {result : CapnpReader.ResolvedPointer}
    (inside : pointerIndex < ref.pointerCount)
    (done : reader.resolvePointer ref.segmentId ((ref.slot pointerIndex : ℕ) * WORD_BYTES) =
      .ok result)
    (kind : result.word % 4 = 0) : (StructReader.ofRef ref).readStruct reader pointerIndex =
      .ok (if result.word = 0 then none else some (StructReader.ofResolved result)) := by
  unfold StructReader.readStruct
  rw [StructReader.resolve_ofRef reader inside, done, Fallible.ok_bind]
  simp only [and_kind, kind, ne_eq, not_true_eq_false, if_false, Fallible.throw_eq_error,
    Fallible.error_bind, Fallible.pure_eq_ok]
  split_ifs <;> rfl

/-- The position that the generator's reader gives a struct. -/
theorem ofResolved_eq {segments : List Bytes} {e : End} {found : StructRef}
    (struct : e.struct segments = some found) :
    StructReader.ofResolved e.toPlugin = if e.doubleFar then
      { StructReader.ofRef found with dataByteOffset := ((found.startWord + 1) * WORD_BYTES : ℕ) }
    else StructReader.ofRef found := by
  unfold Wire.End.struct at struct
  simp only at struct
  split_ifs at struct with inside
  cases struct
  obtain ⟨-, -, low, -⟩ := inRange_iff.1 inside
  unfold StructReader.ofResolved StructReader.ofRef
  rw [e.toPlugin_target]
  have place : ((e.start.toNat : ℕ) : ℤ) = e.start := Int.toNat_of_nonneg low
  simp only [Wire.End.toPlugin, and_low16, and_high16]
  split_ifs <;> push_cast <;> rw [place]

theorem structAgrees_iff (same : reader.segments = m.segments)
    (inside : pointerIndex < ref.pointerCount) :
    StructAgrees reader m ref pointerIndex ↔
      ∀ e, chase m.segments 8 ref.segmentId (ref.slot pointerIndex) = some e →
      ¬ FarStruct m.segments e := by
  have spec := Wire.reader_readStructPointer m ref.segmentId (ref.slot pointerIndex)
  unfold StructAgrees
  cases ends : chase m.segments 8 ref.segmentId (ref.slot pointerIndex) with
  | none =>
    rw [ends, Option.bind_none, Fallible.toOption_eq_none] at spec
    obtain ⟨e, failed⟩ := spec
    rw [failed]
    exact ⟨fun _ e => nofun, fun _ result => nofun⟩
  | some e =>
    rw [ends, Option.bind_some] at spec
    obtain ⟨near, far⟩ := CapnpReader.resolvePointer_end (same ▸ ends)
    constructor
    · rintro agrees _ ⟨⟩ ⟨double, kind, zero, present⟩
      -- the runtime finds a struct, and the generator's reader null or the position a word further
      obtain ⟨found, struct⟩ := Option.isSome_iff_exists.1 present
      simp only [double, kind, zero, struct, ne_eq, not_true_eq_false, if_true, if_false, and_false,
        Bool.true_eq_false, Option.map_some, Fallible.toOption_eq_some] at spec
      have read := agrees _ spec
      obtain ⟨resolved, done, -⟩ := Fallible.bind_eq_ok.1 read
      rw [StructReader.resolve_ofRef reader inside] at done
      obtain rfl := far (by omega) resolved done
      rw [readStruct_of_resolve inside done kind, ofResolved_eq struct, if_pos double] at read
      split_ifs at read
      · cases read
      · have places := congrArg StructReader.dataByteOffset (Option.some.inj (Except.ok.inj read))
        simp only [StructReader.ofRef, WORD_BYTES] at places
        omega
    · intro fine result done
      rw [done, Fallible.toOption_ok] at spec
      have single : e.doubleFar = false := by
        by_contra double
        rw [Bool.not_eq_false] at double
        simp only [double, Bool.true_eq_false, and_false, if_false, true_and] at spec
        split_ifs at spec with kind offset
        refine fine e rfl ⟨double, kind, not_not.1 offset, ?_⟩
        cases struct : e.struct m.segments with
        | none => simp [struct] at spec
        | some found => rfl
      have resolved := near single
      simp only [single, and_true, Bool.false_eq_true, false_and, if_false] at spec
      split_ifs at spec with null kind
      · cases spec
        rw [readStruct_of_resolve inside resolved (by rw [e.toPlugin_word, null]), e.toPlugin_word,
          if_pos null]
        rfl
      · cases struct : e.struct m.segments with
        | none => simp [struct] at spec
        | some found =>
          rw [struct] at spec
          cases spec
          rw [readStruct_of_resolve inside resolved kind, e.toPlugin_word, if_neg null,
            ofResolved_eq struct, single]
          rfl

/-! ## Lists -/

/-- The end of a double-far pointer to a list in range. -/
def FarList (segments : List Bytes) (elementSize : ℕ) (e : End) : Prop :=
  e.doubleFar = true ∧ e.word % 4 = 1 ∧ e.elementSize = elementSize ∧
    (e.list segments).isSome = true

/-- What the runtime has found if it has found a list. -/
theorem readListPointer_cases {list : Option ListRef} (done : m.readListPointer s p = .ok list) :
    ∃ e, chase m.segments 8 s p = some e ∧
      (e.word = 0 ∧ e.doubleFar = false ∧ list = none ∨
        e.word % 4 = 1 ∧ ∃ l, list = some l ∧ e.list m.segments = some l.target) := by
  have spec := Wire.reader_readListPointer m s p
  rw [done, Fallible.toOption_ok, Option.map_some] at spec
  cases ends : chase m.segments 8 s p with
  | none =>
    rw [ends] at spec
    cases spec
  | some e =>
    rw [ends, Option.bind_some] at spec
    refine ⟨e, rfl, ?_⟩
    split_ifs at spec with null kind
    · cases list with
      | none => exact .inl ⟨null.1, null.2, rfl⟩
      | some l => cases spec
    · cases found : e.list m.segments with
      | none => simp [found] at spec
      | some t =>
        rw [found] at spec
        cases list with
        | none => cases spec
        | some l =>
          exact .inr ⟨kind, l, rfl, congrArg some (Option.some.inj (Option.some.inj spec)).symm⟩

theorem readListPointer_found {e : End} {t : Target} (ends : chase m.segments 8 s p = some e)
    (kind : e.word % 4 = 1) (found : e.list m.segments = some t) :
    ∃ l, m.readListPointer s p = .ok (some l) ∧ l.target = t := by
  have spec := Wire.reader_readListPointer m s p
  have present : ¬ (e.word = 0 ∧ e.doubleFar = false) := fun null => by omega
  rw [ends, Option.bind_some, if_neg present, if_pos kind, found, Option.map_some] at spec
  cases done : m.readListPointer s p with
  | error e => simp [done] at spec
  | ok list =>
    cases list with
    | none => simp [done] at spec
    | some l => exact ⟨l, rfl, by simpa [done] using spec⟩

/-- Where the runtime finds a list of structs, or null, the generator's reader finds the same. -/
structure StructListAgrees (reader : CapnpReader) (m : MessageReader) (ref : StructRef)
    (pointerIndex : ℕ) : Prop where
  null : m.readListPointer ref.segmentId (ref.slot pointerIndex) = .ok none →
    (StructReader.ofRef ref).readStructList reader pointerIndex = .ok none
  list : ∀ l expected, m.readListPointer ref.segmentId (ref.slot pointerIndex) = .ok (some l) →
    StructListReader.ofRef l = some expected →
    (StructReader.ofRef ref).readStructList reader pointerIndex = .ok (some expected)

/-- A list of structs lies a word behind the target of its pointer. -/
theorem readStructList_position {resolved : CapnpReader.ResolvedPointer} {list : StructListReader}
    (inside : pointerIndex < ref.pointerCount)
    (done : reader.resolvePointer ref.segmentId ((ref.slot pointerIndex : ℕ) * WORD_BYTES) =
      .ok resolved)
    (read : (StructReader.ofRef ref).readStructList reader pointerIndex = .ok (some list)) :
    list.elementsByteOffset = resolved.targetByteOffset + WORD_BYTES := by
  unfold StructReader.readStructList at read
  rw [StructReader.resolve_ofRef reader inside, done, Fallible.ok_bind] at read
  simp only [Fallible.throw_eq_error, Fallible.error_bind, Fallible.pure_eq_ok] at read
  split_ifs at read
  · cases read
  · obtain ⟨tag, -, read⟩ := Fallible.bind_eq_ok.1 read
    split_ifs at read
    cases read
    rfl

/-- A list of structs that the runtime finds has a tag. -/
theorem elementSize_of_structs {segments : List Bytes} {e : End} {l : ListRef}
    {expected : StructListReader} (kind : e.word % 4 = 1) (found : e.list segments = some l.target)
    (structs : StructListReader.ofRef l = some expected) : e.elementSize = 7 := by
  cases l with
  | flat segmentId start es n => cases structs
  | inlineComposite segmentId tagWord n dw pc w =>
    by_contra size
    unfold Wire.End.elementSize at size
    unfold Wire.End.list targetOf at found
    simp only [kind, size, if_false] at found
    split_ifs at found
    cases found

/-- A composite list is one of structs, and the first of them follows the tag. -/
theorem structs_of_elementSize {segments : List Bytes} {e : End} {l : ListRef}
    (kind : e.word % 4 = 1) (size : e.elementSize = 7) (found : e.list segments = some l.target) :
    ∃ expected, StructListReader.ofRef l = some expected ∧
      expected.elementsByteOffset = (e.start + 1) * WORD_BYTES := by
  rw [Wire.list_of_structs kind size] at found
  simp only at found
  split_ifs at found with fits
  obtain ⟨-, -, low, -⟩ := inRange_iff.1 fits.1
  cases l with
  | flat segmentId start es n => cases found
  | inlineComposite segmentId tagWord n dw pc w =>
    simp only [ListRef.target, Option.some.injEq, Target.object.injEq] at found
    obtain ⟨-, -, rfl⟩ := found
    refine ⟨_, rfl, ?_⟩
    rw [Nat.cast_mul, Nat.cast_add, Int.toNat_of_nonneg low]
    rfl

theorem readStructList_found {e : End} {l : ListRef} {expected : StructListReader}
    (same : reader.segments = m.segments) (inside : pointerIndex < ref.pointerCount)
    (done : reader.resolvePointer ref.segmentId ((ref.slot pointerIndex : ℕ) * WORD_BYTES) =
      .ok e.toPlugin)
    (single : e.doubleFar = false) (kind : e.word % 4 = 1)
    (found : e.list m.segments = some l.target)
    (structs : StructListReader.ofRef l = some expected) :
    (StructReader.ofRef ref).readStructList reader pointerIndex = .ok (some expected) := by
  have size := elementSize_of_structs kind found structs
  rw [Wire.list_of_structs kind size] at found
  simp only at found
  split_ifs at found with fits
  obtain ⟨words, tagKind, room⟩ := fits
  have first : inRange m.segments e.segmentId e.start 1 = true := inRange_mono words (by omega)
  obtain ⟨-, -, low, -⟩ := inRange_iff.1 first
  have place : ((e.start.toNat : ℕ) : ℤ) = e.start := Int.toNat_of_nonneg low
  have target : e.toPlugin.targetByteOffset = (e.start.toNat : ℤ) * WORD_BYTES := by
    rw [e.toPlugin_target, single, place]
    rfl
  have tag := CapnpReader.readWordAt_ok (r := reader) (s := e.segmentId) (p := e.start.toNat)
    (by rw [same, place]; exact first)
  rw [same] at tag
  have present : e.word ≠ 0 := fun null => by omega
  unfold Wire.End.elementSize at size
  unfold StructReader.readStructList
  rw [StructReader.resolve_ofRef reader inside, done, Fallible.ok_bind]
  simp only [target, show e.toPlugin.segmentId = e.segmentId from rfl, e.toPlugin_word, present,
    and_kind, kind,
    and_elementSize, size, and_count, tag, tagKind, and_offset, and_low16, and_high16, ne_eq,
    not_true_eq_false,
    if_false, Fallible.ok_bind, Fallible.throw_eq_error, Fallible.error_bind, Fallible.pure_eq_ok]
  generalize wordAt m.segments e.segmentId e.start.toNat = word at *
  cases l with
  | flat segmentId start es n => cases structs
  | inlineComposite segmentId tagWord n dw pc w =>
    simp only [ListRef.target, Option.some.injEq, Target.object.injEq,
      Shape.inlineComposite.injEq] at found
    obtain ⟨⟨rfl, rfl, rfl, rfl⟩, rfl, rfl⟩ := found
    cases structs
    rw [if_neg, Nat.add_mul, one_mul, Nat.cast_add, Nat.cast_mul]
    have scaled := Nat.mul_le_mul_right WORD_BYTES room
    rw [Nat.mul_right_comm] at scaled
    exact not_lt.2 scaled

theorem structListAgrees_iff (same : reader.segments = m.segments)
    (inside : pointerIndex < ref.pointerCount) :
    StructListAgrees reader m ref pointerIndex ↔
      ∀ e, chase m.segments 8 ref.segmentId (ref.slot pointerIndex) = some e →
      ¬ FarList m.segments 7 e := by
  constructor
  · rintro agrees e ends ⟨double, kind, size, present⟩
    obtain ⟨t, found⟩ := Option.isSome_iff_exists.1 present
    obtain ⟨l, done, rfl⟩ := readListPointer_found ends kind found
    obtain ⟨expected, structs, position⟩ := structs_of_elementSize kind size found
    have read := agrees.list l expected done structs
    obtain ⟨resolved, followed, -⟩ := Fallible.bind_eq_ok.1 read
    rw [StructReader.resolve_ofRef reader inside] at followed
    obtain rfl := (CapnpReader.resolvePointer_end (same ▸ ends)).2 (by omega) resolved followed
    -- the generator's reader has found a list a word further
    have further := readStructList_position inside followed read
    rw [e.toPlugin_target, if_pos double, position] at further
    simp only [WORD_BYTES] at further
    omega
  · intro fine
    refine ⟨fun null => ?_, fun l expected done structs => ?_⟩
    · obtain ⟨e, ends, ⟨zero, single, -⟩ | ⟨-, l, present, -⟩⟩ := readListPointer_cases null
      · have done := (CapnpReader.resolvePointer_end (same ▸ ends)).1 single
        unfold StructReader.readStructList
        rw [StructReader.resolve_ofRef reader inside, done, Fallible.ok_bind]
        exact if_pos zero
      · cases present
    · obtain ⟨e, ends, ⟨-, -, absent⟩ | ⟨kind, l', present, found⟩⟩ := readListPointer_cases done
      · cases absent
      cases present
      have single : e.doubleFar = false := by
        by_contra double
        rw [Bool.not_eq_false] at double
        have size := elementSize_of_structs kind found structs
        exact fine e ends ⟨double, kind, size, by rw [found]; rfl⟩
      exact readStructList_found same inside
        ((CapnpReader.resolvePointer_end (same ▸ ends)).1 single) single kind
        found structs

/-! ## Byte lists -/

/-- The bytes that a list pointer describes. -/
def byteListAt (segments : List Bytes) (list : Wire.ByteListRef) : Bytes :=
  slice (segments[list.segmentId]?.getD []) (list.startWord * WORD_BYTES) list.elementCount

/-- The segment and the byte at which a list of the runtime begins. -/
def ListRef.position : ListRef → ℕ × ℤ
  | .flat segmentId startWord _ _ => (segmentId, ((startWord * WORD_BYTES : ℕ) : ℤ))
  | .inlineComposite segmentId tagWord _ _ _ _ => (segmentId, ((tagWord * WORD_BYTES : ℕ) : ℤ))

def CapnpReader.Subarray.position (view : CapnpReader.Subarray) : ℕ × ℤ :=
  (view.segmentId, view.byteOffset)

/-- The byte list of an end, as the runtime reads it. -/
theorem byteList_found {e : End} {l : ListRef} (kind : e.word % 4 = 1) (size : e.elementSize = 2)
    (found : e.list m.segments = some l.target) :
    ∃ list, e.byteList m.segments = some list ∧
      l = .flat list.segmentId list.startWord 2 list.elementCount ∧
      m.readBytes list.segmentId (list.startWord * WORD_BYTES) list.elementCount =
        .ok (byteListAt m.segments list) ∧
      l.position = (e.segmentId, e.start * WORD_BYTES) := by
  rw [Wire.list_of_bytes kind size, Option.map_eq_some_iff] at found
  obtain ⟨list, own, target⟩ := found
  refine ⟨list, own, ?_⟩
  have shape : l = .flat list.segmentId list.startWord 2 list.elementCount := by
    cases l with
    | flat segmentId start es n =>
      simp only [ListRef.target, Target.object.injEq, Shape.flat.injEq] at target
      obtain ⟨⟨rfl, rfl⟩, rfl, rfl⟩ := target
      rfl
    | inlineComposite segmentId tagWord n dw pc w => cases target
  refine ⟨shape, ?_⟩
  unfold Wire.End.byteList at own
  simp only at own
  split_ifs at own with words
  cases own
  obtain ⟨segment, known, low, high⟩ := inRange_iff.1 words
  have place : ((e.start.toNat : ℕ) : ℤ) = e.start := Int.toNat_of_nonneg low
  refine ⟨?_, ?_⟩
  · unfold MessageReader.readBytes MessageReader.segment byteListAt
    simp only [known, Fallible.pure_eq_ok, Fallible.ok_bind, Option.getD_some, WORD_BYTES]
    exact if_neg (by omega)
  · rw [shape, ListRef.position, Nat.cast_mul, place]

/-- A list whose element size is not two is no byte list. -/
theorem not_bytes {segments : List Bytes} {e : End} {l : ListRef} (kind : e.word % 4 = 1)
    (size : e.elementSize ≠ 2) (found : e.list segments = some l.target) :
    ∀ segmentId start n, l ≠ .flat segmentId start 2 n := by
  rintro segmentId start n rfl
  unfold Wire.End.elementSize at size
  unfold Wire.End.list targetOf at found
  simp only [kind] at found
  split_ifs at found
  · cases found
  · simp only [ListRef.target, Option.some.injEq, Target.object.injEq, Shape.flat.injEq] at found
    exact size found.1.1

/-- What the generator's reader makes of a resolved byte list. -/
theorem readByteList_found {e : End} {list : Wire.ByteListRef} (trimNul : Bool)
    (same : reader.segments = m.segments) (inside : pointerIndex < ref.pointerCount)
    (done : reader.resolvePointer ref.segmentId ((ref.slot pointerIndex : ℕ) * WORD_BYTES) =
      .ok e.toPlugin)
    (single : e.doubleFar = false) (kind : e.word % 4 = 1) (size : e.elementSize = 2)
    (found : e.byteList m.segments = some list) :
    (StructReader.ofRef ref).readByteList reader pointerIndex trimNul = .ok (some
      (let view : CapnpReader.Subarray :=
        ⟨e.segmentId, e.start * WORD_BYTES, byteListAt m.segments list⟩
      if trimNul then StructReader.trimmed view else view)) := by
  unfold Wire.End.byteList at found
  simp only at found
  split_ifs at found with words
  cases found
  obtain ⟨segment, known, low, high⟩ := inRange_iff.1 words
  have place : e.start * WORD_BYTES = ((e.start.toNat * WORD_BYTES : ℕ) : ℤ) := by
    rw [Nat.cast_mul, Int.toNat_of_nonneg low]
  have target : e.toPlugin.targetByteOffset = e.start * WORD_BYTES := by
    rw [e.toPlugin_target, single]
    rfl
  have view : reader.readBytesAt e.segmentId (e.start * WORD_BYTES) (e.word / 2 ^ 35 % 2 ^ 29) =
      .ok ⟨e.segmentId, e.start * WORD_BYTES,
        byteListAt m.segments ⟨e.segmentId, e.start.toNat, e.word / 2 ^ 35 % 2 ^ 29⟩⟩ := by
    unfold CapnpReader.readBytesAt CapnpReader.requireRange byteListAt
    simp only [same, known, place, Int.toNat_natCast, Option.getD_some]
    rw [if_neg (by simp only [WORD_BYTES]; omega)]
    rfl
  have present : e.word ≠ 0 := fun null => by omega
  unfold Wire.End.elementSize at size
  unfold StructReader.readByteList
  rw [StructReader.resolve_ofRef reader inside, done, Fallible.ok_bind]
  simp only [target, show e.toPlugin.segmentId = e.segmentId from rfl, e.toPlugin_word, present,
    and_kind, kind,
    and_elementSize, size, and_count, view, ne_eq, not_true_eq_false, if_false, Fallible.ok_bind,
    Fallible.throw_eq_error, Fallible.error_bind, Fallible.pure_eq_ok]

theorem readByteList_null {e : End} (trimNul : Bool) (same : reader.segments = m.segments)
    (inside : pointerIndex < ref.pointerCount)
    (ends : chase m.segments 8 ref.segmentId (ref.slot pointerIndex) = some e) (null : e.word = 0)
    (single : e.doubleFar = false) :
    (StructReader.ofRef ref).readByteList reader pointerIndex trimNul = .ok none := by
  have done := (CapnpReader.resolvePointer_end (same ▸ ends)).1 single
  unfold StructReader.readByteList
  rw [StructReader.resolve_ofRef reader inside, done, Fallible.ok_bind]
  exact if_pos null

/-- A byte list lies at the target of its pointer. -/
theorem readByteList_position {resolved : CapnpReader.ResolvedPointer} {view : CapnpReader.Subarray}
    {trimNul : Bool} (inside : pointerIndex < ref.pointerCount)
    (done : reader.resolvePointer ref.segmentId ((ref.slot pointerIndex : ℕ) * WORD_BYTES) =
      .ok resolved)
    (read : (StructReader.ofRef ref).readByteList reader pointerIndex trimNul = .ok (some view)) :
    view.byteOffset = resolved.targetByteOffset := by
  unfold StructReader.readByteList at read
  rw [StructReader.resolve_ofRef reader inside, done, Fallible.ok_bind] at read
  simp only [Fallible.throw_eq_error, Fallible.error_bind, Fallible.pure_eq_ok] at read
  split_ifs at read
  · cases read
  all_goals
    obtain ⟨whole, sliced, read⟩ := Fallible.bind_eq_ok.1 read
    have place : whole.byteOffset = resolved.targetByteOffset := by
      unfold CapnpReader.readBytesAt at sliced
      split at sliced
      · obtain ⟨-, -, sliced⟩ := Fallible.bind_eq_ok.1 sliced
        cases sliced
        rfl
      · cases sliced
    cases read
    first
    | exact place
    | unfold StructReader.trimmed
      split_ifs <;> exact place

/-- Where the runtime finds data, or null, the generator's reader finds the same. -/
structure DataAgrees (reader : CapnpReader) (m : MessageReader) (ref : StructRef)
    (pointerIndex : ℕ) : Prop where
  null : m.readDataPointer ref.segmentId (ref.slot pointerIndex) = .ok none →
    (StructReader.ofRef ref).readData reader pointerIndex = .ok none
  data : ∀ l bytes, m.readListPointer ref.segmentId (ref.slot pointerIndex) = .ok (some l) →
    m.readDataPointer ref.segmentId (ref.slot pointerIndex) = .ok (some bytes) →
    (StructReader.ofRef ref).readData reader pointerIndex =
    .ok (some ⟨l.position.1, l.position.2, bytes⟩)

theorem readDataPointer_null (null : m.readDataPointer s p = .ok none) :
    m.readListPointer s p = .ok none := by
  obtain ⟨list, done, null⟩ := Fallible.bind_eq_ok.1 null
  cases list with
  | none => exact done
  | some l =>
    split at null
    · rename_i absent
      cases absent
    · obtain ⟨bytes, -, null⟩ := Fallible.bind_eq_ok.1 null
      cases null
    · cases null

/-- Data of the runtime is the byte list of an end. -/
theorem readDataPointer_cases {e : End} {l : ListRef} {bytes : Bytes} (kind : e.word % 4 = 1)
    (found : e.list m.segments = some l.target) (done : m.readListPointer s p = .ok (some l))
    (data : m.readDataPointer s p = .ok (some bytes)) :
    e.elementSize = 2 ∧ ∃ list, e.byteList m.segments = some list ∧
      bytes = byteListAt m.segments list ∧
      l.position = (e.segmentId, e.start * WORD_BYTES) := by
  unfold MessageReader.readDataPointer at data
  rw [done, Fallible.ok_bind] at data
  by_cases size : e.elementSize = 2
  · obtain ⟨list, own, rfl, read, position⟩ := byteList_found kind size found
    simp only [read, Fallible.ok_bind] at data
    cases data
    exact ⟨size, list, own, rfl, position⟩
  · have other := not_bytes kind size found
    split at data
    · rename_i absent
      cases absent
    · rename_i same
      cases same
      exact absurd rfl (other _ _ _)
    · cases data

theorem dataAgrees_iff (same : reader.segments = m.segments)
    (inside : pointerIndex < ref.pointerCount) :
    DataAgrees reader m ref pointerIndex ↔
      ∀ e, chase m.segments 8 ref.segmentId (ref.slot pointerIndex) = some e →
      ¬ FarList m.segments 2 e := by
  constructor
  · rintro agrees e ends ⟨double, kind, size, present⟩
    obtain ⟨t, found⟩ := Option.isSome_iff_exists.1 present
    obtain ⟨l, done, rfl⟩ := readListPointer_found ends kind found
    obtain ⟨list, own, shape, read, position⟩ := byteList_found kind size found
    have data : m.readDataPointer ref.segmentId (ref.slot pointerIndex) =
        .ok (some (byteListAt m.segments list)) := by
      unfold MessageReader.readDataPointer
      rw [done, Fallible.ok_bind, shape]
      simp only [read, Fallible.ok_bind]
      rfl
    have agreed := agrees.data l _ done data
    obtain ⟨resolved, followed, -⟩ := Fallible.bind_eq_ok.1 agreed
    rw [StructReader.resolve_ofRef reader inside] at followed
    obtain rfl := (CapnpReader.resolvePointer_end (same ▸ ends)).2 (by omega) resolved followed
    -- the generator's reader has found bytes a word further
    have further := readByteList_position inside followed agreed
    rw [e.toPlugin_target, if_pos double, position] at further
    simp only [WORD_BYTES] at further
    omega
  · intro fine
    refine ⟨fun null => ?_, fun l bytes done data => ?_⟩
    · obtain ⟨e, ends, ⟨zero, single, -⟩ | ⟨-, l, present, -⟩⟩ :=
        readListPointer_cases (readDataPointer_null null)
      · exact readByteList_null false same inside ends zero single
      · cases present
    · obtain ⟨e, ends, ⟨-, -, absent⟩ | ⟨kind, l', present, found⟩⟩ := readListPointer_cases done
      · cases absent
      cases present
      obtain ⟨size, list, own, rfl, position⟩ := readDataPointer_cases kind found done data
      have single : e.doubleFar = false := by
        by_contra double
        rw [Bool.not_eq_false] at double
        exact fine e ends ⟨double, kind, size, by rw [found]; rfl⟩
      have read :=
        readByteList_found false same inside
        ((CapnpReader.resolvePointer_end (same ▸ ends)).1 single)
        single kind size own
      rw [position]
      exact read

/-! ## Text -/

/-- Where the runtime finds a text, or null, the generator's reader finds the same. -/
structure TextAgrees (reader : CapnpReader) (m : MessageReader) (ref : StructRef)
    (pointerIndex : ℕ) : Prop where
  null : m.readTextPointer ref.segmentId (ref.slot pointerIndex) = .ok none →
    (StructReader.ofRef ref).readText reader pointerIndex = .ok none
  text : ∀ l text, m.readListPointer ref.segmentId (ref.slot pointerIndex) = .ok (some l) →
    m.readTextPointer ref.segmentId (ref.slot pointerIndex) = .ok (some text) →
    (StructReader.ofRef ref).readText reader pointerIndex = .ok (some text) ∧
      ∃ view, (StructReader.ofRef ref).readByteList reader pointerIndex true = .ok (some view) ∧
        view.position = l.position

/-- The end of a pointer to a text of the runtime that is behind a double-far pointer or begins with
a byte order mark. -/
def FarOrMarkedText (segments : List Bytes) (e : End) : Prop :=
  e.word % 4 = 1 ∧ e.elementSize = 2 ∧ ∃ list text, e.byteList segments = some list ∧
    (byteListAt segments list).getLast? = some 0 ∧
    String.fromUTF8? ⟨(byteListAt segments list).dropLast.toArray⟩ = some text ∧
    (e.doubleFar = true ∨ text.toList.head? = some byteOrderMark)

theorem strictDecode_eq_ok {bytes : Bytes} {text : String} :
    MessageReader.strictDecode bytes = .ok text ↔ String.fromUTF8? ⟨bytes.toArray⟩ = some text := by
  unfold MessageReader.strictDecode
  cases String.fromUTF8? ⟨bytes.toArray⟩ with
  | none => exact ⟨nofun, nofun⟩
  | some decoded => simp

theorem readTextPointer_null (null : m.readTextPointer s p = .ok none) :
    m.readListPointer s p = .ok none := by
  obtain ⟨list, done, null⟩ := Fallible.bind_eq_ok.1 null
  cases list with
  | none => exact done
  | some l =>
    split at null
    · rename_i absent
      cases absent
    · obtain ⟨bytes, -, null⟩ := Fallible.bind_eq_ok.1 null
      simp only [Fallible.throw_eq_error, Fallible.error_bind, Fallible.pure_eq_ok] at null
      split_ifs at null
      obtain ⟨text, -, null⟩ := Fallible.bind_eq_ok.1 null
      cases null
    · cases null

/-- A text of the runtime is a NUL-terminated byte list. -/
theorem readTextPointer_iff {e : End} {l : ListRef} {text : String} (kind : e.word % 4 = 1)
    (found : e.list m.segments = some l.target) (done : m.readListPointer s p = .ok (some l)) :
    m.readTextPointer s p = .ok (some text) ↔
      e.elementSize = 2 ∧ ∃ list, e.byteList m.segments = some list ∧
        (byteListAt m.segments list).getLast? = some 0 ∧
        String.fromUTF8? ⟨(byteListAt m.segments list).dropLast.toArray⟩ = some text := by
  unfold MessageReader.readTextPointer
  rw [done, Fallible.ok_bind]
  by_cases size : e.elementSize = 2
  · obtain ⟨list, own, rfl, read, -⟩ := byteList_found kind size found
    simp only [read, Fallible.ok_bind, Fallible.throw_eq_error, Fallible.error_bind,
      Fallible.pure_eq_ok, own, size,
      Option.some.injEq, exists_eq_left', true_and, ne_eq, ← strictDecode_eq_ok]
    by_cases terminated : (byteListAt m.segments list).getLast? = some 0
    · rw [if_neg (not_not.2 terminated)]
      simp [Fallible.bind_eq_ok, terminated]
    · rw [if_pos terminated]
      exact ⟨nofun, fun ok => absurd ok.1 terminated⟩
  · have other := not_bytes kind size found
    refine ⟨fun read => ?_, fun ok => absurd ok.1 size⟩
    split at read
    · rename_i absent
      cases absent
    · rename_i same
      cases same
      exact absurd rfl (other _ _ _)
    · cases read

theorem textAgrees_iff (same : reader.segments = m.segments)
    (inside : pointerIndex < ref.pointerCount) :
    TextAgrees reader m ref pointerIndex ↔
      ∀ e, chase m.segments 8 ref.segmentId (ref.slot pointerIndex) = some e →
      ¬ FarOrMarkedText m.segments e := by
  have end_of := fun e ends => CapnpReader.resolvePointer_end (r := reader) (s := ref.segmentId)
    (p := ref.slot pointerIndex) (e := e) (same ▸ ends)
  -- what a single pointer to a terminated text leads to
  have trims : ∀ {e : End} {list : Wire.ByteListRef},
      chase m.segments 8 ref.segmentId (ref.slot pointerIndex) = some e →
      e.doubleFar = false → e.word % 4 = 1 → e.elementSize = 2 → e.byteList m.segments = some list →
      (byteListAt m.segments list).getLast? = some 0 →
      (StructReader.ofRef ref).readByteList reader pointerIndex true =
        .ok (some ⟨e.segmentId, e.start * WORD_BYTES, (byteListAt m.segments list).dropLast⟩) := by
    intro e list ends single kind size own terminated
    rw [readByteList_found true same inside ((end_of e ends).1 single) single kind size own]
    simp [StructReader.trimmed, terminated]
  constructor
  · rintro agrees e ends ⟨kind, size, list, text, own, terminated, valid, wrong⟩
    have found : e.list m.segments =
        some (.object (.flat 2 list.elementCount) list.segmentId list.startWord) := by
      rw [Wire.list_of_bytes kind size, own]
      rfl
    obtain ⟨l, done, target⟩ := readListPointer_found ends kind found
    rw [← target] at found
    have read := (readTextPointer_iff kind found done).2 ⟨size, list, own, terminated, valid⟩
    obtain ⟨agreed, view, viewed, position⟩ := agrees.text l text done read
    by_cases double : e.doubleFar = true
    · obtain ⟨resolved, followed, -⟩ := Fallible.bind_eq_ok.1 viewed
      rw [StructReader.resolve_ofRef reader inside] at followed
      obtain rfl := (end_of e ends).2 (by omega) resolved followed
      have further := readByteList_position inside followed viewed
      obtain ⟨-, -, -, -, place⟩ := byteList_found kind size found
      have here : view.byteOffset = e.start * WORD_BYTES := by
        rw [place] at position
        exact congrArg Prod.snd position
      rw [e.toPlugin_target, if_pos double, here] at further
      simp only [WORD_BYTES] at further
      omega
    · have marked := wrong.resolve_left double
      unfold StructReader.readText at agreed
      rw [trims ends (Bool.eq_false_iff.2 double) kind size own terminated, Fallible.ok_bind]
        at agreed
      exact textDecode_marked valid marked (Option.some.inj (Except.ok.inj agreed))
  · intro fine
    refine ⟨fun null => ?_, fun l text done read => ?_⟩
    · obtain ⟨e, ends, ⟨zero, single, -⟩ | ⟨-, l, present, -⟩⟩ :=
        readListPointer_cases (readTextPointer_null null)
      · unfold StructReader.readText
        rw [readByteList_null true same inside ends zero single]
        rfl
      · cases present
    · obtain ⟨e, ends, ⟨-, -, absent⟩ | ⟨kind, l', present, found⟩⟩ := readListPointer_cases done
      · cases absent
      cases present
      obtain ⟨size, list, own, terminated, valid⟩ := (readTextPointer_iff kind found done).1 read
      obtain ⟨-, -, -, -, place⟩ := byteList_found kind size found
      have right : ¬ (e.doubleFar = true ∨ text.toList.head? = some byteOrderMark) := fun wrong =>
        fine e ends ⟨kind, size, list, text, own, terminated, valid, wrong⟩
      have viewed :=
        trims ends (Bool.eq_false_iff.2 fun double => right (.inl double)) kind size own terminated
      refine ⟨?_, _, viewed, place.symm⟩
      unfold StructReader.readText
      rw [viewed, Fallible.ok_bind, Option.map_some, textDecode_plain valid fun marked =>
        right (.inr marked)]
      rfl

/-! ## The root -/

/-- Where the runtime finds a root struct, the generator's reader finds the same. -/
def RootAgrees (reader : CapnpReader) (m : MessageReader) : Prop :=
  ∀ result, m.readRootStruct = .ok result → reader.root = .ok (StructReader.ofRef result)

theorem readRootStruct_eq_ok {result : StructRef} :
    m.readRootStruct = .ok result ↔ m.readStructPointer 0 0 = .ok (some result) := by
  unfold MessageReader.readRootStruct
  cases m.readStructPointer 0 0 with
  | error e => exact ⟨nofun, nofun⟩
  | ok found =>
    cases found with
    | none => exact ⟨nofun, nofun⟩
    | some ref => simp

theorem root_of_resolve {result : CapnpReader.ResolvedPointer}
    (inside : inRange reader.segments 0 0 1 = true) (done : reader.resolvePointer 0 0 = .ok result)
    (kind : result.word % 4 = 0) :
    reader.root = if result.word = 0 then .error (plainError "null struct pointer")
      else .ok (StructReader.ofResolved result) := by
  obtain ⟨segment, known, -, high⟩ := inRange_iff.1 inside
  unfold CapnpReader.root CapnpReader.readStructPointer
  simp only [known, done, Fallible.ok_bind, and_kind, kind, ne_eq, not_true_eq_false, if_false,
    Fallible.throw_eq_error, Fallible.error_bind, Fallible.pure_eq_ok]
  exact if_neg (by simp only [WORD_BYTES]; omega)

theorem root_resolve {result : StructReader} (read : reader.root = .ok result) :
    ∃ resolved, reader.resolvePointer 0 0 = .ok resolved := by
  unfold CapnpReader.root at read
  split at read
  · cases read
  · split_ifs at read
    obtain ⟨resolved, done, -⟩ := Fallible.bind_eq_ok.1 read
    exact ⟨resolved, done⟩

theorem rootAgrees_iff (same : reader.segments = m.segments) : RootAgrees reader m ↔
    ∀ e, chase m.segments 8 0 0 = some e → ¬ FarStruct m.segments e := by
  have spec := Wire.reader_readStructPointer m 0 0
  have end_of := fun e ends => CapnpReader.resolvePointer_end (r := reader) (s := 0) (p := 0)
    (e := e) (same ▸ ends)
  simp only [Nat.cast_zero, zero_mul] at end_of
  simp only [RootAgrees, readRootStruct_eq_ok]
  constructor
  · rintro agrees e ends ⟨double, kind, zero, present⟩
    obtain ⟨found, struct⟩ := Option.isSome_iff_exists.1 present
    simp only [ends, Option.bind_some, double, kind, zero, struct, ne_eq, not_true_eq_false,
      if_true, if_false,
      and_false, Bool.true_eq_false, Option.map_some, Fallible.toOption_eq_some] at spec
    have read := agrees found spec
    obtain ⟨resolved, done⟩ := root_resolve read
    obtain rfl := (end_of e ends).2 (by omega) resolved done
    rw [root_of_resolve (same ▸ chase_inside ends) done kind, ofResolved_eq struct,
      if_pos double] at read
    split_ifs at read
    have places := congrArg StructReader.dataByteOffset (Except.ok.inj read)
    simp only [StructReader.ofRef, WORD_BYTES] at places
    omega
  · intro fine result done
    cases ends : chase m.segments 8 0 0 with
    | none =>
      rw [show m.readStructPointer ((0 : ℕ)) ((0 : ℕ) : ℤ) = .ok (some result) from done,
        ends] at spec
      cases spec
    | some e =>
      rw [show m.readStructPointer ((0 : ℕ)) ((0 : ℕ) : ℤ) = .ok (some result) from done, ends,
        Fallible.toOption_ok, Option.bind_some] at spec
      split_ifs at spec with null kind offset
      · cases spec
      · cases struct : e.struct m.segments with
        | none => simp [struct] at spec
        | some found =>
          rw [struct] at spec
          cases spec
          have single : e.doubleFar = false := by
            by_contra double
            rw [Bool.not_eq_false] at double
            exact fine e ends ⟨double, kind, not_not.1 fun other =>
              offset ⟨double, other⟩, by rw [struct]; rfl⟩
          have present : ¬ e.word = 0 := fun zero => null ⟨zero, single⟩
          rw [root_of_resolve (same ▸ chase_inside ends) ((end_of e ends).1 single) kind,
            e.toPlugin_word, if_neg present, ofResolved_eq struct, single]
          rfl

end

/-! ## Agreement -/

/-- **The generator's reader against the runtime's.**  Both accept the same messages and cut them
alike.  For the root and for every pointer of every struct, what the runtime finds the generator's
reader finds at the same place, exactly when the far pointers of the slot do not end behind a
double-far landing pad that the runtime can follow, and a text does not begin with a byte order
mark. -/
theorem plugin_reader_agrees (message : Bytes) :
    (CapnpReader.ofBytes message).toOption.map CapnpReader.segments =
        (MessageReader.ofBytes message).toOption.map MessageReader.segments ∧
    ∀ reader m, CapnpReader.ofBytes message = .ok reader → MessageReader.ofBytes message = .ok m →
      (RootAgrees reader m ↔ ∀ e, chase m.segments 8 0 0 = some e → ¬ FarStruct m.segments e) ∧
      ∀ (ref : StructRef) (pointerIndex : ℕ), pointerIndex < ref.pointerCount →
        let Ends := fun e => chase m.segments 8 ref.segmentId (ref.slot pointerIndex) = some e
        (StructAgrees reader m ref pointerIndex ↔ ∀ e, Ends e → ¬ FarStruct m.segments e) ∧
        (StructListAgrees reader m ref pointerIndex ↔ ∀ e, Ends e → ¬ FarList m.segments 7 e) ∧
        (DataAgrees reader m ref pointerIndex ↔ ∀ e, Ends e → ¬ FarList m.segments 2 e) ∧
        (TextAgrees reader m ref pointerIndex ↔ ∀ e, Ends e → ¬ FarOrMarkedText m.segments e) := by
  refine ⟨CapnpReader.ofBytes_toOption message, fun reader m opened opened' => ?_⟩
  have same : reader.segments = m.segments := by
    have alike := CapnpReader.ofBytes_toOption message
    rw [opened, opened'] at alike
    exact Option.some.inj alike
  refine ⟨rootAgrees_iff same, fun ref pointerIndex inside => ?_⟩
  exact ⟨structAgrees_iff same inside, structListAgrees_iff same inside, dataAgrees_iff same inside,
    textAgrees_iff same inside⟩

theorem plugin_reader_agrees_far : ∃ reader m, CapnpReader.ofBytes Wire.farSlotsFrame = .ok reader ∧
    MessageReader.ofBytes Wire.farSlotsFrame = .ok m ∧ m.readRootStruct = .ok ⟨0, 1, 0, 3⟩ ∧
    RootAgrees reader m ∧ StructAgrees reader m ⟨0, 1, 0, 3⟩ 0 ∧
    DataAgrees reader m ⟨0, 1, 0, 3⟩ 1 ∧
    StructListAgrees reader m ⟨0, 1, 0, 3⟩ 2 := by
  have opened : CapnpReader.ofBytes Wire.farSlotsFrame =
      .ok ⟨FrameLimits.segmentsOf Wire.farSlotsFrame⟩ := by rfl
  have opened' : MessageReader.ofBytes Wire.farSlotsFrame =
      .ok ⟨FrameLimits.segmentsOf Wire.farSlotsFrame⟩ := by
    decide
  -- no slot ends behind a double-far landing pad
  have near (slot : ℕ) (few : slot < 4) (e : End)
      (ends : chase (FrameLimits.segmentsOf Wire.farSlotsFrame) 8 0 slot = some e) : ¬ e.doubleFar =
      true := by
    have each : ∀ slot < 4, ∀ e ∈ chase (FrameLimits.segmentsOf Wire.farSlotsFrame) 8 0 slot,
        e.doubleFar = false := by
      decide
    rw [each slot few e ends]
    exact Bool.false_ne_true
  obtain ⟨root, slots⟩ := (plugin_reader_agrees Wire.farSlotsFrame).2 _ _ opened opened'
  have slot := slots ⟨0, 1, 0, 3⟩
  refine ⟨_, _, opened,
    opened', by decide, root.2 fun e ends far => near 0 (by decide) e ends far.1, ?_, ?_, ?_⟩
  · exact (slot 0 (by decide)).1.2 fun e ends far => near 1 (by decide) e ends far.1
  · exact (slot 1 (by decide)).2.2.1.2 fun e ends far => near 2 (by decide) e ends far.1
  · exact (slot 2 (by decide)).2.1.2 fun e ends far => near 3 (by decide) e ends far.1

/-- A root struct of one word behind a double-far landing pad. -/
def doubleFarMessage : Bytes :=
  toLE 4 2 ++ toLE 4 1 ++ toLE 4 2 ++ toLE 4 2 ++
    toLE 8 (2 ^ 32 + 4 + 2) ++ (toLE 8 (2 * 2 ^ 32 + 2) ++ toLE 8 (2 ^ 32)) ++
    (toLE 8 42 ++ toLE 8 7)

/-- Both find a struct of one word, the generator's reader one word too far. -/
theorem plugin_reader_disagrees : ∃ reader m, CapnpReader.ofBytes doubleFarMessage = .ok reader ∧
    MessageReader.ofBytes doubleFarMessage = .ok m ∧ m.readRootStruct = .ok ⟨2, 0, 1, 0⟩ ∧
    reader.root = .ok ⟨2, 8, 1, 0⟩ ∧ ¬ RootAgrees reader m := by
  refine ⟨⟨[toLE 8 (2 ^ 32 + 4 + 2), toLE 8 (2 * 2 ^ 32 + 2) ++ toLE 8 (2 ^ 32),
    toLE 8 42 ++ toLE 8 7]⟩,
    ⟨[toLE 8 (2 ^ 32 + 4 + 2), toLE 8 (2 * 2 ^ 32 + 2) ++ toLE 8 (2 ^ 32),
      toLE 8 42 ++ toLE 8 7]⟩, by rfl,
    by decide, by decide, by decide, fun agrees => ?_⟩
  have read := agrees ⟨2, 0, 1, 0⟩ (by decide)
  exact absurd read (by decide)

end CapnpDeno
