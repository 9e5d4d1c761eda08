import CapnpDeno.Encoding.ObjectTree

/-!
# What the reader resolves

The reader's pointer functions in terms of the fields of the word they end at: which slots lead to
an object, and to which one.
-/

namespace CapnpDeno

open ByteList

/-- The words from `start` on lie in the segment. -/
def inRange (segments : List Bytes) (segmentId : ℕ) (start : ℤ) (count : ℕ) : Bool :=
  match segments[segmentId]? with
  | none => false
  | some bytes => decide (0 ≤ start ∧ start + count ≤ (bytes.length / 8 : ℕ))

/-- The word at an index. -/
def wordAt (segments : List Bytes) (segmentId wordIndex : ℕ) : ℕ :=
  readLE (segments[segmentId]?.getD []) (8 * wordIndex) 8

/-- What a word other than null leads to when its offset counts from `base`, if all is in range. -/
def targetOf (segments : List Bytes) (segmentId : ℕ) (base : ℤ) (word : ℕ) : Option Target :=
  let start := base + signed30 (word / 4 % 2 ^ 30)
  match word % 4 with
  | 3 => some (.capability word)
  | 0 =>
    let dw := word / 2 ^ 32 % 2 ^ 16
    let pc := word / 2 ^ 48 % 2 ^ 16
    if inRange segments segmentId start (dw + pc) then
      some (.object (.struct dw pc) segmentId start.toNat)
    else none
  | 1 =>
    let es := word / 2 ^ 32 % 8
    let n := word / 2 ^ 35 % 2 ^ 29
    if es = 7 then
      let tag := wordAt segments segmentId start.toNat
      let count := tag / 4 % 2 ^ 30
      let dw := tag / 2 ^ 32 % 2 ^ 16
      let pc := tag / 2 ^ 48 % 2 ^ 16
      if inRange segments segmentId start (1 + n) ∧ tag % 4 = 0 ∧ (dw + pc) * count ≤ n then
        some (.object (.inlineComposite n count dw pc) segmentId start.toNat)
      else none
    else if inRange segments segmentId start (flatWords es n) then
      some (.object (.flat es n) segmentId start.toNat)
    else none
  | _ => none

/-- The base from which the offset of a resolved pointer counts. -/
def ResolvedPointer.base (resolved : ResolvedPointer) : ℤ := resolved.pointerWord + 1

/-- The condition under which a resolved pointer is null. -/
abbrev ResolvedPointer.isNull (resolved : ResolvedPointer) : Prop :=
  resolved.word = 0 ∧ resolved.contentWord = none

/-- A double-far tag for a struct that is not at offset zero. -/
abbrev ResolvedPointer.badTag (resolved : ResolvedPointer) : Prop :=
  resolved.contentWord ≠ none ∧ signed30 (resolved.word / 4 % 2 ^ 30) ≠ 0

theorem inRange_iff {segments : List Bytes} {segmentId : ℕ} {start : ℤ} {count : ℕ} :
    inRange segments segmentId start count = true ↔
      ∃ bytes, segments[segmentId]? = some bytes ∧ 0 ≤ start ∧
        start + count ≤ (bytes.length / 8 : ℕ) := by
  unfold inRange
  cases segments[segmentId]? <;> simp

theorem inRange_split {segments : List Bytes} {s a b : ℕ} {start : ℤ} :
    inRange segments s start (a + b) =
      (inRange segments s start a && inRange segments s (start + a) b) := by
  unfold inRange
  cases segments[s]? with
  | none => rfl
  | some bytes =>
    rw [← Bool.decide_and, decide_eq_decide]
    push_cast
    omega

theorem targetOf_ne_null {segments : List Bytes} {s : ℕ} {base : ℤ} {word : ℕ} :
    targetOf segments s base word ≠ some .null := by
  unfold targetOf
  intro null
  simp only [] at null
  split at null
  · cases null
  · split_ifs at null with inside
    cases null
  · split_ifs at null with composite inside inside
    · cases null
    · cases null
  · cases null

/-- An object that a word leads to has a valid shape, lies in its segment and carries its tag. -/
theorem targetOf_object {segments : List Bytes} {s s' start : ℕ} {base : ℤ} {word : ℕ}
    {shape : Shape} (found : targetOf segments s base word = some (.object shape s' start)) :
    shape.Valid ∧ inRange segments s' start shape.words = true ∧
      shape.Tagged (slice (segments[s']?.getD []) (8 * start) (8 * shape.words)) := by
  have nonneg : ∀ {position : ℤ} {n : ℕ}, inRange segments s position n = true →
      ((position.toNat : ℕ) : ℤ) = position := fun inside => by
    obtain ⟨-, -, low, -⟩ := inRange_iff.1 inside
    exact Int.toNat_of_nonneg low
  unfold targetOf at found
  simp only [] at found
  split at found
  · cases found
  · split_ifs at found with inside
    cases found
    refine ⟨⟨Nat.mod_lt _ (by decide), Nat.mod_lt _ (by decide)⟩, ?_, trivial⟩
    rw [nonneg inside]
    exact inside
  · split_ifs at found with composite inside inside
    · cases found
      obtain ⟨inside, kind, room⟩ := inside
      refine ⟨⟨Nat.mod_lt _ (by decide), Nat.mod_lt _ (by decide), Nat.mod_lt _ (by decide),
        Nat.mod_lt _ (by decide), room⟩, ?_, ?_⟩
      · rw [nonneg inside]
        exact inside
      · show readLE (slice _ _ (8 * (1 + _))) 0 8 = _
        rw [readLE_slice (by omega)]
        exact (tagWord_of_fields kind (readLE_lt _ _ 8)).symm
    · cases found
      refine ⟨⟨?_, Nat.mod_lt _ (by decide)⟩, ?_, trivial⟩
      · have := Nat.mod_lt (word / 2 ^ 32) (show 0 < 8 by decide)
        omega
      · rw [nonneg inside]
        exact inside
  · cases found

theorem targetOf_capability {segments : List Bytes} {s : ℕ} {base : ℤ} {word word' : ℕ}
    (found : targetOf segments s base word = some (.capability word')) :
    word' = word ∧ word % 4 = 3 := by
  unfold targetOf at found
  simp only [] at found
  split at found
  · cases found
    exact ⟨rfl, by assumption⟩
  · split_ifs at found
    cases found
  · split_ifs at found
    · cases found
    · cases found
  · cases found

namespace MessageReader

theorem requireWordRange_toOption (r : MessageReader) (s : ℕ) (start : ℤ) (count : ℕ)
    (context : String) : (r.requireWordRange s start count context).toOption =
      if inRange r.segments s start count then some () else none := by
  unfold requireWordRange segment inRange
  cases r.segments[s]? with
  | none => rfl
  | some bytes =>
    simp only [Fallible.pure_eq_ok, Fallible.ok_bind, Fallible.throw_eq_error,
      Fallible.toOption_ite, Fallible.toOption_error, Fallible.toOption_ok, WORD_BYTES,
      decide_eq_true_eq]
    by_cases outside : start < 0 ∨ start + count > (bytes.length / 8 : ℕ)
    · rw [if_pos outside, if_neg (by omega)]
    · rw [if_neg outside, if_pos (by omega)]

theorem requireWordRange_ok {r : MessageReader} {s count : ℕ} {start : ℤ} (context : String)
    (inside : inRange r.segments s start count = true) :
    r.requireWordRange s start count context = .ok () := by
  rw [← Fallible.toOption_eq_some, requireWordRange_toOption, if_pos inside]

theorem readWord_toOption (r : MessageReader) (s : ℕ) (start : ℤ) :
    (r.readWord s start).toOption =
      if inRange r.segments s start 1 then some (wordAt r.segments s start.toNat) else none := by
  unfold readWord
  rw [Fallible.toOption_bind, requireWordRange_toOption]
  cases inside : inRange r.segments s start 1 with
  | false => rfl
  | true =>
    obtain ⟨bytes, known, -⟩ := inRange_iff.1 inside
    simp [segment, wordAt, known, WORD_BYTES, Nat.mul_comm]

theorem readWord_ok {r : MessageReader} {s : ℕ} {start : ℤ}
    (inside : inRange r.segments s start 1 = true) :
    r.readWord s start = .ok (wordAt r.segments s start.toNat) := by
  rw [← Fallible.toOption_eq_some, readWord_toOption, if_pos inside]

theorem resolveDoubleFar_pad {r : MessageReader} {s p : ℕ} {resolved : ResolvedPointer}
    (done : r.resolveDoubleFar s p = .ok resolved) {content : ℕ}
    (target : resolved.contentWord = some content) : resolved.base = content := by
  unfold resolveDoubleFar at done
  obtain ⟨-, -, done⟩ := Fallible.bind_eq_ok.1 done
  obtain ⟨pad, -, done⟩ := Fallible.bind_eq_ok.1 done
  simp only [Fallible.throw_eq_error, Fallible.error_bind] at done
  split_ifs at done
  obtain ⟨tag, -, done⟩ := Fallible.bind_eq_ok.1 done
  cases done
  cases target
  simp [ResolvedPointer.base]

theorem resolveHops_pad {r : MessageReader} {hops s : ℕ} {p : ℤ} {word : ℕ}
    {resolved : ResolvedPointer} (done : r.resolveHops hops s p word = .ok resolved) {content : ℕ}
    (target : resolved.contentWord = some content) : resolved.base = content := by
  induction hops generalizing s p word with
  | zero => cases done
  | succ hops ih =>
    unfold resolveHops at done
    simp only [] at done
    split_ifs at done with near double
    · cases done
      cases target
    · exact resolveDoubleFar_pad done target
    · obtain ⟨word', -, done⟩ := Fallible.bind_eq_ok.1 done
      exact ih done

theorem resolvePointer_pad {r : MessageReader} {s : ℕ} {p : ℤ} {resolved : ResolvedPointer}
    (done : r.resolvePointer s p = .ok resolved) {content : ℕ}
    (target : resolved.contentWord = some content) : resolved.base = content := by
  obtain ⟨word, -, done⟩ := Fallible.bind_eq_ok.1 done
  exact resolveHops_pad done target

theorem readWord_lt {r : MessageReader} {s word : ℕ} {start : ℤ}
    (read : r.readWord s start = .ok word) : word < 2 ^ 64 := by
  rw [← Fallible.toOption_eq_some, readWord_toOption] at read
  split_ifs at read
  cases read
  exact readLE_lt _ _ 8

theorem resolveHops_word_lt {r : MessageReader} {hops s : ℕ} {p : ℤ} {word : ℕ}
    {resolved : ResolvedPointer} (done : r.resolveHops hops s p word = .ok resolved)
    (small : word < 2 ^ 64) : resolved.word < 2 ^ 64 := by
  induction hops generalizing s p word with
  | zero => cases done
  | succ hops ih =>
    unfold resolveHops at done
    simp only [] at done
    split_ifs at done with near double
    · cases done
      exact small
    · unfold resolveDoubleFar at done
      obtain ⟨-, -, done⟩ := Fallible.bind_eq_ok.1 done
      obtain ⟨pad, -, done⟩ := Fallible.bind_eq_ok.1 done
      simp only [Fallible.throw_eq_error, Fallible.error_bind] at done
      split_ifs at done
      obtain ⟨tag, read, done⟩ := Fallible.bind_eq_ok.1 done
      cases done
      exact readWord_lt read
    · obtain ⟨word', read, done⟩ := Fallible.bind_eq_ok.1 done
      exact ih done (readWord_lt read)

theorem resolvePointer_word_lt {r : MessageReader} {s : ℕ} {p : ℤ} {resolved : ResolvedPointer}
    (done : r.resolvePointer s p = .ok resolved) : resolved.word < 2 ^ 64 := by
  obtain ⟨word, read, done⟩ := Fallible.bind_eq_ok.1 done
  exact resolveHops_word_lt done (readWord_lt read)

theorem readStructPointer_toOption {r : MessageReader} {s : ℕ} {p : ℤ} {resolved : ResolvedPointer}
    (done : r.resolvePointer s p = .ok resolved) (present : ¬ resolved.isNull)
    (kind : resolved.word % 4 = 0) :
    (r.readStructPointer s p).toOption =
      let start := resolved.base + signed30 (resolved.word / 4 % 2 ^ 30)
      let dw := resolved.word / 2 ^ 32 % 2 ^ 16
      let pc := resolved.word / 2 ^ 48 % 2 ^ 16
      if ¬ resolved.badTag ∧ inRange r.segments resolved.segmentId start (dw + pc) then
        some (some ⟨resolved.segmentId, start.toNat, dw, pc⟩)
      else none := by
  unfold readStructPointer
  simp only [done, Fallible.ok_bind, Fallible.throw_eq_error, Fallible.error_bind,
    Fallible.pure_eq_ok, if_neg present, and_kind, kind, and_offset, and_low16, and_high16,
    ne_eq, not_true_eq_false, if_false, Fallible.toOption_ite, Fallible.toOption_bind,
    Fallible.toOption_error, Fallible.toOption_ok, requireWordRange_toOption]
  by_cases bad : resolved.badTag
  · rw [if_pos bad, if_neg (fun h => h.1 bad)]
  rw [if_neg bad]
  -- the code counts from the content word, which is where the base lies
  have target : (resolved.contentWord.map Nat.cast).getD
      (resolved.pointerWord + 1 + signed30 (resolved.word / 4 % 2 ^ 30)) =
      resolved.base + signed30 (resolved.word / 4 % 2 ^ 30) := by
    cases content : resolved.contentWord with
    | none => rfl
    | some c =>
      have zero : signed30 (resolved.word / 4 % 2 ^ 30) = 0 := by
        by_contra offset
        exact bad ⟨by simp [content], offset⟩
      rw [resolvePointer_pad done content, zero, add_zero]
      rfl
  simp only [target]
  cases inRange r.segments resolved.segmentId
      (resolved.base + signed30 (resolved.word / 4 % 2 ^ 30))
      (resolved.word / 2 ^ 32 % 2 ^ 16 + resolved.word / 2 ^ 48 % 2 ^ 16) <;> simp [bad]

theorem flatListWords_toOption (es n : ℕ) :
    (flatListWords es n).toOption = if es < 7 then some (flatWords es n) else none := by
  match es with
  | 0 | 1 | 2 | 3 | 4 | 5 | 6 => rfl
  | k + 7 =>
    rw [if_neg (by omega)]
    rfl

theorem readListPointer_toOption {r : MessageReader} {s : ℕ} {p : ℤ} {resolved : ResolvedPointer}
    (done : r.resolvePointer s p = .ok resolved) (kind : resolved.word % 4 = 1) :
    (r.readListPointer s p).toOption.map (Option.map ListRef.target) =
      (targetOf r.segments resolved.segmentId resolved.base resolved.word).map some := by
  unfold readListPointer targetOf
  have present : ¬ resolved.isNull := fun null => by
    rw [null.1] at kind
    cases kind
  simp only [done, Fallible.ok_bind, Fallible.throw_eq_error, Fallible.error_bind,
    Fallible.pure_eq_ok, if_neg present, and_kind, kind, and_offset, and_low16, and_high16,
    and_elementSize, and_count, ne_eq, not_true_eq_false, if_false, Fallible.toOption_ite,
    Fallible.toOption_bind, Fallible.toOption_error, Fallible.toOption_ok,
    requireWordRange_toOption, readWord_toOption, flatListWords_toOption]
  simp only [show resolved.pointerWord + 1 = resolved.base from rfl]
  have below : resolved.word / 2 ^ 32 % 8 < 8 := Nat.mod_lt _ (by decide)
  generalize resolved.word / 2 ^ 32 % 8 = es at *
  generalize resolved.word / 2 ^ 35 % 2 ^ 29 = n
  generalize resolved.base + signed30 (resolved.word / 4 % 2 ^ 30) = start
  by_cases composite : es = 7
  · subst composite
    rw [inRange_split, Nat.cast_one]
    generalize wordAt r.segments resolved.segmentId start.toNat = tag
    cases inRange r.segments resolved.segmentId start 1 with
    | false => simp
    | true =>
      simp only [if_true, Option.bind_some]
      generalize tag / 2 ^ 32 % 2 ^ 16 = dw, tag / 2 ^ 48 % 2 ^ 16 = pc, tag / 4 % 2 ^ 30 = count
      by_cases tagKind : tag % 4 = 0
      · by_cases long : (dw + pc) * count > n
        · simp [tagKind, not_le.2 long]
        · cases inRange r.segments resolved.segmentId (start + 1) n <;>
            simp [tagKind, not_lt.1 long, ListRef.target]
      · simp [tagKind]
  · rw [if_neg composite, if_neg composite, if_pos (show es < 7 by omega), Option.bind_some]
    cases inRange r.segments resolved.segmentId start (flatWords es n) <;> simp [ListRef.target]

/-- What a resolved pointer leads to. -/
theorem locate_toOption {r : MessageReader} {s p : ℕ} {resolved : ResolvedPointer}
    (done : r.resolvePointer s p = .ok resolved) :
    (r.locate s p).toOption =
      if resolved.isNull then some .null
      else if resolved.badTag ∧ resolved.word % 4 = 0 then none
      else targetOf r.segments resolved.segmentId resolved.base resolved.word := by
  unfold locate readResolvedPointer
  simp only [done, Fallible.ok_bind, and_kind]
  by_cases null : resolved.isNull
  · rw [if_pos null, if_pos null]
    rfl
  rw [if_neg null, if_neg null]
  have kinds : resolved.word % 4 < 4 := Nat.mod_lt _ (by decide)
  obtain kind | kind | kind | kind : resolved.word % 4 = 0 ∨ resolved.word % 4 = 1 ∨
      resolved.word % 4 = 2 ∨ resolved.word % 4 = 3 := by omega
  · have struct := readStructPointer_toOption done null kind
    rw [targetOf]
    simp only [kind, Fallible.toOption_bind, struct, and_true]
    by_cases bad : resolved.badTag
    · rw [if_neg (fun h => h.1 bad), if_pos bad, Option.bind_none]
    · rw [if_neg bad]
      split_ifs with inside outside outside
      · rfl
      · exact absurd inside.2 outside
      · exact absurd ⟨bad, outside⟩ inside
      · rfl
  · have list := readListPointer_toOption done kind
    rw [if_neg (by omega)]
    simp only [kind, Fallible.toOption_bind]
    cases result : r.readListPointer s p with
    | error e =>
      rw [result, Fallible.toOption_error, Option.map_none] at list
      cases target : targetOf r.segments resolved.segmentId resolved.base resolved.word with
      | none => rfl
      | some t => simp [target] at list
    | ok ref =>
      rw [result, Fallible.toOption_ok, Option.map_some] at list
      cases target : targetOf r.segments resolved.segmentId resolved.base resolved.word with
      | none => simp [target] at list
      | some t =>
        rw [target, Option.map_some, Option.some.injEq] at list
        cases ref with
        | none => cases list
        | some ref =>
          cases list
          rfl
  · rw [if_neg (by omega), targetOf]
    simp only [kind]
    rfl
  · rw [if_neg (by omega), targetOf]
    simp only [kind]
    rfl

theorem readStructPointer_ne_null {r : MessageReader} {s : ℕ} {p : ℤ} {resolved : ResolvedPointer}
    (done : r.resolvePointer s p = .ok resolved) (present : ¬ resolved.isNull)
    (kind : resolved.word % 4 = 0) : r.readStructPointer s p ≠ .ok none := by
  intro null
  have spec := readStructPointer_toOption done present kind
  rw [null, Fallible.toOption_ok] at spec
  simp only [] at spec
  split_ifs at spec
  cases spec

/-- A list pointer that is not null leads to the list it describes. -/
theorem readListPointer_target {r : MessageReader} {s : ℕ} {p : ℤ} {resolved : ResolvedPointer}
    {list : Option ListRef} (done : r.resolvePointer s p = .ok resolved)
    (kind : resolved.word % 4 = 1) (read : r.readListPointer s p = .ok list) :
    ∃ ref, list = some ref ∧
      targetOf r.segments resolved.segmentId resolved.base resolved.word = some ref.target := by
  have spec := readListPointer_toOption done kind
  rw [read, Fallible.toOption_ok, Option.map_some] at spec
  cases found : targetOf r.segments resolved.segmentId resolved.base resolved.word with
  | none => simp [found] at spec
  | some t =>
    rw [found, Option.map_some, Option.some.injEq] at spec
    cases list with
    | none => cases spec
    | some ref =>
      cases spec
      exact ⟨ref, rfl, rfl⟩

theorem locate_resolved {r : MessageReader} {s p : ℕ} {target : Target}
    (found : r.locate s p = .ok target) : ∃ resolved, r.resolvePointer s p = .ok resolved := by
  obtain ⟨resolved, done, -⟩ := Fallible.bind_eq_ok.1 found
  exact ⟨resolved, done⟩

/-- An object that a slot leads to has a valid shape, lies in its segment and carries its tag. -/
theorem locate_object {r : MessageReader} {s p s' start : ℕ} {shape : Shape}
    (found : r.locate s p = .ok (.object shape s' start)) :
    shape.Valid ∧ inRange r.segments s' start shape.words = true ∧
      shape.Tagged (r.block shape s' start) := by
  obtain ⟨resolved, done⟩ := locate_resolved found
  rw [← Fallible.toOption_eq_some, locate_toOption done] at found
  split_ifs at found
  · cases found
  · exact targetOf_object found

theorem locate_capability {r : MessageReader} {s p word : ℕ}
    (found : r.locate s p = .ok (.capability word)) : word % 4 = 3 ∧ word < 2 ^ 64 := by
  obtain ⟨resolved, done⟩ := locate_resolved found
  rw [← Fallible.toOption_eq_some, locate_toOption done] at found
  split_ifs at found
  · cases found
  · obtain ⟨rfl, kind⟩ := targetOf_capability found
    exact ⟨kind, resolvePointer_word_lt done⟩

end MessageReader

end CapnpDeno
