import CapnpDeno.Encoding.AnyPointerCopy
import CapnpDeno.Encoding.Layout

/-!
# The copy keeps the tree

A successful `deepCopyAnyPointer` lays out, behind the destination slot, the tree that the source
slot shows, in words it has allocated itself.  `deepCopy_succ` says once what a level of the copy
does; the rest is induction on the levels, with a loop over the slots of an object at each.
-/

namespace CapnpDeno

open ByteList

/-! ## One level -/

namespace Shape

/-- The leading words of a block that are copied as they are. -/
def copied : Shape → ℕ
  | struct dw _ => dw
  | flat es n => if es = 6 then 0 else flatWords es n
  | inlineComposite w _ _ _ => 1 + w

/-- The work charged for an object, its slots not counted. -/
def work : Shape → ℕ
  | struct dw _ => dw
  | flat es n => n + flatWords es n
  | inlineComposite w n _ _ => n + w

theorem copied_le (shape : Shape) : shape.copied ≤ shape.words := by
  cases shape with
  | struct dw pc => exact Nat.le_add_right dw pc
  | flat es n =>
    show (if es = 6 then 0 else flatWords es n) ≤ flatWords es n
    split_ifs
    · exact Nat.zero_le _
    · exact le_rfl
  | inlineComposite w n dw pc => exact le_rfl

/-- What is not copied is a slot. -/
theorem mem_slots_of_not_copied {shape : Shape} {i : ℕ} (inside : i < shape.words)
    (uncopied : shape.copied ≤ i) : i ∈ shape.slots := by
  cases shape with
  | struct dw pc =>
    have low : dw ≤ i := uncopied
    have high : i < dw + pc := inside
    exact List.mem_map.2 ⟨i - dw, List.mem_range.2 (by omega), by omega⟩
  | flat es n =>
    by_cases pointers : es = 6
    · subst pointers
      exact List.mem_range.2 inside
    · have low : flatWords es n ≤ i := by simpa [copied, pointers] using uncopied
      have high : i < flatWords es n := inside
      omega
  | inlineComposite w n dw pc =>
    have low : 1 + w ≤ i := uncopied
    have high : i < 1 + w := inside
    omega

end Shape

theorem chargeWork_add (budget : AnyPointerCopyBudget) (a b : ℕ) :
    (budget.chargeWork a >>= fun budget => budget.chargeWork b) = budget.chargeWork (a + b) := by
  unfold AnyPointerCopyBudget.chargeWork
  simp only [Fallible.throw_eq_error, Fallible.error_bind, Fallible.pure_eq_ok]
  by_cases first : a > budget.work
  · rw [if_pos first, if_pos (by omega)]
    rfl
  · rw [if_neg first, Fallible.ok_bind]
    by_cases second : b > budget.work - a
    · rw [if_pos second, if_pos (by omega)]
    · rw [if_neg second, if_neg (by omega), Nat.sub_sub]

theorem listDataWords_eq {es : ℕ} (size : es < 7) (n : ℕ) :
    listDataWordsForAnyPointerCopy es n = .ok (flatWords es n) := by
  match es, size with
  | 0, _ | 1, _ | 2, _ | 3, _ | 4, _ | 5, _ | 6, _ => rfl

/-- What is done at the source slot once it has been looked at. -/
def copyTarget (r : MessageReader) (levels : ℕ) (b : MessageBuilder) (dst : ℕ)
    (budget : AnyPointerCopyBudget) : Target → Except Thrown (MessageBuilder × AnyPointerCopyBudget)
  | .null => do
    let b ← b.writeWord dst 0
    return (b, budget)
  | .capability word => do
    let b ← b.writeWord dst word
    return (b, budget)
  | .object shape segmentId start => do
    let budget ← budget.chargeWork shape.work
    let budget ← budget.chargeOutput shape.words
    let b₁ ← (b.allocWords shape.words).2.setPointer dst b.words shape
    let b₂ ← copyWordsForAnyPointer r segmentId start shape.copied b₁ b.words
    shape.slots.foldlM (fun state slot =>
      deepCopyAnyPointer r levels segmentId (start + slot) state.1 (b.words + slot) state.2)
      (b₂, budget)

/-- A level of the copy charges one unit of work, looks at the slot and copies its target. -/
theorem deepCopy_succ (r : MessageReader) (levels s p : ℕ) (b : MessageBuilder) (dst : ℕ)
    (budget : AnyPointerCopyBudget) :
    deepCopyAnyPointer r (levels + 1) s p b dst budget = (do
      let budget ← budget.chargeWork 1
      let target ← r.locate s p
      copyTarget r levels b dst budget target) := by
  rw [deepCopyAnyPointer]
  cases budget.chargeWork 1 with
  | error e => rfl
  | ok budget =>
    simp only [Fallible.ok_bind]
    unfold MessageReader.locate
    cases looked : r.readResolvedPointer s p with
    | error e => rfl
    | ok resolved =>
      simp only [Fallible.ok_bind, Fallible.throw_eq_error, Fallible.error_bind,
        Fallible.pure_eq_ok, and_kind]
      by_cases null : resolved.word = 0 ∧ resolved.contentWord = none
      · rw [if_pos null, if_pos null]
        rfl
      rw [if_neg null, if_neg null]
      obtain kind | kind | kind | kind : resolved.word % 4 = 0 ∨ resolved.word % 4 = 1 ∨
          resolved.word % 4 = 2 ∨ resolved.word % 4 = 3 := by omega
      · simp only [kind, OfNat.zero_ne_ofNat, if_false, if_true]
        cases found : r.readStructPointer s p with
        | error e => rfl
        | ok ref =>
          cases ref with
          | none => exact absurd found (MessageReader.readStructPointer_ne_null looked null kind)
          | some ref =>
            simp only [Fallible.ok_bind, copyTarget, Shape.work, Shape.words, Shape.slots,
              List.foldlM_map, ← Nat.add_assoc]
            rfl
      · simp only [kind, OfNat.one_ne_ofNat, one_ne_zero, if_false, ne_eq, not_true_eq_false]
        cases found : r.readListPointer s p with
        | error e => rfl
        | ok ref =>
          obtain ⟨ref, rfl, target⟩ := MessageReader.readListPointer_target looked kind found
          simp only [Fallible.ok_bind]
          cases ref with
          | inlineComposite s' tagWord n dw pc w =>
            simp only [ListRef.target, copyTarget, Shape.work, Shape.words, ← chargeWork_add,
              bind_assoc]
            by_cases plain : pc = 0
            · have none : (Shape.inlineComposite w n dw pc).slots = [] := by
                simp [Shape.slots, plain]
              simp only [plain, if_true] at none ⊢
              rw [none]
              rfl
            · simp only [plain, if_false, Shape.slots, Fallible.foldlM_flatMap, List.foldlM_map]
              rfl
          | flat s' start es n =>
            obtain ⟨⟨size, -⟩, -⟩ := targetOf_object target
            simp only [listDataWords_eq size, Fallible.ok_bind, ListRef.target, copyTarget,
              Shape.work, Shape.words, ← chargeWork_add]
            simp only [bind_assoc]
            by_cases pointers : es = 6
            · subst pointers
              simp only [if_true]
              rfl
            · simp only [pointers, if_false, Shape.slots, Shape.copied]
              rfl
      · simp [kind]
      · simp only [kind, if_true]
        rfl

/-! ## The words of a block -/

theorem copyWords_ok {r : MessageReader} {s start n : ℕ}
    (source : inRange r.segments s start n = true) {b : MessageBuilder} {dst : ℕ}
    (room : dst + n ≤ b.words) :
    ∃ b', copyWordsForAnyPointer r s start n b dst = .ok b' ∧ b'.words = b.words ∧
      b'.bytes = splice b.bytes (8 * dst) (slice (r.segments[s]?.getD []) (8 * start) (8 * n)) := by
  obtain ⟨segment, known, -, high⟩ := inRange_iff.1 source
  induction n with
  | zero => exact ⟨b, rfl, rfl, by rw [Nat.mul_zero, slice_zero_right, splice_nil]⟩
  | succ n ih =>
    obtain ⟨b₁, copied, words, bytes⟩ := ih
      (inRange_iff.2 ⟨segment, known, by omega, by omega⟩) (by omega) (by omega)
    have readable : inRange r.segments s (start + n : ℕ) 1 = true :=
      inRange_iff.2 ⟨segment, known, by omega, by omega⟩
    obtain ⟨b₂, written, rewrites⟩ := b₁.writeWord_ok (show dst + n < b₁.words by omega)
      (wordAt r.segments s (start + n))
    refine ⟨b₂, ?_, rewrites.words.trans words, ?_⟩
    · unfold copyWordsForAnyPointer at copied ⊢
      rw [List.range_succ, List.foldlM_append, copied, Fallible.ok_bind, List.foldlM_cons,
        MessageReader.readWord_ok readable]
      simp only [Fallible.ok_bind, Int.toNat_natCast, written]
      rfl
    · rw [known, Option.getD_some] at bytes ⊢
      have size : (slice segment (8 * start) (8 * n)).length = 8 * n := length_slice (by omega)
      have next : toLE 8 (wordAt r.segments s (start + n)) =
          slice segment (8 * start + 8 * n) 8 := by
        rw [wordAt, known, Option.getD_some, toLE_readLE (by omega), Nat.mul_add]
      rw [rewrites.bytes, bytes, writeLE, next, Nat.mul_add 8 n 1, slice_append_slice,
        ← splice_splice_next, size, Nat.mul_add]
      rw [size, length_slice (by omega), b.size]
      omega

/-! ## The tree behind the destination -/

/-- The copy of a tree has been made behind the slot `dst`. -/
structure Copied (b b' : MessageBuilder) (dst : ℕ) (t : ObjectTree) : Prop where
  grows : b.words ≤ b'.words
  laid : Laid b'.bytes b.words b'.words dst t
  /-- Nothing else has changed. -/
  rest : ∀ i, i < 8 * b.words → i / 8 ≠ dst → b'.bytes[i]? = b.bytes[i]?

/-- What the copy of the slots of an object leaves behind. -/
theorem copySlots_spec {r : MessageReader} {levels s start base : ℕ}
    (ih : ∀ {p b dst budget b' budget'},
      deepCopyAnyPointer r levels s p b dst budget = .ok (b', budget') → dst < b.words →
      ∃ t, r.Reads s p t ∧ Copied b b' dst t ∧
        budget'.outputWords + b'.words = budget.outputWords + b.words) :
    ∀ {slots : List ℕ} {b b' : MessageBuilder} {budget budget' : AnyPointerCopyBudget},
      slots.Pairwise (· < ·) → (∀ slot ∈ slots, base + slot < b.words) →
      slots.foldlM (fun state slot =>
        deepCopyAnyPointer r levels s (start + slot) state.1 (base + slot) state.2) (b, budget) =
        .ok (b', budget') →
      ∃ children : List ObjectTree, slots.length = children.length ∧
        (∀ (i slot : ℕ) (t : ObjectTree), slots[i]? = some slot → children[i]? = some t →
          r.Reads s (start + slot) t ∧ Laid b'.bytes b.words b'.words (base + slot) t) ∧
        b.words ≤ b'.words ∧
        (∀ i, i < 8 * b.words → (∀ slot ∈ slots, i / 8 ≠ base + slot) →
          b'.bytes[i]? = b.bytes[i]?) ∧
        budget'.outputWords + b'.words = budget.outputWords + b.words := by
  intro slots
  induction slots with
  | nil =>
    intro b b' budget budget' sorted inside done
    cases done
    exact ⟨[], rfl, nofun, le_rfl, fun _ _ _ => rfl, rfl⟩
  | cons slot slots next =>
    intro b b' budget budget' sorted inside done
    rw [List.foldlM_cons, Fallible.bind_eq_ok] at done
    obtain ⟨⟨b₁, budget₁⟩, first, others⟩ := done
    replace first : deepCopyAnyPointer r levels s (start + slot) b (base + slot) budget =
        .ok (b₁, budget₁) := first
    obtain ⟨later, sorted⟩ := List.pairwise_cons.1 sorted
    obtain ⟨t, reads, copied, spent⟩ := ih first (inside slot List.mem_cons_self)
    have grows := copied.grows
    have inside' : ∀ slot' ∈ slots, base + slot' < b₁.words := fun slot' mem =>
      (inside slot' (List.mem_cons_of_mem slot mem)).trans_le grows
    obtain ⟨children, arity, laid, grows', rest, spent'⟩ := next sorted inside' others
    -- the first subtree and its slot are out of reach of the later copies
    have kept : ∀ i, i < 8 * b₁.words → i / 8 = base + slot ∨ 8 * b.words ≤ i →
        b'.bytes[i]? = b₁.bytes[i]? := by
      intro i low place
      refine rest i low fun slot' mem same => ?_
      have := later slot' mem
      have := inside slot' (List.mem_cons_of_mem slot mem)
      omega
    have word : Agree b₁.bytes b'.bytes (8 * (base + slot)) (8 * (base + slot) + 8) := by
      intro i low high
      have := inside slot List.mem_cons_self
      exact (kept i (by omega) (.inl (by omega))).symm
    have blocks : Agree b₁.bytes b'.bytes (8 * b.words) (8 * b₁.words) := fun i low high =>
      (kept i high (.inr low)).symm
    have head : Laid b'.bytes b.words b'.words (base + slot) t :=
      (copied.laid.frame blocks (word.readLE_eq le_rfl le_rfl).symm).mono le_rfl grows'
    refine ⟨t :: children, by simp [arity], ?_, grows.trans grows', ?_, by omega⟩
    · intro i slot' t' known known'
      cases i with
      | zero =>
        cases known
        cases known'
        exact ⟨reads, head⟩
      | succ i =>
        obtain ⟨reads', laid'⟩ := laid i slot' t' known known'
        exact ⟨reads', laid'.mono grows le_rfl⟩
    · intro i low apart
      rw [rest i (by omega) fun slot' mem => apart slot' (List.mem_cons_of_mem slot mem),
        copied.rest i low (apart slot List.mem_cons_self)]

theorem chargeOutput_eq_ok {budget budget' : AnyPointerCopyBudget} {amount : ℕ}
    (charged : budget.chargeOutput amount = .ok budget') :
    budget'.outputWords + amount = budget.outputWords := by
  unfold AnyPointerCopyBudget.chargeOutput at charged
  simp only [Fallible.throw_eq_error, Fallible.error_bind] at charged
  split_ifs at charged
  cases charged
  show budget.outputWords - amount + amount = budget.outputWords
  omega

theorem chargeWork_eq_ok {budget budget' : AnyPointerCopyBudget} {amount : ℕ}
    (charged : budget.chargeWork amount = .ok budget') :
    budget'.outputWords = budget.outputWords := by
  unfold AnyPointerCopyBudget.chargeWork at charged
  simp only [Fallible.throw_eq_error, Fallible.error_bind] at charged
  split_ifs at charged
  cases charged
  rfl

/-- A pointer word of a valid shape fits in a word, and is not null at the offset the code uses. -/
theorem pointerWord_lt {shape : Shape} (valid : shape.Valid) (offset : ℤ) :
    shape.pointerWord offset < 2 ^ 64 := by
  cases shape with
  | struct dw pc => exact structWord_lt valid.1 valid.2
  | flat es n => exact listWord_lt (valid.1.trans (by decide)) valid.2
  | inlineComposite w n dw pc => exact listWord_lt (by decide) valid.1

theorem pointerWord_offset_ne_zero {shape : Shape} (dst start : ℕ) :
    shape.pointerWord (shape.offset dst start) ≠ 0 := by
  cases shape with
  | struct dw pc =>
    unfold Shape.offset
    split_ifs with empty
    · cases empty
      decide
    · show structWord _ dw pc ≠ 0
      unfold structWord
      intro zero
      exact empty (by congr <;> omega)
  | flat es n =>
    show listWord _ es n ≠ 0
    unfold listWord
    omega
  | inlineComposite w n dw pc =>
    show listWord _ 7 w ≠ 0
    unfold listWord
    omega

/-- The start of a block as its pointer gives it: an empty struct points at its own slot. -/
theorem offset_target (shape : Shape) (dst start : ℕ) :
    ∃ start' : ℕ, (dst : ℤ) + 1 + shape.offset dst start = start' ∧
      (start' = start ∨ shape.words = 0 ∧ start' = dst) := by
  unfold Shape.offset
  split_ifs with empty
  · refine ⟨dst, by omega, .inr ⟨?_, rfl⟩⟩
    rw [empty]
    rfl
  · exact ⟨start, by omega, .inl rfl⟩

/-- The block of an object has been moved to the end of the message and the slot points at it. -/
structure Moved (r : MessageReader) (b b' : MessageBuilder) (dst s start : ℕ) (shape : Shape) :
    Prop where
  words : b'.words = b.words + shape.words
  pointer : readLE b'.bytes (8 * dst) 8 = shape.pointerWord (shape.offset dst b.words)
  block : ∀ i, i < 8 * shape.copied →
    b'.bytes[8 * b.words + i]? = (r.segments[s]?.getD [])[8 * start + i]?
  rest : ∀ i, i < 8 * b.words → i / 8 ≠ dst → b'.bytes[i]? = b.bytes[i]?

theorem moveBlock_spec {r : MessageReader} {b b₁ b₂ : MessageBuilder} {dst s start : ℕ}
    {shape : Shape} (valid : shape.Valid) (inside : dst < b.words)
    (source : inRange r.segments s start shape.words = true)
    (pointed : (b.allocWords shape.words).2.setPointer dst b.words shape = .ok b₁)
    (copied : copyWordsForAnyPointer r s start shape.copied b₁ b.words = .ok b₂) :
    OffsetFits (shape.offset dst b.words) ∧ Moved r b b₂ dst s start shape := by
  obtain ⟨segment, known, -, high⟩ := inRange_iff.1 source
  obtain ⟨fits, rewrites⟩ := (MessageBuilder.setPointer_eq_ok valid).1 pointed
  have few := shape.copied_le
  have words : b₁.words = b.words + shape.words := rewrites.words
  obtain ⟨b₂', copied', words', bytes⟩ := copyWords_ok
    (inRange_iff.2 ⟨segment, known, by omega, by omega⟩ : inRange r.segments s start shape.copied =
      true)
    (show b.words + shape.copied ≤ b₁.words by omega)
  obtain rfl : b₂ = b₂' := Except.ok.inj (copied.symm.trans copied')
  rw [known, Option.getD_some] at bytes
  have size : (slice segment (8 * start) (8 * shape.copied)).length = 8 * shape.copied :=
    length_slice (by omega)
  have room : 8 * b.words + (slice segment (8 * start) (8 * shape.copied)).length ≤
      b₁.bytes.length := by
    rw [size, b₁.size]
    omega
  have below : Agree b₁.bytes b₂.bytes 0 (8 * b.words) := by
    rw [bytes]
    exact agree_splice room (.inl le_rfl)
  refine ⟨fits, words'.trans words, ?_, ?_, ?_⟩
  · rw [← below.readLE_eq (Nat.zero_le _) (by omega), rewrites.read]
    exact Nat.mod_eq_of_lt (pointerWord_lt valid _)
  · intro i low
    rw [bytes, getElem?_splice room, if_pos (by omega), Nat.add_sub_cancel_left, getElem?_slice,
      if_pos low, known, Option.getD_some]
  · intro i low apart
    rw [← below i (Nat.zero_le i) low, rewrites.getElem? apart,
      ← b.agree_allocWords shape.words 0 i (Nat.zero_le i) low]

/-- What the moved block and the copies behind its slots amount to. -/
theorem Moved.copied {r : MessageReader} {b b₂ b' : MessageBuilder} {dst s start : ℕ}
    {shape : Shape} {children : List ObjectTree} (moved : Moved r b b₂ dst s start shape)
    (valid : shape.Valid) (fits : OffsetFits (shape.offset dst b.words)) (inside : dst < b.words)
    (source : inRange r.segments s start shape.words = true)
    (tagged : shape.Tagged (r.block shape s start)) (arity : shape.slots.length = children.length)
    (child : ∀ (i slot : ℕ) (t : ObjectTree), shape.slots[i]? = some slot →
      children[i]? = some t → Laid b'.bytes b₂.words b'.words (b.words + slot) t)
    (grows : b₂.words ≤ b'.words)
    (rest : ∀ i, i < 8 * b₂.words → (∀ slot ∈ shape.slots, i / 8 ≠ b.words + slot) →
      b'.bytes[i]? = b₂.bytes[i]?) :
    Copied b b' dst (.object shape (blank shape.slots (r.block shape s start)) children) := by
  obtain ⟨segment, known, -, high⟩ := inRange_iff.1 source
  have words := moved.words
  have low : ∀ i, i < 8 * b.words → b'.bytes[i]? = b₂.bytes[i]? := fun i low =>
    rest i (by omega) fun slot mem => by omega
  have word : Agree b₂.bytes b'.bytes (8 * dst) (8 * dst + 8) := fun i _ _ =>
    (low i (by omega)).symm
  obtain ⟨start', target, place⟩ := offset_target shape dst b.words
  have sizes : (r.block shape s start).length = 8 * shape.words := by
    rw [MessageReader.block, known, Option.getD_some]
    exact length_slice (by omega)
  have sizes' : (blockAt b'.bytes shape start').length = 8 * shape.words :=
    length_slice (by rw [b'.size]; omega)
  -- outside the slots the block is as it was moved
  have same : blank shape.slots (r.block shape s start) =
      blank shape.slots (blockAt b'.bytes shape start') := by
    refine blank_congr (sizes.trans sizes'.symm) fun i plain => ?_
    rw [MessageReader.block, blockAt, getElem?_slice, getElem?_slice]
    split_ifs with near
    · obtain rfl : start' = b.words := by omega
      have early : i / 8 < shape.copied := by
        by_contra late
        exact plain (Shape.mem_slots_of_not_copied (by omega) (not_lt.1 late))
      rw [rest (8 * b.words + i) (by omega), moved.block i (by omega)]
      intro slot mem at_slot
      have : i / 8 = slot := by omega
      exact plain (this ▸ mem)
    · rfl
  refine ⟨by omega, ?_, ?_⟩
  · rw [same]
    refine .object valid _ fits ((word.readLE_eq le_rfl le_rfl).symm.trans moved.pointer) target
      (pointerWord_offset_ne_zero dst b.words)
      (by omega) (by omega) (tagged.of_blank_eq same) arity ?_
    intro i slot t known known'
    have := Shape.slot_lt valid (List.mem_of_getElem? known)
    obtain rfl : start' = b.words := by omega
    exact (child i slot t known known').mono (by omega) le_rfl
  · intro i near apart
    rw [low i near, moved.rest i near apart]

/-- **The copy keeps the tree.**  A successful copy has read a tree at the source slot, has laid out
the same tree behind the destination slot, and has changed nothing else. -/
theorem deepCopy_spec {r : MessageReader} {levels : ℕ} : ∀ {s p : ℕ} {b b' : MessageBuilder}
    {dst : ℕ} {budget budget' : AnyPointerCopyBudget},
    deepCopyAnyPointer r levels s p b dst budget = .ok (b', budget') → dst < b.words →
    ∃ t, r.Reads s p t ∧ Copied b b' dst t ∧
      budget'.outputWords + b'.words = budget.outputWords + b.words := by
  induction levels with
  | zero => intro s p b b' dst budget budget' done; cases done
  | succ levels ih =>
    intro s p b b' dst budget budget' done inside
    rw [deepCopy_succ] at done
    obtain ⟨budget₁, charged, done⟩ := Fallible.bind_eq_ok.1 done
    obtain ⟨target, found, done⟩ := Fallible.bind_eq_ok.1 done
    have spent := chargeWork_eq_ok charged
    -- a slot that is only overwritten
    have single : ∀ word, b.writeWord dst word = .ok b' →
        readLE b'.bytes (8 * dst) 8 = word % 2 ^ 64 ∧ b'.words = b.words ∧
          ∀ i, i < 8 * b.words → i / 8 ≠ dst → b'.bytes[i]? = b.bytes[i]? := by
      intro word written
      have rewrites := MessageBuilder.writeWord_eq_ok.1 written
      exact ⟨rewrites.read, rewrites.words, fun i _ apart => rewrites.getElem? apart⟩
    cases target with
    | null =>
      obtain ⟨b₁, written, done⟩ := Fallible.bind_eq_ok.1 done
      cases done
      obtain ⟨read, words, rest⟩ := single 0 written
      exact ⟨.null, .null found, ⟨words.ge, .null read, rest⟩, by omega⟩
    | capability word =>
      obtain ⟨b₁, written, done⟩ := Fallible.bind_eq_ok.1 done
      cases done
      obtain ⟨read, words, rest⟩ := single word written
      obtain ⟨kind, small⟩ := MessageReader.locate_capability found
      rw [Nat.mod_eq_of_lt small] at read
      exact ⟨.capability word, .capability found, ⟨words.ge, .capability read kind, rest⟩, by omega⟩
    | object shape s' start =>
      obtain ⟨budget₂, charged', done⟩ := Fallible.bind_eq_ok.1 done
      obtain ⟨budget₃, charged'', done⟩ := Fallible.bind_eq_ok.1 done
      obtain ⟨b₁, pointed, done⟩ := Fallible.bind_eq_ok.1 done
      obtain ⟨b₂, copied, done⟩ := Fallible.bind_eq_ok.1 done
      obtain ⟨valid, source, tagged⟩ := MessageReader.locate_object found
      obtain ⟨fits, moved⟩ := moveBlock_spec valid inside source pointed copied
      have words := moved.words
      obtain ⟨children, arity, each, grows, rest, spent₂⟩ := copySlots_spec ih shape.slots_sorted
        (fun slot mem => by have := Shape.slot_lt valid mem; omega) done
      have spent₁ := chargeWork_eq_ok charged'
      have spent₃ := chargeOutput_eq_ok charged''
      refine ⟨_, .object found arity fun i slot t known known' => (each i slot t known known').1,
        moved.copied valid fits inside source tagged arity
          (fun i slot t known known' => (each i slot t known known').2) grows rest, by omega⟩

/-! ## Copied messages -/

theorem budget_new_eq_ok {options : AnyPointerCopyOptions} {budget : AnyPointerCopyBudget}
    (granted : AnyPointerCopyBudget.new options = .ok budget) :
    ∃ work output depth, copyLimit options.maxWork (8 * 1024 * 1024) "maxWork" = .ok work ∧
      copyLimit options.maxOutputWords (8 * 1024 * 1024) "maxOutputWords" = .ok output ∧
      copyLimit options.maxDepth 64 "maxDepth" = .ok depth ∧
      budget.work = work ∧ budget.outputWords + 1 = output ∧ budget.maxDepth = depth := by
  obtain ⟨work, first, granted⟩ := Fallible.bind_eq_ok.1 granted
  obtain ⟨output, second, granted⟩ := Fallible.bind_eq_ok.1 granted
  obtain ⟨depth, third, granted⟩ := Fallible.bind_eq_ok.1 granted
  have spent := chargeOutput_eq_ok granted
  unfold AnyPointerCopyBudget.chargeOutput at granted
  simp only [Fallible.throw_eq_error, Fallible.error_bind] at granted
  split_ifs at granted
  cases granted
  exact ⟨work, output, depth, first, second, third, rfl, spent, rfl⟩

/-- A copied message: its segment is a layout of the tree at the source slot. -/
theorem decodeAnyPointerMessageFromReader_eq_ok {r : MessageReader} {segmentId pointerWord : ℕ}
    {options : AnyPointerCopyOptions} {copy : Bytes}
    (done : decodeAnyPointerMessageFromReader r segmentId pointerWord options = .ok copy) :
    ∃ (t : ObjectTree) (b : MessageBuilder), r.Reads segmentId pointerWord t ∧ 1 ≤ b.words ∧
      Laid b.bytes 1 b.words 0 t ∧ b.words < 2 ^ 32 ∧
      copy = toLE 4 0 ++ toLE 4 b.words ++ b.bytes := by
  obtain ⟨budget, -, done⟩ := Fallible.bind_eq_ok.1 done
  obtain ⟨⟨b, budget'⟩, copied, done⟩ := Fallible.bind_eq_ok.1 done
  obtain ⟨t, reads, copied, -⟩ := deepCopy_spec copied (show 0 < MessageBuilder.new.words by decide)
  obtain ⟨short, rfl⟩ := MessageBuilder.toMessageBytes_eq_ok.1 done
  exact ⟨t, b, reads, copied.grows, copied.laid, MessageBuilder.words_lt_of_fits short, rfl⟩

/-- **Copies mean what they were copied from.**  Whatever slot of a message is copied, the root of
the copy shows the tree of that slot; the copy is framed as one segment of exactly the size it
declares. -/
theorem copy_keeps_tree {r : MessageReader} {segmentId pointerWord : ℕ}
    {options : AnyPointerCopyOptions} {copy : Bytes}
    (done : decodeAnyPointerMessageFromReader r segmentId pointerWord options = .ok copy) :
    ∃ t, r.Reads segmentId pointerWord t ∧ MessageTree copy t ∧
      readLE copy 0 4 = 0 ∧ copy.length = 8 + 8 * readLE copy 4 4 := by
  obtain ⟨t, b, reads, words, laid, short, rfl⟩ := decodeAnyPointerMessageFromReader_eq_ok done
  have seen := laid.reads (show 0 < b.words by omega) b.size.ge
  have declared := readLE_middle (toLE 4 0) b.bytes 4 b.words
  rw [length_toLE, Nat.mod_eq_of_lt (by omega)] at declared
  refine ⟨t, reads, ⟨_, ofBytes_single b.size short, seen⟩, ?_, ?_⟩
  · rw [List.append_assoc]
    exact readLE_middle [] (toLE 4 b.words ++ b.bytes) 4 0
  · rw [declared, List.length_append, List.length_append, length_toLE, length_toLE, b.size]

/-- A far pointer to a struct of one word in a second segment, and its copy. -/
def farSource : MessageReader :=
  ⟨[[2, 0, 0, 0, 1, 0, 0, 0], [0, 0, 0, 0, 1, 0, 0, 0, 42, 0, 0, 0, 0, 0, 0, 0]]⟩

def farCopy : Bytes :=
  [0, 0, 0, 0, 2, 0, 0, 0] ++ [0, 0, 0, 0, 1, 0, 0, 0, 42, 0, 0, 0, 0, 0, 0, 0]

theorem farCopy_keeps_tree : ∃ t, farSource.Reads 0 0 t ∧ MessageTree farCopy t ∧
    readLE farCopy 0 4 = 0 ∧ farCopy.length = 8 + 8 * readLE farCopy 4 4 := by
  have done : decodeAnyPointerMessageFromReader farSource 0 0 .default = .ok farCopy := by
    decide
  exact copy_keeps_tree done

/-! ## What a copy costs -/

/-- The copy of a tree, its bytes left out: the words allocated and the budget left. -/
def copyOutcome : ℕ → ObjectTree → ℕ → ℕ → AnyPointerCopyBudget →
    Except Thrown (ℕ × AnyPointerCopyBudget)
  | 0, _, _, _, _ => throw depthLimitExceeded
  | levels + 1, t, words, dst, budget => do
    let budget ← budget.chargeWork 1
    match t with
    | .null | .capability _ => return (words, budget)
    | .object shape _ children =>
      let budget ← budget.chargeWork shape.work
      let budget ← budget.chargeOutput shape.words
      if ¬ OffsetFits (shape.offset dst words) then
        throw (signed30RangeError (shape.offset dst words))
      (shape.slots.zip children).foldlM (fun state child =>
        copyOutcome levels child.2 state.1 (words + child.1) state.2) (words + shape.words, budget)

/-- The part of a copy's result that its tree determines. -/
def outcome (result : MessageBuilder × AnyPointerCopyBudget) : ℕ × AnyPointerCopyBudget :=
  (result.1.words, result.2)

theorem copySlots_outcome {r : MessageReader} {levels s start base : ℕ} :
    ∀ {slots : List ℕ} {children : List ObjectTree}, slots.length = children.length →
      (∀ (i slot : ℕ) (t : ObjectTree), slots[i]? = some slot → children[i]? = some t →
        ∀ b dst budget, dst < b.words →
          (deepCopyAnyPointer r levels s (start + slot) b dst budget).map outcome =
            copyOutcome levels t b.words dst budget) →
      ∀ {b : MessageBuilder} (budget : AnyPointerCopyBudget),
        (∀ slot ∈ slots, base + slot < b.words) →
        (slots.foldlM (fun state slot =>
          deepCopyAnyPointer r levels s (start + slot) state.1 (base + slot) state.2)
          (b, budget)).map outcome =
        (slots.zip children).foldlM (fun state child =>
          copyOutcome levels child.2 state.1 (base + child.1) state.2) (b.words, budget) := by
  intro slots
  induction slots with
  | nil => intros; rfl
  | cons slot slots next =>
    intro children arity each b budget inside
    cases children with
    | nil => cases arity
    | cons t children =>
      have first := each 0 slot t rfl rfl b (base + slot) budget (inside slot List.mem_cons_self)
      rw [List.foldlM_cons, List.zip_cons_cons, List.foldlM_cons, ← first]
      cases copied : deepCopyAnyPointer r levels s (start + slot) b (base + slot) budget with
      | error e => rfl
      | ok state =>
        obtain ⟨b₁, budget₁⟩ := state
        obtain ⟨t', -, done, -⟩ := deepCopy_spec copied (inside slot List.mem_cons_self)
        have grows := done.grows
        refine next (Nat.succ.inj arity) (fun i => each (i + 1)) budget₁ fun slot' mem => ?_
        exact (inside slot' (List.mem_cons_of_mem slot mem)).trans_le grows

/-- Whether a copy succeeds, and what it allocates and charges, depends on the tree alone. -/
theorem deepCopy_outcome {r : MessageReader} {s p : ℕ} {t : ObjectTree} (reads : r.Reads s p t)
    (levels : ℕ) : ∀ b dst budget, dst < b.words →
      (deepCopyAnyPointer r levels s p b dst budget).map outcome =
        copyOutcome levels t b.words dst budget := by
  induction levels generalizing s p t with
  | zero => intros; rfl
  | succ levels ih =>
    intro b dst budget inside
    rw [deepCopy_succ, copyOutcome]
    cases budget.chargeWork 1 with
    | error e => rfl
    | ok budget =>
      cases reads with
      | null target =>
        obtain ⟨b', written, rewrites⟩ := b.writeWord_ok inside 0
        simp only [target, Fallible.ok_bind, copyTarget, written]
        exact congrArg (fun words => Except.ok (words, budget)) rewrites.words
      | @capability _ _ word target =>
        obtain ⟨b', written, rewrites⟩ := b.writeWord_ok inside word
        simp only [target, Fallible.ok_bind, copyTarget, written]
        exact congrArg (fun words => Except.ok (words, budget)) rewrites.words
      | @object _ _ shape s' start children target arity child =>
        obtain ⟨valid, source, -⟩ := MessageReader.locate_object target
        simp only [target, Fallible.ok_bind, copyTarget]
        cases budget.chargeWork shape.work with
        | error e => rfl
        | ok budget =>
          simp only [Fallible.ok_bind]
          cases budget.chargeOutput shape.words with
          | error e => rfl
          | ok budget =>
            simp only [Fallible.ok_bind, MessageBuilder.setPointer_eq _ dst b.words valid]
            by_cases fits : OffsetFits (shape.offset dst b.words)
            · obtain ⟨segment, known, -, high⟩ := inRange_iff.1 source
              have few := shape.copied_le
              obtain ⟨b₁, written, rewrites⟩ := (b.allocWords shape.words).2.writeWord_ok
                (show dst < b.words + shape.words by omega)
                (shape.pointerWord (shape.offset dst b.words))
              have words : b₁.words = b.words + shape.words := rewrites.words
              obtain ⟨b₂, copied, words', -⟩ := copyWords_ok (inRange_iff.2
                ⟨segment, known, by omega, by omega⟩ : inRange r.segments s' start shape.copied =
                  true)
                (show b.words + shape.copied ≤ b₁.words by omega)
              rw [if_pos fits, if_neg (not_not.2 fits), written, Fallible.ok_bind, copied,
                Fallible.ok_bind, copySlots_outcome arity
                  (fun i slot t known known' => ih (child i slot t known known')) budget
                  (fun slot mem => by have := Shape.slot_lt valid mem; omega), words', words]
            · rw [if_neg fits, if_pos fits]
              rfl

theorem chargeWork_eq_error {budget : AnyPointerCopyBudget} {amount : ℕ} {e : Thrown}
    (failed : budget.chargeWork amount = .error e) : e = workLimitExceeded := by
  unfold AnyPointerCopyBudget.chargeWork at failed
  simp only [Fallible.throw_eq_error, Fallible.error_bind, Fallible.pure_eq_ok] at failed
  split_ifs at failed
  exact (Except.error.inj failed).symm

theorem chargeOutput_eq_error {budget : AnyPointerCopyBudget} {amount : ℕ} {e : Thrown}
    (failed : budget.chargeOutput amount = .error e) : e = outputLimitExceeded := by
  unfold AnyPointerCopyBudget.chargeOutput at failed
  simp only [Fallible.throw_eq_error, Fallible.error_bind, Fallible.pure_eq_ok] at failed
  split_ifs at failed
  exact (Except.error.inj failed).symm

/-- A copy with levels enough for its tree can only run out of budget or of offset range. -/
theorem copyOutcome_error {levels words dst : ℕ} {t : ObjectTree} {budget : AnyPointerCopyBudget}
    {e : Thrown} (shallow : t.depth < levels)
    (failed : copyOutcome levels t words dst budget = .error e) :
    e = workLimitExceeded ∨ e = outputLimitExceeded ∨
      ∃ offset, ¬ OffsetFits offset ∧ e = signed30RangeError offset := by
  induction levels generalizing t words dst budget with
  | zero => exact absurd shallow (Nat.not_lt_zero _)
  | succ levels ih =>
    rw [copyOutcome, Fallible.bind_eq_error] at failed
    obtain failed | ⟨budget₁, -, failed⟩ := failed
    · exact .inl (chargeWork_eq_error failed)
    cases t with
    | null => cases failed
    | capability word => cases failed
    | object shape content children =>
      simp only [Fallible.bind_eq_error] at failed
      obtain failed | ⟨budget₂, -, failed | ⟨budget₃, -, failed⟩⟩ := failed
      · exact .inl (chargeWork_eq_error failed)
      · exact .inr (.inl (chargeOutput_eq_error failed))
      · simp only [Fallible.throw_eq_error, Fallible.error_bind] at failed
        split_ifs at failed with near
        · -- some slot has failed
          obtain ⟨state, child, mem, failed⟩ := Fallible.foldlM_eq_error failed
          refine ih ?_ failed
          have deepest := depths_le.1 (le_refl (depths children)) child.2
            (List.of_mem_zip mem).2
          have : 1 + depths children < levels + 1 := shallow
          omega
        · exact .inr (.inr ⟨_, near, (Except.error.inj failed).symm⟩)

/-- The ways in which the copy of a well-formed tree within the depth limit can fail: none of them
is about the message that is read. -/
inductive CopyLimited (options : AnyPointerCopyOptions) : Thrown → Prop
  | options {e : Thrown} (rejected : AnyPointerCopyBudget.new options = .error e) :
    CopyLimited options e
  | work : CopyLimited options workLimitExceeded
  | output : CopyLimited options outputLimitExceeded
  | offset {offset : ℤ} (far : ¬ OffsetFits offset) :
    CopyLimited options (signed30RangeError offset)
  | allocation (length : ℕ) : CopyLimited options (invalidTypedArrayLength length)

theorem copyLimited_of_shallow {r : MessageReader} {s p depth : ℕ} {t : ObjectTree}
    {options : AnyPointerCopyOptions} {e : Thrown} (reads : r.Reads s p t)
    (limit : copyLimit options.maxDepth 64 "maxDepth" = .ok depth) (shallow : t.depth ≤ depth)
    (failed : decodeAnyPointerMessageFromReader r s p options = .error e) :
    CopyLimited options e := by
  obtain failed | ⟨budget, granted, failed⟩ := Fallible.bind_eq_error.1 failed
  · exact .options failed
  obtain ⟨-, -, depth', -, -, limit', -, -, levels⟩ := budget_new_eq_ok granted
  cases limit.symm.trans limit'
  have cost := deepCopy_outcome reads (budget.maxDepth + 1) .new 0 budget (by decide)
  obtain failed | ⟨⟨b, left⟩, copied, failed⟩ := Fallible.bind_eq_error.1 failed
  · rw [failed] at cost
    obtain rfl | rfl | ⟨offset, far, rfl⟩ := copyOutcome_error (by omega) cost.symm
    · exact .work
    · exact .output
    · exact .offset far
  · unfold MessageBuilder.toMessageBytes at failed
    simp only [Fallible.throw_eq_error, Fallible.error_bind, Fallible.pure_eq_ok] at failed
    split_ifs at failed
    cases failed
    exact .allocation _

end CapnpDeno
