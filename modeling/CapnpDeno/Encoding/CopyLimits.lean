import CapnpDeno.Encoding.AnyPointerCopyProof

/-!
# What the limits of a copy decide

A copy either fails or returns a message within the output limit.  The limits do not show in that
message: larger ones give the same bytes (`copyOutcome_mono`), and so does every slot that shows the
same tree (`deepCopy_congr`), such as the root of the copy itself.
-/

namespace CapnpDeno

open ByteList

/-! ## Limits -/

/-- The limits of a copy, defaults filled in. -/
structure CopyLimits where
  work : ℕ
  outputWords : ℕ
  depth : ℕ
deriving DecidableEq

/-- The limits that `new AnyPointerCopyBudget(options)` settles on. -/
def AnyPointerCopyOptions.limits (options : AnyPointerCopyOptions) : Except Thrown CopyLimits := do
  let work ← copyLimit options.maxWork (8 * 1024 * 1024) "maxWork"
  let outputWords ← copyLimit options.maxOutputWords (8 * 1024 * 1024) "maxOutputWords"
  let maxDepth ← copyLimit options.maxDepth 64 "maxDepth"
  return ⟨work, outputWords, maxDepth⟩

/-- Component by component. -/
structure CopyLimits.Le (l l' : CopyLimits) : Prop where
  work : l.work ≤ l'.work
  outputWords : l.outputWords ≤ l'.outputWords
  depth : l.depth ≤ l'.depth

theorem CopyLimits.Le.refl (l : CopyLimits) : l.Le l := ⟨le_rfl, le_rfl, le_rfl⟩

/-- What is left of a budget, component by component. -/
structure AnyPointerCopyBudget.Le (budget budget' : AnyPointerCopyBudget) : Prop where
  work : budget.work ≤ budget'.work
  outputWords : budget.outputWords ≤ budget'.outputWords

theorem budget_new_eq_limits (options : AnyPointerCopyOptions) :
    AnyPointerCopyBudget.new options = (do
      let limits ← options.limits
      (⟨limits.work, limits.outputWords, limits.depth⟩ : AnyPointerCopyBudget).chargeOutput 1) := by
  simp only [AnyPointerCopyBudget.new, AnyPointerCopyOptions.limits, bind_assoc, pure_bind]

/-- Every message owns its root slot. -/
theorem budget_new_eq_ok_iff {options : AnyPointerCopyOptions} {limits : CopyLimits}
    {budget : AnyPointerCopyBudget} (known : options.limits = .ok limits) :
    AnyPointerCopyBudget.new options = .ok budget ↔
      1 ≤ limits.outputWords ∧ budget = ⟨limits.work, limits.outputWords - 1, limits.depth⟩ := by
  rw [budget_new_eq_limits, known, Fallible.ok_bind]
  unfold AnyPointerCopyBudget.chargeOutput
  simp only [Fallible.throw_eq_error, Fallible.error_bind, Fallible.pure_eq_ok]
  by_cases empty : 1 > limits.outputWords
  · rw [if_pos empty]
    exact ⟨nofun, fun room => absurd room.1 (by omega)⟩
  · rw [if_neg empty, Except.ok.injEq]
    exact ⟨fun same => ⟨by omega, same.symm⟩, fun same => same.2.symm⟩

/-! ## Larger limits -/

theorem chargeWork_mono {budget budget' left : AnyPointerCopyBudget} {amount : ℕ}
    (larger : budget.Le budget') (charged : budget.chargeWork amount = .ok left) :
    ∃ left', budget'.chargeWork amount = .ok left' ∧ left.Le left' := by
  have work := larger.work
  unfold AnyPointerCopyBudget.chargeWork at charged ⊢
  simp only [Fallible.throw_eq_error, Fallible.error_bind, Fallible.pure_eq_ok] at charged ⊢
  split_ifs at charged with dear
  cases charged
  refine ⟨_, if_neg (by omega), ?_, larger.outputWords⟩
  show budget.work - amount ≤ budget'.work - amount
  omega

theorem chargeOutput_mono {budget budget' left : AnyPointerCopyBudget} {amount : ℕ}
    (larger : budget.Le budget') (charged : budget.chargeOutput amount = .ok left) :
    ∃ left', budget'.chargeOutput amount = .ok left' ∧ left.Le left' := by
  have outputWords := larger.outputWords
  unfold AnyPointerCopyBudget.chargeOutput at charged ⊢
  simp only [Fallible.throw_eq_error, Fallible.error_bind, Fallible.pure_eq_ok] at charged ⊢
  split_ifs at charged with dear
  cases charged
  refine ⟨_, if_neg (by omega), larger.work, ?_⟩
  show budget.outputWords - amount ≤ budget'.outputWords - amount
  omega

/-- A loop over slots whose steps succeed with more levels and a larger budget. -/
theorem copyChildren_mono {levels levels' base : ℕ} {slots : List (ℕ × ObjectTree)}
    (ih : ∀ {t words dst budget budget' words' left}, budget.Le budget' →
      copyOutcome levels t words dst budget = .ok (words', left) →
      ∃ left', copyOutcome levels' t words dst budget' = .ok (words', left') ∧ left.Le left') :
    ∀ {words words' : ℕ} {budget budget' left : AnyPointerCopyBudget}, budget.Le budget' →
      slots.foldlM (fun state child =>
        copyOutcome levels child.2 state.1 (base + child.1) state.2) (words, budget) =
          .ok (words', left) →
      ∃ left', slots.foldlM (fun state child =>
        copyOutcome levels' child.2 state.1 (base + child.1) state.2) (words, budget') =
          .ok (words', left') ∧ left.Le left' := by
  induction slots with
  | nil =>
    intro words words' budget budget' left larger done
    cases done
    exact ⟨budget', rfl, larger⟩
  | cons child slots next =>
    intro words words' budget budget' left larger done
    rw [List.foldlM_cons, Fallible.bind_eq_ok] at done
    obtain ⟨⟨words₁, left₁⟩, first, others⟩ := done
    obtain ⟨left₁', first', larger₁⟩ := ih larger first
    obtain ⟨left', others', larger'⟩ := next larger₁ others
    refine ⟨left', ?_, larger'⟩
    rw [List.foldlM_cons, first', Fallible.ok_bind]
    exact others'

/-- More levels and a larger budget do not change what a copy that succeeds allocates. -/
theorem copyOutcome_mono {levels : ℕ} : ∀ {levels' : ℕ} {t : ObjectTree} {words dst : ℕ}
    {budget budget' : AnyPointerCopyBudget} {words' : ℕ} {left : AnyPointerCopyBudget},
    levels ≤ levels' → budget.Le budget' →
    copyOutcome levels t words dst budget = .ok (words', left) →
    ∃ left', copyOutcome levels' t words dst budget' = .ok (words', left') ∧ left.Le left' := by
  induction levels with
  | zero => intro levels' t words dst budget budget' words' left deeper larger done; cases done
  | succ levels ih =>
    intro levels' t words dst budget budget' words' left deeper larger done
    obtain ⟨levels', rfl⟩ : ∃ n, levels' = n + 1 := ⟨levels' - 1, by omega⟩
    rw [copyOutcome, Fallible.bind_eq_ok] at done
    obtain ⟨budget₁, charged, done⟩ := done
    obtain ⟨budget₁', charged', larger₁⟩ := chargeWork_mono larger charged
    rw [copyOutcome, charged', Fallible.ok_bind]
    cases t with
    | null => cases done; exact ⟨_, rfl, larger₁⟩
    | capability word => cases done; exact ⟨_, rfl, larger₁⟩
    | object shape content children =>
      simp only [Fallible.bind_eq_ok] at done
      obtain ⟨budget₂, charged₂, budget₃, charged₃, done⟩ := done
      obtain ⟨budget₂', charged₂', larger₂⟩ := chargeWork_mono larger₁ charged₂
      obtain ⟨budget₃', charged₃', larger₃⟩ := chargeOutput_mono larger₂ charged₃
      simp only [charged₂', charged₃', Fallible.ok_bind, Fallible.throw_eq_error,
        Fallible.error_bind] at done ⊢
      split_ifs at done ⊢ with far
      exact copyChildren_mono (fun larger => ih (Nat.le_of_succ_le_succ deeper) larger) larger₃ done

/-! ## Slots that show the same tree -/

/-- The object that a slot shows. -/
theorem MessageReader.Reads.object_target {r : MessageReader} {s p : ℕ} {shape : Shape}
    {content : Bytes} {children : List ObjectTree}
    (reads : r.Reads s p (.object shape content children)) :
    ∃ segmentId start, r.locate s p = .ok (.object shape segmentId start) ∧
      shape.slots.length = children.length ∧
      content = blank shape.slots (r.block shape segmentId start) ∧
      ∀ (i slot : ℕ) (t : ObjectTree), shape.slots[i]? = some slot → children[i]? = some t →
        r.Reads segmentId (start + slot) t := by
  cases reads with
  | object target arity child => exact ⟨_, _, target, arity, rfl, child⟩

/-- Two copies have left the same words in the slot `dst` and from `base` on. -/
structure SameCopy (b c : MessageBuilder) (base dst : ℕ) : Prop where
  words : b.words = c.words
  bytes : ∀ i, i / 8 = dst ∨ 8 * base ≤ i → b.bytes[i]? = c.bytes[i]?

/-- The same word at an index. -/
theorem getElem?_of_readLE_eq {m m' : Bytes} {p i : ℕ} (fits : 8 * p + 8 ≤ m.length)
    (fits' : 8 * p + 8 ≤ m'.length) (same : readLE m (8 * p) 8 = readLE m' (8 * p) 8)
    (place : i / 8 = p) : m[i]? = m'[i]? := by
  have slices : slice m (8 * p) 8 = slice m' (8 * p) 8 := by
    rw [← toLE_readLE fits, ← toLE_readLE fits', same]
  exact agree_of_slice_eq slices i (by omega) (by omega)

/-- A slot that holds one word in both messages. -/
theorem SameCopy.of_word {b c b' c' : MessageBuilder} {dst word : ℕ} (size : b.words = c.words)
    (inside : dst < b.words) (written : b.writeWord dst word = .ok b')
    (written' : c.writeWord dst word = .ok c') : SameCopy b' c' b.words dst := by
  have rewrites := MessageBuilder.writeWord_eq_ok.1 written
  have rewrites' := MessageBuilder.writeWord_eq_ok.1 written'
  have words := rewrites.words
  have words' := rewrites'.words
  refine ⟨by omega, fun i place => ?_⟩
  obtain place | high := place
  · exact getElem?_of_readLE_eq (by rw [b'.size]; omega) (by rw [c'.size]; omega)
      (rewrites.read.trans rewrites'.read.symm) place
  · rw [List.getElem?_eq_none (by rw [b'.size]; omega),
      List.getElem?_eq_none (by rw [c'.size]; omega)]

section

variable {r r' : MessageReader} {levels levels' s s' start start' base : ℕ}

/-- The same block moved twice: its slots apart, the new words are the same. -/
theorem Moved.same {b b₂ c c₂ : MessageBuilder} {dst : ℕ} {shape : Shape}
    (moved : Moved r b b₂ dst s start shape) (moved' : Moved r' c c₂ dst s' start' shape)
    (size : b.words = c.words) (inside : dst < b.words)
    (content : blank shape.slots (r.block shape s start) =
      blank shape.slots (r'.block shape s' start')) {i : ℕ}
    (place : i / 8 = dst ∨ 8 * b.words ≤ i ∧ ∀ slot ∈ shape.slots, i / 8 ≠ b.words + slot) :
    b₂.bytes[i]? = c₂.bytes[i]? := by
  have words := moved.words
  have words' := moved'.words
  obtain place | ⟨high, plain⟩ := place
  · refine getElem?_of_readLE_eq (by rw [b₂.size]; omega) (by rw [c₂.size]; omega) ?_ place
    rw [moved.pointer, moved'.pointer, size]
  · by_cases late : 8 * b₂.words ≤ i
    · rw [List.getElem?_eq_none (by rw [b₂.size]; omega),
        List.getElem?_eq_none (by rw [c₂.size]; omega)]
    obtain ⟨k, rfl⟩ : ∃ k, i = 8 * b.words + k := ⟨i - 8 * b.words, by omega⟩
    have outside : k / 8 ∉ shape.slots := fun mem => plain _ mem (by omega)
    have early : k / 8 < shape.copied := by
      by_contra uncopied
      exact outside (Shape.mem_slots_of_not_copied (by omega) (not_lt.1 uncopied))
    have few := shape.copied_le
    have same := getElem?_of_blank_eq content outside
    rw [MessageReader.block, MessageReader.block, getElem?_slice, getElem?_slice,
      if_pos (by omega), if_pos (by omega)] at same
    rw [moved.block k (by omega), same, size, moved'.block k (by omega)]

/-- Two loops over the slots of an object that copy the same trees. -/
theorem copySlots_congr
    (ih : ∀ {p p' b b' c c' dst budget budget' left left'} {t : ObjectTree}, r.Reads s p t →
      r'.Reads s' p' t → b.words = c.words → dst < b.words →
      deepCopyAnyPointer r levels s p b dst budget = .ok (b', left) →
      deepCopyAnyPointer r' levels' s' p' c dst budget' = .ok (c', left') →
      SameCopy b' c' b.words dst) :
    ∀ {slots : List ℕ} {children : List ObjectTree}, slots.length = children.length →
      slots.Pairwise (· < ·) →
      (∀ (i slot : ℕ) (t : ObjectTree), slots[i]? = some slot → children[i]? = some t →
        r.Reads s (start + slot) t ∧ r'.Reads s' (start' + slot) t) →
      ∀ {b b' c c' : MessageBuilder} {budget budget' left left' : AnyPointerCopyBudget},
        b.words = c.words → (∀ slot ∈ slots, base + slot < b.words) →
        slots.foldlM (fun state slot =>
          deepCopyAnyPointer r levels s (start + slot) state.1 (base + slot) state.2) (b, budget) =
          .ok (b', left) →
        slots.foldlM (fun state slot =>
          deepCopyAnyPointer r' levels' s' (start' + slot) state.1 (base + slot) state.2)
          (c, budget') = .ok (c', left') →
        b'.words = c'.words ∧
          ∀ i, (∃ slot ∈ slots, i / 8 = base + slot) ∨ 8 * b.words ≤ i →
            b'.bytes[i]? = c'.bytes[i]? := by
  intro slots
  induction slots with
  | nil =>
    intro children arity sorted each b b' c c' budget budget' left left' size inside done done'
    cases done
    cases done'
    refine ⟨size, fun i place => ?_⟩
    obtain ⟨slot, mem, -⟩ | high := place
    · cases mem
    · rw [List.getElem?_eq_none (by rw [b.size]; omega),
        List.getElem?_eq_none (by rw [c.size]; omega)]
  | cons slot slots next =>
    intro children arity sorted each b b' c c' budget budget' left left' size inside done done'
    obtain ⟨t, children, rfl⟩ : ∃ t ts, children = t :: ts := by
      cases children with
      | nil => cases arity
      | cons t ts => exact ⟨t, ts, rfl⟩
    rw [List.foldlM_cons, Fallible.bind_eq_ok] at done done'
    obtain ⟨⟨b₁, left₁⟩, first, others⟩ := done
    obtain ⟨⟨c₁, left₁'⟩, first', others'⟩ := done'
    obtain ⟨later, sorted⟩ := List.pairwise_cons.1 sorted
    obtain ⟨reads, reads'⟩ := each 0 slot t rfl rfl
    have here := inside slot List.mem_cons_self
    have same := ih reads reads' size here first first'
    obtain ⟨_, _, copied, _⟩ := deepCopy_spec first here
    have grows := copied.grows
    have inside' : ∀ slot' ∈ slots, base + slot' < b₁.words := fun slot' mem =>
      (inside slot' (List.mem_cons_of_mem slot mem)).trans_le grows
    have arity' := Nat.succ.inj arity
    obtain ⟨size', rest⟩ :=
      next arity' sorted (fun i => each (i + 1)) same.words inside' others others'
    -- what the first copy has left behind is not touched again
    obtain ⟨-, -, -, -, kept, -⟩ :=
      copySlots_spec (fun done inside => deepCopy_spec done inside) sorted inside' others
    obtain ⟨-, -, -, -, kept', -⟩ := copySlots_spec (fun done inside => deepCopy_spec done inside)
      sorted (fun slot' mem => same.words ▸ inside' slot' mem) others'
    refine ⟨size', fun i place => ?_⟩
    by_cases touched : (∃ slot' ∈ slots, i / 8 = base + slot') ∨ 8 * b₁.words ≤ i
    · exact rest i touched
    · have early : i < 8 * b₁.words := by
        by_contra late
        exact touched (.inr (not_lt.1 late))
      have apart : ∀ slot' ∈ slots, i / 8 ≠ base + slot' := fun slot' mem at_slot =>
        touched (.inl ⟨slot', mem, at_slot⟩)
      have words := same.words
      rw [kept i early apart, kept' i (by omega) apart]
      refine same.bytes i ?_
      obtain ⟨slot', mem, at_slot⟩ | high := place
      · obtain rfl | mem := List.mem_cons.1 mem
        · exact .inl at_slot
        · exact absurd at_slot (apart slot' mem)
      · exact .inr high

end

/-- **What a copy writes depends on the tree alone**: not on where it was read, nor on the
limits. -/
theorem deepCopy_congr {r r' : MessageReader} {levels : ℕ} : ∀ {levels' s s' p p' : ℕ}
    {b b' c c' : MessageBuilder} {dst : ℕ} {budget budget' left left' : AnyPointerCopyBudget}
    {t : ObjectTree}, r.Reads s p t → r'.Reads s' p' t → b.words = c.words → dst < b.words →
    deepCopyAnyPointer r levels s p b dst budget = .ok (b', left) →
    deepCopyAnyPointer r' levels' s' p' c dst budget' = .ok (c', left') →
    SameCopy b' c' b.words dst := by
  induction levels with
  | zero =>
    intro levels' s s' p p' b b' c c' dst budget budget' left left' t reads reads' size inside
      done done'
    cases done
  | succ levels ih =>
    intro levels' s s' p p' b b' c c' dst budget budget' left left' t reads reads' size inside
      done done'
    cases levels' with
    | zero => cases done'
    | succ levels' =>
      rw [deepCopy_succ] at done done'
      obtain ⟨budget₁, -, done⟩ := Fallible.bind_eq_ok.1 done
      obtain ⟨budget₁', -, done'⟩ := Fallible.bind_eq_ok.1 done'
      cases reads with
      | null target =>
        cases reads' with
        | null target' =>
          rw [target, Fallible.ok_bind] at done
          rw [target', Fallible.ok_bind] at done'
          obtain ⟨b₁, written, done⟩ := Fallible.bind_eq_ok.1 done
          obtain ⟨c₁, written', done'⟩ := Fallible.bind_eq_ok.1 done'
          cases done
          cases done'
          exact .of_word size inside written written'
      | capability target =>
        cases reads' with
        | capability target' =>
          rw [target, Fallible.ok_bind] at done
          rw [target', Fallible.ok_bind] at done'
          obtain ⟨b₁, written, done⟩ := Fallible.bind_eq_ok.1 done
          obtain ⟨c₁, written', done'⟩ := Fallible.bind_eq_ok.1 done'
          cases done
          cases done'
          exact .of_word size inside written written'
      | @object _ _ shape segmentId start children target arity child =>
        obtain ⟨segmentId', start', target', -, content, child'⟩ := reads'.object_target
        obtain ⟨valid, source, -⟩ := MessageReader.locate_object target
        obtain ⟨-, source', -⟩ := MessageReader.locate_object target'
        rw [target, Fallible.ok_bind] at done
        rw [target', Fallible.ok_bind] at done'
        obtain ⟨budget₂, -, done⟩ := Fallible.bind_eq_ok.1 done
        obtain ⟨budget₃, -, done⟩ := Fallible.bind_eq_ok.1 done
        obtain ⟨b₁, pointed, done⟩ := Fallible.bind_eq_ok.1 done
        obtain ⟨b₂, copied, done⟩ := Fallible.bind_eq_ok.1 done
        obtain ⟨budget₂', -, done'⟩ := Fallible.bind_eq_ok.1 done'
        obtain ⟨budget₃', -, done'⟩ := Fallible.bind_eq_ok.1 done'
        obtain ⟨c₁, pointed', done'⟩ := Fallible.bind_eq_ok.1 done'
        obtain ⟨c₂, copied', done'⟩ := Fallible.bind_eq_ok.1 done'
        obtain ⟨-, moved⟩ := moveBlock_spec valid inside source pointed copied
        obtain ⟨-, moved'⟩ := moveBlock_spec valid (size ▸ inside) source' pointed' copied'
        have words := moved.words
        have words' := moved'.words
        have room : ∀ slot ∈ shape.slots, b.words + slot < b₂.words := fun slot mem => by
          have := Shape.slot_lt valid mem
          omega
        have same := copySlots_congr ih arity shape.slots_sorted
          (fun i slot t known known' => ⟨child i slot t known known', child' i slot t known known'⟩)
          (by omega : b₂.words = c₂.words) room done (size ▸ done')
        obtain ⟨-, -, -, -, kept, -⟩ :=
          copySlots_spec (fun done inside => deepCopy_spec done inside)
          shape.slots_sorted room done
        obtain ⟨-, -, -, -, kept', -⟩ :=
          copySlots_spec (fun done inside => deepCopy_spec done inside)
          shape.slots_sorted (fun slot mem => by have := room slot mem; omega) done'
        refine ⟨same.1, fun i place => ?_⟩
        by_cases touched : (∃ slot ∈ shape.slots, i / 8 = b.words + slot) ∨ 8 * b₂.words ≤ i
        · exact same.2 i touched
        · have apart : ∀ slot ∈ shape.slots, i / 8 ≠ b.words + slot := fun slot mem at_slot =>
            touched (.inl ⟨slot, mem, at_slot⟩)
          have early : i < 8 * b₂.words := by
            by_contra late
            exact touched (.inr (not_lt.1 late))
          rw [kept i early apart, kept' i (by omega) (size ▸ apart)]
          exact moved.same moved' size inside content (place.imp_right fun high => ⟨high, apart⟩)

/-! ## Copied messages -/

/-- The copy of a slot of a framed message. -/
def copyFromMessage (message : Bytes) (segmentId pointerWord : ℕ)
    (options : AnyPointerCopyOptions) :
    Except Thrown Bytes := do
  let r ← MessageReader.ofBytes message
  decodeAnyPointerMessageFromReader r segmentId pointerWord options

/-- A copied message holds no more words than its budget allows. -/
theorem copy_within_limit {r : MessageReader} {s p : ℕ} {options : AnyPointerCopyOptions}
    {copy : Bytes} (done : decodeAnyPointerMessageFromReader r s p options = .ok copy) :
    ∃ limits segment, options.limits = .ok limits ∧ MessageReader.ofBytes copy = .ok ⟨[segment]⟩ ∧
      segment.length ≤ 8 * limits.outputWords := by
  obtain ⟨budget, granted, done⟩ := Fallible.bind_eq_ok.1 done
  obtain ⟨⟨b, left⟩, copied, done⟩ := Fallible.bind_eq_ok.1 done
  obtain ⟨_, _, _, spent⟩ := deepCopy_spec copied (show 0 < MessageBuilder.new.words by decide)
  obtain ⟨short, rfl⟩ := MessageBuilder.toMessageBytes_eq_ok.1 done
  obtain ⟨limits, known, -⟩ := Fallible.bind_eq_ok.1 (budget_new_eq_limits options ▸ granted)
  obtain ⟨room, rfl⟩ := (budget_new_eq_ok_iff known).1 granted
  refine ⟨limits, b.bytes, known, ofBytes_single b.size (MessageBuilder.words_lt_of_fits short), ?_⟩
  have root : MessageBuilder.new.words = 1 := rfl
  replace spent : left.outputWords + b.words = limits.outputWords - 1 + MessageBuilder.new.words :=
    spent
  rw [b.size]
  omega

/-- Slots that show the same tree are copied to the same bytes, also with larger limits. -/
theorem copy_same {r r' : MessageReader} {s p s' p' : ℕ} {t : ObjectTree}
    {options options' : AnyPointerCopyOptions} {limits limits' : CopyLimits} {copy : Bytes}
    (reads : r.Reads s p t) (reads' : r'.Reads s' p' t) (known : options.limits = .ok limits)
    (known' : options'.limits = .ok limits') (larger : limits.Le limits')
    (done : decodeAnyPointerMessageFromReader r s p options = .ok copy) :
    decodeAnyPointerMessageFromReader r' s' p' options' = .ok copy := by
  obtain ⟨budget, granted, done⟩ := Fallible.bind_eq_ok.1 done
  obtain ⟨⟨b, left⟩, copied, finished⟩ := Fallible.bind_eq_ok.1 done
  obtain ⟨room, rfl⟩ := (budget_new_eq_ok_iff known).1 granted
  obtain ⟨work, output, depth⟩ := larger
  have granted' := (budget_new_eq_ok_iff known').2 ⟨room.trans output, rfl⟩
  have cost := deepCopy_outcome reads (limits.depth + 1) .new 0
    ⟨limits.work, limits.outputWords - 1, limits.depth⟩ (by decide)
  rw [copied] at cost
  obtain ⟨left', done', -⟩ := copyOutcome_mono (Nat.succ_le_succ depth)
    (⟨work, Nat.sub_le_sub_right output 1⟩ : AnyPointerCopyBudget.Le _
      ⟨limits'.work, limits'.outputWords - 1, limits'.depth⟩) cost.symm
  have cost' := deepCopy_outcome reads' (limits'.depth + 1) .new 0
    ⟨limits'.work, limits'.outputWords - 1, limits'.depth⟩ (by decide)
  rw [done'] at cost'
  unfold decodeAnyPointerMessageFromReader
  rw [granted', Fallible.ok_bind]
  cases copied' : deepCopyAnyPointer r' (limits'.depth + 1) s' p' .new 0
      ⟨limits'.work, limits'.outputWords - 1, limits'.depth⟩ with
  | error e =>
    rw [copied'] at cost'
    cases cost'
  | ok state =>
    obtain ⟨c, left''⟩ := state
    have same := deepCopy_congr reads reads' rfl (by decide) copied copied'
    obtain rfl : b = c := MessageBuilder.ext_bytes (List.ext_getElem? fun i => same.bytes i (by
      have root : MessageBuilder.new.words = 1 := rfl
      omega))
    exact finished

/-- **The bounded copy.**  Whatever message, slot and limits: the copy ends, with an error or with a
message within the output limit; a copy that succeeds is byte for byte the same with all limits that
are at least as large, and so is the copy of its own root. -/
theorem bounded_copy (message : Bytes) (segmentId pointerWord : ℕ)
    (options : AnyPointerCopyOptions) :
    ((∃ e, copyFromMessage message segmentId pointerWord options = .error e) ∨
      ∃ copy limits segment, copyFromMessage message segmentId pointerWord options = .ok copy ∧
        options.limits = .ok limits ∧ MessageReader.ofBytes copy = .ok ⟨[segment]⟩ ∧
        segment.length ≤ 8 * limits.outputWords) ∧
      ∀ (copy : Bytes) (limits limits' : CopyLimits) (options' : AnyPointerCopyOptions),
        copyFromMessage message segmentId pointerWord options = .ok copy →
        options.limits = .ok limits → options'.limits = .ok limits' → limits.Le limits' →
        copyFromMessage message segmentId pointerWord options' = .ok copy ∧
          copyFromMessage copy 0 0 options' = .ok copy := by
  refine ⟨?_, ?_⟩
  · cases done : copyFromMessage message segmentId pointerWord options with
    | error e => exact .inl ⟨e, rfl⟩
    | ok copy =>
      obtain ⟨r, -, copied⟩ := Fallible.bind_eq_ok.1 done
      obtain ⟨limits, segment, known, framed, short⟩ := copy_within_limit copied
      exact .inr ⟨copy, limits, segment, rfl, known, framed, short⟩
  · intro copy limits limits' options' done known known' larger
    obtain ⟨r, opened, copied⟩ := Fallible.bind_eq_ok.1 done
    obtain ⟨t, reads, ⟨r', opened', reads'⟩, -⟩ := copy_keeps_tree copied
    refine ⟨?_, ?_⟩
    · rw [copyFromMessage, opened, Fallible.ok_bind]
      exact copy_same reads reads known known' larger copied
    · rw [copyFromMessage, opened', Fallible.ok_bind]
      exact copy_same reads reads' known known' larger copied

/-- A struct that holds a pointer to a list of three bytes, the last of its words outside the
list. -/
def listSource : Bytes :=
  [0, 0, 0, 0, 4, 0, 0, 0] ++ [4, 0, 0, 0, 0, 0, 1, 0] ++ [9, 9, 9, 9, 9, 9, 9, 9] ++
    [1, 0, 0, 0, 26, 0, 0, 0] ++ [1, 2, 3, 0, 0, 0, 0, 7]

/-- The word between the struct and its pointer is gone; the padding of the list is kept. -/
def listCopy : Bytes :=
  [0, 0, 0, 0, 3, 0, 0, 0] ++ [0, 0, 0, 0, 0, 0, 1, 0] ++ [1, 0, 0, 0, 26, 0, 0, 0] ++
    [1, 2, 3, 0, 0, 0, 0, 7]

/-- Copied with just enough, the list comes out the same with the default limits. -/
theorem bounded_copy_list :
    copyFromMessage listSource 0 0 .default = .ok listCopy ∧
      copyFromMessage listCopy 0 0 .default = .ok listCopy := by
  have enough : AnyPointerCopyOptions.limits ⟨some (.ofNat 6), some (.ofNat 3), some (.ofNat 1)⟩ =
      .ok ⟨6, 3, 1⟩ := by decide +kernel
  have default : AnyPointerCopyOptions.default.limits =
      .ok ⟨8 * 1024 * 1024, 8 * 1024 * 1024, 64⟩ := by decide
  have copied : copyFromMessage listSource 0 0 ⟨some (.ofNat 6), some (.ofNat 3), some (.ofNat 1)⟩ =
      .ok listCopy := by decide +kernel
  exact (bounded_copy listSource 0 0 _).2 listCopy _ _ _ copied enough default
    ⟨by norm_num, by norm_num, by norm_num⟩

end CapnpDeno
