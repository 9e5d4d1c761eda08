import CapnpDeno.Encoding.Layout
import CapnpDeno.Encoding.RuntimeCodec

/-!
# Messages that show a tree

What the decoder's pointer functions find at a slot whose tree is known.  A tree says nothing about
segments and far pointers, but one difference remains: the tag of an empty struct behind a
double-far pointer is the word of a null pointer, and the decoder takes the one for the other.
-/

namespace CapnpDeno

open ByteList MessageReader

/-! ## Slots that show a tree -/

namespace MessageReader

/-- The tree behind a slot, where no empty struct lies behind a double-far pointer. -/
inductive Shows (r : MessageReader) : ℕ → ℕ → ObjectTree → Prop
  | null {segmentId pointerWord : ℕ} (target : r.locate segmentId pointerWord = .ok .null) :
      Shows r segmentId pointerWord .null
  | capability {segmentId pointerWord word : ℕ}
    (target : r.locate segmentId pointerWord = .ok (.capability word)) :
      Shows r segmentId pointerWord (.capability word)
  | object {segmentId pointerWord : ℕ} {shape : Shape} {s start : ℕ} {children : List ObjectTree}
      (target : r.locate segmentId pointerWord = .ok (.object shape s start))
      (plain : r.readResolvedPointerWord segmentId pointerWord ≠ .ok 0)
      (arity : shape.slots.length = children.length)
      (child : ∀ (i slot : ℕ) (t : ObjectTree), shape.slots[i]? = some slot →
        children[i]? = some t → Shows r s (start + slot) t) :
      Shows r segmentId pointerWord (.object shape (blank shape.slots (r.block shape s start))
        children)

variable {r : MessageReader} {segmentId pointerWord : ℕ} {t : ObjectTree}

theorem Shows.reads (h : r.Shows segmentId pointerWord t) : r.Reads segmentId pointerWord t := by
  induction h with
  | null target => exact .null target
  | capability target => exact .capability target
  | object target _ arity _ ih => exact .object target arity ih

/-- What `locate` has done. -/
inductive Leads (r : MessageReader) (segmentId pointerWord : ℕ) : Target → Prop
  | null {resolved : ResolvedPointer} (done : r.resolvePointer segmentId pointerWord = .ok resolved)
      (null : resolved.isNull) : Leads r segmentId pointerWord .null
  | capability {resolved : ResolvedPointer}
    (done : r.resolvePointer segmentId pointerWord = .ok resolved)
      (kind : resolved.word % 4 = 3) : Leads r segmentId pointerWord (.capability resolved.word)
  | struct {resolved : ResolvedPointer} {ref : StructRef}
      (done : r.resolvePointer segmentId pointerWord = .ok resolved) (present : ¬ resolved.isNull)
      (kind : resolved.word % 4 = 0) (read : r.readStructPointer segmentId pointerWord =
        .ok (some ref)) :
      Leads r segmentId pointerWord (.object (.struct ref.dataWordCount ref.pointerCount)
        ref.segmentId ref.startWord)
  | list {resolved : ResolvedPointer} {list : ListRef}
      (done : r.resolvePointer segmentId pointerWord = .ok resolved) (kind : resolved.word % 4 = 1)
      (read : r.readListPointer segmentId pointerWord = .ok (some list)) :
      Leads r segmentId pointerWord list.target

theorem leads_of_locate {target : Target} (found : r.locate segmentId pointerWord = .ok target) :
    r.Leads segmentId pointerWord target := by
  obtain ⟨resolved, done, found⟩ := Fallible.bind_eq_ok.1 found
  have done : r.resolvePointer segmentId pointerWord = .ok resolved := done
  by_cases null : resolved.isNull
  · rw [if_pos null] at found
    cases found
    exact .null done null
  rw [if_neg null, and_kind] at found
  have kinds : resolved.word % 4 < 4 := Nat.mod_lt _ (by decide)
  obtain kind | kind | kind | kind : resolved.word % 4 = 0 ∨ resolved.word % 4 = 1 ∨
      resolved.word % 4 = 2 ∨ resolved.word % 4 = 3 := by omega
  · simp only [kind] at found
    obtain ⟨ref, read, found⟩ := Fallible.bind_eq_ok.1 found
    cases ref with
    | none => exact absurd read (readStructPointer_ne_null done null kind)
    | some ref =>
      cases found
      exact .struct done null kind read
  · simp only [kind] at found
    obtain ⟨list, read, found⟩ := Fallible.bind_eq_ok.1 found
    obtain ⟨list, rfl, -⟩ := readListPointer_target done kind read
    cases found
    exact .list done kind read
  · simp only [kind] at found
    cases found
  · simp only [kind] at found
    cases found
    exact .capability done kind

theorem readStructPointer_null {resolved : ResolvedPointer}
    (done : r.resolvePointer segmentId pointerWord = .ok resolved) (null : resolved.isNull) :
    r.readStructPointer segmentId pointerWord = .ok none := by
  unfold readStructPointer
  rw [done, Fallible.ok_bind, if_pos null]
  rfl

theorem readListPointer_null {resolved : ResolvedPointer}
    (done : r.resolvePointer segmentId pointerWord = .ok resolved) (null : resolved.isNull) :
    r.readListPointer segmentId pointerWord = .ok none := by
  unfold readListPointer
  rw [done, Fallible.ok_bind, if_pos null]
  rfl

/-- A pointer of another kind is no struct pointer. -/
theorem readStructPointer_other {resolved : ResolvedPointer}
    (done : r.resolvePointer segmentId pointerWord = .ok resolved) (kind : resolved.word % 4 ≠ 0) :
    (r.readStructPointer segmentId pointerWord).toOption = none := by
  unfold readStructPointer
  rw [done, Fallible.ok_bind, if_neg (fun null => kind (by rw [null.1])), and_kind, if_pos kind]
  rfl

theorem readListPointer_other {resolved : ResolvedPointer}
    (done : r.resolvePointer segmentId pointerWord = .ok resolved) (present : ¬ resolved.isNull)
    (kind : resolved.word % 4 ≠ 1) : (r.readListPointer segmentId pointerWord).toOption = none := by
  unfold readListPointer
  rw [done, Fallible.ok_bind, if_neg present, and_kind, if_pos kind]
  rfl

variable {target : Target} {shape : Shape} {s start : ℕ}

theorem readStructPointer_of_locate {dw pc : ℕ}
    (found : r.locate segmentId pointerWord = .ok (.object (.struct dw pc) s start)) :
    r.readStructPointer segmentId pointerWord = .ok (some ⟨s, start, dw, pc⟩) := by
  have leads := leads_of_locate found
  generalize same : Target.object (.struct dw pc) s start = target at leads
  cases leads with
  | null | capability => cases same
  | struct _ _ _ read =>
    cases same
    exact read
  | @list _ list =>
    cases list with
    | flat | inlineComposite => cases same

theorem readListPointer_of_locate (found : r.locate segmentId pointerWord =
      .ok (.object shape s start))
    (other : ∀ dw pc, shape ≠ .struct dw pc) :
    ∃ list, r.readListPointer segmentId pointerWord = .ok (some list) ∧
    list.target = .object shape s start := by
  have leads := leads_of_locate found
  generalize same : Target.object shape s start = target at leads
  cases leads with
  | null | capability => cases same
  | struct =>
    cases same
    exact absurd rfl (other _ _)
  | list _ _ read => exact ⟨_, read, rfl⟩

theorem readPointer_null (found : r.locate segmentId pointerWord = .ok .null) :
    r.readStructPointer segmentId pointerWord = .ok none ∧ r.readListPointer segmentId pointerWord =
      .ok none := by
  have leads := leads_of_locate found
  generalize same : Target.null = target at leads
  cases leads with
  | null done null => exact ⟨readStructPointer_null done null, readListPointer_null done null⟩
  | capability | struct => cases same
  | @list _ list =>
    cases list with
    | flat | inlineComposite => cases same

/-- What is neither null nor a struct is not read as one. -/
theorem readStructPointer_fails (found : r.locate segmentId pointerWord = .ok target)
    (present : target ≠ .null) (other : ∀ dw pc s start, target ≠ .object (.struct dw pc) s start) :
    (r.readStructPointer segmentId pointerWord).toOption = none := by
  cases leads_of_locate found with
  | null => exact absurd rfl present
  | capability done kind | list done kind => exact readStructPointer_other done (by omega)
  | struct => exact absurd rfl (other _ _ _ _)

theorem readListPointer_fails (found : r.locate segmentId pointerWord = .ok target)
    (present : target ≠ .null) (other : ∀ list : ListRef, target ≠ list.target) :
    (r.readListPointer segmentId pointerWord).toOption = none := by
  cases leads_of_locate found with
  | null => exact absurd rfl present
  | capability done kind =>
    exact readListPointer_other done (fun null => by rw [null.1] at kind; cases kind) (by omega)
  | struct done filled kind => exact readListPointer_other done filled (by omega)
  | list => exact absurd rfl (other _)

end MessageReader

/-! ## Structs without a segment -/

/-- A struct as the decoder of its fields sees it: its data section, and what its pointers lead
to. -/
structure StructView where
  data : Bytes
  pointers : List ObjectTree

namespace StructView

/-- The struct that a block consists of. -/
def whole (dataWordCount : ℕ) (content : Bytes) (children : List ObjectTree) : StructView :=
  ⟨slice content 0 (8 * dataWordCount), children⟩

/-- An element of a list of structs. -/
def element (dataWordCount pointerCount : ℕ) (content : Bytes) (children : List ObjectTree)
    (i : ℕ) : StructView :=
  ⟨slice content (8 * (1 + i * (dataWordCount + pointerCount))) (8 * dataWordCount),
    (children.drop (i * pointerCount)).take pointerCount⟩

end StructView

/-- A struct in a segment, as a view of it says. -/
structure ShowsStruct (r : MessageReader) (structRef : StructRef) (view : StructView) : Prop where
  inside : inRange r.segments structRef.segmentId structRef.startWord
    (structRef.dataWordCount + structRef.pointerCount) = true
  data : slice (r.segments[structRef.segmentId]?.getD []) (8 * structRef.startWord)
    (8 * structRef.dataWordCount) =
    view.data
  arity : view.pointers.length = structRef.pointerCount
  pointers : ∀ (i : ℕ) (t : ObjectTree), view.pointers[i]? = some t →
    r.Shows structRef.segmentId (structRef.startWord + structRef.dataWordCount + i) t

namespace ShowsStruct

variable {r : MessageReader} {structRef : StructRef} {view : StructView}

theorem length_data (h : ShowsStruct r structRef view) :
    view.data.length = 8 * structRef.dataWordCount := by
  obtain ⟨segment, known, -, high⟩ := inRange_iff.1 h.inside
  rw [← h.data, known, Option.getD_some, length_slice (by omega)]

end ShowsStruct

/-! ## Blocks -/

namespace MessageReader

variable {r : MessageReader} {segmentId pointerWord : ℕ}

/-- Outside the slots, the content of a block is that of the segment. -/
theorem slice_blank_block {shape : Shape} {s start off n : ℕ} (inside : off + n ≤ 8 * shape.words)
    (plain : ∀ i, off ≤ i → i < off + n → i / 8 ∉ shape.slots) :
    slice (blank shape.slots (r.block shape s start)) off n =
      slice (r.segments[s]?.getD []) (8 * start + off) n := by
  apply List.ext_getElem?
  intro i
  rw [getElem?_slice, getElem?_slice]
  split_ifs with low
  · have outside := plain (off + i) (by omega) (by omega)
    simp only [blank, List.getElem?_mapIdx, outside, if_false, Option.map_id']
    rw [block, getElem?_slice, if_pos (by omega), Nat.add_assoc]
  · rfl

/-- The pointers of the elements of a list of structs, one element after the other. -/
theorem composite_slot {n dw pc w i j : ℕ} (element : i < n) (low : j < pc) :
    (Shape.inlineComposite w n dw pc).slots[i * pc + j]? = some (1 + i * (dw + pc) + dw + j) := by
  have lengths : ∀ n, ((List.range n).flatMap fun i => (List.range pc).map fun j =>
      1 + i * (dw + pc) + dw + j).length = n * pc := by
    intro n
    simp
  show ((List.range n).flatMap fun i => (List.range pc).map fun j =>
    1 + i * (dw + pc) + dw + j)[_]? = _
  induction n with
  | zero => omega
  | succ n ih =>
    rw [List.range_succ, List.flatMap_append]
    by_cases before : i < n
    · have step : (i + 1) * pc ≤ n * pc := Nat.mul_le_mul_right pc before
      rw [Nat.add_mul] at step
      rw [List.getElem?_append_left (by rw [lengths]; omega)]
      exact ih before
    · obtain rfl : i = n := by omega
      rw [List.getElem?_append_right (by rw [lengths]; omega), lengths, Nat.add_sub_cancel_left]
      simp [low]

theorem composite_data {n dw pc w i a : ℕ} (low : a < dw) :
    1 + i * (dw + pc) + a ∉ (Shape.inlineComposite w n dw pc).slots := by
  intro slot
  obtain ⟨k, -, slot⟩ := List.mem_flatMap.1 slot
  obtain ⟨j, few, place⟩ := List.mem_map.1 slot
  rw [List.mem_range] at few
  obtain before | rfl | after := Nat.lt_trichotomy i k
  · have step : (i + 1) * (dw + pc) ≤ k * (dw + pc) := Nat.mul_le_mul_right _ before
    rw [Nat.add_mul] at step
    omega
  · omega
  · have step : (k + 1) * (dw + pc) ≤ i * (dw + pc) := Nat.mul_le_mul_right _ after
    rw [Nat.add_mul] at step
    omega

theorem length_composite_slots (w n dw pc : ℕ) :
    (Shape.inlineComposite w n dw pc).slots.length = n * pc := by
  show ((List.range n).flatMap fun i => (List.range pc).map fun j =>
    1 + i * (dw + pc) + dw + j).length = _
  simp

/-- The elements of a list lie in their segment. -/
theorem element_inRange {segments : List Bytes} {s start w n dw pc i : ℕ} (element : i < n)
    (room : (dw + pc) * n ≤ w) (inside : inRange segments s start (1 + w) = true) :
    inRange segments s (start + 1 + i * (dw + pc) : ℕ) (dw + pc) = true := by
  obtain ⟨segment, known, low, high⟩ := inRange_iff.1 inside
  have step : (dw + pc) * (i + 1) ≤ (dw + pc) * n := Nat.mul_le_mul_left _ element
  rw [Nat.mul_add, Nat.mul_one, Nat.mul_comm] at step
  refine inRange_iff.2 ⟨segment, known, by omega, ?_⟩
  omega

variable {s start : ℕ} {children : List ObjectTree}

theorem showsStruct_whole {dw pc : ℕ} (inside : inRange r.segments s start (dw + pc) = true)
    (arity : (Shape.struct dw pc).slots.length = children.length)
    (child : ∀ (i slot : ℕ) (t : ObjectTree), (Shape.struct dw pc).slots[i]? = some slot →
      children[i]? = some t → r.Shows s (start + slot) t) :
    ShowsStruct r ⟨s, start, dw, pc⟩
      (.whole dw (blank (Shape.struct dw pc).slots (r.block (.struct dw pc) s start)) children)
        where
  inside := inside
  data := by
    refine (@slice_blank_block r (.struct dw pc) s start 0 (8 * dw) ?_ fun i _ low slot => ?_).symm
    · show 0 + 8 * dw ≤ 8 * (dw + pc)
      omega
    · obtain ⟨j, -, place⟩ := List.mem_map.1 slot
      omega
  arity := by
    show children.length = pc
    rw [← arity]
    simp [Shape.slots]
  pointers i t known := by
    have low : i < pc := by
      have := (List.getElem?_eq_some_iff.1 known).1
      simp only [Shape.slots, List.length_map, List.length_range] at arity
      exact arity ▸ this
    rw [Nat.add_assoc]
    exact child i (dw + i) t (by simp [Shape.slots, low]) known

theorem showsStruct_element {w n dw pc i : ℕ} (element : i < n) (room : (dw + pc) * n ≤ w)
    (inside : inRange r.segments s start (1 + w) = true)
    (arity : (Shape.inlineComposite w n dw pc).slots.length = children.length)
    (child : ∀ (i slot : ℕ) (t : ObjectTree), (Shape.inlineComposite w n dw pc).slots[i]? =
      some slot →
      children[i]? = some t → r.Shows s (start + slot) t) :
    ShowsStruct r ⟨s, start + 1 + i * (dw + pc), dw, pc⟩ (.element dw pc
      (blank (Shape.inlineComposite w n dw pc).slots (r.block (.inlineComposite w n dw pc) s start))
        children i) := by
  have count := length_composite_slots w n dw pc
  have step : (i + 1) * pc ≤ n * pc := Nat.mul_le_mul_right pc element
  have within : (dw + pc) * (i + 1) ≤ (dw + pc) * n := Nat.mul_le_mul_left _ element
  rw [Nat.add_mul, Nat.one_mul] at step
  rw [Nat.mul_add, Nat.mul_one, Nat.mul_comm] at within
  refine ⟨element_inRange element room inside, ?_, ?_, fun j t known => ?_⟩
  · refine Eq.trans ?_ (slice_blank_block ?_ fun k low high slot => ?_).symm
    · congr 1
      ring
    · show _ ≤ 8 * (1 + w)
      omega
    · have place : k / 8 = 1 + i * (dw + pc) + (k / 8 - (1 + i * (dw + pc))) := by omega
      rw [place] at slot
      exact composite_data (by omega) slot
  · show ((children.drop (i * pc)).take pc).length = pc
    rw [List.length_take, List.length_drop]
    omega
  · have low : j < pc := by
      have := (List.getElem?_eq_some_iff.1 known).1
      exact this.trans_le (List.length_take_le _ _)
    have known : children[i * pc + j]? = some t := by
      rw [← known, StructView.element, List.getElem?_take_of_lt low, List.getElem?_drop]
    have shown := child _ _ t (composite_slot element low) known
    rwa [show start + (1 + i * (dw + pc) + dw + j) =
      start + 1 + i * (dw + pc) + dw + j by ring] at shown

end MessageReader

/-! ## Lists -/

section Lists

variable {r : MessageReader} {segmentId pointerWord : ℕ} {t : ObjectTree}

/-- What `readListPointer` finds at a slot that shows a tree. -/
inductive ShowsList (r : MessageReader) (segmentId pointerWord : ℕ) : ObjectTree → Prop
  | null (read : r.readListPointer segmentId pointerWord = .ok none) :
    ShowsList r segmentId pointerWord .null
  | capability {word : ℕ} (read : (r.readListPointer segmentId pointerWord).toOption = none) :
      ShowsList r segmentId pointerWord (.capability word)
  | struct {dw pc : ℕ} {content : Bytes} {children : List ObjectTree}
      (read : (r.readListPointer segmentId pointerWord).toOption = none) :
      ShowsList r segmentId pointerWord (.object (.struct dw pc) content children)
  | flat {s start es n : ℕ} {children : List ObjectTree}
      (read : r.readListPointer segmentId pointerWord = .ok (some (.flat s start es n)))
      (inside : inRange r.segments s start (flatWords es n) = true)
      (arity : (Shape.flat es n).slots.length = children.length)
      (child : ∀ (i slot : ℕ) (t : ObjectTree), (Shape.flat es n).slots[i]? = some slot →
        children[i]? = some t → r.Shows s (start + slot) t) :
      ShowsList r segmentId pointerWord
        (.object (.flat es n) (blank (Shape.flat es n).slots (r.block (.flat es n) s start))
          children)
  | inlineComposite {s start w n dw pc : ℕ} {children : List ObjectTree}
      (read : r.readListPointer segmentId pointerWord =
        .ok (some (.inlineComposite s start n dw pc w)))
      (room : (dw + pc) * n ≤ w) (inside : inRange r.segments s start (1 + w) = true)
      (arity : (Shape.inlineComposite w n dw pc).slots.length = children.length)
      (child : ∀ (i slot : ℕ) (t : ObjectTree), (Shape.inlineComposite w n dw pc).slots[i]? =
        some slot →
        children[i]? = some t → r.Shows s (start + slot) t) :
      ShowsList r segmentId pointerWord (.object (.inlineComposite w n dw pc)
        (blank (Shape.inlineComposite w n dw pc).slots
          (r.block (.inlineComposite w n dw pc) s start)) children)

theorem showsList (shows : r.Shows segmentId pointerWord t) :
    ShowsList r segmentId pointerWord t := by
  cases shows with
  | null target => exact .null (readPointer_null target).2
  | capability target =>
    exact .capability (readListPointer_fails target
      (by simp) (by intro list; cases list <;> simp [ListRef.target]))
  | @object _ _ shape s start children target _ arity child =>
    obtain ⟨valid, inside, -⟩ := locate_object target
    cases shape with
    | struct =>
      exact .struct (readListPointer_fails target
        (by simp) (by intro list; cases list <;> simp [ListRef.target]))
    | flat =>
      obtain ⟨list, read, same⟩ := readListPointer_of_locate target (by simp)
      cases list with
      | inlineComposite => cases same
      | flat =>
        cases same
        exact .flat read inside arity child
    | inlineComposite =>
      obtain ⟨list, read, same⟩ := readListPointer_of_locate target (by simp)
      cases list with
      | flat => cases same
      | inlineComposite =>
        cases same
        exact .inlineComposite read valid.2.2.2.2 inside arity child

/-- The word that a pointer resolves to tells null pointers, capabilities and objects apart. -/
theorem resolved_of_locate {target : Target} (found : r.locate segmentId pointerWord = .ok target) :
    ∃ resolved, r.resolvePointer segmentId pointerWord = .ok resolved ∧
      (target = .null ↔ resolved.isNull) ∧
      (∀ word, target = .capability word → resolved.word = word ∧ word % 4 = 3) ∧
      (∀ shape s start, target = .object shape s start → resolved.word % 4 < 2) := by
  cases leads_of_locate found with
  | null done null =>
    exact ⟨_, done, iff_of_true rfl null, by simp, by simp⟩
  | @capability resolved done kind =>
    have present : ¬ resolved.isNull := fun null => by
      rw [null.1] at kind
      cases kind
    refine ⟨_, done, iff_of_false (by simp) present, fun word same => ?_, by simp⟩
    cases same
    exact ⟨rfl, kind⟩
  | struct done present kind =>
    exact ⟨_, done, iff_of_false (by simp) present, by simp, fun _ _ _ _ => by omega⟩
  | @list resolved list done kind =>
    have present : ¬ resolved.isNull := fun null => by
      rw [null.1] at kind
      cases kind
    refine ⟨_, done, iff_of_false ?_ present, ?_, fun _ _ _ _ => by omega⟩
    · cases list <;> simp [ListRef.target]
    · cases list <;> simp [ListRef.target]

end Lists

/-! ## Messages -/

/-- A framed message whose root pointer shows a tree. -/
def MessageShows (message : Bytes) (t : ObjectTree) : Prop :=
  ∃ r, MessageReader.ofBytes message = .ok r ∧ r.Shows 0 0 t

/-- A layout has near pointers only. -/
theorem Laid.shows {m : Bytes} {lo hi pointerWord : ℕ} {t : ObjectTree}
    (h : Laid m lo hi pointerWord t) (below : pointerWord < hi) (inside : 8 * hi ≤ m.length) :
    (flatReader m).Shows 0 pointerWord t := by
  induction h with
  | null word =>
    cases (Laid.null word : Laid m lo hi _ _).reads below inside with
    | null target => exact .null target
  | capability read kind =>
    cases (Laid.capability read kind : Laid m lo hi _ _).reads below inside with
    | capability target => exact .capability target
  | @object pointerWord start shape children valid offset fits word target present low high tagged
      arity child ih =>
    have resolve := resolvePointer_near (show 8 * (pointerWord + 1) ≤ m.length by omega)
      (by rw [word]; exact pointerWord_near shape valid)
    rw [word] at resolve
    have located : (flatReader m).locate 0 pointerWord = .ok (.object shape 0 start) := by
      rw [← Fallible.toOption_eq_some, locate_toOption resolve, if_neg (fun null => present null.1),
        if_neg (fun bad => bad.1.1 rfl)]
      exact targetOf_pointerWord valid fits target (by omega) tagged
    refine .object located (fun zero => present ?_) arity fun i slot t known known' => ?_
    · unfold readResolvedPointerWord readResolvedPointer at zero
      rw [resolve] at zero
      exact Except.ok.inj zero
    · have := Shape.slot_lt valid (List.mem_of_getElem? known)
      exact ih i slot t known known' (by omega)

end CapnpDeno
