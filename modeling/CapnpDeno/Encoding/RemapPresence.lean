import CapnpDeno.Encoding.RemapTwins

/-!
# What remapping adds

Where a part of a value is absent, the remapped value is encoded with an empty struct or list, or
with the tag of a group, in its place: the messages show different trees (`remap_keeps_tree_iff`).
-/

namespace CapnpDeno

open ByteList

variable {ι : Type} {schema : Schema ι} {mapping : IndexMap}

/-! ## Trees that differ -/

namespace Sketch

theorem tree_object (s : Sketch) (shape : Shape) :
    ∃ content children, s.tree shape = .object shape content children := by
  unfold tree
  split_ifs
  · exact ⟨_, _, rfl⟩
  · exact ⟨_, _, rfl⟩

/-- Only similar objects have similar trees. -/
theorem similar_of_tree {s s' : Sketch} {shape : Shape} (valid : shape.Valid)
    (similar : (s.tree shape).Similar (s'.tree shape)) :
    (∀ i < 8 * shape.words, i / 8 ∉ shape.slots → s'.block.bytes[i]? = s.block.bytes[i]?) ∧
      ∀ w ∈ shape.slots, (s.slots w).Similar (s'.slots w) := by
  unfold tree at similar
  rw [if_pos valid, if_pos valid] at similar
  generalize content : blank shape.slots (slice s.block.bytes 0 (8 * shape.words)) =
    bytes at similar
  generalize content' : blank shape.slots (slice s'.block.bytes 0 (8 * shape.words)) =
    bytes' at similar
  cases similar with
  | object _ _ arity child =>
    constructor
    · intro i low plain
      have same := getElem?_of_blank_eq (content.trans content'.symm) plain
      rw [getElem?_slice, getElem?_slice, if_pos low, if_pos low, Nat.zero_add] at same
      exact same.symm
    · intro w mem
      obtain ⟨i, low, rfl⟩ := List.mem_iff_getElem.1 mem
      apply child i
      · rw [List.getElem?_map, List.getElem?_eq_getElem low]
        rfl
      · rw [List.getElem?_map, List.getElem?_eq_getElem low]
        rfl

/-- Of an object that can be read, so can the parts. -/
theorem sound_of_tree {s : Sketch} {shape : Shape} (sound : (s.tree shape).Sound) :
    shape.Valid ∧ ∀ w ∈ shape.slots, (s.slots w).Sound := by
  unfold tree at sound
  split_ifs at sound with valid
  · cases sound with
    | object _ child => exact ⟨valid, fun w mem => child _ (List.mem_map_of_mem mem)⟩
  · cases sound with
    | object other _ => exact absurd other valid

end Sketch

/-- Two drawings differ in a place of a field. -/
inductive DifferAt (schema : Schema ι) (get : ι) (structWord : ℕ) (field : FieldDescriptor ι)
    (s s' : Sketch) : Prop
  | tag {k : ℕ} (bit : TagBit schema field k)
      (other : s'.block.bytes[8 * structWord + k / 8]? ≠ s.block.bytes[8 * structWord + k / 8]?)
  | pointer {k : ℕ} (bit : Occupies schema get field k)
    (behind : 64 * (schema get).dataWordCount ≤ k)
      (other : ¬ (s.slots (structWord + k / 64)).Similar (s'.slots (structWord + k / 64)))

section Differing

variable {get : ι} {structWord : ℕ} {field : FieldDescriptor ι} {s s' s₁ s₁' : Sketch}
  {shape : Shape}

theorem DifferAt.kept (h : DifferAt schema get structWord field s s')
    (keeps : Keeps schema get structWord field s s₁)
    (keeps' : Keeps schema get structWord field s' s₁') :
    DifferAt schema get structWord field s₁ s₁' := by
  cases h with
  | tag bit other =>
    apply DifferAt.tag bit
    rwa [keeps.tags _ bit, keeps'.tags _ bit]
  | pointer bit behind other =>
    apply DifferAt.pointer bit behind
    rwa [keeps.slots _ bit behind, keeps'.slots _ bit behind]

theorem TagBit.lt (wf : schema.WellFormed) {k : ℕ} (h : TagBit schema field k)
    (mem : field ∈ (schema get).fields) :
    k < 64 * (schema get).dataWordCount := by
  induction h generalizing get with
  | @own name get' d k bit =>
    have := discriminantBits_lt wf bit
    rwa [(wf.groups get name get' d mem).1] at this
  | @member name get' d field k mem' bit ih =>
    have := ih mem'
    rwa [(wf.groups get name get' d mem).1] at this

variable (wf : schema.WellFormed) (inside : schema.DataInside)
include wf inside

/-- Objects that differ in a place of a field have different trees. -/
theorem DifferAt.not_similar (mem : field ∈ (schema get).fields) (valid : shape.Valid)
    (room : StructRoom (· ∈ shape.slots) shape.words (schema get) structWord)
    (h : DifferAt schema get structWord field s s') : ¬ (s.tree shape).Similar (s'.tree shape) := by
  intro similar
  obtain ⟨plain, slots⟩ := Sketch.similar_of_tree valid similar
  have fits := room.fits
  cases h with
  | @tag k bit other =>
    have low := bit.lt wf mem
    have free := room.data (k / 64) (by omega)
    apply other
    apply plain _ (by omega)
    rwa [show (8 * structWord + k / 8) / 8 = structWord + k / 64 by omega]
  | @pointer k bit behind other =>
    have low := occupies_lt wf inside bit mem
    have slot := room.pointers (k / 64 - (schema get).dataWordCount) (by omega)
    apply other
    apply slots
    rwa [show structWord + (schema get).dataWordCount + (k / 64 - (schema get).dataWordCount) =
      structWord + k / 64 by
      omega] at slot

theorem sound_places (mem : field ∈ (schema get).fields)
    (room : StructRoom (· ∈ shape.slots) shape.words (schema get) structWord)
    (sound : (s.tree shape).Sound) {k : ℕ} (bit : Occupies schema get field k)
    (behind : 64 * (schema get).dataWordCount ≤ k) :
    (s.slots (structWord + k / 64)).Sound := by
  have low := occupies_lt wf inside bit mem
  have slot := room.pointers (k / 64 - (schema get).dataWordCount) (by omega)
  apply (Sketch.sound_of_tree sound).2
  rwa [show structWord + (schema get).dataWordCount + (k / 64 - (schema get).dataWordCount) =
    structWord + k / 64 by
    omega] at slot

/-- The step of the loop that draws a field; the others keep its places. -/
theorem drawStruct_at {stack : ℕ} {value : Value} (mem : field ∈ (schema get).fields)
    (active : isInactive field (resolveActiveDiscriminant (schema get) (asRecord value)) = false)
    (done : drawStruct schema (stack + 1) s get structWord value = .ok s₁) :
    ∃ t t', Keeps schema get structWord field s t ∧ t.block.words = s.block.words ∧
      drawField schema (drawStruct schema stack)
      (schema get) structWord t field (getProp (asRecord value) field.name) =
        .ok t' ∧ Keeps schema get structWord field t' s₁ := by
  obtain ⟨block, tagged, done⟩ := Fallible.bind_eq_ok.1 done
  have tag := scalarWrite_encodeDiscriminant (schema get)
    (resolveActiveDiscriminant (schema get) (asRecord value))
  have once : (schema get).fields.Nodup := (wf.names get).of_map
  obtain ⟨before, after, split⟩ := List.append_of_mem mem
  rw [split, List.nodup_append, List.nodup_cons] at once
  have sub : before ++ field :: after ⊆ (schema get).fields := split ▸ List.Subset.refl _
  rw [List.append_subset, List.cons_subset] at sub
  rw [split, List.foldlM_append] at done
  obtain ⟨t, first, done⟩ := Fallible.bind_eq_ok.1 done
  rw [List.foldlM_cons, if_neg (Bool.eq_false_iff.1 active)] at done
  obtain ⟨t', here, rest⟩ := Fallible.bind_eq_ok.1 done
  refine ⟨t, t', ?_, ?_, here, ?_⟩
  · apply (keeps_encodeDiscriminant wf inside mem tagged).trans
    exact keeps_drawFields wf inside sub.1 mem
      (fun mem' => once.2.2 field mem' field List.mem_cons_self rfl) active first
  · have size : t.block.words = block.words := by
      apply Fallible.foldlM_keeps (fun t => t.block.words = block.words) rfl first
      intro u field _ u' size next
      split_ifs at next
      · cases next
        exact size
      · exact (redraws_drawField (fun _ _ _ _ _ => redraws_drawStruct) next).size.trans size
    rw [size, tag.words tagged]
  · exact keeps_drawFields wf inside sub.2.2 mem once.2.1.1 active rest

end Differing

/-! ## Fields that differ -/

/-- Whatever is drawn of a record and of what the walk makes of it differs in a place of a field. -/
def Differs (schema : Schema ι) (mapping : IndexMap) (get : ι) (record : Record) : Prop :=
  ∀ stack stack' n structWord value value' s s' s₁ s₁', asRecord value = record →
    remapCapabilityIndices schema mapping n get value = .ok value' →
      (∀ field ∈ (schema get).fields, Pristine schema get structWord field s) →
        (∀ w < (schema get).dataWordCount + (schema get).pointerCount, structWord + w <
          s.block.words) →
          (∀ field ∈ (schema get).fields, ∀ k, Occupies schema get field k →
            64 * (schema get).dataWordCount ≤ k →
            (s₁.slots (structWord + k / 64)).Sound) →
            drawStruct schema stack s get structWord value = .ok s₁ →
              drawStruct schema stack' s' get structWord value' = .ok s₁' →
                ∃ field ∈ (schema get).fields, DifferAt schema get structWord field s₁ s₁'

/-- What is drawn of an active field and of what the walk makes of it differs in its places. -/
def FieldDiffers (schema : Schema ι) (mapping : IndexMap) (get : ι) (field : FieldDescriptor ι)
    (value : Value) : Prop :=
  ∀ stack stack' n structWord value' s s' s₁ s₁',
    rewriteField (remapInterface mapping) (remapAnyPointer mapping)
    (remapCapabilityIndices schema mapping n) field
      value = .ok value' →
      Pristine schema get structWord field s →
        (∀ w < (schema get).dataWordCount + (schema get).pointerCount, structWord + w <
          s.block.words) →
          (∀ k, Occupies schema get field k → 64 * (schema get).dataWordCount ≤ k →
            (s₁.slots (structWord + k / 64)).Sound) →
            drawField schema (drawStruct schema stack)
            (schema get) structWord s field value = .ok s₁ →
              drawField schema (drawStruct schema stack')
              (schema get) structWord s' field (value'.getD value) =
                .ok s₁' → DifferAt schema get structWord field s₁ s₁'

section Converse

variable (wf : schema.WellFormed) (inside : schema.DataInside) {get : ι}
include wf

/-- What the walk makes of an active field. -/
theorem remap_field {n : ℕ} {value value' : Value} {field : FieldDescriptor ι}
    (mem : field ∈ (schema get).fields)
    (active : isInactive field (resolveActiveDiscriminant (schema get) (asRecord value)) = false)
    (done : remapCapabilityIndices schema mapping n get value = .ok value') :
    ∃ m x, rewriteField (remapInterface mapping) (remapAnyPointer mapping)
    (remapCapabilityIndices schema mapping m)
        field (getProp (asRecord value) field.name) = .ok x ∧
      getProp (asRecord value') field.name = x.getD (getProp (asRecord value) field.name) := by
  cases n with
  | zero => cases done
  | succ n =>
    obtain ⟨out, rfl⟩ := rewriteCapabilities_object done
    rw [← remapCapabilityIndices_asRecord] at done
    exact ⟨n, (rewriteCapabilities_field wf (remapInterface_present mapping)
      (remapAnyPointer_present mapping)
      (Q := fun v => ∃ x, rewriteField (remapInterface mapping) (remapAnyPointer mapping)
        (remapCapabilityIndices schema mapping n) field (getProp (asRecord value) field.name) =
        .ok x ∧
          v = x.getD (getProp (asRecord value) field.name)) mem active done fun x rewritten =>
            ⟨x, rewritten, rfl⟩).2⟩

include inside

theorem differs_of_field {record : Record} {field : FieldDescriptor ι}
    (mem : field ∈ (schema get).fields)
    (active : isInactive field (resolveActiveDiscriminant (schema get) record) = false)
    (differs : FieldDiffers schema mapping get field (getProp record field.name)) :
    Differs schema mapping get record := by
  intro stack stack' n structWord value value' s s' s₁ s₁' same remapped pristine room sound
    done done'
  subst same
  cases stack with
  | zero => cases done
  | succ stack =>
    cases stack' with
    | zero => cases done'
    | succ stack' =>
      have active' := active
      rw [← resolveActiveDiscriminant_remap wf remapped] at active'
      obtain ⟨t, t₁, before, size, step, after⟩ := drawStruct_at wf inside mem active done
      obtain ⟨t', t₁', before', -, step', after'⟩ := drawStruct_at wf inside mem active' done'
      obtain ⟨m, x, rewritten, found⟩ := remap_field wf mem active remapped
      rw [found] at step'
      have differ :=
        differs stack stack' m structWord x t t' t₁ t₁' rewritten ((pristine field mem).kept before)
        (fun w low => size ▸ room w low)
        (fun k bit behind => after.slots k bit behind ▸ sound field mem k bit behind) step step'
      exact ⟨field, mem, differ.kept after after'⟩

omit wf inside in
/-- The bit at which the word of a pointer field starts. -/
theorem pointerBit {name : String} {offset mask : ℕ} {type : TypeDescriptor ι} {d : Option ℕ}
    (pointer : ¬ isDataType type = true) :
    Occupies schema get (.slot name offset type mask d)
    (64 * ((schema get).dataWordCount + offset)) := by
  apply Occupies.slot
  rw [slotBits_pointer pointer]
  exact ⟨le_rfl, by omega⟩

omit wf inside in
theorem pointerBit_word (structWord dataWordCount offset : ℕ) :
    structWord + 64 * (dataWordCount + offset) / 64 =
      MessageBuilder.pointerWordIndex structWord dataWordCount offset := by
  rw [MessageBuilder.pointerWordIndex]
  omega

omit wf inside in
/-- The pointer of an absent value stays null, or is set to null. -/
theorem slot_of_absent {name : String} {offset mask structWord : ℕ} {type : TypeDescriptor ι}
    {d : Option ℕ} {draw : Sketch → ι → ℕ → Value → Except Thrown Sketch} {value : Value}
    {s s₁ : Sketch} (pointer : ¬ isDataType type = true) (absent : isNullish value = true)
    (pristine : Pristine schema get structWord (.slot name offset type mask d) s)
    (done : drawField schema draw (schema get) structWord s (.slot name offset type mask d) value =
      .ok s₁) :
    s₁.slots (MessageBuilder.pointerWordIndex structWord (schema get).dataWordCount offset) =
      .null := by
  by_cases skipped : value = .undefined
  · subst skipped
    cases done
    rw [← pointerBit_word]
    exact pristine.slots _ (pointerBit pointer) (Nat.mul_le_mul_left 64 (Nat.le_add_right _ _))
  · rw [drawField_slot pointer skipped] at done
    obtain ⟨drawn, found, rfl⟩ := Fallible.map_eq_ok.1 done
    have null : drawn = (.null, s.words) := by
      cases type with
      | primitive kind => exact absurd rfl pointer
      | enum byOrdinal toOrdinal => exact absurd rfl pointer
      | _ =>
        unfold drawPointerField at found
        rw [if_pos absent] at found
        exact (Except.ok.inj found).symm
    rw [Sketch.put_slots_self, null]

omit wf inside in
/-- Where the walk puts an object in the place of an absent value, the pointer differs. -/
theorem fieldDiffers_absent {name : String} {offset mask : ℕ} {type : TypeDescriptor ι}
    {d : Option ℕ} {value : Value} (pointer : ¬ isDataType type = true)
    (absent : isNullish value = true) (fills : ∀ n value', rewriteField (remapInterface mapping)
      (remapAnyPointer mapping) (remapCapabilityIndices schema mapping n)
      (.slot name offset type mask d) value = .ok value' →
        ∃ y, value' = some y ∧ isNullish y = false ∧ ∀ stack pointerWord words drawn,
          drawPointerField schema (drawStruct schema stack) pointerWord words type y = .ok drawn →
            ∃ shape content children, drawn.1 = .object shape content children) :
    FieldDiffers schema mapping get (.slot name offset type mask d) value := by
  intro stack stack' n structWord value' s s' s₁ s₁' rewritten pristine _ _ done done'
  obtain ⟨y, rfl, present, object⟩ := fills n value' rewritten
  have null := slot_of_absent pointer absent pristine done
  rw [Option.getD_some, drawField_slot pointer (ne_undefined present)] at done'
  obtain ⟨drawn, found, rfl⟩ := Fallible.map_eq_ok.1 done'
  obtain ⟨shape, content, children, tree⟩ := object _ _ _ _ found
  apply DifferAt.pointer (pointerBit pointer) (Nat.mul_le_mul_left 64 (Nat.le_add_right _ _))
  rw [pointerBit_word, null, Sketch.put_slots_self, tree]
  exact nofun

omit wf inside in
theorem drawListField_object {draw : Sketch → ι → ℕ → Value → Except Thrown Sketch}
    {drawElement : ℕ → ℕ → Value → Except Thrown (ObjectTree × ℕ)} {words : ℕ}
    {elementType : TypeDescriptor ι} {values : List Value} {drawn : ObjectTree × ℕ}
    (done : drawListField schema draw drawElement words elementType values = .ok drawn) :
    ∃ shape content children, drawn.1 = .object shape content children := by
  unfold drawListField at done
  split at done
  · cases done
    exact ⟨_, Sketch.tree_object _ _⟩
  · obtain ⟨block, -, done⟩ := Fallible.bind_eq_ok.1 done
    obtain ⟨s, -, same⟩ := Fallible.bind_eq_ok.1 done
    cases same
    exact ⟨_, Sketch.tree_object _ _⟩
  · split_ifs at done
    · obtain ⟨s, -, same⟩ := Fallible.bind_eq_ok.1 done
      cases same
      exact ⟨_, Sketch.tree_object _ _⟩
    · obtain ⟨size, -, done⟩ := Fallible.bind_eq_ok.1 done
      obtain ⟨block, -, same⟩ := Fallible.bind_eq_ok.1 done
      cases same
      exact ⟨_, Sketch.tree_object _ _⟩

omit wf inside in
theorem fieldDiffers_absentStruct {name : String} {offset mask : ℕ} {get' : ι} {d : Option ℕ}
    {value : Value} (absent : isNullish value = true) :
    FieldDiffers schema mapping get (.slot name offset (.struct get') mask d) value := by
  apply fieldDiffers_absent Bool.noConfusion absent
  intro n value' rewritten
  obtain ⟨out, walk, rfl⟩ := Fallible.map_eq_ok.1 rewritten
  obtain ⟨out, rfl⟩ := rewriteCapabilities_object walk
  refine ⟨_, rfl, rfl, fun stack pointerWord words drawn found => ?_⟩
  obtain ⟨s, -, same⟩ := Fallible.bind_eq_ok.1 found
  cases same
  exact ⟨_, Sketch.tree_object _ _⟩

omit wf inside in
theorem fieldDiffers_absentList {name : String} {offset mask : ℕ} {element : TypeDescriptor ι}
    {d : Option ℕ} {value : Value} (walked : isWalked element = true)
    (absent : isNullish value = true) :
    FieldDiffers schema mapping get (.slot name offset (.list element) mask d) value := by
  apply fieldDiffers_absent Bool.noConfusion absent
  intro n value' rewritten
  have array : ∃ items, value' = some (.array items) := by
    cases element with
    | struct get' | interface | anyPointer =>
      obtain ⟨items, -, rfl⟩ := Fallible.map_eq_ok.1 rewritten
      exact ⟨items, rfl⟩
    | _ => cases walked
  obtain ⟨items, rfl⟩ := array
  refine ⟨_, rfl, rfl, fun stack pointerWord words drawn found => ?_⟩
  unfold drawPointerField at found
  rw [if_neg Bool.noConfusion] at found
  exact drawListField_object found

omit inside in
/-- The tag of a struct that was drawn. -/
theorem tag_of_drawStruct {stack structWord active : ℕ} {value : Value} {s s₁ : Sketch}
    {union : StructUnionDescriptor} (tagged : (schema get).union = some union)
    (live : resolveActiveDiscriminant (schema get) (asRecord value) = some active)
    (done : drawStruct schema stack s get structWord value = .ok s₁) {i : ℕ} (low : i < 2) :
    s₁.block.bytes[8 * structWord + 2 * union.discriminantOffset + i]? =
      (toLE 2 (active % 2 ^ 16))[i]? := by
  have bit : 16 * union.discriminantOffset + 8 * i ∈ discriminantBits (schema get) := by
    unfold discriminantBits
    rw [tagged]
    exact ⟨by omega, by omega⟩
  cases stack with
  | zero => cases done
  | succ stack =>
    obtain ⟨block, written, done⟩ := Fallible.bind_eq_ok.1 done
    have first : block.bytes[8 * structWord + 2 * union.discriminantOffset + i]? =
        (toLE 2 (active % 2 ^ 16))[i]? := by
      have bytes : MessageBuilder.lowBytes 2 (active : ℤ) = toLE 2 (active % 2 ^ 16) := by
        rw [MessageBuilder.lowBytes]
        congr 1
      rw [live] at written
      unfold encodeDiscriminant at written
      rw [tagged] at written
      have written : s.block.setBytes (structWord * WORD_BYTES + union.discriminantOffset * 2)
          (MessageBuilder.lowBytes 2 (active : ℤ)) "writeUint16" = .ok block := written
      rw [bytes] at written
      unfold MessageBuilder.setBytes at written
      split_ifs at written with fits
      cases written
      show (splice s.block.bytes _ _)[_]? = _
      rw [getElem?_splice (by rw [s.block.size]; exact fits), length_toLE, WORD_BYTES,
        if_pos (by omega)]
      congr 1
      omega
    apply Fallible.foldlM_keeps (fun t =>
      t.block.bytes[8 * structWord + 2 * union.discriminantOffset + i]? =
        (toLE 2 (active % 2 ^ 16))[i]?) first done
    intro t field mem t' same next
    split_ifs at next
    · cases next
      exact same
    · rw [(redraws_drawField (fun _ _ _ _ _ => redraws_drawStruct) next).getElem?, same]
      rintro ⟨k, occupied, place⟩
      exact wf.tagged get field mem k (discriminantBits_byte bit (by omega)) occupied

omit inside in
/-- Where a group is absent and its default member has another number than zero, the tag differs. -/
theorem fieldDiffers_tag {name : String} {get' : ι} {d : Option ℕ} {union : StructUnionDescriptor}
    (tagged : (schema get').union = some union) (other : union.defaultDiscriminant % 2 ^ 16 ≠ 0) :
    FieldDiffers schema mapping get (.group name get' d) .undefined := by
  intro stack stack' n structWord value' s s' s₁ s₁' rewritten pristine _ _ done done'
  obtain ⟨out, walk, rfl⟩ := Fallible.map_eq_ok.1 rewritten
  obtain ⟨out, rfl⟩ := rewriteCapabilities_object walk
  cases done
  rw [Option.getD_some, drawField_group Value.noConfusion] at done'
  have live : resolveActiveDiscriminant (schema get') (asRecord (.object out)) =
      some union.defaultDiscriminant := by
    have kept := resolveActiveDiscriminant_remap wf walk
    rw [show asRecord (.object (asRecord .undefined)) = [] from rfl, resolveActiveDiscriminant_nil,
      tagged] at kept
    exact kept
  have byte : ∃ i < 2, (toLE 2 (union.defaultDiscriminant % 2 ^ 16))[i]? ≠ some 0 := by
    by_contra! zeros
    have same : toLE 2 (union.defaultDiscriminant % 2 ^ 16) = [0, 0] := by
      apply List.ext_getElem?
      intro i
      by_cases low : i < 2
      · rw [zeros i low]
        obtain rfl | rfl : i = 0 ∨ i = 1 := by omega
        · rfl
        · rfl
      · rw [List.getElem?_eq_none (by rw [length_toLE]; omega), List.getElem?_eq_none
          (show 2 ≤ i by omega)]
    have value := ofLE_toLE 2 (union.defaultDiscriminant % 2 ^ 16)
    rw [same] at value
    have value : 0 = union.defaultDiscriminant % 2 ^ 16 % 256 ^ 2 := value
    omega
  obtain ⟨i, low, nonzero⟩ := byte
  have drawn := tag_of_drawStruct wf tagged live done' low
  have bit : TagBit schema (.group name get' d) (16 * union.discriminantOffset + 8 * i) := by
    apply TagBit.own
    unfold discriminantBits
    rw [tagged]
    exact ⟨by omega, by omega⟩
  apply DifferAt.tag bit
  rw [pristine.tags _ bit, show 8 * structWord + (16 * union.discriminantOffset + 8 * i) / 8 =
    8 * structWord + 2 * union.discriminantOffset + i by omega, drawn]
  exact nonzero

omit wf inside in
theorem structRoom_struct (get : ι) :
    StructRoom (· ∈ (Shape.struct (schema get).dataWordCount (schema get).pointerCount).slots)
      (Shape.struct (schema get).dataWordCount (schema get).pointerCount).words (schema get) 0 := by
  refine ⟨?_, fun w low mem => ?_, fun w low => ?_⟩
  · rw [Nat.zero_add]
    exact le_rfl
  · obtain ⟨j, -, place⟩ := List.mem_map.1 mem
    omega
  · exact List.mem_map.2 ⟨w, List.mem_range.2 low, by omega⟩

/-- A struct in whose value something is absent differs. -/
theorem fieldDiffers_struct {name : String} {offset mask : ℕ} {get' : ι} {d : Option ℕ}
    {value : Value} (present : isNullish value = false)
    (inner : Differs schema mapping get' (asRecord value)) :
    FieldDiffers schema mapping get (.slot name offset (.struct get') mask d) value := by
  intro stack stack' n structWord value' s s' s₁ s₁' rewritten _ _ sound done done'
  obtain ⟨out, walk, rfl⟩ := Fallible.map_eq_ok.1 rewritten
  obtain ⟨out, rfl⟩ := rewriteCapabilities_object walk
  rw [drawField_slot Bool.noConfusion (ne_undefined present)] at done
  rw [Option.getD_some, drawField_slot Bool.noConfusion Value.noConfusion] at done'
  obtain ⟨drawn, found, rfl⟩ := Fallible.map_eq_ok.1 done
  obtain ⟨drawn', found', rfl⟩ := Fallible.map_eq_ok.1 done'
  unfold drawPointerField at found found'
  rw [if_neg (Bool.eq_false_iff.1 present)] at found
  rw [if_neg Bool.noConfusion] at found'
  obtain ⟨u, run, same⟩ := Fallible.bind_eq_ok.1 found
  obtain ⟨u', run', same'⟩ := Fallible.bind_eq_ok.1 found'
  cases same
  cases same'
  have behind : 64 * (schema get).dataWordCount ≤ 64 * ((schema get).dataWordCount + offset) :=
    Nat.mul_le_mul_left 64 (Nat.le_add_right _ _)
  have readable := sound _ (pointerBit Bool.noConfusion) behind
  rw [pointerBit_word, Sketch.put_slots_self] at readable
  obtain ⟨field, mem, differ⟩ := inner stack stack' n 0 value (.object out) _ _ u u' rfl
    (remapCapabilityIndices_asRecord n get' value ▸ walk)
    (fun field mem => pristine_of_blank wf inside mem (Sketch.blank_fresh _ (Nat.zero_add _).le))
    (fun w low => by rw [Nat.zero_add]; exact low)
    (fun field mem k bit behind => sound_places wf inside mem (structRoom_struct get') readable bit
      behind) run run'
  apply DifferAt.pointer (pointerBit Bool.noConfusion) behind
  rw [pointerBit_word, Sketch.put_slots_self, Sketch.put_slots_self]
  exact differ.not_similar wf inside mem (wf.sizes get') (structRoom_struct get')

/-! ## Lists of structs -/

omit wf inside in
theorem zipIdx_at {α : Type} {l : List α} {i : ℕ} {a : α} (known : l[i]? = some a) :
    l.zipIdx = (l.take i).zipIdx ++ (a, i) :: (l.drop (i + 1)).zipIdx (i + 1) := by
  obtain ⟨low, rfl⟩ := List.getElem?_eq_some_iff.1 known
  rw [zipIdx_split low.le, List.drop_eq_getElem_cons low, List.zipIdx_cons]

/-- The step that draws an element of a list of structs; the others lie in front of it and behind
it. -/
theorem element_at {stack i : ℕ} {values : List Value} {item : Value} {s s₁ : Sketch}
    (known : values[i]? = some item)
    (done : values.zipIdx.foldlM (fun s item => drawStruct schema stack s get
      (1 + item.2 * ((schema get).dataWordCount + (schema get).pointerCount)) item.1) s = .ok s₁) :
    ∃ t t₁,
      Redraws s t 0
        {k | k < 64 * (1 + i * ((schema get).dataWordCount + (schema get).pointerCount))} ∧
      drawStruct schema stack t get
        (1 + i * ((schema get).dataWordCount + (schema get).pointerCount)) item = .ok t₁ ∧
        Redraws t₁ s₁ 0
          {k | 64 * (1 + (i + 1) * ((schema get).dataWordCount + (schema get).pointerCount)) ≤
            k} := by
  rw [zipIdx_at known, List.foldlM_append] at done
  obtain ⟨t, before, done⟩ := Fallible.bind_eq_ok.1 done
  rw [List.foldlM_cons] at done
  obtain ⟨t₁, here, after⟩ := Fallible.bind_eq_ok.1 done
  have structs : ∀ s get structWord value s', drawStruct schema stack s get structWord value =
      .ok s' →
      Redraws s s' structWord (structBits schema get) := fun _ _ _ _ _ => redraws_drawStruct
  refine ⟨t, t₁, ?_, here, redraws_elements structs after⟩
  apply Fallible.foldlM_keeps (fun t => Redraws s t 0 _) (.refl s 0 _) before
  intro u item mem u' sofar next
  apply sofar.trans
  apply (redraws_drawStruct next).shift
  intro k bit
  have low := inside_of_wellFormed wf inside get k bit
  have place := List.snd_lt_of_mem_zipIdx mem
  rw [List.length_take, Nat.add_zero] at place
  have earlier : (item.2 + 1) * ((schema get).dataWordCount + (schema get).pointerCount) ≤
      i * ((schema get).dataWordCount + (schema get).pointerCount) :=
    Nat.mul_le_mul_right _ (by omega)
  rw [Nat.add_mul, Nat.one_mul] at earlier
  show 64 * (1 + item.2 * ((schema get).dataWordCount + (schema get).pointerCount)) + k < _
  omega

omit inside in
/-- The elements of a list that can be read. -/
theorem structRoom_element {n i : ℕ} (low : i < n % 2 ^ 30)
    (valid : (structListShape (schema get).dataWordCount (schema get).pointerCount n).Valid) :
    StructRoom (· ∈ (structListShape (schema get).dataWordCount (schema get).pointerCount n).slots)
      (structListShape (schema get).dataWordCount (schema get).pointerCount n).words (schema get)
      (1 + i * ((schema get).dataWordCount + (schema get).pointerCount)) := by
  obtain ⟨dw, pc, shape, same⟩ := structListShape_valid (wf.sizes get).1 (wf.sizes get).2 valid
  obtain ⟨rfl, rfl⟩ := same (by omega)
  have room := @elementRoom ι schema get _ _ (Nat.succ_le_of_lt low)
  have fits := room.fits
  have words : (structListShape (schema get).dataWordCount (schema get).pointerCount n).words =
      1 + ((schema get).dataWordCount + (schema get).pointerCount) * (n % 2 ^ 30) := by
    rw [shape]
    rfl
  rw [words, shape]
  refine ⟨fits, fun w inside slotted => ?_, fun w inside => ?_⟩
  · exact room.data w inside ((elementSlot_iff _ (by omega)).2 slotted)
  · exact (elementSlot_iff _ (by omega)).1 (room.pointers w inside)

theorem keeps_of_front {field : FieldDescriptor ι} {i : ℕ} {s s' : Sketch}
    (mem : field ∈ (schema get).fields)
    (h : Redraws s s' 0
      {k | 64 * (1 + (i + 1) * ((schema get).dataWordCount + (schema get).pointerCount)) ≤ k}) :
    Keeps schema get (1 + i * ((schema get).dataWordCount + (schema get).pointerCount)) field
      s s' := by
  have within {k : ℕ} (bit : Occupies schema get field k) :
      1 + i * ((schema get).dataWordCount + (schema get).pointerCount) + k / 64 <
        1 + (i + 1) * ((schema get).dataWordCount + (schema get).pointerCount) := by
    have low := occupies_lt wf inside bit mem
    rw [Nat.add_mul, Nat.one_mul]
    omega
  constructor
  · intro k bit
    have := within (bit.occupies get)
    exact h.front.1 _ (by omega)
  · exact fun k bit _ => h.front.2 _ (within bit)

/-- A list differs when something is absent in an element that can be seen. -/
theorem fieldDiffers_list {name : String} {offset mask : ℕ} {get' : ι} {d : Option ℕ}
    {value item : Value} {i : ℕ} (present : isNullish value = false)
    (known : (asArray value)[i]? = some item) (seen : i < (asArray value).length % 2 ^ 30)
    (inner : Differs schema mapping get' (asRecord item)) :
    FieldDiffers schema mapping get (.slot name offset (.list (.struct get')) mask d) value := by
  intro stack stack' n structWord value' s s' s₁ s₁' rewritten _ _ sound done done'
  obtain ⟨items, walk, rfl⟩ := Fallible.map_eq_ok.1 rewritten
  have each := Fallible.mapM_eq_ok.1 walk
  rw [drawField_slot Bool.noConfusion (ne_undefined present)] at done
  rw [Option.getD_some, drawField_slot Bool.noConfusion Value.noConfusion] at done'
  obtain ⟨drawn, found, rfl⟩ := Fallible.map_eq_ok.1 done
  obtain ⟨drawn', found', rfl⟩ := Fallible.map_eq_ok.1 done'
  unfold drawPointerField at found found'
  rw [if_neg (Bool.eq_false_iff.1 present)] at found
  rw [if_neg Bool.noConfusion] at found'
  obtain ⟨block, tag, found⟩ := Fallible.bind_eq_ok.1 found
  obtain ⟨u, run, same⟩ := Fallible.bind_eq_ok.1 found
  obtain ⟨block', tag', found'⟩ := Fallible.bind_eq_ok.1 found'
  obtain ⟨u', run', same'⟩ := Fallible.bind_eq_ok.1 found'
  cases same
  cases same'
  have behind : 64 * (schema get).dataWordCount ≤ 64 * ((schema get).dataWordCount + offset) :=
    Nat.mul_le_mul_left 64 (Nat.le_add_right _ _)
  have readable := sound _ (pointerBit Bool.noConfusion) behind
  rw [pointerBit_word, Sketch.put_slots_self] at readable
  have valid := (Sketch.sound_of_tree readable).1
  apply DifferAt.pointer (pointerBit Bool.noConfusion) behind
  rw [pointerBit_word, Sketch.put_slots_self, Sketch.put_slots_self]
  -- the element and what the walk made of it
  obtain ⟨low, rfl⟩ := List.getElem?_eq_some_iff.1 known
  have low' : i < items.length := each.length_eq ▸ low
  have remapped := each.get low low'
  rw [List.get_eq_getElem, List.get_eq_getElem, remapCapabilityIndices_asRecord] at remapped
  have known' : (asArray (.array items))[i]? = some items[i] := List.getElem?_eq_getElem low'
  rw [show (asArray (.array items)).length = (asArray value).length from each.length_eq.symm]
  obtain ⟨t, t₁, before, here, after⟩ := element_at wf inside known run
  obtain ⟨t', t₁', -, here', after'⟩ := element_at wf inside known' run'
  have room := structRoom_element wf seen valid
  have blank : t.Blank (1 + i * ((schema get').dataWordCount + (schema get').pointerCount))
      ((schema get').dataWordCount + (schema get').pointerCount) := by
    apply (blank_elements tag low).kept before
    intro k near
    have near : k < 64 * (1 + i * ((schema get').dataWordCount + (schema get').pointerCount)) :=
      near
    exact .inl (by omega)
  have size : t.block.words =
      1 + ((schema get').dataWordCount + (schema get').pointerCount) * (asArray value).length :=
    before.size.trans (MessageBuilder.writeWord_eq_ok.1 tag).words
  have inside' := (@elementRoom ι schema get' _ _ (Nat.succ_le_of_lt low)).fits
  obtain ⟨field, mem, differ⟩ := inner stack stack' n _ _ _ t t' t₁ t₁' rfl remapped
    (fun field mem => pristine_of_blank wf inside mem blank) (fun w below => by omega)
    (fun field mem k bit behind =>
      (keeps_of_front wf inside mem after).slots k bit behind ▸ sound_places wf inside mem room
        readable bit behind)
    here here'
  exact (differ.kept (keeps_of_front wf inside mem after)
    (keeps_of_front wf inside mem after')).not_similar wf inside
    mem valid room

/-! ## Groups -/

omit wf inside in
/-- What differs in a member differs in the group. -/
theorem DifferAt.member {name : String} {get' : ι} {d : Option ℕ} {field : FieldDescriptor ι}
    {structWord : ℕ} {s s' : Sketch} (same : (schema get').dataWordCount =
      (schema get).dataWordCount)
    (mem : field ∈ (schema get').fields) (h : DifferAt schema get' structWord field s s') :
    DifferAt schema get structWord (.group name get' d) s s' := by
  cases h with
  | tag bit other => exact .tag (.member mem bit) other
  | pointer bit behind other => exact .pointer (.member mem bit) (same ▸ behind) other

theorem fieldDiffers_group {name : String} {get' : ι} {d : Option ℕ} {value : Value}
    (mem : .group name get' d ∈ (schema get).fields)
    (inner : Differs schema mapping get' (asRecord value)) :
    FieldDiffers schema mapping get (.group name get' d) value := by
  intro stack stack' n structWord value' s s' s₁ s₁' rewritten pristine room sound done done'
  obtain ⟨out, walk, rfl⟩ := Fallible.map_eq_ok.1 rewritten
  obtain ⟨out, rfl⟩ := rewriteCapabilities_object walk
  have sizes := wf.groups get name get' d mem
  rw [Option.getD_some, drawField_group Value.noConfusion] at done'
  rw [← sizes.1, ← sizes.2] at room
  have members : ∀ field ∈ (schema get').fields, Pristine schema get' structWord field s :=
    fun field mem' =>
    pristine.member wf mem mem'
  have readable : ∀ field ∈ (schema get').fields, ∀ k, Occupies schema get' field k →
      64 * (schema get').dataWordCount ≤ k → (s₁.slots (structWord + k / 64)).Sound :=
    fun field mem' k bit behind =>
    sound k (.member mem' bit) (sizes.1 ▸ behind)
  by_cases absent : value = .undefined
  · subst absent
    cases done
    -- as if an empty record had been drawn
    obtain ⟨block, tagged⟩ := encodeDiscriminant_ok wf
      ((schema get').union.map StructUnionDescriptor.defaultDiscriminant) room
    have nothing : drawStruct schema 1 s get' structWord (.object []) = .ok (s.write block) := by
      rw [drawStruct_nothing, tagged]
      rfl
    obtain ⟨field, mem', differ⟩ :=
      inner 1 stack' n structWord (.object []) _ s s' (s.write block) s₁' rfl walk
      members room readable nothing done'
    exact (differ.kept (keeps_encodeDiscriminant wf inside mem' tagged).symm (.refl s₁')).member
      sizes.1 mem'
  · rw [drawField_group absent] at done
    obtain ⟨field, mem', differ⟩ :=
      inner stack stack' n structWord (.object (asRecord value)) _ s s' s₁ s₁' rfl walk
      members room readable done done'
    exact differ.member sizes.1 mem'

/-! ## Messages -/

/-- **Absent parts.**  Where something is absent, what is drawn of the remapped record differs. -/
theorem differs_of_absent {record : Record} (absent : Absent schema get record) :
    Differs schema mapping get record := by
  induction absent with
  | struct mem active absent =>
    exact differs_of_field wf inside mem active (fieldDiffers_absentStruct absent)
  | list mem active walked absent =>
    exact differs_of_field wf inside mem active (fieldDiffers_absentList walked absent)
  | tag mem active absent tagged other =>
    apply differs_of_field wf inside mem active
    rw [FieldDescriptor.name, absent]
    exact fieldDiffers_tag wf tagged other
  | inStruct mem active present inner ih =>
    exact differs_of_field wf inside mem active (fieldDiffers_struct wf inside present ih)
  | inList mem active present known seen inner ih =>
    exact differs_of_field wf inside mem active (fieldDiffers_list wf inside present known seen ih)
  | inGroup mem active inner ih =>
    exact differs_of_field wf inside mem active (fieldDiffers_group wf inside mem ih)

/-- **Remapping shows where it fills in.**  The messages of a value and of what the walk makes of it
show the same tree, but for the indices of capabilities, exactly when no active field is absent that
the walk fills in. -/
theorem remap_keeps_tree_iff {stack n : ℕ} {value value' : Value} {bytes bytes' : Bytes}
    {t : ObjectTree} (remapped : remapCapabilityIndices schema mapping n get value = .ok value')
    (done : encodeStructMessage schema stack get value = .ok bytes)
    (done' : encodeStructMessage schema stack get value' = .ok bytes')
    (tree : MessageTree bytes t) :
    (∃ t', MessageTree bytes' t' ∧ t.Similar t') ↔ ¬ Absent schema get (asRecord value) := by
  obtain ⟨drawn, drawing, shows⟩ := messageTree_encodeStructMessage wf inside done
  obtain ⟨drawn', drawing', shows'⟩ := messageTree_encodeStructMessage wf inside done'
  obtain ⟨rfl, sound⟩ := (shows t).1 tree
  obtain ⟨s, run, rfl⟩ := Fallible.map_eq_ok.1 drawing
  obtain ⟨s', run', rfl⟩ := Fallible.map_eq_ok.1 drawing'
  have pristine : ∀ field ∈ (schema get).fields, Pristine schema get 0 field
      (Sketch.fresh 1 ((schema get).dataWordCount + (schema get).pointerCount)) := fun field mem =>
    pristine_of_blank wf inside mem (Sketch.blank_fresh 1 (Nat.zero_add _).le)
  have room : ∀ w < (schema get).dataWordCount + (schema get).pointerCount,
      0 + w < (schema get).dataWordCount + (schema get).pointerCount := fun w low => by omega
  constructor
  · rintro ⟨t', tree', similar⟩ absent
    obtain ⟨rfl, -⟩ := (shows' t').1 tree'
    obtain ⟨field, mem, differ⟩ :=
      differs_of_absent wf inside absent stack stack n 0 value value' _ _ s s' rfl remapped
      pristine room
      (fun field mem k bit behind => sound_places wf inside mem (structRoom_struct get) sound bit
        behind) run run'
    have valid : (Shape.struct (schema get).dataWordCount (schema get).pointerCount).Valid :=
      wf.sizes get
    exact differ.not_similar wf inside mem valid (structRoom_struct get) similar
  · intro present
    have twin := structTwins wf inside stack get value value' 0 _ _ s s' (.walk remapped present)
      (Twin.fresh 1 1 _) pristine room run run'
    have similar := twin.tree (.struct (schema get).dataWordCount (schema get).pointerCount)
    exact ⟨_, (shows' _).2 ⟨rfl, similar.sound sound⟩, similar⟩

end Converse

/-! ## An absent child -/

/-- A struct with a child, which is a struct of a flag. -/
def withChild : Schema Bool
  | true =>
    ⟨0, 1, [.slot "child" 0 (.struct false) 0 none],
      .const [("child", .object [("flag", .bool false)])], none⟩
  | false =>
    ⟨1, 0, [.slot "flag" 0 (.primitive .bool) 0 none], .const [("flag", .bool false)], none⟩

theorem withChild_mem {get : Bool} {field : FieldDescriptor Bool}
    (mem : field ∈ (withChild get).fields) :
    (get = true ∧ field = .slot "child" 0 (.struct false) 0 none) ∨
      (get = false ∧ field = .slot "flag" 0 (.primitive .bool) 0 none) := by
  cases get with
  | true => exact .inl ⟨rfl, List.mem_singleton.1 mem⟩
  | false => exact .inr ⟨rfl, List.mem_singleton.1 mem⟩

theorem withChild_wellFormed : withChild.WellFormed where
  names get := by cases get <;> decide
  sizes get := by cases get <;> decide
  pointers get name offset type mask d mem pointer := by
    obtain ⟨rfl, same⟩ | ⟨rfl, same⟩ := withChild_mem mem <;> cases same
    · decide
    · cases pointer
  groups get name get' d mem := by
    obtain ⟨rfl, same⟩ | ⟨rfl, same⟩ := withChild_mem mem <;> cases same
  apart get field mem other mem' different := by
    obtain ⟨rfl, rfl⟩ | ⟨rfl, rfl⟩ := withChild_mem mem <;> obtain ⟨same, rfl⟩ | ⟨same, rfl⟩ :=
      withChild_mem mem'
    · exact absurd rfl different
    · cases same
    · cases same
    · exact absurd rfl different
  tagged get _ _ k bit := by cases get <;> exact bit.elim
  unions get _ present := by cases get <;> cases present
  members get field mem d value := by
    obtain ⟨rfl, rfl⟩ | ⟨rfl, rfl⟩ := withChild_mem mem <;> cases value

theorem withChild_dataInside : withChild.DataInside := by
  intro get name offset type mask d mem scalar k bit
  obtain ⟨rfl, same⟩ | ⟨rfl, same⟩ := withChild_mem mem <;> cases same
  · cases scalar
  · have low : k = 0 := bit
    subst low
    decide

/-- The messages of a record without the child, and of what the walk makes of it. -/
def childlessBytes : Bytes :=
  [0, 0, 0, 0, 2, 0, 0, 0, 0, 0, 0, 0, 0, 0, 1, 0, 0, 0, 0, 0, 0, 0, 0, 0]

def childFilledBytes : Bytes :=
  [0, 0, 0, 0, 3, 0, 0, 0, 0, 0, 0, 0, 0, 0, 1, 0, 0, 0, 0, 0, 1, 0, 0, 0, 0, 0, 0, 0, 0, 0, 0, 0]

theorem encode_childless : encodeStructMessage withChild 2 true (.object []) =
    .ok childlessBytes := by
  decide

/-- The walk gives a record a child that it did not have. -/
theorem remap_childless : ¬ ∃ t', MessageTree childFilledBytes t' ∧
    (ObjectTree.object (.struct 0 1) [0, 0, 0, 0, 0, 0, 0, 0] [.null]).Similar t' := by
  have tree : MessageTree childlessBytes (.object (.struct 0 1) [0, 0, 0, 0, 0, 0, 0, 0]
      [.null]) := by
    obtain ⟨t, drawing, shows⟩ :=
      messageTree_encodeStructMessage withChild_wellFormed withChild_dataInside encode_childless
    have drawn : drawStructMessage withChild 2 true (.object []) =
        .ok (.object (.struct 0 1) [0, 0, 0, 0, 0, 0, 0, 0] [.null]) := by rfl
    cases drawn.symm.trans drawing
    refine (shows _).2 ⟨rfl, .object (by decide) fun child mem => ?_⟩
    cases List.mem_singleton.1 mem
    exact .null
  rw [remap_keeps_tree_iff withChild_wellFormed withChild_dataInside
    (show remapCapabilityIndices withChild [] 2 true (.object []) =
      .ok (.object [("child", .object [])]) by rfl)
    encode_childless (show encodeStructMessage withChild 2 true (.object [("child", .object [])]) =
      .ok childFilledBytes by decide)
    tree, not_not]
  exact .struct (List.mem_singleton_self _) rfl rfl

end CapnpDeno
