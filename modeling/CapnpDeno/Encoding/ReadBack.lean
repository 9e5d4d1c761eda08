import CapnpDeno.Encoding.SketchedFields

/-!
# Structs read back

What the decoder returns for the struct that the encoder has drawn in a sketch: the record, with its
absent fields filled in.  Each field is read back from the bits and the slots that it has for
itself, whatever the fields behind it draw.
-/

namespace CapnpDeno

open ByteList

variable {ι : Type} {schema : Schema ι}

/-! ## What comes back -/

/-- What the schema compiler sees to, beyond `WellFormed`: scalars and their defaults fit, void
fields have neither bits nor a default, and the first member of a union is the one with discriminant
zero. -/
structure Schema.Proper (schema : Schema ι) : Prop where
  wellFormed : schema.WellFormed
  inside : schema.DataInside
  voids : ∀ get name offset mask d, .slot name offset (.primitive .void) mask d ∈
    (schema get).fields →
    mask = 0 ∧ offset ≤ 8 * (schema get).dataWordCount
  masks : ∀ get name offset type mask d, .slot name offset type mask d ∈ (schema get).fields →
    isScalar type = true → mask < 2 ^ scalarBits type
  first : ∀ get union, (schema get).union = some union → union.defaultDiscriminant = 0

theorem Schema.Proper.voidsPlain (proper : schema.Proper) : schema.VoidsPlain := by
  rintro get field mem name offset type mask d rfl rfl
  exact (proper.voids get name offset mask d mem).1

/-- A value that becomes a null pointer. -/
def DrawnNull (type : TypeDescriptor ι) (value : Value) : Prop :=
  isNullish value = true ∨ type = .anyPointer ∧ asAnyPointerValue value = .ok .null

/-- What a scalar field comes back as: its default if it is absent. -/
def ScalarReturns (type : TypeDescriptor ι) (mask : ℕ) (value : Value) (result : Option Value) :
    Prop :=
  value = .undefined ∧ result = some (valueOfBits type mask 0) ∨
    value ≠ .undefined ∧ Exact type value ∧ result = some value

/-- The record that the results of the active fields make of the default. -/
def filledRecord (descriptor : StructDescriptor ι) (out : Record) (active : Option ℕ)
    (results : FieldDescriptor ι → Option Value) : Record :=
  descriptor.fields.foldl
    (fun record field => if isInactive field active then record
      else assign record field.name (results field))
    (tagRecord descriptor active out)

/-- A value of a type, and what it comes back as. -/
inductive Returns (schema : Schema ι) : TypeDescriptor ι → Value → Value → Prop
  | text (s : String) (short : (MessageBuilder.utf8Encode s).length + 1 < 2 ^ 29) :
      Returns schema .text (.string s) (.string s)
  | data (bs : Bytes) (short : bs.length < 2 ^ 29) : Returns schema .data (.bytes bs) (.bytes bs)
  | null : Returns schema .interface .null .null
  | interface (index : ℕ) (small : index < 2 ^ 32) :
      Returns schema .interface (capabilityPointer index) (capabilityPointer index)
  | anyNull : Returns schema .anyPointer AnyPointerValue.null.toValue AnyPointerValue.null.toValue
  | anyInterface (index : ℕ) (small : index < 2 ^ 32) :
      Returns schema .anyPointer (AnyPointerValue.interface index).toValue
        (AnyPointerValue.interface index).toValue
  | anyMessage {message copy : Bytes} {shape : Shape} {content : Bytes} {children : List ObjectTree}
      (root : MessageTree message (.object shape content children)) (filled : shape ≠ .struct 0 0)
      (copied : copyFromMessage message 0 0 .default = .ok copy) :
      Returns schema .anyPointer (AnyPointerValue.message message).toValue
        (AnyPointerValue.message copy).toValue
  | scalars {element : TypeDescriptor ι} {values : List Value} (data : isDataType element = true)
      (exact : ∀ value ∈ values, Exact element value) (short : values.length < 2 ^ 29) :
      Returns schema (.list element) (.array values) (.array values)
  | list {element : TypeDescriptor ι} {values values' : List Value}
    (pointer : isPointerType element = true)
      (short : values.length < 2 ^ 29)
      (room : ∀ get, element = .struct get →
        ((schema get).dataWordCount + (schema get).pointerCount) * values.length < 2 ^ 29)
      (same : values.length = values'.length)
      (each : ∀ (i : ℕ) (value value' : Value), values[i]? = some value →
        values'[i]? = some value' →
        Returns schema element value value') :
      Returns schema (.list element) (.array values) (.array values')
  | struct {get : ι} {record out : Record} (results : FieldDescriptor ι → Option Value)
      (made : ∃ stack, schema.createDefault stack get = .ok out)
      (tag : ∀ d, resolveActiveDiscriminant (schema get) record = some d → d < 2 ^ 16)
      (scalar : ∀ name offset type mask d, .slot name offset type mask d ∈ (schema get).fields →
        isInactive (.slot name offset type mask d)
        (resolveActiveDiscriminant (schema get) record) = false →
        isDataType type = true → ScalarReturns type mask (getProp record name)
          (results (.slot name offset type mask d)))
      (null : ∀ name offset type mask d, .slot name offset type mask d ∈ (schema get).fields →
        isInactive (.slot name offset type mask d)
        (resolveActiveDiscriminant (schema get) record) = false →
        isDataType type = false →
          (results (.slot name offset type mask d) = none ↔ DrawnNull type (getProp record name)))
      (pointer : ∀ name offset type mask d value', .slot name offset type mask d ∈
        (schema get).fields →
        isInactive (.slot name offset type mask d)
        (resolveActiveDiscriminant (schema get) record) = false →
        isDataType type = false → results (.slot name offset type mask d) = some value' →
          Returns schema type (getProp record name) value')
      (grouped : ∀ name get' d, .group name get' d ∈ (schema get).fields →
        results (.group name get' d) ≠ none)
      (group : ∀ name get' d value', .group name get' d ∈ (schema get).fields →
        isInactive (.group name get' d) (resolveActiveDiscriminant (schema get) record) = false →
        results (.group name get' d) = some value' →
          Returns schema (.struct get') (.object (asRecord (getProp record name))) value') :
      Returns schema (.struct get) (.object record)
        (.object (filledRecord (schema get) out (resolveActiveDiscriminant (schema get) record)
          results))

/-! ## Places in a sketch -/

/-- Nothing was drawn at some bits of a struct. -/
structure Clear (s : Sketch) (structWord dataWordCount : ℕ) (bits : Set ℕ) : Prop where
  block : ∀ k ∈ bits, bitAt s.block.bytes (64 * structWord + k) = false
  slots : ∀ k ∈ bits, 64 * dataWordCount ≤ k → s.slots (structWord + k / 64) = .null

/-- Two sketches have the same at some bits of a struct. -/
structure Agrees (s s' : Sketch) (structWord dataWordCount : ℕ) (bits : Set ℕ) : Prop where
  block : ∀ k ∈ bits, bitAt s'.block.bytes (64 * structWord + k) =
    bitAt s.block.bytes (64 * structWord + k)
  slots : ∀ k ∈ bits, 64 * dataWordCount ≤ k → s'.slots (structWord + k / 64) =
    s.slots (structWord + k / 64)

section Places

variable {s s' s'' : Sketch} {structWord dataWordCount : ℕ} {bits bits' : Set ℕ}

theorem Agrees.refl (s : Sketch) (structWord dataWordCount : ℕ) (bits : Set ℕ) :
    Agrees s s structWord dataWordCount bits := ⟨fun _ _ => rfl, fun _ _ _ => rfl⟩

theorem Agrees.trans (h : Agrees s s' structWord dataWordCount bits)
    (h' : Agrees s' s'' structWord dataWordCount bits) :
    Agrees s s'' structWord dataWordCount bits :=
  ⟨fun k mem => (h'.block k mem).trans (h.block k mem),
    fun k mem behind => (h'.slots k mem behind).trans (h.slots k mem behind)⟩

theorem Agrees.mono (h : Agrees s s' structWord dataWordCount bits') (sub : bits ⊆ bits') :
    Agrees s s' structWord dataWordCount bits :=
  ⟨fun k mem => h.block k (sub mem), fun k mem => h.slots k (sub mem)⟩

theorem Clear.mono (h : Clear s structWord dataWordCount bits') (sub : bits ⊆ bits') :
    Clear s structWord dataWordCount bits :=
  ⟨fun k mem => h.block k (sub mem), fun k mem => h.slots k (sub mem)⟩

theorem Clear.kept (h : Clear s structWord dataWordCount bits)
    (same : Agrees s s' structWord dataWordCount bits) :
    Clear s' structWord dataWordCount bits :=
  ⟨fun k mem => (same.block k mem).trans (h.block k mem),
    fun k mem behind => (same.slots k mem behind).trans (h.slots k mem behind)⟩

end Places

/-! ## Fields -/

/-- What a field has drawn is read as the result, whatever else lies in the struct. -/
def FieldBack (schema : Schema ι) (get : ι) (structWord stack : ℕ) (field : FieldDescriptor ι)
    (value : Value) (result : Option Value) : Prop :=
  ∀ s s' : Sketch, Clear s structWord (schema get).dataWordCount {k | Occupies schema get field k} →
    structWord + ((schema get).dataWordCount + (schema get).pointerCount) ≤ s.block.words →
    (∀ w, (s.slots w).Sound) →
    drawField schema (drawStruct schema stack) (schema get) structWord s field value = .ok s' →
      (∀ w, (s'.slots w).Sound) ∧ ∃ n, ∀ m ≥ n, ∀ s'' : Sketch, s''.block.words = s.block.words →
        Agrees s' s'' structWord (schema get).dataWordCount {k | Occupies schema get field k} →
          treeField (treeDefault schema m) (treeStruct schema m)
          (s''.view structWord (schema get)) field = some result

/-- What a struct has drawn is read as the record. -/
def StructBack (schema : Schema ι) (get : ι) (record record' : Record) : Prop :=
  ∀ stack structWord (s s' : Sketch), Clear s structWord (schema get).dataWordCount
    (structBits schema get) →
    structWord + ((schema get).dataWordCount + (schema get).pointerCount) ≤ s.block.words →
    (∀ w, (s.slots w).Sound) → drawStruct schema stack s get structWord (.object record) = .ok s' →
      (∀ w, (s'.slots w).Sound) ∧ ∃ n, ∀ m ≥ n, ∀ s'' : Sketch, s''.block.words = s.block.words →
        Agrees s' s'' structWord (schema get).dataWordCount (structBits schema get) →
          treeStruct schema m get (s''.view structWord (schema get)) = some record'

/-- What a pointer has drawn is read as the result. -/
def PointerBack (schema : Schema ι) (type : TypeDescriptor ι) (value value' : Value) : Prop :=
  ∀ stack pointerWord words drawn,
    drawPointerField schema (drawStruct schema stack) pointerWord words type value = .ok drawn →
      drawn.1.Sound ∧ (drawn.1 = .null ↔ DrawnNull type value) ∧
        ∃ n, ∀ m ≥ n, treePointer (treeDefault schema m) (treeStruct schema m) type drawn.1 =
        some value'

theorem length_view {s : Sketch} {structWord : ℕ} {descriptor : StructDescriptor ι}
    (room : structWord + (descriptor.dataWordCount + descriptor.pointerCount) ≤ s.block.words) :
    (s.view structWord descriptor).data.length = 8 * descriptor.dataWordCount := by
  have size := s.block.size
  exact length_slice (by omega)

theorem bitAt_view (s : Sketch) (structWord : ℕ) (descriptor : StructDescriptor ι) {k : ℕ}
    (low : k < 64 * descriptor.dataWordCount) :
    bitAt (s.view structWord descriptor).data k = bitAt s.block.bytes (64 * structWord + k) := by
  show bitAt (slice s.block.bytes (8 * structWord) (8 * descriptor.dataWordCount)) k = _
  rw [bitAt_slice, decide_eq_true (by omega), Bool.true_and, show 8 * (8 * structWord) =
    64 * structWord by ring]

theorem scalarEnd_le {type : TypeDescriptor ι} (scalar : isScalar type = true) {offset words : ℕ}
    (low : offset * scalarBits type + scalarBits type ≤ 64 * words) :
    scalarEnd type offset ≤ 8 * words := by
  by_cases boolean : type = .primitive .bool
  · subst boolean
    have low : offset * 1 + 1 ≤ 64 * words := low
    show offset / 8 + 1 ≤ 8 * words
    omega
  · obtain ⟨width, -, place⟩ := scalarBits_eq scalar boolean
    have last : scalarEnd type offset = dataByteOffset type offset + dataByteOffset type 1 := by
      unfold scalarEnd
      split
      · cases scalar
      · exact absurd rfl boolean
      · rfl
    rw [width, show offset * (8 * dataByteOffset type 1) =
      8 * (offset * dataByteOffset type 1) by ring, ← place] at low
    omega

theorem scalarBits_pos {type : TypeDescriptor ι} (scalar : isScalar type = true) :
    0 < scalarBits type := by
  by_cases boolean : type = .primitive .bool
  · subst boolean
    exact Nat.one_pos
  · obtain ⟨width, widths, -⟩ := scalarBits_eq scalar boolean
    simp only [List.mem_cons, List.not_mem_nil, or_false] at widths
    omega

/-- What holds of each item from some fuel on holds of all from some fuel on. -/
theorem exists_bound {α : Type} {l : List α} {P : α → ℕ → Prop}
    (each : ∀ a ∈ l, ∃ n, ∀ m ≥ n, P a m) :
    ∃ n, ∀ m ≥ n, ∀ a ∈ l, P a m := by
  induction l with
  | nil => exact ⟨0, by simp⟩
  | cons a l ih =>
    obtain ⟨n, here⟩ := each a List.mem_cons_self
    obtain ⟨n', rest⟩ := ih fun b mem => each b (List.mem_cons_of_mem a mem)
    refine ⟨max n n', fun m more b mem => ?_⟩
    obtain rfl | later := List.mem_cons.1 mem
    · exact here m (le_of_max_le_left more)
    · exact rest m (le_of_max_le_right more) b later

theorem foldlM_eq_some {α σ : Type} {f : σ → α → Option σ} {g : σ → α → σ} {l : List α}
    (each : ∀ s, ∀ a ∈ l, f s a = some (g s a)) (s : σ) : l.foldlM f s = some (l.foldl g s) := by
  induction l generalizing s with
  | nil => rfl
  | cons a l ih =>
    rw [List.foldlM_cons, each s a List.mem_cons_self]
    exact ih (fun s b mem => each s b (List.mem_cons_of_mem a mem)) (g s a)

section TreeFields

variable {createDefault : ι → Option Record} {decodeStruct : ι → StructView → Option Record}
  {view : StructView} {name : String} {offset mask : ℕ} {type : TypeDescriptor ι} {d : Option ℕ}

theorem treeField_data (data : isDataType type = true) :
    treeField createDefault decodeStruct view (.slot name offset type mask d) =
      if scalarEnd type offset > view.data.length then some none
      else some (some (scalarAt view.data offset type mask)) := if_pos data

theorem treeField_null (pointer : ¬ isDataType type = true)
    (slot : view.pointers[offset]? = some .null) :
    treeField createDefault decodeStruct view (.slot name offset type mask d) = some none := by
  refine (if_neg pointer).trans ?_
  rw [slot]

theorem treeField_pointer (pointer : ¬ isDataType type = true) {t : ObjectTree}
    (slot : view.pointers[offset]? = some t) (present : t ≠ .null) :
    treeField createDefault decodeStruct view (.slot name offset type mask d) =
      some <$> treePointer createDefault decodeStruct type t := by
  refine (if_neg pointer).trans ?_
  rw [slot]
  cases t with
  | null => exact absurd rfl present
  | capability | object => rfl

end TreeFields

/-- A value that becomes a null pointer is drawn as one. -/
theorem DrawnNull.drawn {type : TypeDescriptor ι} {value : Value} (null : DrawnNull type value)
    {draw : Sketch → ι → ℕ → Value → Except Thrown Sketch} {pointerWord words : ℕ}
    {drawn : ObjectTree × ℕ} (done : drawPointerField schema draw pointerWord words type value =
      .ok drawn) : drawn.1 = .null := by
  unfold drawPointerField at done
  by_cases nullish : isNullish value = true
  · rw [if_pos nullish] at done
    cases done
    rfl
  · obtain nullish' | ⟨rfl, known⟩ := null
    · exact absurd nullish' nullish
    · rw [if_neg nullish] at done
      simp only [known, Fallible.ok_bind] at done
      cases done
      rfl

section Fields

variable (proper : schema.Proper) {get : ι} {structWord stack : ℕ} {name : String} {d : Option ℕ}
  {value : Value}
include proper

theorem fieldBack_scalar {offset mask : ℕ} {type : TypeDescriptor ι} {result : Option Value}
    (mem : .slot name offset type mask d ∈ (schema get).fields) (data : isDataType type = true)
    (returns : ScalarReturns type mask value result) :
    FieldBack schema get structWord stack (.slot name offset type mask d) value result := by
  intro s s' clear room sound done
  by_cases void : type = .primitive .void
  · subst void
    obtain ⟨-, low⟩ := proper.voids get name offset mask d mem
    obtain ⟨rfl, rfl⟩ | ⟨present, exact, -⟩ := returns
    · cases done
      refine ⟨sound, 0, fun m _ s'' same _ => ?_⟩
      rw [treeField_data data, if_neg]
      · rfl
      · rw [length_view (same ▸ room)]
        exact not_lt.2 low
    · exact absurd exact present
  have scalar := isScalar_of_isDataType data void
  have positive := scalarBits_pos scalar
  have inside : offset * scalarBits type + scalarBits type ≤ 64 * (schema get).dataWordCount := by
    have last :=
      proper.inside get name offset type mask d mem data
      (offset * scalarBits type + (scalarBits type - 1))
      ((mem_slotBits scalar).2 ⟨by omega, by omega⟩)
    omega
  have occupied {i : ℕ} (low : i < scalarBits type) :
      Occupies schema get (.slot name offset type mask d) (offset * scalarBits type + i) :=
    .slot ((mem_slotBits scalar).2 ⟨by omega, by omega⟩)
  -- the bits that the field is left with
  obtain ⟨n, small, sound', bits, rfl⟩ : ∃ n < 2 ^ scalarBits type, (∀ w, (s'.slots w).Sound) ∧
      (∀ i < scalarBits type,
        bitAt s'.block.bytes (64 * structWord + (offset * scalarBits type + i)) = n.testBit i) ∧
      result = some (valueOfBits type mask n) := by
    obtain ⟨rfl, rfl⟩ | ⟨present, exact, rfl⟩ := returns
    · cases done
      refine ⟨0, Nat.two_pow_pos _, sound, fun i low => ?_, rfl⟩
      rw [clear.block _ (occupied low), Nat.zero_testBit]
    · rw [drawField_data data present] at done
      obtain ⟨block, written, rfl⟩ := Fallible.map_eq_ok.1 done
      obtain ⟨n, small, stored, same⟩ :=
        stores_exact scalar exact (proper.masks get name offset type mask d mem scalar) written
      refine ⟨n, small, sound, fun i low => ?_, by rw [same]⟩
      rw [← Nat.add_assoc]
      exact stored.inside i low
  refine ⟨sound', 0, fun m _ s'' same agrees => ?_⟩
  have read : scalarAt (s''.view structWord (schema get)).data offset type mask =
      valueOfBits type mask n := by
    apply scalarAt_eq scalar mask small
    intro i low
    rw [bitAt_view _ _ _ (by omega), agrees.block _ (occupied low), bits i low]
  rw [treeField_data data, if_neg, read]
  rw [length_view (same ▸ room)]
  exact not_lt.2 (scalarEnd_le scalar inside)

theorem fieldBack_pointer {offset mask : ℕ} {type : TypeDescriptor ι} {result : Option Value}
    (mem : .slot name offset type mask d ∈ (schema get).fields) (pointer : isDataType type = false)
    (null : result = none ↔ DrawnNull type value)
    (back : ∀ value', result = some value' → PointerBack schema type value value') :
    FieldBack schema get structWord stack (.slot name offset type mask d) value result := by
  intro s s' clear room sound done
  have few : offset < (schema get).pointerCount :=
    proper.wellFormed.pointers get name offset type mask d mem (by rw [isPointerType, pointer]; rfl)
  have notData : ¬ isDataType type = true := by rw [pointer]; exact Bool.false_ne_true
  have occupied : Occupies schema get (.slot name offset type mask d)
      (64 * ((schema get).dataWordCount + offset)) :=
    .slot (by rw [slotBits_pointer notData]; exact ⟨le_rfl, by omega⟩)
  have word : structWord + 64 * ((schema get).dataWordCount + offset) / 64 =
      structWord + (schema get).dataWordCount + offset := by omega
  have slot (s'' : Sketch) : (s''.view structWord (schema get)).pointers[offset]? =
      some (s''.slots (structWord + (schema get).dataWordCount + offset)) := by
    simp [Sketch.view, few]
  have kept (s'' : Sketch) (agrees : Agrees s' s'' structWord (schema get).dataWordCount
      {k | Occupies schema get (.slot name offset type mask d) k}) :
      s''.slots (structWord + (schema get).dataWordCount + offset) =
        s'.slots (structWord + (schema get).dataWordCount + offset) := by
    have same := agrees.slots _ occupied (by omega)
    rwa [word] at same
  by_cases absent : value = .undefined
  · subst absent
    cases done
    obtain rfl := null.2 (.inl rfl)
    refine ⟨sound, 0, fun m _ s'' _ agrees => ?_⟩
    have empty := clear.slots _ occupied (by omega)
    rw [word] at empty
    exact treeField_null notData (by rw [slot, kept s'' agrees, empty])
  · rw [drawField_slot notData absent] at done
    obtain ⟨drawn, drawing, rfl⟩ := Fallible.map_eq_ok.1 done
    have set : (s.put (MessageBuilder.pointerWordIndex structWord (schema get).dataWordCount offset)
        drawn).slots
        (structWord + (schema get).dataWordCount + offset) = drawn.1 := Sketch.put_slots_self _ _ _
    have others (below : drawn.1.Sound) (w : ℕ) :
        ((s.put (MessageBuilder.pointerWordIndex structWord (schema get).dataWordCount offset)
          drawn).slots w).Sound := by
      by_cases here : w = MessageBuilder.pointerWordIndex structWord
        (schema get).dataWordCount offset
      · rw [here, Sketch.put_slots_self]
        exact below
      · rw [Sketch.put_slots_of_ne _ _ here]
        exact sound w
    cases result with
    | none =>
      have empty := (null.1 rfl).drawn drawing
      refine ⟨others (by rw [empty]; exact .null), 0, fun m _ s'' _ agrees => ?_⟩
      exact treeField_null notData (by rw [slot, kept s'' agrees, set, empty])
    | some value' =>
      obtain ⟨below, nullish, n, read⟩ := back value' rfl stack _ _ drawn drawing
      refine ⟨others below, n, fun m more s'' _ agrees => ?_⟩
      have present : drawn.1 ≠ .null := fun empty => by cases null.2 (nullish.1 empty)
      rw [treeField_pointer notData (by rw [slot, kept s'' agrees, set]) present, read m more]
      rfl

theorem active_empty (get : ι) :
    resolveActiveDiscriminant (schema get) [] = (schema get).union.map fun _ => 0 := by
  rw [resolveActiveDiscriminant_eq]
  cases known : (schema get).union with
  | none => rfl
  | some union =>
    have absent : (schema get).fields.findSome? (presentMember []) = none := by
      refine List.findSome?_eq_none_iff.2 fun field _ => ?_
      unfold presentMember
      cases field.discriminantValue <;> rfl
    rw [Option.map_some, Option.map_some, absent]
    exact congrArg some (proper.first get union known)

omit proper in
/-- Zeros written over zeros. -/
theorem setBytes_zero {b : MessageBuilder} {place w : ℕ} {context : String}
    (fits : place + w ≤ 8 * b.words) (zero : ∀ i < 8 * w, bitAt b.bytes (8 * place + i) = false) :
    b.setBytes place (MessageBuilder.lowBytes w 0) context = .ok b := by
  have number : readLE b.bytes place w = 0 := by
    apply Nat.eq_of_testBit_eq
    intro i
    rw [testBit_readLE, Nat.zero_testBit]
    by_cases low : i < 8 * w
    · rw [zero i low, Bool.and_false]
    · rw [decide_eq_false low, Bool.false_and]
  have same : toLE w 0 = slice b.bytes place w := by
    rw [← number, toLE_readLE (b.size ▸ fits)]
  have size : (toLE w 0).length = w := length_toLE w 0
  rw [show MessageBuilder.lowBytes w 0 = toLE w 0 from lowBytes_natCast w 0]
  unfold MessageBuilder.setBytes
  rw [dif_pos (by rwa [size])]
  refine congrArg Except.ok (MessageBuilder.ext_bytes (List.ext_getElem? fun i => ?_))
  show (splice b.bytes place (toLE w 0))[i]? = _
  rw [getElem?_splice (by rwa [size, b.size]), size]
  split_ifs with inside
  · rw [same, getElem?_slice, if_pos (by omega), Nat.add_sub_cancel' inside.1]
  · rfl

/-- An empty record leaves an empty struct as it is. -/
theorem drawStruct_empty {s : Sketch}
    (clear : Clear s structWord (schema get).dataWordCount (structBits schema get))
    (room : structWord + ((schema get).dataWordCount + (schema get).pointerCount) ≤ s.block.words) :
    drawStruct schema 1 s get structWord (.object []) = .ok s := by
  have tagged : encodeDiscriminant s.block (schema get) structWord
      (resolveActiveDiscriminant (schema get) []) =
      .ok s.block := by
    rw [active_empty proper]
    unfold encodeDiscriminant
    cases known : (schema get).union with
    | none => rfl
    | some union =>
      have low := (proper.wellFormed.unions get union known).1
      apply setBytes_zero
      · rw [WORD_BYTES]
        omega
      · intro i small
        have bit : 16 * union.discriminantOffset + i ∈ structBits schema get :=
          .inl (by rw [discriminantBits, known]; exact ⟨by omega, by omega⟩)
        rw [← clear.block _ bit, WORD_BYTES]
        congr 1
        ring
  have idle (l : List (FieldDescriptor ι)) : l.foldlM (fun s field =>
      if isInactive field (resolveActiveDiscriminant (schema get) []) then pure s
      else drawField schema (drawStruct schema 0)
        (schema get) structWord s field (getProp [] field.name)) s =
        (.ok s : Except Thrown Sketch) := by
    induction l with
    | nil => rfl
    | cons field l ih =>
      rw [List.foldlM_cons]
      split_ifs <;> exact ih
  exact (congrArg (· >>= _) tagged).trans (idle (schema get).fields)

theorem fieldBack_group {get' : ι} {record' : Record}
    (mem : .group name get' d ∈ (schema get).fields)
    (back : StructBack schema get' (asRecord value) record') :
    FieldBack schema get structWord stack (.group name get' d) value (some (.object record')) := by
  intro s s' clear room sound done
  obtain ⟨data, pointers⟩ := proper.wellFormed.groups get name get' d mem
  have sub : structBits schema get' ⊆ {k | Occupies schema get (.group name get' d) k} := by
    rintro k (bit | ⟨field, mem', bit⟩)
    · exact .discriminant bit
    · exact .member mem' bit
  have clear' : Clear s structWord (schema get').dataWordCount (structBits schema get') :=
    data ▸ clear.mono sub
  have room' : structWord + ((schema get').dataWordCount + (schema get').pointerCount) ≤
      s.block.words := by
    rw [data, pointers]
    exact room
  -- an absent group is drawn like an empty one
  obtain ⟨stack', run⟩ : ∃ stack', drawStruct schema stack' s get' structWord
      (.object (asRecord value)) = .ok s' := by
    by_cases absent : value = .undefined
    · subst absent
      cases done
      exact ⟨1, drawStruct_empty proper clear' room'⟩
    · rw [drawField_group absent] at done
      exact ⟨stack, done⟩
  obtain ⟨sound', n, read⟩ := back stack' structWord s s' clear' room' sound run
  refine ⟨sound', n, fun m more s'' same agrees => ?_⟩
  have view : s''.view structWord (schema get) = s''.view structWord (schema get') := by
    unfold Sketch.view
    rw [data, pointers]
  have agrees' := agrees.mono sub
  rw [← data] at agrees'
  show (fun record => some (Value.object record)) <$> treeStruct schema m get' _ = _
  rw [view, read m more s'' same agrees']
  rfl

/-- What is drawn at other bits leaves the places of a field as they are. -/
theorem agrees_of_apart {field : FieldDescriptor ι} {s s' : Sketch} {bits : Set ℕ}
    (mem : field ∈ (schema get).fields) (redraws : Redraws s s' structWord bits)
    (outside : OutsideKept s.block s'.block structWord bits)
    (apart : ∀ k, Occupies schema get field k → k ∉ bits) :
    Agrees s s' structWord (schema get).dataWordCount {k | Occupies schema get field k} := by
  constructor
  · intro k bit
    apply outside
    intro j mem' place
    obtain rfl : j = k := by omega
    exact apart j bit mem'
  · intro k bit behind
    apply redraws.slots
    intro j mem' place
    exact apart j (occupies_word proper.wellFormed proper.inside bit mem behind (by omega)) mem'

variable {record out : Record}

/-- Another active field leaves the places of a field as they are. -/
theorem agrees_drawField {field other : FieldDescriptor ι} {s s' : Sketch}
    (mem : field ∈ (schema get).fields) (mem' : other ∈ (schema get).fields)
    (different : field ≠ other)
    (active : isInactive field (resolveActiveDiscriminant (schema get) record) = false)
    (active' : isInactive other (resolveActiveDiscriminant (schema get) record) = false)
    (done : drawField schema (drawStruct schema stack) (schema get) structWord s other value =
      .ok s') :
    Agrees s s' structWord (schema get).dataWordCount {k | Occupies schema get field k} := by
  apply agrees_of_apart proper mem (redraws_drawField (fun _ _ _ _ _ => redraws_drawStruct) done)
    (outsideKept_drawField proper.voidsPlain (fun _ _ _ _ _ =>
      outsideKept_drawStruct proper.voidsPlain) mem' done)
  apply proper.wellFormed.apart get field mem other mem' different
  apply proper.wellFormed.together mem mem' active active'
  intro none
  rw [resolveActiveDiscriminant_eq, Option.map_eq_none_iff] at none
  exact none

/-- The loop over the fields: each field is read from the sketch that the loop ends with. -/
theorem fields_back {results : FieldDescriptor ι → Option Value}
    (each : ∀ field ∈ (schema get).fields,
      isInactive field (resolveActiveDiscriminant (schema get) record) = false →
        FieldBack schema get structWord stack field (getProp record field.name) (results field))
    {l : List (FieldDescriptor ι)} (sub : l ⊆ (schema get).fields) (nodup : l.Nodup) {s s' : Sketch}
    (clear : ∀ field ∈ l, isInactive field (resolveActiveDiscriminant (schema get) record) = false →
      Clear s structWord (schema get).dataWordCount {k | Occupies schema get field k})
    (room : structWord + ((schema get).dataWordCount + (schema get).pointerCount) ≤ s.block.words)
    (sound : ∀ w, (s.slots w).Sound)
    (run : l.foldlM (fun s field =>
      if isInactive field (resolveActiveDiscriminant (schema get) record) then pure s
      else drawField schema (drawStruct schema stack)
        (schema get) structWord s field (getProp record field.name)) s =
        .ok s') :
    (∀ w, (s'.slots w).Sound) ∧ ∀ field ∈ l,
      isInactive field (resolveActiveDiscriminant (schema get) record) = false →
        ∃ n, ∀ m ≥ n, ∀ s'' : Sketch, s''.block.words = s.block.words →
          Agrees s' s'' structWord (schema get).dataWordCount {k | Occupies schema get field k} →
            treeField (treeDefault schema m) (treeStruct schema m)
            (s''.view structWord (schema get)) field = some (results field) := by
  induction l generalizing s with
  | nil =>
    cases run
    exact ⟨sound, by simp⟩
  | cons field l ih =>
    rw [List.foldlM_cons] at run
    obtain ⟨t, first, rest⟩ := Fallible.bind_eq_ok.1 run
    obtain ⟨free, nodup⟩ := List.nodup_cons.1 nodup
    have mem : field ∈ (schema get).fields := sub List.mem_cons_self
    have sub' : l ⊆ (schema get).fields := fun other later => sub (List.mem_cons_of_mem field later)
    split_ifs at first with inactive
    · cases first
      obtain ⟨sound', reads⟩ :=
        ih sub' nodup (fun other later => clear other (List.mem_cons_of_mem field later)) room
        sound rest
      refine ⟨sound', fun other mem' active => ?_⟩
      obtain rfl | later := List.mem_cons.1 mem'
      · rw [inactive] at active
        cases active
      · exact reads other later active
    · have active := Bool.eq_false_iff.2 inactive
      obtain ⟨below, n, read⟩ :=
        each field mem active s t (clear field List.mem_cons_self active) room sound first
      have size : t.block.words = s.block.words :=
        (redraws_drawField (fun _ _ _ _ _ => redraws_drawStruct) first).size
      obtain ⟨sound', reads⟩ := ih sub' nodup (fun other later active' =>
        (clear other (List.mem_cons_of_mem field later) active').kept
          (agrees_drawField proper (sub' later) mem
          (fun same => free (same ▸ later)) active' active first)) (size ▸ room) below rest
      refine ⟨sound', fun other mem' active' => ?_⟩
      obtain rfl | later := List.mem_cons.1 mem'
      · -- the fields behind it leave its places alone
        have kept : Agrees t s' structWord (schema get).dataWordCount
            {k | Occupies schema get other k} := by
          apply Fallible.foldlM_keeps (fun u => Agrees t u structWord (schema get).dataWordCount
            {k | Occupies schema get other k}) (.refl _ _ _ _) rest
          intro u next later u' sofar step
          apply sofar.trans
          split_ifs at step with passed
          · cases step
            exact .refl _ _ _ _
          · exact agrees_drawField proper mem (sub' later) (fun same => free (same ▸ later)) active'
              (Bool.eq_false_iff.2 passed) step
        exact ⟨n, fun m more s'' same agrees => read m more s'' same (kept.trans agrees)⟩
      · obtain ⟨n', read'⟩ := reads other later active'
        exact ⟨n', fun m more s'' same => read' m more s'' (same.trans size.symm)⟩

/-- The discriminant of a struct is read back. -/
theorem treeDiscriminant_view {s : Sketch}
    (tag : ∀ d, resolveActiveDiscriminant (schema get) record = some d → d < 2 ^ 16)
    (room : structWord + ((schema get).dataWordCount + (schema get).pointerCount) ≤ s.block.words)
    (bits : ∀ union d, (schema get).union = some union →
      resolveActiveDiscriminant (schema get) record = some d →
      ∀ i < 16, bitAt s.block.bytes (64 * structWord + 16 * union.discriminantOffset + i) =
        d.testBit i) :
    treeDiscriminant (schema get) (s.view structWord (schema get)).data =
      resolveActiveDiscriminant (schema get) record := by
  cases known : (schema get).union with
  | none =>
    rw [treeDiscriminant, resolveActiveDiscriminant_eq, known, Option.map_none, Option.map_none]
  | some union =>
    obtain ⟨d, active⟩ : ∃ d, resolveActiveDiscriminant (schema get) record = some d := by
      rw [resolveActiveDiscriminant_eq, known]
      exact ⟨_, rfl⟩
    have low := (proper.wellFormed.unions get union known).1
    have read : readLE (s.view structWord (schema get)).data (union.discriminantOffset * 2) 2 =
        d := by
      apply Nat.eq_of_testBit_eq
      intro i
      rw [testBit_readLE]
      by_cases inside : i < 16
      · rw [decide_eq_true (by omega), Bool.true_and,
          bitAt_view _ _ _ (by omega), ← bits union d known active i inside]
        congr 1
        ring
      · rw [decide_eq_false (by omega), Bool.false_and]
        exact (Nat.testBit_lt_two_pow
          ((tag d active).trans_le (Nat.pow_le_pow_right (by decide) (by omega)))).symm
    rw [treeDiscriminant, known, active, Option.map_some, if_neg, read]
    rw [length_view room]
    omega

/-- A struct is read back when its active fields are. -/
theorem structBack {results : FieldDescriptor ι → Option Value}
    (made : ∃ stack, schema.createDefault stack get = .ok out)
    (tag : ∀ d, resolveActiveDiscriminant (schema get) record = some d → d < 2 ^ 16)
    (each : ∀ structWord stack, ∀ field ∈ (schema get).fields,
      isInactive field (resolveActiveDiscriminant (schema get) record) = false →
        FieldBack schema get structWord stack field (getProp record field.name) (results field)) :
    StructBack schema get record
      (filledRecord (schema get) out (resolveActiveDiscriminant (schema get) record) results) := by
  intro stack structWord s s' clear room sound done
  cases stack with
  | zero => cases done
  | succ stack =>
    obtain ⟨block, tagged, run⟩ := Fallible.bind_eq_ok.1 done
    obtain ⟨outside, written⟩ := encodeDiscriminant_spec tagged
    have write := scalarWrite_encodeDiscriminant (schema get)
      (resolveActiveDiscriminant (schema get) record)
    have words : (s.write block).block.words = s.block.words := write.words tagged
    have start (field) (mem : field ∈ (schema get).fields) :
        Clear (s.write block) structWord (schema get).dataWordCount
        {k | Occupies schema get field k} :=
      (clear.mono fun k bit => .inr ⟨field, mem, bit⟩).kept (agrees_of_apart proper mem
        (Redraws.write (write.words tagged) (write.grows tagged)) outside
        fun k bit tag => proper.wellFormed.tagged get field mem k tag bit)
    obtain ⟨sound', reads⟩ := fields_back proper (each structWord stack) (List.Subset.refl _)
      (List.Nodup.of_map _ (proper.wellFormed.names get)) (fun field mem _ => start field mem)
      (words ▸ room) sound run
    have size : s'.block.words = s.block.words := (redraws_drawStruct done).size
    obtain ⟨n, read⟩ : ∃ n, ∀ m ≥ n, ∀ field ∈ (schema get).fields,
        isInactive field (resolveActiveDiscriminant (schema get) record) = false →
          ∀ s'' : Sketch, s''.block.words = (s.write block).block.words →
            Agrees s' s'' structWord (schema get).dataWordCount {k | Occupies schema get field k} →
              treeField (treeDefault schema m) (treeStruct schema m)
              (s''.view structWord (schema get)) field = some (results field) := by
      apply exists_bound
      intro field mem
      by_cases active : isInactive field (resolveActiveDiscriminant (schema get) record) = false
      · obtain ⟨n, read⟩ := reads field mem active
        exact ⟨n, fun m more _ => read m more⟩
      · exact ⟨0, fun m _ inactive => absurd inactive active⟩
    obtain ⟨n', made⟩ := made
    refine ⟨sound', max n n' + 1, fun m more s'' same agrees => ?_⟩
    obtain ⟨m, rfl⟩ : ∃ m', m = m' + 1 := ⟨m - 1, by omega⟩
    have default : treeDefault schema m get = some out :=
      Fallible.toOption_eq_some.2 ((schema get).createDefault.ok_of_le (by omega) made)
    have fields : OutsideKept block s'.block structWord {k | ∃ field ∈ (schema get).fields,
        Occupies schema get field k} := by
      apply Fallible.foldlM_keeps (fun t => OutsideKept block t.block structWord
        {k | ∃ field ∈ (schema get).fields, Occupies schema get field k}) (.refl _ _ _) run
      intro t field mem t' sofar step
      apply sofar.trans
      split_ifs at step
      · cases step
        exact .refl _ _ _
      · exact (outsideKept_drawField proper.voidsPlain (fun _ _ _ _ _ =>
          outsideKept_drawStruct proper.voidsPlain) mem
          step).mono fun k bit => ⟨field, mem, bit⟩
    have discriminant :=
      treeDiscriminant_view proper tag (same ▸ room) fun union d known active i low => by
      have bit : 16 * union.discriminantOffset + i ∈ discriminantBits (schema get) := by
        rw [discriminantBits, known]
        exact ⟨by omega, by omega⟩
      rw [Nat.add_assoc, agrees.block _ (.inl bit), fields _ ?_, ← Nat.add_assoc,
        written union d known active i low]
      rintro j ⟨field, mem, occupied⟩ place
      obtain rfl : j = 16 * union.discriminantOffset + i := by omega
      exact proper.wellFormed.tagged get field mem _ bit occupied
    unfold treeStruct
    dsimp only
    rw [default, discriminant]
    apply foldlM_eq_some
    intro record field mem
    split_ifs with inactive
    · rfl
    · rw [read m (by omega) field mem (Bool.eq_false_iff.2 inactive) s'' (same.trans words.symm)
        (agrees.mono fun k bit => .inr ⟨field, mem, bit⟩)]
      rfl

end Fields

end CapnpDeno
