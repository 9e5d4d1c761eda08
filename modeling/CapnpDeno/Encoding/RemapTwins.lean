import CapnpDeno.Encoding.FieldPlaces

/-!
# Remapped values

`remapCapabilityIndices` turns absent structs, lists and groups into empty ones.  Where a value has
no such part (`Absent`), the walk draws the same tree as before but for the indices of capabilities
(`structTwins`).
-/

namespace CapnpDeno

open ByteList

variable {ι : Type} {schema : Schema ι} {mapping : IndexMap}

/-! ## Absent parts -/

/-- The elements of the lists that the walk goes through. -/
def isWalked : TypeDescriptor ι → Bool
  | .struct _ | .interface | .anyPointer => true
  | _ => false

/-- Somewhere in the record an active field is absent, and the walk puts something there that can be
seen: an empty struct or list, or the tag of a group. -/
inductive Absent (schema : Schema ι) : ι → Record → Prop
  | struct {get record name offset get' mask d}
      (mem : .slot name offset (.struct get') mask d ∈ (schema get).fields)
      (active : isInactive (.slot name offset (.struct get') mask d : FieldDescriptor ι)
        (resolveActiveDiscriminant (schema get) record) = false)
      (absent : isNullish (getProp record name) = true) : Absent schema get record
  | list {get record name offset element mask d}
      (mem : .slot name offset (.list element) mask d ∈ (schema get).fields)
      (active : isInactive (.slot name offset (.list element) mask d : FieldDescriptor ι)
        (resolveActiveDiscriminant (schema get) record) = false)
      (walked : isWalked element = true) (absent : isNullish (getProp record name) = true) :
      Absent schema get record
  | tag {get record name get' d union}
      (mem : .group name get' d ∈ (schema get).fields)
      (active : isInactive (.group name get' d)
        (resolveActiveDiscriminant (schema get) record) = false)
      (absent : getProp record name = .undefined) (tagged : (schema get').union = some union)
      (other : union.defaultDiscriminant % 2 ^ 16 ≠ 0) : Absent schema get record
  | inStruct {get record name offset get' mask d}
      (mem : .slot name offset (.struct get') mask d ∈ (schema get).fields)
      (active : isInactive (.slot name offset (.struct get') mask d : FieldDescriptor ι)
        (resolveActiveDiscriminant (schema get) record) = false)
      (present : isNullish (getProp record name) = false)
      (inner : Absent schema get' (asRecord (getProp record name))) : Absent schema get record
  | inList {get record name offset get' mask d i item}
      (mem : .slot name offset (.list (.struct get')) mask d ∈ (schema get).fields)
      (active : isInactive (.slot name offset (.list (.struct get')) mask d : FieldDescriptor ι)
        (resolveActiveDiscriminant (schema get) record) = false)
      (present : isNullish (getProp record name) = false)
      (known : (asArray (getProp record name))[i]? = some item)
      (seen : i < (asArray (getProp record name)).length % 2 ^ 30)
      (inner : Absent schema get' (asRecord item)) : Absent schema get record
  | inGroup {get record name get' d}
      (mem : .group name get' d ∈ (schema get).fields)
      (active : isInactive (.group name get' d)
        (resolveActiveDiscriminant (schema get) record) = false)
      (inner : Absent schema get' (asRecord (getProp record name))) : Absent schema get record

/-- A struct value, and the same again or what the walk makes of it where nothing is absent. -/
inductive Remapped (schema : Schema ι) (mapping : IndexMap) (get : ι) : Value → Value → Prop
  | same (value : Value) : Remapped schema mapping get value value
  | walk {n : ℕ} {value value' : Value} (done : remapCapabilityIndices schema mapping n get value =
      .ok value') (present : ¬ Absent schema get (asRecord value)) :
      Remapped schema mapping get value value'

/-- The walk sees no more of a value than its properties. -/
theorem remapCapabilityIndices_asRecord (n : ℕ) (get : ι) (value : Value) :
    remapCapabilityIndices schema mapping n get (.object (asRecord value)) =
      remapCapabilityIndices schema mapping n get value := by
  cases n with
  | zero => rfl
  | succ n => rfl

/-- The active member stays. -/
theorem resolveActiveDiscriminant_remap (wf : schema.WellFormed) {n : ℕ} {get : ι}
    {value value' : Value} (done : remapCapabilityIndices schema mapping n get value = .ok value') :
    resolveActiveDiscriminant (schema get) (asRecord value') =
      resolveActiveDiscriminant (schema get) (asRecord value) := by
  cases n with
  | zero => cases done
  | succ n =>
    obtain ⟨out, run, rfl⟩ := Fallible.map_eq_ok.1 done
    apply Rewritten.active wf
    apply Fallible.foldlM_keeps
      (f := rewriteStep (remapInterface mapping) (remapAnyPointer mapping)
        (remapCapabilityIndices schema mapping n)
        (schema get) (asRecord value))
      (fun t => Rewritten (schema get) (asRecord value) t) ⟨fun _ _ => rfl, fun _ _ there =>
        there⟩ run
    exact fun t field mem t' sofar next =>
      sofar.step (remapInterface_present mapping) (remapAnyPointer_present mapping) mem next

/-! ## Fields side by side -/

/-- A field with two values is drawn side by side. -/
def FieldTwins (schema : Schema ι) (stack : ℕ) (get : ι) (structWord : ℕ)
    (field : FieldDescriptor ι) (value value' : Value) : Prop :=
  ∀ s s' s₁ s₁', Twin s s' → Pristine schema get structWord field s →
    (∀ w < (schema get).dataWordCount + (schema get).pointerCount, structWord + w < s.block.words) →
      drawField schema (drawStruct schema stack) (schema get) structWord s field value = .ok s₁ →
        drawField schema (drawStruct schema stack) (schema get) structWord s' field value' =
        .ok s₁' → Twin s₁ s₁'

/-- Structs on a stack are drawn side by side. -/
def StructTwins (schema : Schema ι) (mapping : IndexMap) (stack : ℕ) : Prop :=
  ∀ get value value' structWord s s' s₁ s₁', Remapped schema mapping get value value' → Twin s s' →
    (∀ field ∈ (schema get).fields, Pristine schema get structWord field s) →
      (∀ w < (schema get).dataWordCount + (schema get).pointerCount, structWord + w <
        s.block.words) →
        drawStruct schema stack s get structWord value = .ok s₁ →
          drawStruct schema stack s' get structWord value' = .ok s₁' → Twin s₁ s₁'

section Fields

variable (wf : schema.WellFormed) (inside : schema.DataInside) {stack : ℕ} {get : ι}
  {structWord : ℕ}
include wf inside

theorem StructTwins.paired (structs : StructTwins schema mapping stack) :
    DrawsTwins schema (drawStruct schema stack) (Remapped schema mapping) := by
  refine ⟨fun _ _ _ _ _ => redraws_drawStruct, ?_, fun _ => .same⟩
  intro get value value' structWord s s' s₁ s₁' pair twin blank done done'
  apply structs get value value' structWord s s' s₁ s₁' pair twin _ _ done done'
  · exact fun field mem => pristine_of_blank wf inside mem blank
  · intro w low
    have found := blank.bytes (8 * (structWord + w)) (by omega) (by omega)
    obtain ⟨low', -⟩ := List.getElem?_eq_some_iff.1 found
    rw [s.block.size] at low'
    omega

omit inside in
/-- A pointer field that is drawn alike. -/
theorem fieldTwins_slot {name : String} {offset mask : ℕ} {type : TypeDescriptor ι} {d : Option ℕ}
    {value value' : Value} (mem : .slot name offset type mask d ∈ (schema get).fields)
    (pointer : ¬ isDataType type = true) (present : value ≠ .undefined)
    (present' : value' ≠ .undefined)
    (alike : DrawnAlike schema (drawStruct schema stack) type value value') :
    FieldTwins schema stack get structWord (.slot name offset type mask d) value value' := by
  intro s s' s₁ s₁' twin _ room done done'
  have few := wf.pointers get name offset type mask d mem (by simpa [isPointerType] using pointer)
  rw [drawField_slot pointer present] at done
  rw [drawField_slot pointer present'] at done'
  obtain ⟨drawn, found, rfl⟩ := Fallible.map_eq_ok.1 done
  obtain ⟨drawn', found', rfl⟩ := Fallible.map_eq_ok.1 done'
  have low := room ((schema get).dataWordCount + offset) (by omega)
  rw [← Nat.add_assoc] at low
  exact twin.put (alike _ _ _ _ _ _ (twin.level low) found found')

theorem fieldTwins_same (structs : StructTwins schema mapping stack) {field : FieldDescriptor ι}
    (mem : field ∈ (schema get).fields) (value : Value) :
    FieldTwins schema stack get structWord field value value := by
  by_cases absent : value = .undefined
  · subst absent
    intro s s' s₁ s₁' twin _ _ done done'
    cases done
    cases done'
    exact twin
  cases field with
  | group name get' d =>
    intro s s' s₁ s₁' twin pristine room done done'
    rw [drawField_group absent] at done done'
    apply structs _ _ _ _ _ _ _ _ (.same _) twin _ _ done done'
    · exact fun field mem' => pristine.member wf mem mem'
    · have sizes := wf.groups get name get' d mem
      rwa [sizes.1, sizes.2]
  | slot name offset type mask d =>
    by_cases scalar : isDataType type = true
    · intro s s' s₁ s₁' twin _ _ done done'
      rw [drawField_data scalar absent] at done done'
      obtain ⟨block, written, rfl⟩ := Fallible.map_eq_ok.1 done
      obtain ⟨block', written', rfl⟩ := Fallible.map_eq_ok.1 done'
      rw [twin.block] at written'
      cases written.symm.trans written'
      exact twin.write
        ((scalarWrite_encodeDataField scalar (schema get).dataWordCount offset value mask).words
          written)
    · exact fieldTwins_slot wf mem scalar absent absent
        (drawnAlike_same (structs.paired wf inside)
          (inside_of_wellFormed wf inside) wf.sizes type value)

omit wf inside in
theorem capabilityIndexFrom_some {value : Value} {index : ℕ}
    (denotes : capabilityIndexFrom value = .ok (some index)) :
    isNullish value = false := by
  cases value with
  | undefined => cases denotes
  | null => cases denotes
  | _ => rfl

omit wf inside in
theorem indexOfNumber_some {x : JsNumber} {index : Option ℕ}
    (denotes : indexOfNumber x = .ok index) :
    ∃ i, index = some i := by
  unfold indexOfNumber at denotes
  split_ifs at denotes
  cases denotes
  exact ⟨_, rfl⟩

/-- A capability with another index is drawn alike. -/
theorem drawnAlike_remapInterface (structs : StructTwins schema mapping stack) {value : Value}
    {value' : Option Value} (done : remapInterface mapping value = .ok value') :
    DrawnAlike schema (drawStruct schema stack) .interface value (value'.getD value) := by
  obtain ⟨index, denotes, rfl⟩ := Fallible.map_eq_ok.1 done
  cases found : index.bind mapping.get with
  | none =>
    exact drawnAlike_same (structs.paired wf inside)
      (inside_of_wellFormed wf inside) wf.sizes _ value
  | some mapped =>
    obtain ⟨index, rfl, -⟩ := Option.bind_eq_some_iff.1 found
    intro pointerWord words pointerWord' words' drawn drawn' _ done done'
    have same : isNullish (capabilityPointer mapped) = isNullish value :=
      (capabilityIndexFrom_some denotes).symm
    apply alike_unless_nullish same done done'
    intro done done'
    rw [denotes] at done
    obtain ⟨index', denotes', done'⟩ := Fallible.bind_eq_ok.1 done'
    obtain ⟨index', rfl⟩ := indexOfNumber_some denotes'
    exact alike_capability done done'

theorem drawnAlike_remapAnyPointer (structs : StructTwins schema mapping stack) {value : Value}
    {value' : Option Value} (done : remapAnyPointer mapping value = .ok value') :
    DrawnAlike schema (drawStruct schema stack) .anyPointer value (value'.getD value) := by
  obtain ⟨pointer, denotes, rfl⟩ := Fallible.map_eq_ok.1 done
  cases found : pointer.index.bind mapping.get with
  | none =>
    exact drawnAlike_same (structs.paired wf inside)
      (inside_of_wellFormed wf inside) wf.sizes _ value
  | some mapped =>
    obtain ⟨index, held, -⟩ := Option.bind_eq_some_iff.1 found
    cases pointer with
    | null => cases held
    | message message => cases held
    | interface index' =>
      have same : isNullish (interfacePointer mapped) = isNullish value := by
        cases value with
        | undefined => cases denotes
        | null => cases denotes
        | _ => rfl
      intro pointerWord words pointerWord' words' drawn drawn' _ done done'
      apply alike_unless_nullish same done done'
      intro done done'
      rw [denotes] at done
      obtain ⟨pointer, denotes', done'⟩ := Fallible.bind_eq_ok.1 done'
      obtain ⟨index'', number, rfl⟩ := Fallible.map_eq_ok.1 denotes'
      obtain ⟨i, rfl⟩ := indexOfNumber_some number
      exact alike_capability done done'

omit wf inside in
/-- A list of pointers whose elements are drawn alike. -/
theorem drawnAlike_pointerList {element : TypeDescriptor ι} {value value' : Value}
    (same : isNullish value' = isNullish value) (pointers : isPointerType element = true)
    (notStruct : ∀ get, element ≠ .struct get)
    (alike : List.Forall₂ (DrawnAlike schema (drawStruct schema stack) element) (asArray value)
      (asArray value')) :
    DrawnAlike schema (drawStruct schema stack) (.list element) value value' := by
  intro pointerWord words pointerWord' words' drawn drawn' _ done done'
  apply alike_unless_nullish same done done'
  intro done done'
  unfold drawListField at done done'
  split at done
  · cases pointers
  · exact absurd rfl (notStruct _)
  split at done'
  · cases pointers
  · exact absurd rfl (notStruct _)
  rw [if_pos pointers] at done done'
  obtain ⟨s, run, found⟩ := Fallible.bind_eq_ok.1 done
  obtain ⟨s', run', found'⟩ := Fallible.bind_eq_ok.1 done'
  cases found
  cases found'
  exact alike_pointerList alike run run'

/-- A list of structs whose visible elements are drawn side by side. -/
theorem drawnAlike_structList (structs : StructTwins schema mapping stack) {get' : ι}
    {value value' : Value} (same : isNullish value' = isNullish value)
    (size : (asArray value).length = (asArray value').length)
    (pairs : List.Forall₂ (Remapped schema mapping get')
      ((asArray value).take ((asArray value).length % 2 ^ 30))
        ((asArray value').take ((asArray value).length % 2 ^ 30))) :
    DrawnAlike schema (drawStruct schema stack) (.list (.struct get')) value value' := by
  intro pointerWord words pointerWord' words' drawn drawn' _ done done'
  apply alike_unless_nullish same done done'
  exact alike_structList (structs.paired wf inside)
    (inside_of_wellFormed wf inside) wf.sizes size pairs

/-! ## Empty structs -/

omit wf inside in
theorem resolveActiveDiscriminant_nil (descriptor : StructDescriptor ι) :
    resolveActiveDiscriminant descriptor [] =
      descriptor.union.map StructUnionDescriptor.defaultDiscriminant := by
  have none : descriptor.fields.findSome? (presentMember []) = none := by
    rw [List.findSome?_eq_none_iff]
    intro field _
    unfold presentMember
    split
    · rfl
    · exact if_neg Bool.noConfusion
  rw [resolveActiveDiscriminant_eq, none]
  rfl

omit wf inside in
/-- Of a record without properties only the tag is drawn. -/
theorem drawStruct_nothing (s : Sketch) (get : ι) (structWord : ℕ) :
    drawStruct schema (stack + 1) s get structWord (.object []) =
      (s.write <$> encodeDiscriminant s.block (schema get) structWord
        ((schema get).union.map StructUnionDescriptor.defaultDiscriminant)) := by
  have fields : ∀ (l : List (FieldDescriptor ι)) (s : Sketch), l.foldlM (fun s field =>
      if isInactive field (resolveActiveDiscriminant (schema get) []) then pure s
      else drawField schema (drawStruct schema stack)
        (schema get) structWord s field (getProp [] field.name)) s =
        .ok s := by
    intro l s
    induction l with
    | nil => rfl
    | cons field l ih =>
      have idle : (if isInactive field (resolveActiveDiscriminant (schema get) []) then pure s
          else drawField schema (drawStruct schema stack)
            (schema get) structWord s field (getProp [] field.name)) =
            .ok s := ite_self _
      rw [List.foldlM_cons, idle]
      exact ih
  show (encodeDiscriminant s.block (schema get) structWord (resolveActiveDiscriminant (schema get)
    []) >>= _) = _
  rw [resolveActiveDiscriminant_nil]
  cases encodeDiscriminant s.block (schema get) structWord
    ((schema get).union.map StructUnionDescriptor.defaultDiscriminant) with
  | error e => rfl
  | ok block => exact fields _ _

omit inside in
/-- The tag of a struct has its place. -/
theorem encodeDiscriminant_ok {b : MessageBuilder} (active : Option ℕ)
    (room : ∀ w < (schema get).dataWordCount + (schema get).pointerCount, structWord + w <
      b.words) :
    ∃ b', encodeDiscriminant b (schema get) structWord active = .ok b' := by
  unfold encodeDiscriminant
  split
  · rename_i union active tagged
    have low := (wf.unions get union tagged).1
    have last := room ((schema get).dataWordCount - 1) (by omega)
    refine ⟨_, dif_pos ?_⟩
    rw [MessageBuilder.lowBytes, length_toLE, WORD_BYTES]
    omega
  · exact ⟨b, rfl⟩

omit wf inside in
/-- A zero tag is written over zeros. -/
theorem encodeDiscriminant_zero {b b' : MessageBuilder}
    (zero : ∀ union, (schema get).union = some union → union.defaultDiscriminant % 2 ^ 16 = 0)
    (blank : ∀ k ∈ discriminantBits (schema get), b.bytes[8 * structWord + k / 8]? = some 0)
    (done : encodeDiscriminant b (schema get) structWord
      ((schema get).union.map StructUnionDescriptor.defaultDiscriminant) = .ok b') : b' = b := by
  unfold encodeDiscriminant at done
  cases tagged : (schema get).union with
  | none =>
    rw [tagged] at done
    cases done
    rfl
  | some union =>
    rw [tagged] at done
    have none := zero union tagged
    unfold discriminantBits at blank
    rw [tagged] at blank
    have bytes : MessageBuilder.lowBytes 2 (union.defaultDiscriminant : ℤ) = [0, 0] := by
      have low : ((union.defaultDiscriminant : ℤ) % (256 ^ 2 : ℕ)).toNat = 0 := by omega
      rw [MessageBuilder.lowBytes, low]
      rfl
    have done : b.setBytes (structWord * WORD_BYTES + union.discriminantOffset * 2)
        (MessageBuilder.lowBytes 2 (union.defaultDiscriminant : ℤ)) "writeUint16" = .ok b' := done
    rw [bytes] at done
    unfold MessageBuilder.setBytes at done
    split_ifs at done with fits
    cases done
    apply MessageBuilder.ext_bytes
    show splice b.bytes _ [0, 0] = b.bytes
    apply List.ext_getElem?
    intro i
    rw [getElem?_splice (by rw [b.size]; exact fits), WORD_BYTES]
    split_ifs with here
    · obtain ⟨low, high⟩ := here
      have high : i < structWord * 8 + union.discriminantOffset * 2 + 2 := high
      have zero := blank (8 * (i - 8 * structWord)) ⟨by omega, by omega⟩
      rw [show 8 * structWord + 8 * (i - 8 * structWord) / 8 = i by omega] at zero
      rw [zero]
      obtain same | same : i - (structWord * 8 + union.discriminantOffset * 2) = 0 ∨
          i - (structWord * 8 + union.discriminantOffset * 2) = 1 := by omega
      · rw [same]
        rfl
      · rw [same]
        rfl
    · rfl

/-! ## The walk, field by field -/

omit wf inside in
theorem getD_present {rewrite : Rewrite} (presents : rewrite.Present) {value : Value}
    {value' : Option Value} (done : rewrite value = .ok value') (present : value ≠ .undefined) :
    value'.getD value ≠ .undefined := by
  cases value' with
  | none => exact present
  | some value' => exact presents value value' done

omit wf inside in
theorem ne_undefined {value : Value} (present : isNullish value = false) : value ≠ .undefined := by
  rintro rfl
  cases present

omit inside in
theorem fieldTwins_group (structs : StructTwins schema mapping stack) {n : ℕ} {name : String}
    {get' : ι} {d : Option ℕ} {value out : Value} (mem : .group name get' d ∈ (schema get).fields)
    (rewritten : remapCapabilityIndices schema mapping n get' (.object (asRecord value)) = .ok out)
    (inner : ¬ Absent schema get' (asRecord value))
    (zero : value = .undefined → ∀ union, (schema get').union = some union →
      union.defaultDiscriminant % 2 ^ 16 = 0) :
    FieldTwins schema stack get structWord (.group name get' d) value out := by
  intro s s' s₁ s₁' twin pristine room done done'
  obtain ⟨out, rfl⟩ := rewriteCapabilities_object rewritten
  rw [drawField_group Value.noConfusion] at done'
  have sizes := wf.groups get name get' d mem
  rw [← sizes.1, ← sizes.2] at room
  have members : ∀ field ∈ (schema get').fields, Pristine schema get' structWord field s :=
    fun field mem' =>
    pristine.member wf mem mem'
  by_cases absent : value = .undefined
  · subst absent
    cases done
    cases stack with
    | zero => cases done'
    | succ stack =>
      -- as if an empty record had been drawn
      obtain ⟨block, tagged⟩ := encodeDiscriminant_ok wf
        ((schema get').union.map StructUnionDescriptor.defaultDiscriminant) room
      have idle := encodeDiscriminant_zero (zero rfl)
        (fun k bit => pristine.tags k (.own bit)) tagged
      rw [idle] at tagged
      have nothing : drawStruct schema (stack + 1) s get' structWord (.object []) = .ok s := by
        rw [drawStruct_nothing, tagged]
        rfl
      exact structs _ _ _ _ _ _ _ _ (.walk rewritten inner) twin members room nothing done'
  · rw [drawField_group absent] at done
    exact structs _ _ _ _ _ _ _ _ (.walk rewritten inner) twin members room done done'

/-- What the walk makes of an active field is drawn side by side with what was there. -/
theorem fieldTwins_remap (structs : StructTwins schema mapping stack) {n : ℕ} {record : Record}
    {field : FieldDescriptor ι} (mem : field ∈ (schema get).fields)
    (active : isInactive field (resolveActiveDiscriminant (schema get) record) = false)
    (present : ¬ Absent schema get record) {value' : Option Value}
    (done : rewriteField (remapInterface mapping) (remapAnyPointer mapping)
      (remapCapabilityIndices schema mapping n)
      field (getProp record field.name) = .ok value') :
    FieldTwins schema stack get structWord field (getProp record field.name)
      (value'.getD (getProp record field.name)) := by
  have same : FieldTwins schema stack get structWord field (getProp record field.name)
      (getProp record field.name) :=
    fieldTwins_same wf inside structs mem _
  cases field with
  | group name get' d =>
    obtain ⟨out, rewritten, rfl⟩ := Fallible.map_eq_ok.1 done
    have inner : ¬ Absent schema get' (asRecord (getProp record name)) :=
      fun inner => present (.inGroup mem active inner)
    exact fieldTwins_group wf structs mem rewritten inner fun absent union tagged =>
      by_contra fun other => present (.tag mem active absent tagged other)
  | slot name offset type mask d =>
    cases type with
    | interface =>
      by_cases absent : getProp record name = .undefined
      · rw [FieldDescriptor.name, absent] at done
        cases done
        exact same
      · exact fieldTwins_slot wf mem Bool.noConfusion absent
          (getD_present (remapInterface_present mapping) done absent)
          (drawnAlike_remapInterface wf inside structs done)
    | anyPointer =>
      by_cases absent : getProp record name = .undefined
      · rw [FieldDescriptor.name, absent] at done
        cases done
        exact same
      · exact fieldTwins_slot wf mem Bool.noConfusion absent
          (getD_present (remapAnyPointer_present mapping) done absent)
          (drawnAlike_remapAnyPointer wf inside structs done)
    | struct get' =>
      obtain ⟨out, rewritten, rfl⟩ := Fallible.map_eq_ok.1 done
      obtain ⟨out, rfl⟩ := rewriteCapabilities_object rewritten
      rw [remapCapabilityIndices_asRecord] at rewritten
      have some : isNullish (getProp record name) = false :=
        Bool.eq_false_iff.2 fun absent => present (.struct mem active absent)
      have inner : ¬ Absent schema get' (asRecord (getProp record name)) := fun inner =>
        present (.inStruct mem active some inner)
      exact fieldTwins_slot wf mem Bool.noConfusion (ne_undefined some) Value.noConfusion
        (drawnAlike_struct (structs.paired wf inside) some.symm (.walk rewritten inner))
    | list element =>
      by_cases walked : isWalked element = true
      · have some : isNullish (getProp record name) = false :=
          Bool.eq_false_iff.2 fun absent => present (.list mem active walked absent)
        have array : ∀ items, isNullish (.array items) = isNullish (getProp record name) :=
          fun _ => some.symm
        cases element with
        | interface =>
          obtain ⟨items, rewritten, rfl⟩ := Fallible.map_eq_ok.1 done
          apply fieldTwins_slot wf mem Bool.noConfusion (ne_undefined some) Value.noConfusion
          apply drawnAlike_pointerList (array items) rfl nofun
          apply (Fallible.mapM_eq_ok.1 rewritten).imp
          intro value value' done
          obtain ⟨value', remapped, rfl⟩ := Fallible.map_eq_ok.1 done
          exact drawnAlike_remapInterface wf inside structs remapped
        | anyPointer =>
          obtain ⟨items, rewritten, rfl⟩ := Fallible.map_eq_ok.1 done
          apply fieldTwins_slot wf mem Bool.noConfusion (ne_undefined some) Value.noConfusion
          apply drawnAlike_pointerList (array items) rfl nofun
          apply (Fallible.mapM_eq_ok.1 rewritten).imp
          intro value value' done
          obtain ⟨value', remapped, rfl⟩ := Fallible.map_eq_ok.1 done
          exact drawnAlike_remapAnyPointer wf inside structs remapped
        | struct get' =>
          obtain ⟨items, rewritten, rfl⟩ := Fallible.map_eq_ok.1 done
          have each := Fallible.mapM_eq_ok.1 rewritten
          have inner : ∀ value ∈ (asArray (getProp record name)).take
              ((asArray (getProp record name)).length % 2 ^ 30),
              ¬ Absent schema get' (asRecord value) := by
            intro value mem' inner
            obtain ⟨i, low, rfl⟩ := List.mem_take_iff_getElem.1 mem'
            rw [lt_min_iff] at low
            exact present (.inList mem active some (List.getElem?_eq_getElem low.2) low.1 inner)
          have both := (List.forall₂_and_left _ _).2 ⟨inner, List.forall₂_take _ each⟩
          apply fieldTwins_slot wf mem Bool.noConfusion (ne_undefined some) Value.noConfusion
          apply drawnAlike_structList wf inside structs (array items) each.length_eq
          apply both.imp
          rintro value value' ⟨inner, done⟩
          rw [remapCapabilityIndices_asRecord] at done
          exact .walk done inner
        | _ => cases walked
      · cases element with
        | struct get' | interface | anyPointer => exact absurd rfl walked
        | _ =>
          cases done
          exact same
    | _ =>
      cases done
      exact same

/-- The loop over the fields, side by side: what is still to come is pristine. -/
theorem twin_fields {record record' : Record} (pairs : ∀ field ∈ (schema get).fields,
      isInactive field (resolveActiveDiscriminant (schema get) record) = false →
        FieldTwins schema stack get structWord field (getProp record field.name)
          (getProp record' field.name))
    {l : List (FieldDescriptor ι)} (sub : l ⊆ (schema get).fields) (once : l.Nodup)
    {s s' s₁ s₁' : Sketch} (twin : Twin s s')
    (pristine : ∀ field ∈ l, isInactive field (resolveActiveDiscriminant (schema get) record) =
      false →
      Pristine schema get structWord field s)
    (room : ∀ w < (schema get).dataWordCount + (schema get).pointerCount, structWord + w <
      s.block.words)
    (done : l.foldlM (fun s field =>
      if isInactive field (resolveActiveDiscriminant (schema get) record) then pure s
      else drawField schema (drawStruct schema stack)
        (schema get) structWord s field (getProp record field.name)) s =
        .ok s₁)
    (done' : l.foldlM (fun s field =>
      if isInactive field (resolveActiveDiscriminant (schema get) record) then pure s
      else drawField schema (drawStruct schema stack)
        (schema get) structWord s field (getProp record' field.name)) s' =
        .ok s₁') : Twin s₁ s₁' := by
  induction l generalizing s s' with
  | nil =>
    cases done
    cases done'
    exact twin
  | cons field l ih =>
    obtain ⟨mem, sub⟩ := List.cons_subset.1 sub
    obtain ⟨fresh, once⟩ := List.nodup_cons.1 once
    rw [List.foldlM_cons] at done done'
    by_cases inactive : isInactive field (resolveActiveDiscriminant (schema get) record) = true
    · rw [if_pos inactive] at done done'
      exact ih sub once twin (fun other mem' => pristine other (List.mem_cons_of_mem _ mem')) room
        done done'
    · rw [if_neg inactive] at done done'
      obtain ⟨t, step, done⟩ := Fallible.bind_eq_ok.1 done
      obtain ⟨t', step', done'⟩ := Fallible.bind_eq_ok.1 done'
      have active := Bool.eq_false_iff.2 inactive
      have next := pairs field mem active s s' t t' twin (pristine field List.mem_cons_self active)
        room step step'
      apply ih sub once next _ _ done done'
      · intro other mem' active'
        have different : other ≠ field := fun same => fresh (same ▸ mem')
        exact (pristine other (List.mem_cons_of_mem _ mem') active').kept
          (keeps_drawField wf inside (sub mem') mem different active' active step)
      · rw [(redraws_drawField (fun _ _ _ _ _ => redraws_drawStruct) step).size]
        exact room

/-- **Remapping.**  Where nothing is absent, a remapped struct is drawn side by side with what it
was made of. -/
theorem structTwins (stack : ℕ) : StructTwins schema mapping stack := by
  induction stack with
  | zero =>
    intro get value value' structWord s s' s₁ s₁' _ _ _ _ done
    cases done
  | succ stack ih =>
    intro get value value' structWord s s' s₁ s₁' pair twin pristine room done done'
    have active : resolveActiveDiscriminant (schema get) (asRecord value') =
        resolveActiveDiscriminant (schema get) (asRecord value) := by
      cases pair with
      | same => rfl
      | walk done _ => exact resolveActiveDiscriminant_remap wf done
    obtain ⟨block, tagged, done⟩ := Fallible.bind_eq_ok.1 done
    obtain ⟨block', tagged', done'⟩ := Fallible.bind_eq_ok.1 done'
    rw [active] at tagged' done'
    rw [twin.block] at tagged'
    cases tagged.symm.trans tagged'
    have tag := scalarWrite_encodeDiscriminant (schema get)
      (resolveActiveDiscriminant (schema get) (asRecord value))
    have pairs : ∀ field ∈ (schema get).fields,
        isInactive field (resolveActiveDiscriminant (schema get) (asRecord value)) = false →
          FieldTwins schema stack get structWord field (getProp (asRecord value) field.name)
            (getProp (asRecord value') field.name) := by
      intro field mem live
      cases pair with
      | same => exact fieldTwins_same wf inside ih mem _
      | @walk n _ _ rewritten present =>
        cases n with
        | zero => cases rewritten
        | succ n =>
          obtain ⟨out, rfl⟩ := rewriteCapabilities_object rewritten
          rw [← remapCapabilityIndices_asRecord] at rewritten
          exact (rewriteCapabilities_field wf (remapInterface_present mapping)
            (remapAnyPointer_present mapping)
            (Q := FieldTwins schema stack get structWord field
              (getProp (asRecord value) field.name)) mem live rewritten
            fun value' done => fieldTwins_remap wf inside ih mem live present done).2
    apply twin_fields wf inside pairs (List.Subset.refl _)
      (wf.names get).of_map (twin.write (tag.words tagged)) _ _
      done done'
    · exact fun field mem _ => (pristine field mem).kept
        (keeps_encodeDiscriminant wf inside mem tagged)
    · intro w low
      show structWord + w < block.words
      rw [tag.words tagged]
      exact room w low

end Fields

end CapnpDeno
