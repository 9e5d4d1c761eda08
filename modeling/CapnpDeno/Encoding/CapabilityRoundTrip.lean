import CapnpDeno.Encoding.CapabilityFields
import CapnpDeno.Encoding.Layout

/-!
# Round trip of capability fields

A capability that an interface field holds is found there again: in the encoded segment
(`StoredAt`), in the decoded record, and with its id after the cap table has been applied.
-/

namespace CapnpDeno

open ByteList

variable {ι : Type} {schema : Schema ι}

/-! ## In the segment -/

/-- The discriminant in the segment selects the field, if it is a member. -/
def Selected (m : Bytes) (structWord : ℕ) (descriptor : StructDescriptor ι)
    (field : FieldDescriptor ι) :
    Prop :=
  ∀ union d, descriptor.union = some union → field.discriminantValue = some d →
    readLE m (8 * structWord + 2 * union.discriminantOffset) 2 = d

/-- In the segment, the struct at a word has a capability at a pointer index; the path leads to it
through groups that are selected. -/
inductive StoredAt (schema : Schema ι) (m : Bytes) (structWord : ℕ) :
    ι → List (FieldDescriptor ι) → ℕ → ℕ → Prop
  | slot {get name n mask d index}
      (mem : .slot name n .interface mask d ∈ (schema get).fields)
      (selected : Selected m structWord (schema get) (.slot name n .interface mask d))
      (inside : 8 * (structWord + (schema get).dataWordCount + n + 1) ≤ m.length)
      (word : readLE m (8 * (structWord + (schema get).dataWordCount + n)) 8 = 3 + index * 2 ^ 32)
      (small : index < 2 ^ 32) :
      StoredAt schema m structWord get [.slot name n .interface mask d] n index
  | group {get name get' d path n index}
      (mem : .group name get' d ∈ (schema get).fields)
      (selected : Selected m structWord (schema get) (.group name get' d))
      (inner : StoredAt schema m structWord get' path n index) :
      StoredAt schema m structWord get (.group name get' d :: path) n index

/-- The words of a struct are there. -/
def Room (b : MessageBuilder) (structWord : ℕ) (descriptor : StructDescriptor ι) : Prop :=
  structWord + descriptor.dataWordCount + descriptor.pointerCount ≤ b.words

section Frame

variable {b b' : MessageBuilder} {structWord : ℕ} {bits : Set ℕ}

theorem Room.grows {descriptor : StructDescriptor ι} {touched : ℕ → Prop}
    (room : Room b structWord descriptor) (grown : Grows b b' touched) :
    Room b' structWord descriptor :=
  room.trans grown.words

theorem Selected.frame (wf : schema.WellFormed) {get : ι} {field : FieldDescriptor ι}
    (h : Selected b.bytes structWord (schema get) field) (room : Room b structWord (schema get))
    (grown : Grows b b' (BytesOf structWord bits))
    (apart : ∀ k ∈ bits, k ∉ discriminantBits (schema get)) :
    Selected b'.bytes structWord (schema get) field := by
  intro union d present value
  have fits := (wf.unions get union present).1
  unfold Room at room
  rw [grown.readLE_eq (by omega), h union d present value]
  rintro i low high ⟨k, bit, rfl⟩
  refine apart k bit ?_
  rw [discriminantBits, present]
  exact ⟨by omega, by omega⟩

/-- A stored capability survives writes to other bits of its struct. -/
theorem StoredAt.frame (wf : schema.WellFormed) {get : ι} {path : List (FieldDescriptor ι)}
    {n index : ℕ} (h : StoredAt schema b.bytes structWord get path n index)
    (room : Room b structWord (schema get)) (grown : Grows b b' (BytesOf structWord bits))
    (apart : ∀ k ∈ bits, k ∉ discriminantBits (schema get) ∧
      ∀ field ∈ path.head?, ¬ Occupies schema get field k) :
    StoredAt schema b'.bytes structWord get path n index := by
  induction h with
  | @slot get name n mask d index mem selected inside word small =>
    refine .slot mem (selected.frame wf room grown fun k bit => (apart k bit).1) ?_ ?_ small
    · have := grown.words
      rw [b.size] at inside
      rw [b'.size]
      omega
    · rw [grown.readLE_eq (by rw [b.size] at inside; omega), word]
      rintro i low high ⟨k, bit, rfl⟩
      refine (apart k bit).2 _ rfl (.slot ?_)
      have pointer : ¬ isDataType (.interface : TypeDescriptor ι) = true := Bool.false_ne_true
      rw [slotBits_pointer pointer]
      exact ⟨by omega, by omega⟩
  | @group get name get' d path n index mem selected inner ih =>
    obtain ⟨sameData, samePointers⟩ := wf.groups get name get' d mem
    refine .group mem (selected.frame wf room grown fun k bit => (apart k bit).1)
      (ih ?_ fun k bit => ?_)
    · unfold Room at room ⊢
      rwa [sameData, samePointers]
    · refine ⟨fun discriminant => (apart k bit).2 _ rfl (.discriminant discriminant), ?_⟩
      intro field head occupied
      refine (apart k bit).2 _ rfl (.member ?_ occupied)
      cases inner with
      | slot mem' =>
        cases head
        exact mem'
      | group mem' =>
        cases head
        exact mem'

end Frame

/-! ## Encoding -/

section Encode

variable {b b' : MessageBuilder} {structWord : ℕ}

/-- An absent record has no capabilities. -/
theorem InterfaceAt.undefined {get : ι} {path : List (FieldDescriptor ι)} {n : ℕ} {value : Value}
    (held : InterfaceAt schema get [] path n value) : value = .undefined := by
  generalize empty : ([] : Record) = record at held
  induction held with
  | slot mem active =>
    subst empty
    rfl
  | group mem active inner ih =>
    subst empty
    exact ih rfl

/-- The discriminant selects an active field once it is written. -/
theorem selected_encodeDiscriminant (wf : schema.WellFormed) {get : ι} {record : Record}
    {field : FieldDescriptor ι} (mem : field ∈ (schema get).fields)
    (active : isInactive field (resolveActiveDiscriminant (schema get) record) = false)
    (done : encodeDiscriminant b (schema get) structWord
      (resolveActiveDiscriminant (schema get) record) = .ok b') :
    Selected b'.bytes structWord (schema get) field := by
  intro union d present value
  obtain ⟨a, same⟩ : ∃ a, resolveActiveDiscriminant (schema get) record = some a := by
    rw [resolveActiveDiscriminant_eq, present]
    exact ⟨_, rfl⟩
  rw [same] at active done
  have found : d = a := by
    unfold isInactive at active
    rw [value] at active
    exact not_not.1 (of_decide_eq_false active)
  subst found
  unfold encodeDiscriminant at done
  rw [present] at done
  have small := (wf.members get field mem d value).1
  have read := readLE_setBytes (show b.setBytes _ (toLE 2 ((d : ℤ) % (256 ^ 2 : ℕ)).toNat) _ =
    .ok b' from done)
  rw [WORD_BYTES, Nat.mul_comm structWord, Nat.mul_comm _ 2] at read
  rw [read]
  push_cast
  omega

/-- The loop body. -/
def encodeStep (schema : Schema ι)
    (encodeStruct : MessageBuilder → ι → ℕ → Value → Except Thrown MessageBuilder)
    (descriptor : StructDescriptor ι) (structWord : ℕ) (record : Record) (b : MessageBuilder)
    (field : FieldDescriptor ι) : Except Thrown MessageBuilder :=
  if isInactive field (resolveActiveDiscriminant descriptor record) then pure b
  else encodeField schema encodeStruct descriptor structWord b field (getProp record field.name)

/-- The bits that the step for a field may change: its own, if it is active. -/
def stepBits (schema : Schema ι) (get : ι) (record : Record) (field : FieldDescriptor ι) : Set ℕ :=
  {k | Occupies schema get field k ∧
    isInactive field (resolveActiveDiscriminant (schema get) record) = false}

theorem grows_encodeStep {stack : ℕ} {get : ι} {record : Record} {field : FieldDescriptor ι}
    (done : encodeStep schema (encodeStructAt schema stack) (schema get) structWord record b field =
      .ok b') : Grows b b' (BytesOf structWord (stepBits schema get record field)) := by
  unfold encodeStep at done
  split_ifs at done with inactive
  · cases done
    exact .refl b _
  · have grown := grows_encodeField (fun _ _ _ _ _ => grows_encodeStructAt) done
    refine grown.mono fun i _ => BytesOf.mono fun k bit => ?_
    exact ⟨bit, Bool.eq_false_iff.2 inactive⟩

/-- What the loop over the fields does to the segment: an active field is encoded, and what is
stored for it stays. -/
theorem encodeStructAt_field (wf : schema.WellFormed) {stack : ℕ} {get : ι} {value : Value}
    {field : FieldDescriptor ι} {path : List (FieldDescriptor ι)} {n index : ℕ}
    (mem : field ∈ (schema get).fields)
    (active : isInactive field (resolveActiveDiscriminant (schema get) (asRecord value)) = false)
    (room : Room b structWord (schema get))
    (done : encodeStructAt schema (stack + 1) b get structWord value = .ok b')
    (meets : ∀ t t', Room t structWord (schema get) →
      Selected t'.bytes structWord (schema get) field →
      encodeField schema (encodeStructAt schema stack) (schema get) structWord t field
        (getProp (asRecord value) field.name) = .ok t' →
      StoredAt schema t'.bytes structWord get (field :: path) n index) :
    StoredAt schema b'.bytes structWord get (field :: path) n index := by
  obtain ⟨b₁, tagged, run⟩ := Fallible.bind_eq_ok.1 done
  have keep (t : MessageBuilder) (other : FieldDescriptor ι) (mem' : other ∈ (schema get).fields)
      (t' : MessageBuilder)
      (inv : Room t structWord (schema get) ∧ Selected t.bytes structWord (schema get) field)
      (next : encodeStep schema (encodeStructAt schema stack)
        (schema get) structWord (asRecord value) t
        other = .ok t') :
      Room t' structWord (schema get) ∧ Selected t'.bytes structWord (schema get) field := by
    have grown := grows_encodeStep next
    refine ⟨inv.1.grows grown, inv.2.frame wf inv.1 grown fun k bit discriminant => ?_⟩
    exact wf.tagged get other mem' k discriminant bit.1
  have reached := Fallible.foldlM_reaches
    (f := encodeStep schema (encodeStructAt schema stack) (schema get) structWord (asRecord value))
    (fun t => Room t structWord (schema get) ∧ Selected t.bytes structWord (schema get) field)
    (fun t => StoredAt schema t.bytes structWord get (field :: path) n index) mem
    ⟨room.grows (grows_encodeDiscriminant tagged), selected_encodeDiscriminant wf mem active tagged⟩
    run keep (fun t t' inv next => ?_) (fun t other mem' t' different inv stored next => ?_)
  · exact reached.2
  · have selected := (keep t field mem t' inv next).2
    unfold encodeStep at next
    rw [if_neg (Bool.eq_false_iff.1 active)] at next
    exact meets t t' inv.1 selected next
  · refine stored.frame wf inv.1 (grows_encodeStep next) fun k bit => ⟨fun discriminant => ?_, ?_⟩
    · exact wf.tagged get other mem' k discriminant bit.1
    · rintro _ ⟨⟩ own
      refine wf.apart get field mem other mem' different.symm ?_ k own bit.1
      refine wf.together mem mem' active bit.2 fun none => ?_
      exact Option.map_eq_none_iff.1 none

theorem encodeField_group {encodeStruct : MessageBuilder → ι → ℕ → Value →
      Except Thrown MessageBuilder}
    {descriptor : StructDescriptor ι} {name : String} {get : ι} {d : Option ℕ} {value : Value}
    (there : value ≠ .undefined) :
    encodeField schema encodeStruct descriptor structWord b (.group name get d) value =
      encodeStruct b get structWord (.object (asRecord value)) := by
  cases value with
  | undefined => exact absurd rfl there
  | _ => rfl

/-- An interface field that holds a capability is written as its word. -/
theorem encodeField_interface {encodeStruct : MessageBuilder → ι → ℕ → Value →
      Except Thrown MessageBuilder}
    {descriptor : StructDescriptor ι} {name : String} {n mask index : ℕ} {d : Option ℕ}
    {value : Value} (denotes : capabilityIndexFrom value = .ok (some index))
    (done : encodeField schema encodeStruct descriptor structWord b
      (.slot name n .interface mask d) value =
      .ok b') :
    Rewrites b b' (structWord + descriptor.dataWordCount + n) (3 + index * 2 ^ 32) ∧
    index < 2 ^ 32 := by
  have there : isNullish value = false := by
    cases value with
    | undefined | null => cases denotes
    | _ => rfl
  have encoded : encodePointerField schema encodeStruct b
      (structWord + descriptor.dataWordCount + n) .interface value = .ok b' := by
    cases value with
    | undefined => cases there
    | _ => exact done
  rw [encodePointerField, if_neg (Bool.eq_false_iff.1 there)] at encoded
  obtain ⟨found, denotes', encoded⟩ := Fallible.bind_eq_ok.1 encoded
  cases denotes.symm.trans denotes'
  obtain ⟨word, fits, encoded⟩ := Fallible.bind_eq_ok.1 encoded
  unfold encodeCapabilityPointerWord at fits
  split_ifs at fits with large
  cases fits
  rw [BitField.or_shiftLeft (show 3 < 2 ^ 32 by decide)] at encoded
  exact ⟨MessageBuilder.writeWord_eq_ok.1 encoded, by omega⟩

/-- A capability in an interface field is stored. -/
theorem storedAt_encodeStructAt (wf : schema.WellFormed) {stack : ℕ} {get : ι}
    {value fieldValue : Value} {path : List (FieldDescriptor ι)} {n index : ℕ}
    (held : InterfaceAt schema get (asRecord value) path n fieldValue)
    (denotes : capabilityIndexFrom fieldValue = .ok (some index))
    (room : Room b structWord (schema get))
    (done : encodeStructAt schema stack b get structWord value = .ok b') :
    StoredAt schema b'.bytes structWord get path n index := by
  induction stack generalizing b get value path b' with
  | zero => cases done
  | succ stack ih =>
    cases held with
    | @slot _ _ name n mask d mem active =>
      refine encodeStructAt_field wf mem active room done fun t t' room selected encoded => ?_
      obtain ⟨rewrites, small⟩ := encodeField_interface denotes encoded
      have inside := rewrites.inside
      refine .slot mem selected ?_ ?_ small
      · rw [t'.size, rewrites.words]
        omega
      · rw [rewrites.read]
        omega
    | @group _ _ name get' d path n _ mem active inner =>
      refine encodeStructAt_field wf mem active room done fun t t' room selected encoded => ?_
      refine .group mem selected ?_
      obtain ⟨sameData, samePointers⟩ := wf.groups get name get' d mem
      have room' : Room t structWord (schema get') := by
        unfold Room at room ⊢
        rwa [sameData, samePointers]
      by_cases absent : getProp (asRecord value) name = .undefined
      · rw [absent] at inner
        rw [inner.undefined] at denotes
        cases denotes
      · have entered : InterfaceAt schema get'
            (asRecord (.object (asRecord (getProp (asRecord value) name))))
          path n fieldValue := inner
        exact ih entered room' ((encodeField_group absent).symm.trans encoded)

end Encode

/-! ## Decoding -/

section Decode

variable {m : Bytes} {structWord : ℕ}

/-- The struct at a word of the one segment, with the sections that its descriptor declares. -/
def refAt (structWord : ℕ) (descriptor : StructDescriptor ι) : StructRef :=
  ⟨0, structWord, descriptor.dataWordCount, descriptor.pointerCount⟩

theorem readUintAt_eq_ok {segmentId byteOffset len maxLen value : ℕ} {context : String}
    {segment : Bytes} {r : MessageReader} (present : r.segments[segmentId]? = some segment)
    (done : r.readUintAt len segmentId byteOffset maxLen context = .ok value) :
    value = readLE segment byteOffset len := by
  obtain ⟨_, -, done⟩ := Fallible.bind_eq_ok.1 done
  obtain ⟨bytes, found, done⟩ := Fallible.bind_eq_ok.1 done
  unfold MessageReader.segment at found
  rw [present] at found
  cases found
  exact (Except.ok.inj done).symm

/-- The decoder takes a selected field for active. -/
theorem active_decodeDiscriminant (wf : schema.WellFormed) {get : ι} {field : FieldDescriptor ι}
    {active : Option ℕ} (mem : field ∈ (schema get).fields)
    (selected : Selected m structWord (schema get) field)
    (done : decodeDiscriminant (flatReader m) (schema get) (refAt structWord (schema get)) =
      .ok active) :
    isInactive field active = false ∧ ∀ d, field.discriminantValue = some d → active = some d := by
  cases value : field.discriminantValue with
  | none =>
    unfold isInactive
    rw [value]
    exact ⟨rfl, nofun⟩
  | some d =>
    obtain ⟨-, union, tag, present, -⟩ := wf.members get field mem d value
    have fits := (wf.unions get union present).1
    unfold decodeDiscriminant at done
    rw [present] at done
    dsimp only at done
    have reaches : ¬ union.discriminantOffset * 2 + 2 >
        (refAt structWord (schema get)).dataWordCount * WORD_BYTES := by
      show ¬ union.discriminantOffset * 2 + 2 > (schema get).dataWordCount * 8
      omega
    rw [if_neg reaches] at done
    obtain ⟨read, got, rfl⟩ := Fallible.map_eq_ok.1 done
    have found := readUintAt_eq_ok (show (flatReader m).segments[0]? = some m from rfl) got
    have place : structWord * WORD_BYTES + union.discriminantOffset * 2 =
        8 * structWord + 2 * union.discriminantOffset := by
      rw [WORD_BYTES]
      omega
    rw [refAt, place, selected union d present value] at found
    subst found
    unfold isInactive
    rw [value]
    exact ⟨decide_eq_false (not_not.2 rfl), fun d' same => congrArg some (Option.some.inj same)⟩

/-- The loop body. -/
def decodeStep (createDefault : ι → Except Thrown Record)
    (decodeStruct : ι → StructRef → Except Thrown Record) (r : MessageReader)
    (structRef : StructRef) (active : Option ℕ) (record : Record) (field : FieldDescriptor ι) :
    Except Thrown Record :=
  if isInactive field active then pure record
  else assign record field.name <$> decodeField createDefault decodeStruct r structRef field

/-- The step changes no other property. -/
theorem decodeStep_other {createDefault : ι → Except Thrown Record}
    {decodeStruct : ι → StructRef → Except Thrown Record} {r : MessageReader}
    {structRef : StructRef} {active : Option ℕ} {record record' : Record}
    {field : FieldDescriptor ι} {name : String} (other : name ≠ field.name)
    (done : decodeStep createDefault decodeStruct r structRef active record field = .ok record') :
    getProp record' name = getProp record name := by
  unfold decodeStep at done
  split_ifs at done
  · cases done
    rfl
  · obtain ⟨value, -, rfl⟩ := Fallible.map_eq_ok.1 done
    exact getProp_assign_other other value

/-- The record names the member that the field is, if it is one. -/
def Named (descriptor : StructDescriptor ι) (field : FieldDescriptor ι) (record : Record) : Prop :=
  ∀ d, field.discriminantValue = some d → ∃ union tag, descriptor.union = some union ∧
    union.byName.lookup tag = some d ∧ getProp record "which" = .string tag

theorem Named.active {descriptor : StructDescriptor ι} {field : FieldDescriptor ι} {record : Record}
    (h : Named descriptor field record) :
    isInactive field (resolveActiveDiscriminant descriptor record) = false := by
  cases value : field.discriminantValue with
  | none =>
    unfold isInactive
    rw [value]
  | some d =>
    obtain ⟨union, tag, present, known, which⟩ := h d value
    rw [resolveActiveDiscriminant_which present which known]
    unfold isInactive
    rw [value]
    exact decide_eq_false (not_not.2 rfl)

theorem named_tagRecord (wf : schema.WellFormed) {get : ι} {field : FieldDescriptor ι}
    (mem : field ∈ (schema get).fields) {active : Option ℕ}
    (reads : ∀ d, field.discriminantValue = some d → active = some d) (record : Record) :
    Named (schema get) field (tagRecord (schema get) active record) := by
  intro d value
  obtain ⟨-, union, tag, present, tagged, known⟩ := wf.members get field mem d value
  refine ⟨union, tag, present, known, ?_⟩
  unfold tagRecord
  rw [present, reads d value]
  dsimp only
  rw [tagged]
  exact getProp_setProp_self record "which" _

/-- What the loop over the fields does to the record: a selected field gets what is decoded for it
and is active. -/
theorem decodeStructAt_field (wf : schema.WellFormed) {Q : Value → Prop} {stack : ℕ} {get : ι}
    {field : FieldDescriptor ι} {out : Record} (mem : field ∈ (schema get).fields)
    (selected : Selected m structWord (schema get) field)
    (done : decodeStructAt schema (flatReader m)
      (stack + 1) get (refAt structWord (schema get)) = .ok out)
    (meets : ∀ value, decodeField (schema.createDefault stack)
      (decodeStructAt schema (flatReader m) stack) (flatReader m)
        (refAt structWord (schema get)) field = .ok value → ∃ v, value = some v ∧ Q v) :
    isInactive field (resolveActiveDiscriminant (schema get) out) = false ∧
      Q (getProp out field.name) := by
  obtain ⟨record, -, done⟩ := Fallible.bind_eq_ok.1 done
  obtain ⟨active, tag, run⟩ := Fallible.bind_eq_ok.1 done
  obtain ⟨live, reads⟩ := active_decodeDiscriminant wf mem selected tag
  have reached := Fallible.foldlM_reaches
    (f := decodeStep (schema.createDefault stack) (decodeStructAt schema (flatReader m) stack)
      (flatReader m) (refAt structWord (schema get)) active)
    (Named (schema get) field) (fun t => Q (getProp t field.name)) mem
    (named_tagRecord wf mem reads _) run (fun t other mem' t' named next => ?_)
    (fun t t' _ next => ?_) (fun t other mem' t' different _ met next => ?_)
  · exact ⟨reached.1.active, reached.2⟩
  · intro d value
    obtain ⟨union, tag, present, known, which⟩ := named d value
    refine ⟨union, tag, present, known, ?_⟩
    rw [decodeStep_other ((wf.unions get union present).2 other mem').symm next, which]
  · unfold decodeStep at next
    rw [if_neg (Bool.eq_false_iff.1 live)] at next
    obtain ⟨value, decoded, rfl⟩ := Fallible.map_eq_ok.1 next
    obtain ⟨v, rfl, met⟩ := meets value decoded
    rw [getProp_assign_self]
    exact met
  · rw [decodeStep_other (wf.name_ne mem' mem different.symm) next]
    exact met

/-- The word of a capability is decoded to its index. -/
theorem decodeField_interface {createDefault : ι → Except Thrown Record}
    {decodeStruct : ι → StructRef → Except Thrown Record} {get : ι} {name : String}
    {n mask index : ℕ} {d : Option ℕ} {value : Option Value}
    (pointer : n < (schema get).pointerCount)
    (inside : 8 * (structWord + (schema get).dataWordCount + n + 1) ≤ m.length)
    (word : readLE m (8 * (structWord + (schema get).dataWordCount + n)) 8 = 3 + index * 2 ^ 32)
    (small : index < 2 ^ 32)
    (done : decodeField createDefault decodeStruct (flatReader m) (refAt structWord (schema get))
      (.slot name n .interface mask d) = .ok value) : value = some (capabilityPointer index) := by
  have resolved : (flatReader m).resolvePointer 0
      ((structWord + (schema get).dataWordCount + n : ℕ) : ℤ) =
      .ok ⟨0, (structWord + (schema get).dataWordCount + n : ℕ), 3 + index * 2 ^ 32, none⟩ := by
    rw [resolvePointer_near (by omega) (by rw [word]; omega), word]
  have read : (flatReader m).readResolvedPointerWord 0
      ((structWord + (schema get).dataWordCount + n : ℕ) : ℤ) = .ok (3 + index * 2 ^ 32) := by
    rw [MessageReader.readResolvedPointerWord, MessageReader.readResolvedPointer, resolved]
    rfl
  have present : ¬ 3 + index * 2 ^ 32 = 0 := by omega
  have within : ¬ n ≥ (refAt structWord (schema get)).pointerCount := not_le.2 pointer
  have place : MessageReader.pointerWordIndex (refAt structWord (schema get)) n =
      .ok (structWord + (schema get).dataWordCount + n) := by
    rw [MessageReader.pointerWordIndex, if_neg within]
    rfl
  have decoded : decodeCapabilityPointerWord (3 + index * 2 ^ 32) = .ok index := by
    rw [decodeCapabilityPointerWord, and_kind, if_neg (by omega), and_segment]
    refine congrArg Except.ok ?_
    omega
  have scalar : ¬ isDataType (.interface : TypeDescriptor ι) = true := Bool.false_ne_true
  unfold decodeField at done
  dsimp only at done
  rw [if_neg scalar, if_neg within, place, Fallible.ok_bind] at done
  change (_ >>= _) = _ at done
  rw [show (refAt structWord (schema get)).segmentId = 0 from rfl, read, Fallible.ok_bind,
    if_neg present] at done
  unfold decodePointerField at done
  rw [read, Fallible.ok_bind, if_neg present, decoded] at done
  exact (Except.ok.inj done).symm

/-- A stored capability is decoded. -/
theorem interfaceAt_decodeStructAt (wf : schema.WellFormed) {stack : ℕ} {get : ι}
    {path : List (FieldDescriptor ι)} {n index : ℕ} {out : Record}
    (stored : StoredAt schema m structWord get path n index)
    (done : decodeStructAt schema (flatReader m) stack get (refAt structWord (schema get)) =
      .ok out) :
    InterfaceAt schema get out path n (capabilityPointer index) := by
  induction stack generalizing get path out with
  | zero => cases done
  | succ stack ih =>
    cases stored with
    | @slot _ name n mask d _ mem selected inside word small =>
      obtain ⟨active, same⟩ :=
        decodeStructAt_field (Q := fun v => v = capabilityPointer index) wf mem
        selected done fun value decoded =>
          ⟨_, decodeField_interface (wf.pointers get _ _ _ _ _ mem rfl) inside word small decoded,
            rfl⟩
      rw [← same]
      exact .slot mem active
    | @group _ name get' d path n _ mem selected inner =>
      obtain ⟨active, inner'⟩ := decodeStructAt_field
        (Q := fun v => InterfaceAt schema get' (asRecord v) path n (capabilityPointer index)) wf mem
        selected done fun value decoded => by
          obtain ⟨record, entered, rfl⟩ := Fallible.map_eq_ok.1 decoded
          refine ⟨_, rfl, ih inner ?_⟩
          obtain ⟨sameData, samePointers⟩ := wf.groups get name get' d mem
          unfold refAt at entered ⊢
          rwa [sameData, samePointers]
      exact .group mem active inner'

end Decode

/-! ## Messages -/

theorem StoredAt.pointer (wf : schema.WellFormed) {m : Bytes} {structWord : ℕ} {get : ι}
    {path : List (FieldDescriptor ι)} {n index : ℕ}
    (h : StoredAt schema m structWord get path n index) :
    n < (schema get).pointerCount := by
  induction h with
  | slot mem => exact wf.pointers _ _ _ _ _ _ mem rfl
  | group mem selected inner ih => exact ih.trans_eq (wf.groups _ _ _ _ mem).2

/-- The reader finds the struct that the root pointer of a segment leads to. -/
theorem readStructPointer_root {m : Bytes} {dw pc : ℕ} (small : dw < 2 ^ 16) (few : pc < 2 ^ 16)
    (present : 0 < pc) (inside : 8 * (1 + dw + pc) ≤ m.length)
    (root : readLE m 0 8 = structWord 0 dw pc) :
    (flatReader m).readStructPointer 0 0 = .ok (some ⟨0, 1, dw, pc⟩) := by
  obtain ⟨kind, offset, data, pointers⟩ := structWord_fields 0 small few
  have resolved : (flatReader m).resolvePointer 0 ((0 : ℕ) : ℤ) =
      .ok ⟨0, (0 : ℕ), structWord 0 dw pc, none⟩ := by
    rw [resolvePointer_near (by omega) (by rw [Nat.mul_zero, root]; omega), Nat.mul_zero, root]
  have here : ¬ structWord 0 dw pc = 0 := by
    unfold structWord
    omega
  have range : inRange (flatReader m).segments 0 (1 : ℤ) (dw + pc) = true := by
    rw [inRange_iff]
    exact ⟨m, rfl, by omega, by omega⟩
  have sign : signed30 (offsetField 0) = 0 := signed30_offsetField (by decide)
  rw [← Fallible.toOption_eq_some]
  refine (MessageReader.readStructPointer_toOption resolved (fun null => here null.1) kind).trans ?_
  simp only [data, pointers, offset, sign, ResolvedPointer.base]
  exact if_pos ⟨fun bad => bad.1 rfl, range⟩

/-- The message of a value stores the capabilities of its interface fields. -/
theorem storedAt_encodeStructMessage (wf : schema.WellFormed) {stack : ℕ} {get : ι}
    {value fieldValue : Value} {path : List (FieldDescriptor ι)} {n index : ℕ} {bytes : Bytes}
    (held : InterfaceAt schema get (asRecord value) path n fieldValue)
    (denotes : capabilityIndexFrom fieldValue = .ok (some index))
    (done : encodeStructMessage schema stack get value = .ok bytes) :
    ∃ segment, MessageReader.ofBytes bytes = .ok (flatReader segment) ∧
      (flatReader segment).readStructPointer 0 0 = .ok (some (refAt 1 (schema get))) ∧
      StoredAt schema segment 1 get path n index := by
  obtain ⟨b₁, pointed, done⟩ := Fallible.bind_eq_ok.1 done
  obtain ⟨b, encoded, done⟩ := Fallible.bind_eq_ok.1 done
  obtain ⟨fits, rfl⟩ := MessageBuilder.toMessageBytes_eq_ok.1 done
  obtain ⟨small, few⟩ := wf.sizes get
  obtain ⟨-, root⟩ := (MessageBuilder.setPointer_eq_ok
    (show (Shape.struct _ _).Valid from ⟨small, few⟩)).1 pointed
  have room : Room b₁ 1 (schema get) := by
    unfold Room
    rw [root.words]
    show _ ≤ 1 + _
    omega
  have stored := storedAt_encodeStructAt wf held denotes room encoded
  have grown := grows_encodeStructAt encoded
  refine ⟨b.bytes, ofBytes_single b.size (MessageBuilder.words_lt_of_fits fits),
    readStructPointer_root small few ((Nat.zero_le n).trans_lt (stored.pointer wf)) ?_ ?_, stored⟩
  · have := room.grows grown
    unfold Room at this
    rw [b.size]
    omega
  · have free : ∀ i, 0 ≤ i → i < 0 + 8 → ¬ BytesOf 1 (structBits schema get) i :=
      fun i _ below touched => by
      have := touched.low
      omega
    have := stored.pointer wf
    have offset : (Shape.struct (schema get).dataWordCount (schema get).pointerCount).offset 0 1 =
        0 := by
      rw [Shape.offset, if_neg fun empty => ?_]
      · rfl
      · have none : (schema get).pointerCount = 0 := (Shape.struct.inj empty).2
        omega
    change Rewrites _ b₁ 0 (structWord ((Shape.struct _ _).offset 0 1) _ _) at root
    rw [offset] at root
    rw [grown.readLE_eq (by unfold Room at room; omega) free, ← Nat.mul_zero 8, root.read]
    exact Nat.mod_eq_of_lt (structWord_lt small few)

theorem interfaceAt_decodeStructMessage (wf : schema.WellFormed) {stack stack' : ℕ} {get : ι}
    {value fieldValue : Value} {path : List (FieldDescriptor ι)} {n index : ℕ} {bytes : Bytes}
    {out : Record} (held : InterfaceAt schema get (asRecord value) path n fieldValue)
    (denotes : capabilityIndexFrom fieldValue = .ok (some index))
    (done : encodeStructMessage schema stack get value = .ok bytes)
    (decoded : decodeStructMessage schema stack' get bytes = .ok out) :
    InterfaceAt schema get out path n (capabilityPointer index) := by
  obtain ⟨segment, read, root, stored⟩ := storedAt_encodeStructMessage wf held denotes done
  unfold decodeStructMessage at decoded
  rw [read, Fallible.ok_bind, root, Fallible.ok_bind] at decoded
  exact interfaceAt_decodeStructAt wf stored decoded

/-! ## Cap tables -/

theorem rewriteCapabilities_asRecord {onInterface onAnyPointer : Rewrite} (stack : ℕ) (get : ι)
    (value : Value) : rewriteCapabilities schema onInterface onAnyPointer stack get value =
      rewriteCapabilities schema onInterface onAnyPointer stack get (.object (asRecord value)) := by
  cases stack <;> rfl

theorem get_idsByIndex {ids : List ℕ} {k id : ℕ} (found : ids[k]? = some id) :
    (idsByIndex (tablesOf ids).2).get k = some id := by
  have inside : (k, id) ∈ idsByIndex (tablesOf ids).2 := by
    refine List.mem_map.2 ⟨(⟨CAP_DESCRIPTOR_TAG_SENDER_HOSTED, id⟩, k), ?_, rfl⟩
    rw [List.mk_mem_zipIdx_iff_getElem?, tablesOf, List.getElem?_map, found]
    rfl
  cases there : (idsByIndex (tablesOf ids).2).get k with
  | none =>
    have absent := List.lookup_eq_none_iff.1 there (k, id) inside
    simp at absent
  | some id' =>
    obtain ⟨before, after, split, -⟩ := List.lookup_eq_some_iff.1 there
    have mem : (k, id') ∈ idsByIndex (tablesOf ids).2 :=
      split ▸ List.mem_append_right _ List.mem_cons_self
    obtain ⟨⟨descriptor, k'⟩, listed, same⟩ := List.mem_map.1 mem
    cases same
    rw [List.mk_mem_zipIdx_iff_getElem?, tablesOf, List.getElem?_map, found] at listed
    cases listed
    rfl

/-- The distinct capabilities of a value, in the order in which the walk meets them. -/
def capabilitiesOf (collected : List CollectedCapability) : List ℕ :=
  (collected.map (·.capabilityIndex)).eraseDups

theorem encodeStructMessageWithCaps_eq_ok {stack : ℕ} {get : ι} {value : Value}
    {result : EncodeWithCapsResult} (done : encodeStructMessageWithCaps schema stack get value =
      .ok result) :
    ∃ collected, collectCapabilityPointersFromStruct schema stack get value "" = .ok collected ∧
      (capabilitiesOf collected).length ≤ MAX_ARRAY_LENGTH ∧
      result.capTable = (tablesOf (capabilitiesOf collected)).2 ∧
      (capabilitiesOf collected ≠ [] → ∃ remapped,
        remapCapabilityIndices schema (capabilitiesOf collected).zipIdx stack get value =
          .ok remapped ∧
          encodeStructMessage schema stack get remapped = .ok result.content) := by
  obtain ⟨collected, walked, run⟩ := Fallible.bind_eq_ok.1 done
  rw [capTables_eq] at run
  have size : (tablesOf (capabilitiesOf collected)).2.length = (capabilitiesOf collected).length :=
    List.length_map _
  change (if (tablesOf (capabilitiesOf collected)).2.length > MAX_ARRAY_LENGTH then _ else
    if (tablesOf (capabilitiesOf collected)).2.length = 0 then _ else _) = _ at run
  rw [size] at run
  by_cases long : (capabilitiesOf collected).length > MAX_ARRAY_LENGTH
  · rw [if_pos long] at run
    cases run
  rw [if_neg long] at run
  by_cases empty : (capabilitiesOf collected).length = 0
  · rw [if_pos empty] at run
    obtain ⟨content, -, made⟩ := Fallible.bind_eq_ok.1 run
    cases made
    have none := List.eq_nil_of_length_eq_zero empty
    refine ⟨collected, walked, by omega, ?_, fun some => absurd none some⟩
    rw [none]
    rfl
  · rw [if_neg empty] at run
    obtain ⟨remapped, mapped, run⟩ := Fallible.bind_eq_ok.1 run
    obtain ⟨content, encoded, made⟩ := Fallible.bind_eq_ok.1 run
    cases made
    exact ⟨collected, walked, by omega, rfl, fun _ => ⟨remapped, mapped, encoded⟩⟩

/-- A capability that an interface field holds comes back with its index when the message is decoded
with its cap table. -/
theorem interfaceAt_decodeStructMessageWithCaps (wf : schema.WellFormed) {stack stack' : ℕ}
    {get : ι} {value fieldValue decoded : Value} {path : List (FieldDescriptor ι)} {n index : ℕ}
    {result : EncodeWithCapsResult}
    (held : InterfaceAt schema get (asRecord value) path n fieldValue)
    (denotes : capabilityIndexFrom fieldValue = .ok (some index))
    (done : encodeStructMessageWithCaps schema stack get value = .ok result)
    (read : decodeStructMessageWithCaps schema stack' get result.content result.capTable =
      .ok decoded) :
    InterfaceAt schema get (asRecord decoded) path n (capabilityPointer index) := by
  obtain ⟨collected, walked, short, table, encodes⟩ := encodeStructMessageWithCaps_eq_ok done
  have mem : index ∈ capabilitiesOf collected :=
    List.mem_eraseDups.2 (collected_of_interfaceAt held denotes walked)
  obtain ⟨k, found, placed⟩ := lookup_zipIdx mem
  have low : k < (capabilitiesOf collected).length := (List.getElem?_eq_some_iff.1 placed).1
  have small : k < 2 ^ 53 := by
    rw [MAX_ARRAY_LENGTH] at short
    omega
  obtain ⟨remapped, mapped, encoded⟩ := encodes (List.ne_nil_of_mem mem)
  rw [remapCapabilityIndices, rewriteCapabilities_asRecord] at mapped
  obtain ⟨out, rfl⟩ := rewriteCapabilities_object mapped
  -- the field now holds the place in the table
  obtain ⟨pointer, same, held'⟩ := rewritten_interfaceAt wf (remapInterface_present _)
    (remapAnyPointer_present _) held mapped
  rw [remapInterface_eq denotes found] at same
  cases same
  obtain ⟨out', decoded', read⟩ := Fallible.bind_eq_ok.1 read
  have inside :=
    interfaceAt_decodeStructMessage wf held' (capabilityIndexFrom_capabilityPointer small)
    encoded decoded'
  have full : ¬ result.capTable.length = 0 := by
    rw [table, tablesOf, List.length_map]
    omega
  rw [if_neg full] at read
  obtain ⟨out'', rfl⟩ := rewriteCapabilities_object read
  obtain ⟨pointer, same, held''⟩ := rewritten_interfaceAt wf (resolveInterface_present _)
    (remapAnyPointer_present _) inside read
  rw [table, resolveInterface_eq small (get_idsByIndex placed)] at same
  cases same
  exact held''

end CapnpDeno
