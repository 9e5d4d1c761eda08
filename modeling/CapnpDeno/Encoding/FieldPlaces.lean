import CapnpDeno.Encoding.EncodedMessages
import CapnpDeno.Encoding.TreeTwins

/-!
# Places of fields

What a field has for itself in a struct: the pointers of its bits, and the discriminants of the
groups in it.  No other active field changes them.
-/

namespace CapnpDeno

variable {ι : Type} {schema : Schema ι}

/-! ## Bits -/

/-- The bits of the discriminants of a group and of the groups in it. -/
inductive TagBit (schema : Schema ι) : FieldDescriptor ι → ℕ → Prop
  | own {name get d k} (bit : k ∈ discriminantBits (schema get)) :
    TagBit schema (.group name get d) k
  | member {name get d field k} (mem : field ∈ (schema get).fields) (bit : TagBit schema field k) :
      TagBit schema (.group name get d) k

theorem TagBit.occupies {field : FieldDescriptor ι} {k : ℕ} (h : TagBit schema field k) (get : ι) :
    Occupies schema get field k := by
  induction h generalizing get with
  | own bit => exact .discriminant bit
  | member mem bit ih => exact .member mem (ih _)

theorem discriminantBits_byte {descriptor : StructDescriptor ι} {k j : ℕ}
    (bit : k ∈ discriminantBits descriptor) (same : j / 8 = k / 8) :
    j ∈ discriminantBits descriptor := by
  unfold discriminantBits at bit ⊢
  split at bit
  · obtain ⟨low, high⟩ := bit
    exact ⟨by omega, by omega⟩
  · cases bit

/-- Discriminants are whole bytes. -/
theorem TagBit.byte {field : FieldDescriptor ι} {k j : ℕ} (h : TagBit schema field k)
    (same : j / 8 = k / 8) :
    TagBit schema field j := by
  induction h with
  | own bit => exact .own (discriminantBits_byte bit same)
  | member mem bit ih => exact .member mem (ih same)

section Places

variable (wf : schema.WellFormed) (inside : schema.DataInside) {get : ι} {field : FieldDescriptor ι}
  {k j : ℕ}
include wf

theorem discriminantBits_lt (bit : k ∈ discriminantBits (schema get)) :
    k < 64 * (schema get).dataWordCount := by
  unfold discriminantBits at bit
  split at bit
  · rename_i union present
    have := (wf.unions get union present).1
    have := bit.2
    omega
  · cases bit

include inside

theorem occupies_lt (h : Occupies schema get field k) (mem : field ∈ (schema get).fields) :
    k < 64 * ((schema get).dataWordCount + (schema get).pointerCount) := by
  induction h with
  | @slot get name offset type mask d k bit =>
    by_cases scalar : isDataType type = true
    · have := inside get name offset type mask d mem scalar k bit
      omega
    · have few :=
        wf.pointers get name offset type mask d mem (by simpa [isPointerType] using scalar)
      rw [slotBits_pointer scalar] at bit
      have := bit.2
      omega
  | @discriminant get name get' d k bit =>
    have := discriminantBits_lt wf bit
    have := (wf.groups get name get' d mem).1
    omega
  | @member get name get' d field k mem' bit ih =>
    have := ih mem'
    have := wf.groups get name get' d mem
    omega

theorem inside_of_wellFormed : schema.Inside := by
  rintro get k (bit | ⟨field, mem, bit⟩)
  · have := discriminantBits_lt wf bit
    omega
  · exact occupies_lt wf inside bit mem

/-- Behind the data a field has whole words. -/
theorem occupies_word (h : Occupies schema get field k) (mem : field ∈ (schema get).fields)
    (behind : 64 * (schema get).dataWordCount ≤ k) (same : j / 64 = k / 64) :
    Occupies schema get field j := by
  induction h with
  | @slot get name offset type mask d k bit =>
    by_cases scalar : isDataType type = true
    · have := inside get name offset type mask d mem scalar k bit
      omega
    · rw [slotBits_pointer scalar] at bit
      apply Occupies.slot
      rw [slotBits_pointer scalar]
      have low := bit.1
      have high := bit.2
      exact ⟨by omega, by omega⟩
  | @discriminant get name get' d k bit =>
    have := discriminantBits_lt wf bit
    have := (wf.groups get name get' d mem).1
    omega
  | @member get name get' d field k mem' bit ih =>
    exact .member mem' (ih mem' ((wf.groups get name get' d mem).1 ▸ behind) same)

end Places

/-! ## Keeping places -/

/-- The places of a field are as they were. -/
structure Keeps (schema : Schema ι) (get : ι) (structWord : ℕ) (field : FieldDescriptor ι)
    (s s' : Sketch) : Prop where
  tags : ∀ k, TagBit schema field k →
    s'.block.bytes[8 * structWord + k / 8]? = s.block.bytes[8 * structWord + k / 8]?
  slots : ∀ k, Occupies schema get field k → 64 * (schema get).dataWordCount ≤ k →
    s'.slots (structWord + k / 64) = s.slots (structWord + k / 64)

/-- Nothing was drawn in the places of a field. -/
structure Pristine (schema : Schema ι) (get : ι) (structWord : ℕ) (field : FieldDescriptor ι)
    (s : Sketch) : Prop where
  tags : ∀ k, TagBit schema field k → s.block.bytes[8 * structWord + k / 8]? = some 0
  slots : ∀ k, Occupies schema get field k → 64 * (schema get).dataWordCount ≤ k →
    s.slots (structWord + k / 64) = .null

section Keeping

variable {get : ι} {structWord : ℕ} {field : FieldDescriptor ι} {s s' s'' : Sketch} {bits : Set ℕ}

theorem Keeps.refl (s : Sketch) : Keeps schema get structWord field s s :=
  ⟨fun _ _ => rfl, fun _ _ _ => rfl⟩

theorem Keeps.symm (h : Keeps schema get structWord field s s') :
    Keeps schema get structWord field s' s :=
  ⟨fun k bit => (h.tags k bit).symm, fun k bit behind => (h.slots k bit behind).symm⟩

theorem Keeps.trans (h : Keeps schema get structWord field s s')
    (h' : Keeps schema get structWord field s' s'') :
    Keeps schema get structWord field s s'' :=
  ⟨fun k bit => (h'.tags k bit).trans (h.tags k bit),
    fun k bit behind => (h'.slots k bit behind).trans (h.slots k bit behind)⟩

theorem Pristine.kept (h : Pristine schema get structWord field s)
    (keeps : Keeps schema get structWord field s s') :
    Pristine schema get structWord field s' :=
  ⟨fun k bit => (keeps.tags k bit).trans (h.tags k bit),
    fun k bit behind => (keeps.slots k bit behind).trans (h.slots k bit behind)⟩

variable (wf : schema.WellFormed) (inside : schema.DataInside)
include wf inside

/-- Drawing at other bits keeps the places of a field. -/
theorem keeps_of_apart (mem : field ∈ (schema get).fields) (redraws : Redraws s s' structWord bits)
    (apart : ∀ k, Occupies schema get field k → k ∉ bits) :
    Keeps schema get structWord field s s' := by
  constructor
  · intro k bit
    apply redraws.getElem?
    rintro ⟨j, mem', place⟩
    exact apart j ((bit.byte (show j / 8 = k / 8 by omega)).occupies get) mem'
  · intro k bit behind
    apply redraws.slots
    intro j mem' place
    exact apart j (occupies_word wf inside bit mem behind (by omega)) mem'

theorem pristine_of_blank (mem : field ∈ (schema get).fields)
    (blank : s.Blank structWord ((schema get).dataWordCount + (schema get).pointerCount)) :
    Pristine schema get structWord field s := by
  constructor
  · intro k bit
    have low := occupies_lt wf inside (bit.occupies get) mem
    exact blank.bytes _ (by omega) (by omega)
  · intro k bit _
    have low := occupies_lt wf inside bit mem
    exact blank.slots _ (by omega) (by omega)

omit inside in
/-- The places of a group are those of its members. -/
theorem Pristine.member {name : String} {get' : ι} {d : Option ℕ}
    (mem : .group name get' d ∈ (schema get).fields)
    (h : Pristine schema get structWord (.group name get' d) s)
    (mem' : field ∈ (schema get').fields) :
    Pristine schema get' structWord field s := by
  constructor
  · exact fun k bit => h.tags k (.member mem' bit)
  · exact fun k bit behind => h.slots k (.member mem' bit)
      ((wf.groups get name get' d mem).1 ▸ behind)

variable {stack : ℕ} {record : Record}

/-- Another active field keeps the places of a field. -/
theorem keeps_drawField {other : FieldDescriptor ι} {fieldValue : Value}
    (mem : field ∈ (schema get).fields) (mem' : other ∈ (schema get).fields)
    (different : field ≠ other)
    (active : isInactive field (resolveActiveDiscriminant (schema get) record) = false)
    (active' : isInactive other (resolveActiveDiscriminant (schema get) record) = false)
    (done : drawField schema (drawStruct schema stack) (schema get) structWord s other fieldValue =
      .ok s') :
    Keeps schema get structWord field s s' := by
  apply keeps_of_apart wf inside mem (redraws_drawField (fun _ _ _ _ _ => redraws_drawStruct) done)
  apply wf.apart get field mem other mem' different
  apply wf.together mem mem' active active'
  intro none
  rw [resolveActiveDiscriminant_eq, Option.map_eq_none_iff] at none
  exact none

/-- The discriminant of a struct lies in no place of its fields. -/
theorem keeps_encodeDiscriminant {active : Option ℕ} {block : MessageBuilder}
    (mem : field ∈ (schema get).fields)
    (tagged : encodeDiscriminant s.block (schema get) structWord active = .ok block) :
    Keeps schema get structWord field s (s.write block) := by
  have tag := scalarWrite_encodeDiscriminant (schema get) active
  apply keeps_of_apart wf inside mem (Redraws.write (tag.words tagged) (tag.grows tagged))
  exact fun k bit tag => wf.tagged get field mem k tag bit

/-- A run of the loop over the fields that does not come to a field keeps its places. -/
theorem keeps_drawFields {value : Record} {l : List (FieldDescriptor ι)}
    (sub : l ⊆ (schema get).fields) (mem : field ∈ (schema get).fields) (free : field ∉ l)
    (active : isInactive field (resolveActiveDiscriminant (schema get) record) = false)
    (done : l.foldlM (fun s field =>
      if isInactive field (resolveActiveDiscriminant (schema get) record) then pure s
      else drawField schema (drawStruct schema stack)
        (schema get) structWord s field (getProp value field.name)) s =
        .ok s') : Keeps schema get structWord field s s' := by
  apply Fallible.foldlM_keeps (fun t => Keeps schema get structWord field s t) (.refl s) done
  intro t other mem' t' sofar next
  split_ifs at next with inactive
  · cases next
    exact sofar
  · apply sofar.trans
    exact keeps_drawField wf inside mem (sub mem') (fun same => free (same ▸ mem')) active
      (Bool.eq_false_iff.2 inactive) next

end Keeping

end CapnpDeno
