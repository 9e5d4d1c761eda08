import CapnpDeno.Encoding.BuilderProof
import CapnpDeno.Encoding.RuntimeCodec

/-!
# What the encoder leaves alone

The encoder writes a struct into words that are reserved for it and everything that the struct
points to into new words.  So among the bytes that were there it changes only those that hold bits
of the struct's own fields (`Occupies`), and a pointer field changes no other byte than those of its
pointer.
-/

namespace CapnpDeno

open ByteList

variable {ι : Type} {schema : Schema ι}

/-! ## Growing -/

/-- `b'` is `b` with some words more; of the bytes that were there, only `touched` ones differ. -/
structure Grows (b b' : MessageBuilder) (touched : ℕ → Prop) : Prop where
  words : b.words ≤ b'.words
  same : ∀ i, i < 8 * b.words → ¬ touched i → b'.bytes[i]? = b.bytes[i]?

namespace Grows

variable {b b' b'' : MessageBuilder} {touched touched' : ℕ → Prop}

theorem refl (b : MessageBuilder) (touched : ℕ → Prop) : Grows b b touched :=
  ⟨le_rfl, fun _ _ _ => rfl⟩

theorem mono (h : Grows b b' touched') (sub : ∀ i, i < 8 * b.words → touched' i → touched i) :
    Grows b b' touched :=
  ⟨h.words, fun i low free => h.same i low fun touches => free (sub i low touches)⟩

theorem trans (h : Grows b b' touched) (h' : Grows b' b'' touched) : Grows b b'' touched := by
  refine ⟨h.words.trans h'.words, fun i low free => ?_⟩
  have before := h.words
  rw [h'.same i (by omega) free, h.same i low free]

theorem foldlM {α : Type} {f : MessageBuilder → α → Except Thrown MessageBuilder} {l : List α}
    (run : l.foldlM f b = .ok b')
    (step : ∀ t a t', a ∈ l → f t a = .ok t' → Grows t t' touched) : Grows b b' touched :=
  Fallible.foldlM_keeps (fun t => Grows b t touched) (refl b touched) run
    fun t a mem t' grown done => grown.trans (step t a t' mem done)

/-- The field in the low bytes still reads the same. -/
theorem readLE_eq (h : Grows b b' touched) {off w : ℕ} (inside : off + w ≤ 8 * b.words)
    (free : ∀ i, off ≤ i → i < off + w → ¬ touched i) :
    readLE b'.bytes off w = readLE b.bytes off w := by
  have agree : Agree b'.bytes b.bytes off (off + w) := fun i low high =>
    h.same i (by omega) (free i low high)
  exact agree.readLE_eq le_rfl le_rfl

end Grows

variable {b b' : MessageBuilder} {touched : ℕ → Prop}

theorem grows_allocWords (b : MessageBuilder) (count : ℕ) (touched : ℕ → Prop) :
    Grows b (b.allocWords count).2 touched :=
  ⟨Nat.le_add_right _ _, fun i low _ => ((b.agree_allocWords count 0) i (Nat.zero_le i) low).symm⟩

theorem grows_setBytes {byteOffset : ℕ} {xs : Bytes} {context : String}
    (done : b.setBytes byteOffset xs context = .ok b')
    (inside : ∀ i, byteOffset ≤ i → i < byteOffset + xs.length → touched i) :
    Grows b b' touched := by
  unfold MessageBuilder.setBytes at done
  split_ifs at done with fits
  cases done
  refine ⟨le_rfl, fun i low free => ?_⟩
  show (splice b.bytes byteOffset xs)[i]? = _
  rw [getElem?_splice (by rwa [b.size]), if_neg fun within => free (inside i within.1 within.2)]

theorem readLE_setBytes {byteOffset w v : ℕ} {context : String}
    (done : b.setBytes byteOffset (toLE w v) context = .ok b') :
    readLE b'.bytes byteOffset w = v % 256 ^ w := by
  unfold MessageBuilder.setBytes at done
  split_ifs at done with fits
  cases done
  exact readLE_writeLE_self (by rwa [length_toLE, ← b.size] at fits)

theorem Rewrites.grows {wordIndex word : ℕ} (h : Rewrites b b' wordIndex word) :
    Grows b b' fun i => i / 8 = wordIndex :=
  ⟨h.words.ge, fun _ _ apart => h.getElem? apart⟩

theorem grows_writeWord {wordIndex word : ℕ} (done : b.writeWord wordIndex word = .ok b') :
    Grows b b' fun i => i / 8 = wordIndex :=
  (MessageBuilder.writeWord_eq_ok.1 done).grows

theorem grows_setStructPointer {pointerWord targetWord dataWordCount pointerCount : ℕ}
    (done : b.setStructPointer pointerWord targetWord dataWordCount pointerCount = .ok b') :
    Grows b b' fun i => i / 8 = pointerWord := by
  obtain ⟨encoded, -, done⟩ := Fallible.bind_eq_ok.1 done
  exact grows_writeWord done

theorem grows_setListPointer {pointerWord targetWord elementSize count : ℕ}
    (done : b.setListPointer pointerWord targetWord elementSize count = .ok b') :
    Grows b b' fun i => i / 8 = pointerWord := by
  obtain ⟨encoded, -, done⟩ := Fallible.bind_eq_ok.1 done
  exact grows_writeWord done

/-- What is written to new words and to a pointer changes the pointer only. -/
theorem grows_of_target {pointerWord : ℕ}
    (h : Grows b b' fun i => 8 * b.words ≤ i ∨ i / 8 = pointerWord) :
    Grows b b' fun i => i / 8 = pointerWord :=
  h.mono fun _ low touches => touches.resolve_left (Nat.not_le.2 low)

/-- The contents go to new words, the pointer to them comes last. -/
theorem grows_behind {pointerWord count : ℕ} {b₁ : MessageBuilder}
    (contents : Grows (b.allocWords count).2 b₁ fun i => 8 * b.words ≤ i)
    (pointer : Grows b₁ b' fun i => i / 8 = pointerWord) :
    Grows b b' fun i => i / 8 = pointerWord := by
  apply grows_of_target
  apply (grows_allocWords b count _).trans
  apply (contents.mono fun _ _ => Or.inl).trans
  exact pointer.mono fun _ _ => Or.inr

theorem grows_writeTextPointer {pointerWord : ℕ} {value : String}
    (done : b.writeTextPointer pointerWord value = .ok b') :
    Grows b b' fun i => i / 8 = pointerWord := by
  obtain ⟨b₁, written, done⟩ := Fallible.bind_eq_ok.1 done
  refine grows_behind (grows_setBytes written fun i low _ => ?_) (grows_setListPointer done)
  rw [WORD_BYTES] at low
  omega

theorem grows_writeDataPointer {pointerWord : ℕ} {value : Bytes}
    (done : b.writeDataPointer pointerWord value = .ok b') :
    Grows b b' fun i => i / 8 = pointerWord := by
  obtain ⟨b₁, written, done⟩ := Fallible.bind_eq_ok.1 done
  refine grows_behind (grows_setBytes written fun i low _ => ?_) (grows_setListPointer done)
  rw [WORD_BYTES] at low
  omega

theorem grows_encodeAnyPointerMessageIntoBuilder {pointerWord : ℕ} {message : Bytes}
    {options : AnyPointerCopyOptions}
    (done : encodeAnyPointerMessageIntoBuilder b pointerWord message options = .ok b') :
    Grows b b' fun i => i / 8 = pointerWord := by
  unfold encodeAnyPointerMessageIntoBuilder at done
  obtain ⟨r, -, done⟩ := Fallible.bind_eq_ok.1 done
  obtain ⟨flatMessage, -, done⟩ := Fallible.bind_eq_ok.1 done
  dsimp only at done
  split_ifs at done
  · exact grows_writeWord done
  · exact grows_writeWord done
  obtain ⟨b₁, copied, done⟩ := Fallible.bind_eq_ok.1 done
  obtain ⟨rebased, -, done⟩ := Fallible.bind_eq_ok.1 done
  refine grows_behind (Grows.foldlM copied fun t i t' _ written => ?_) (grows_writeWord done)
  refine (grows_writeWord written).mono fun j _ place => ?_
  rw [MessageBuilder.allocWords_fst] at place
  omega

/-! ## Bits of a struct -/

/-- The bits of a struct that a slot takes. -/
def slotBits (dataWordCount : ℕ) (type : TypeDescriptor ι) (offset defaultMask : ℕ) : Set ℕ :=
  match type with
  | .primitive .bool => {offset}
  | .primitive .void => if defaultMask = 0 then ∅ else Set.Ico (8 * offset) (8 * offset + 8)
  | _ =>
    if isDataType type then
      Set.Ico (8 * dataByteOffset type offset)
        (8 * dataByteOffset type offset + 8 * dataByteOffset type 1)
    else Set.Ico (64 * (dataWordCount + offset)) (64 * (dataWordCount + offset) + 64)

theorem slotBits_pointer {dataWordCount offset defaultMask : ℕ} {type : TypeDescriptor ι}
    (pointer : ¬ isDataType type = true) :
    slotBits dataWordCount type offset defaultMask =
      Set.Ico (64 * (dataWordCount + offset)) (64 * (dataWordCount + offset) + 64) := by
  cases type with
  | primitive kind => exact absurd rfl pointer
  | enum byOrdinal toOrdinal => exact absurd rfl pointer
  | _ => rfl

/-- The bits of a union's discriminant. -/
def discriminantBits (descriptor : StructDescriptor ι) : Set ℕ :=
  match descriptor.union with
  | some union => Set.Ico (16 * union.discriminantOffset) (16 * union.discriminantOffset + 16)
  | none => ∅

/-- A field takes a bit of the struct that has it; a group takes its bits in that struct. -/
inductive Occupies (schema : Schema ι) : ι → FieldDescriptor ι → ℕ → Prop
  | slot {get name offset type mask d k}
      (bit : k ∈ slotBits (schema get).dataWordCount type offset mask) :
      Occupies schema get (.slot name offset type mask d) k
  | discriminant {get name get' d k} (bit : k ∈ discriminantBits (schema get')) :
      Occupies schema get (.group name get' d) k
  | member {get name get' d field k} (mem : field ∈ (schema get').fields)
      (bit : Occupies schema get' field k) : Occupies schema get (.group name get' d) k

/-- All bits that encoding a struct may change. -/
def structBits (schema : Schema ι) (get : ι) : Set ℕ :=
  {k | k ∈ discriminantBits (schema get) ∨ ∃ field ∈ (schema get).fields,
    Occupies schema get field k}

/-- The bytes, of a struct at a word, that hold one of the bits. -/
def BytesOf (structWord : ℕ) (bits : Set ℕ) (i : ℕ) : Prop := ∃ k ∈ bits, 8 * structWord + k / 8 = i

theorem BytesOf.low {structWord : ℕ} {bits : Set ℕ} {i : ℕ} (h : BytesOf structWord bits i) :
    8 * structWord ≤ i := by
  obtain ⟨k, -, rfl⟩ := h
  exact Nat.le_add_right _ _

theorem BytesOf.mono {structWord : ℕ} {bits bits' : Set ℕ} (sub : bits ⊆ bits') {i : ℕ}
    (h : BytesOf structWord bits i) : BytesOf structWord bits' i :=
  h.imp fun _ found => ⟨sub found.1, found.2⟩

/-- A write of whole bytes of a struct. -/
theorem grows_scalar {structWord place : ℕ} {xs : Bytes} {context : String} {bits : Set ℕ}
    (done : b.setBytes (structWord * WORD_BYTES + place) xs context = .ok b')
    (covers : Set.Ico (8 * place) (8 * place + 8 * xs.length) ⊆ bits) :
    Grows b b' (BytesOf structWord bits) := by
  refine grows_setBytes done fun i low high => ⟨8 * (i - 8 * structWord), covers ?_, ?_⟩
  · rw [WORD_BYTES] at low high
    exact ⟨by omega, by omega⟩
  · rw [WORD_BYTES] at low
    omega

theorem grows_setBool {structWord offset : ℕ} {value : Bool}
    (done : b.setBool (structWord * WORD_BYTES + offset / 8) (offset % 8) value = .ok b') :
    Grows b b' (BytesOf structWord {offset}) := by
  refine grows_setBytes done fun i low high => ⟨offset, rfl, ?_⟩
  rw [length_toLE] at high
  rw [WORD_BYTES] at low high
  omega

/-! ## Data fields -/

theorem grows_encodeDataField {structWord offset defaultMask dataWordCount : ℕ}
    {type : TypeDescriptor ι} {value : Value} (scalar : isDataType type = true)
    (done : encodeDataField b structWord offset type value defaultMask = .ok b') :
    Grows b b' (BytesOf structWord (slotBits dataWordCount type offset defaultMask)) := by
  unfold encodeDataField at done
  by_cases masked : defaultMask ≠ 0
  · rw [if_pos masked] at done
    unfold encodeDataWithDefault at done
    cases type with
    | enum byOrdinal toOrdinal =>
      obtain ⟨bits, -, done⟩ := Fallible.bind_eq_ok.1 done
      exact grows_scalar done subset_rfl
    | primitive kind =>
      cases kind with
      | bool => exact grows_setBool done
      | void =>
        obtain ⟨bits, -, done⟩ := Fallible.bind_eq_ok.1 done
        rw [slotBits, if_neg masked]
        exact grows_scalar done subset_rfl
      | _ =>
        obtain ⟨bits, -, done⟩ := Fallible.bind_eq_ok.1 done
        exact grows_scalar done subset_rfl
    | _ => cases scalar
  · rw [if_neg masked] at done
    cases type with
    | enum byOrdinal toOrdinal => exact grows_scalar done subset_rfl
    | primitive kind =>
      cases kind with
      | void =>
        cases done
        exact .refl b _
      | bool => exact grows_setBool done
      | _ => exact grows_scalar done subset_rfl
    | _ => cases scalar

/-! ## Pointer fields -/

theorem grows_encodeDataElement {baseByte n : ℕ} {elementType : TypeDescriptor ι} {value : Value}
    (done : encodeDataElement b baseByte elementType n value = .ok b') :
    Grows b b' fun i => baseByte ≤ i := by
  have from_base {place : ℕ} {xs : Bytes} {context : String}
      (done : b.setBytes (baseByte + place) xs context = .ok b') : Grows b b' fun i =>
      baseByte ≤ i :=
    grows_setBytes done fun i low _ => (Nat.le_add_right baseByte place).trans low
  unfold encodeDataElement at done
  split at done <;> exact from_base done

section Pointers

variable {encodeStruct : MessageBuilder → ι → ℕ → Value → Except Thrown MessageBuilder}
  (structs : ∀ b get structWord value b', encodeStruct b get structWord value = .ok b' →
    Grows b b' fun i => 8 * structWord ≤ i)
include structs

theorem grows_encodeListField {encodeElement : MessageBuilder → ℕ → Value →
      Except Thrown MessageBuilder}
    (elements : ∀ b pointerWord value b', encodeElement b pointerWord value = .ok b' →
      Grows b b' fun i => i / 8 = pointerWord)
    {pointerWord : ℕ} {elementType : TypeDescriptor ι} {values : List Value}
    (done : encodeListField schema encodeStruct encodeElement b pointerWord elementType values =
      .ok b') :
    Grows b b' fun i => i / 8 = pointerWord := by
  unfold encodeListField at done
  split at done
  · exact grows_setListPointer done
  · obtain ⟨b₁, tagged, done⟩ := Fallible.bind_eq_ok.1 done
    obtain ⟨b₂, encoded, done⟩ := Fallible.bind_eq_ok.1 done
    have tag : Grows _ b₁ fun i => 8 * b.words ≤ i :=
      (grows_writeWord tagged).mono fun i _ place => by omega
    have members : Grows b₁ b₂ fun i => 8 * b.words ≤ i :=
      Grows.foldlM encoded fun t item t' _ done =>
        (structs _ _ _ _ _ done).mono fun i _ low => by omega
    exact grows_behind (tag.trans members) (grows_setListPointer done)
  · split_ifs at done
    · obtain ⟨b₁, encoded, done⟩ := Fallible.bind_eq_ok.1 done
      refine grows_behind (Grows.foldlM encoded fun t item t' _ done => ?_)
        (grows_setListPointer done)
      refine (elements _ _ _ _ done).mono fun i _ place => ?_
      omega
    · obtain ⟨words, -, done⟩ := Fallible.bind_eq_ok.1 done
      obtain ⟨b₁, encoded, done⟩ := Fallible.bind_eq_ok.1 done
      refine grows_behind (Grows.foldlM encoded fun t item t' _ done => ?_)
        (grows_setListPointer done)
      refine (grows_encodeDataElement done).mono fun i _ low => ?_
      rw [WORD_BYTES] at low
      omega

omit structs in
/-- A null pointer is written for an absent value. -/
theorem grows_unless_nullish {pointerWord : ℕ} {value : Value} {rest : Except Thrown MessageBuilder}
    (done : (if isNullish value then b.writeWord pointerWord 0 else rest) = .ok b')
    (otherwise : rest = .ok b' → Grows b b' fun i => i / 8 = pointerWord) :
    Grows b b' fun i => i / 8 = pointerWord := by
  split_ifs at done
  · exact grows_writeWord done
  · exact otherwise done

theorem grows_encodePointerField {pointerWord : ℕ} {type : TypeDescriptor ι} {value : Value}
    (done : encodePointerField schema encodeStruct b pointerWord type value = .ok b') :
    Grows b b' fun i => i / 8 = pointerWord := by
  induction type generalizing b pointerWord value b' with
  | text => exact grows_unless_nullish done grows_writeTextPointer
  | data => exact grows_unless_nullish done grows_writeDataPointer
  | list element ih =>
    exact grows_unless_nullish done (grows_encodeListField structs fun _ _ _ _ => ih)
  | struct get =>
    refine grows_unless_nullish done fun done => ?_
    obtain ⟨b₁, pointed, done⟩ := Fallible.bind_eq_ok.1 done
    apply grows_of_target
    apply (grows_allocWords b _ _).trans
    apply ((grows_setStructPointer pointed).mono fun _ _ => Or.inr).trans
    exact (structs _ _ _ _ _ done).mono fun _ _ => Or.inl
  | interface =>
    refine grows_unless_nullish done fun done => ?_
    obtain ⟨index, -, done⟩ := Fallible.bind_eq_ok.1 done
    cases index with
    | none => exact grows_writeWord done
    | some capabilityIndex =>
      obtain ⟨word, -, done⟩ := Fallible.bind_eq_ok.1 done
      exact grows_writeWord done
  | anyPointer =>
    refine grows_unless_nullish done fun done => ?_
    obtain ⟨pointer, -, done⟩ := Fallible.bind_eq_ok.1 done
    cases pointer with
    | null => exact grows_writeWord done
    | interface capabilityIndex =>
      obtain ⟨word, -, done⟩ := Fallible.bind_eq_ok.1 done
      exact grows_writeWord done
    | message message => exact grows_encodeAnyPointerMessageIntoBuilder done
  | primitive kind => exact grows_unless_nullish done nofun
  | enum byOrdinal toOrdinal => exact grows_unless_nullish done nofun

end Pointers

/-! ## Structs -/

theorem grows_encodeDiscriminant {structWord : ℕ} {descriptor : StructDescriptor ι}
    {active : Option ℕ} (done : encodeDiscriminant b descriptor structWord active = .ok b') :
    Grows b b' (BytesOf structWord (discriminantBits descriptor)) := by
  unfold encodeDiscriminant at done
  unfold discriminantBits
  cases found : descriptor.union with
  | none =>
    rw [found] at done
    cases done
    exact .refl b _
  | some union =>
    rw [found] at done
    cases active with
    | none =>
      cases done
      exact .refl b _
    | some active =>
      refine grows_scalar done fun k inside => ?_
      rw [MessageBuilder.lowBytes, length_toLE] at inside
      obtain ⟨low, high⟩ := inside
      exact ⟨by omega, by omega⟩

/-- A field that is written changes bytes of its own bits only. -/
theorem grows_encodeField {encodeStruct : MessageBuilder → ι → ℕ → Value →
      Except Thrown MessageBuilder}
    (structs : ∀ b get structWord value b', encodeStruct b get structWord value = .ok b' →
      Grows b b' (BytesOf structWord (structBits schema get)))
    {get : ι} {structWord : ℕ} {field : FieldDescriptor ι} {fieldValue : Value}
    (done : encodeField schema encodeStruct (schema get) structWord b field fieldValue = .ok b') :
    Grows b b' (BytesOf structWord {k | Occupies schema get field k}) := by
  unfold encodeField at done
  split at done
  · cases done
    exact .refl b _
  cases field with
  | group name get' d =>
    refine (structs _ _ _ _ _ done).mono fun i _ => BytesOf.mono fun k bit => ?_
    obtain bit | ⟨field, mem, bit⟩ := bit
    · exact .discriminant bit
    · exact .member mem bit
  | slot name offset type mask d =>
    dsimp only at done
    split_ifs at done with scalar
    · exact (grows_encodeDataField scalar done).mono fun i _ => BytesOf.mono fun k bit => .slot bit
    · have weak : ∀ b get structWord value b', encodeStruct b get structWord value = .ok b' →
          Grows b b' fun i => 8 * structWord ≤ i :=
        fun b get structWord value b' done =>
          (structs b get structWord value b' done).mono fun i _ => BytesOf.low
      refine (grows_encodePointerField weak done).mono fun i _ place => ?_
      rw [MessageBuilder.pointerWordIndex] at place
      refine ⟨64 * ((schema get).dataWordCount + offset) + 8 * (i % 8), .slot ?_, by omega⟩
      rw [slotBits_pointer scalar]
      exact ⟨by omega, by omega⟩

theorem grows_encodeStructAt {stack : ℕ} {get : ι} {structWord : ℕ} {value : Value}
    (done : encodeStructAt schema stack b get structWord value = .ok b') :
    Grows b b' (BytesOf structWord (structBits schema get)) := by
  induction stack generalizing b get structWord value b' with
  | zero => cases done
  | succ stack ih =>
    obtain ⟨b₁, tagged, done⟩ := Fallible.bind_eq_ok.1 done
    refine ((grows_encodeDiscriminant tagged).mono fun i _ => BytesOf.mono fun k => Or.inl).trans
      (Grows.foldlM done fun t field t' mem done => ?_)
    split_ifs at done
    · cases done
      exact .refl t _
    · refine (grows_encodeField (fun _ _ _ _ _ => ih) done).mono fun i _ =>
        BytesOf.mono fun k bit => ?_
      exact .inr ⟨field, mem, bit⟩

end CapnpDeno
