import CapnpDeno.Encoding.CopyLimits
import CapnpDeno.Encoding.DefaultMasks
import CapnpDeno.Encoding.ShownTrees

/-!
# Decoding object trees

What a schema makes of an object tree, without a segment.  The decoder walks words and pointers, but
what it returns depends on the tree that a message shows alone.
-/

namespace CapnpDeno

open ByteList MessageReader

variable {ι : Type}

/-- The message that a tree is copied to. -/
noncomputable def treeCopy (t : ObjectTree) : Option Bytes :=
  open Classical in
  if copied : ∃ copy, ∃ r segmentId pointerWord, Reads r segmentId pointerWord t ∧
    decodeAnyPointerMessageFromReader r segmentId pointerWord .default =
    .ok copy then some copied.choose else none

/-- A tree is copied to the same message from every slot that shows it. -/
theorem treeCopy_eq {r : MessageReader} {segmentId pointerWord : ℕ} {t : ObjectTree}
    (reads : r.Reads segmentId pointerWord t) :
    (decodeAnyPointerMessageFromReader r segmentId pointerWord .default).toOption = treeCopy t := by
  have known : AnyPointerCopyOptions.default.limits =
      .ok ⟨8 * 1024 * 1024, 8 * 1024 * 1024, 64⟩ := by decide
  have same : CopyLimits.Le ⟨8 * 1024 * 1024, 8 * 1024 * 1024, 64⟩
      ⟨8 * 1024 * 1024, 8 * 1024 * 1024, 64⟩ :=
    ⟨le_rfl, le_rfl, le_rfl⟩
  unfold treeCopy
  split_ifs with copied
  · obtain ⟨r', s, p, reads', done⟩ := copied.choose_spec
    rw [copy_same reads' reads known known same done]
    rfl
  · cases done : decodeAnyPointerMessageFromReader r segmentId pointerWord .default with
    | error e => rfl
    | ok copy => exact absurd ⟨copy, r, segmentId, pointerWord, reads, done⟩ copied

/-! ## Scalars -/

/-- The scalar at an offset of a data section, or at an index of a list. -/
def scalarAt (data : Bytes) (offset : ℕ) (type : TypeDescriptor ι) (mask : ℕ) : Value :=
  match type with
  | .primitive .void => .undefined
  | .primitive .bool => .bool (bitAt data offset != (mask != 0))
  | _ =>
    scalarOfBits type (dataByteOffset type 1)
      (readLE data (dataByteOffset type offset) (dataByteOffset type 1) ^^^ mask)

def treeDiscriminant (descriptor : StructDescriptor ι) (data : Bytes) : Option ℕ :=
  descriptor.union.map fun union =>
    if union.discriminantOffset * 2 + 2 > data.length then 0
      else readLE data (union.discriminantOffset * 2) 2

/-! ## The decoder on trees -/

def treeText : ObjectTree → Option String
  | .null => some ""
  | .object (.flat 2 elementCount) content _ =>
    let bytes := slice content 0 elementCount
    if bytes.getLast? ≠ some 0 then none else (strictDecode bytes.dropLast).toOption
  | _ => none

def treeData : ObjectTree → Option Bytes
  | .null => some []
  | .object (.flat 2 elementCount) content _ => some (slice content 0 elementCount)
  | _ => none

def treeListField (decodeStruct : ι → StructView → Option Record)
    (decodeElement : ObjectTree → Option Value) (elementType : TypeDescriptor ι) :
    ObjectTree → Option (List Value)
  | .null => some []
  | .capability _ => none
  | .object (.struct _ _) _ _ => none
  | .object (.inlineComposite _ elementCount dataWordCount pointerCount) content children =>
    match elementType with
    | .struct get => (List.range elementCount).mapM fun i =>
        .object <$> decodeStruct get (.element dataWordCount pointerCount content children i)
    | _ => none
  | .object (.flat elementSize elementCount) content children =>
    match elementType with
    | .struct _ => none
    | _ =>
      if isPointerType elementType then
        if elementSize = 6 then children.mapM decodeElement else none
      else if elementSize ≠ listElementSize elementType then none
      else if elementSize = 0 then some (List.replicate elementCount .undefined)
      else some ((List.range elementCount).map fun i => scalarAt content i elementType 0)

noncomputable def treePointer (createDefault : ι → Option Record)
    (decodeStruct : ι → StructView → Option Record) :
    TypeDescriptor ι → ObjectTree → Option Value
  | .text, t => .string <$> treeText t
  | .data, t => .bytes <$> treeData t
  | .struct get, .null => .object <$> createDefault get
  | .struct get, .object (.struct dataWordCount _) content children =>
    .object <$> decodeStruct get (.whole dataWordCount content children)
  | .list element, t =>
    .array <$> treeListField decodeStruct
      (fun t => treePointer createDefault decodeStruct element t) element t
  | .interface, .null => some .null
  | .interface, .capability word =>
    capabilityPointer <$> (decodeCapabilityPointerWord word).toOption
  | .anyPointer, .null => some AnyPointerValue.null.toValue
  | .anyPointer, .capability word =>
    (AnyPointerValue.interface · |>.toValue) <$> (decodeCapabilityPointerWord word).toOption
  | .anyPointer, .object shape content children =>
    (AnyPointerValue.message · |>.toValue) <$> treeCopy (.object shape content children)
  | _, _ => none

/-- The value of a field, or none to keep the default. -/
noncomputable def treeField (createDefault : ι → Option Record)
    (decodeStruct : ι → StructView → Option Record) (view : StructView)
    (field : FieldDescriptor ι) : Option (Option Value) :=
  match field with
  | .group _ get _ => (fun record => some (.object record)) <$> decodeStruct get view
  | .slot _ offset type defaultMask _ =>
    if isDataType type then
      if scalarEnd type offset > view.data.length then some none
      else some (some (scalarAt view.data offset type defaultMask))
    else
      match view.pointers[offset]? with
      | none | some .null => some none
      | some t => some <$> treePointer createDefault decodeStruct type t

/-- The default of a struct, if the stack that is left is enough for it. -/
def treeDefault (schema : Schema ι) (stack : ℕ) (get : ι) : Option Record :=
  (schema.createDefault stack get).toOption

noncomputable def treeStruct (schema : Schema ι) : ℕ → ι → StructView → Option Record
  | 0, _, _ => none
  | stack + 1, get, view => do
    let descriptor := schema get
    let out ← treeDefault schema stack get
    let activeDiscriminant := treeDiscriminant descriptor view.data
    let record := tagRecord descriptor activeDiscriminant out
    descriptor.fields.foldlM (fun record field =>
      if isInactive field activeDiscriminant then pure record
      else assign record field.name <$> treeField (treeDefault schema stack)
        (treeStruct schema stack) view field) record

/-- What `decodeStructMessage` makes of the tree of a message. -/
noncomputable def treeMessage (schema : Schema ι) (stack : ℕ) (get : ι) : ObjectTree → Option Record
  | .null => treeDefault schema stack get
  | .object (.struct dataWordCount _) content children =>
    treeStruct schema stack get (.whole dataWordCount content children)
  | _ => none

/-! ## Reading scalars -/

section Scalars

variable {r : MessageReader} {structRef : StructRef} {view : StructView} {type : TypeDescriptor ι}

theorem ShowsStruct.segment (h : ShowsStruct r structRef view) :
    dataSection r structRef = view.data := h.data

theorem decodeDataField_view (h : ShowsStruct r structRef view) {offset defaultMask : ℕ}
    (fits : scalarEnd type offset ≤ view.data.length) (data : isDataType type = true)
    (proper : type = .primitive .void → defaultMask = 0) :
    decodeDataField r structRef offset type defaultMask =
      .ok (scalarAt view.data offset type defaultMask) := by
  rw [h.length_data] at fits
  by_cases void : type = .primitive .void
  · rw [proper void, void]
    rfl
  by_cases boolean : type = .primitive .bool
  · subst boolean
    replace fits : offset / 8 + 1 ≤ 8 * structRef.dataWordCount := fits
    rw [decodeDataField_bool h.inside (by omega), scalarAt, ← h.segment, dataSection, bitAt_slice,
      decide_eq_true (by omega), Bool.true_and, show 8 * (8 * structRef.startWord) =
        64 * structRef.startWord by ring]
  · have scalar : isScalar type = true := by
      unfold isScalar
      split
      · exact absurd rfl void
      · exact data
    have last : scalarEnd type offset = dataByteOffset type offset + dataByteOffset type 1 := by
      unfold scalarEnd
      split
      · exact absurd rfl void
      · exact absurd rfl boolean
      · rfl
    rw [decodeDataField_eq scalar boolean h.inside (by omega)]
    unfold scalarAt
    split
    · exact absurd rfl void
    · exact absurd rfl boolean
    · rw [← h.segment, dataSection, readLE_slice (by omega)]

theorem decodeDiscriminant_view (h : ShowsStruct r structRef view)
    (descriptor : StructDescriptor ι) :
    decodeDiscriminant r descriptor structRef = .ok (treeDiscriminant descriptor view.data) := by
  unfold decodeDiscriminant treeDiscriminant
  cases descriptor.union with
  | none => rfl
  | some union =>
    simp only [Option.map_some, h.length_data, WORD_BYTES, Nat.mul_comm _ 8]
    split_ifs with outside
    · rfl
    · have read : r.readUint16InStruct structRef (union.discriminantOffset * 2) =
          .ok (readLE (segmentBytes r structRef.segmentId)
            (8 * structRef.startWord + union.discriminantOffset * 2) 2) := by
        obtain ⟨segment, known, -, high⟩ := inRange_iff.1 h.inside
        refine (inStruct_readUintAt_eq_ok h.inside).2 ⟨?_, by omega, rfl⟩
        rw [segmentBytes, known, Option.getD_some]
        omega
      rw [read, ← h.segment, dataSection, readLE_slice (by omega)]
      rfl

end Scalars

theorem MessageReader.readUintAt_ok {r : MessageReader} {segmentId byteOffset len maxLen : ℕ}
    {segment : Bytes} (present : r.segments[segmentId]? = some segment)
    (inside : byteOffset + len ≤ segment.length)
    (bounded : byteOffset + len ≤ byteOffset / 8 * 8 + maxLen) (context : String) :
    r.readUintAt len segmentId byteOffset maxLen context = .ok (readLE segment byteOffset len) := by
  unfold readUintAt requireDataByteRange MessageReader.segment
  simp only [present, Fallible.pure_eq_ok, Fallible.ok_bind, WORD_BYTES]
  rw [if_neg (by omega), if_neg (by omega)]
  rfl

/-! ## Lists of scalars -/

section Elements

variable {r : MessageReader} {s start es n i : ℕ} {elementType : TypeDescriptor ι}

theorem listElementSize_lt (scalar : isDataType elementType = true) :
    listElementSize elementType < 6 := by
  cases elementType with
  | primitive kind => cases kind <;> simp [listElementSize]
  | enum => exact show 3 < 6 by decide
  | struct | list | text | data | interface | anyPointer => cases scalar

/-- The content of a list of scalars is all of its block. -/
theorem readUintAt_flat {len place : ℕ} (inside : inRange r.segments s start (flatWords es n) =
      true) (scalar : es ≠ 6)
    (short : len ≤ 8) (fits : place + len ≤ 8 * flatWords es n) (context : String) :
    r.readUintAt len s (start * WORD_BYTES + place) MessageReader.MAX_SAFE_INTEGER context =
      .ok (readLE (blank (Shape.flat es n).slots (r.block (.flat es n) s start)) place len) := by
  obtain ⟨segment, known, -, high⟩ := inRange_iff.1 inside
  have plain : (Shape.flat es n).slots = [] := if_neg scalar
  have content := @slice_blank_block r (.flat es n) s start 0 (8 * flatWords es n)
    (Nat.zero_add _).le (fun i _ _ slot => by rw [plain] at slot; cases slot)
  have same := congrArg (readLE · place len) content
  rw [known, Option.getD_some, Nat.add_zero] at same
  simp only [readLE_slice fits, Nat.zero_add] at same
  have limit : MessageReader.MAX_SAFE_INTEGER = 2 ^ 53 - 1 := rfl
  simp only [WORD_BYTES]
  rw [readUintAt_ok known (by omega) (by omega), same, Nat.mul_comm]

theorem element_inside (scalar : isScalar elementType = true)
    (boolean : elementType ≠ .primitive .bool) (low : i < n) :
    dataByteOffset elementType i + dataByteOffset elementType 1 ≤
      8 * flatWords (listElementSize elementType) n := by
  cases elementType with
  | primitive kind =>
    cases kind with
    | void => cases scalar
    | bool => exact absurd rfl boolean
    | int8 | uint8 => show i + 1 ≤ 8 * bytesToWords n; rw [bytesToWords]; omega
    | int16 | uint16 => show i * 2 + 2 ≤ 8 * bytesToWords (n * 2); rw [bytesToWords]; omega
    | int32 | uint32
    | float32 => show i * 4 + 4 ≤ 8 * bytesToWords (n * 4); rw [bytesToWords]; omega
    | int64 | uint64 | float64 => show i * 8 + 8 ≤ 8 * n; omega
  | enum => show i * 2 + 2 ≤ 8 * bytesToWords (n * 2); rw [bytesToWords]; omega
  | struct | list | text | data | interface | anyPointer => cases scalar

theorem decodeDataElement_bool (inside : inRange r.segments s start (flatWords 1 n) = true)
    (low : i < n) :
    decodeDataElement r s (start * WORD_BYTES) (.primitive .bool : TypeDescriptor ι) i =
      .ok (.bool (bitAt (blank (Shape.flat 1 n).slots (r.block (.flat 1 n) s start)) i)) := by
  have read :=
    fun context => @readUintAt_flat r s start 1 n 1 (i / 8) inside (by decide) (by decide)
    (by show _ ≤ 8 * ((n + 63) / 64); omega) context
  have place : 8 * (i / 8) + i % 8 = i := by omega
  refine (congrArg (_ <$> ·) (read _)).trans ?_
  refine congrArg (fun b => Except.ok (Value.bool b)) ?_
  rw [decide_and_bit, testBit_readLE, place,
    decide_eq_true (show i % 8 < 8 * 1 by omega), Bool.true_and]

theorem decodeDataElement_eq (scalar : isScalar elementType = true)
    (boolean : elementType ≠ .primitive .bool)
    (inside : inRange r.segments s start (flatWords (listElementSize elementType) n) = true)
    (low : i < n) :
    decodeDataElement r s (start * WORD_BYTES) elementType i =
      .ok (scalarOfBits elementType (dataByteOffset elementType 1)
        (readLE (blank (Shape.flat (listElementSize elementType) n).slots
          (r.block (.flat (listElementSize elementType) n) s start))
          (dataByteOffset elementType i) (dataByteOffset elementType 1))) := by
  have data : isDataType elementType = true := by
    unfold isScalar at scalar
    split at scalar
    · cases scalar
    · exact scalar
  have size := listElementSize_lt data
  have width : dataByteOffset elementType 1 ≤ 8 := by
    obtain ⟨-, width, -⟩ := scalarBits_eq scalar boolean
    simp only [List.mem_cons, List.not_mem_nil, or_false] at width
    omega
  have read := readUintAt_flat inside (by omega) width (element_inside scalar boolean low)
  generalize blank (Shape.flat (listElementSize elementType) n).slots
    (r.block (.flat (listElementSize elementType) n) s start) = content at read ⊢
  have small := readLE_lt content (dataByteOffset elementType i) (dataByteOffset elementType 1)
  generalize readLE content (dataByteOffset elementType i) (dataByteOffset elementType 1) =
    bits at read small ⊢
  cases elementType with
  | enum => exact congrArg (_ <$> ·) (read _)
  | primitive kind =>
    cases kind with
    | void => cases scalar
    | bool => exact absurd rfl boolean
    | uint64 =>
      exact congrArg (fun bits => Value.bigint <$> (bits >>= fun n : ℕ => pure (n : ℤ))) (read _)
    | float64 => exact congrArg (_ <$> _ <$> ·) (read _)
    | float32 =>
      refine (congrArg (_ <$> _ <$> ·) (read _)).trans ?_
      exact congrArg (fun bits => Except.ok (Value.number (.ofFloat32 bits)))
        (Nat.mod_eq_of_lt small).symm
    | int64 =>
      refine (congrArg (_ <$> _ <$> ·) (read _)).trans ?_
      exact congrArg (fun i => Except.ok (Value.bigint i)) (toSigned_eq_asIntN small)
    | int8 | int16 | int32 =>
      refine (congrArg (_ <$> _ <$> ·) (read _)).trans ?_
      exact congrArg (fun i => Except.ok (Value.number (.ofInt i))) (toSigned_eq_asIntN small)
    | uint8 | uint16 | uint32 =>
      refine (congrArg (_ <$> ·) (read _)).trans ?_
      exact congrArg (fun x => Except.ok (Value.number x)) (ofNat_eq_ofInt bits)
  | struct | list | text | data | interface | anyPointer => cases scalar

/-- A list of scalars holds the scalars of its content. -/
theorem decodeDataElement_flat (data : isDataType elementType = true)
    (size : es = listElementSize elementType) (present : es ≠ 0)
    (inside : inRange r.segments s start (flatWords es n) = true) (low : i < n) :
    decodeDataElement r s (start * WORD_BYTES) elementType i =
      .ok (scalarAt (blank (Shape.flat es n).slots (r.block (.flat es n) s start)) i
        elementType 0) := by
  subst size
  unfold scalarAt
  split
  · exact absurd rfl present
  · rw [show ((0 : ℕ) != 0) = false from rfl, Bool.bne_false]
    exact decodeDataElement_bool inside low
  next void boolean =>
    have scalar : isScalar elementType = true := by
      unfold isScalar
      split
      · exact absurd rfl void
      · exact data
    rw [Nat.xor_zero]
    exact decodeDataElement_eq scalar boolean inside low

end Elements

/-! ## Pointers -/

section Pointers

variable {schema : Schema ι} {r : MessageReader} {stack segmentId pointerWord : ℕ} {t : ObjectTree}

theorem readBytes_flat {s start n : ℕ}
    (inside : inRange r.segments s start (flatWords 2 n) = true) :
    r.readBytes s (start * WORD_BYTES) n =
      .ok (slice (blank (Shape.flat 2 n).slots (r.block (.flat 2 n) s start)) 0 n) := by
  obtain ⟨segment, known, -, high⟩ := inRange_iff.1 inside
  have words : flatWords 2 n = (n + 7) / 8 := rfl
  have content :=
    @slice_blank_block r (.flat 2 n) s start 0 n (by show 0 + n ≤ 8 * flatWords 2 n; omega)
    (fun i _ _ slot => by cases slot)
  unfold readBytes MessageReader.segment
  rw [content, known]
  simp only [Fallible.pure_eq_ok, Fallible.ok_bind, WORD_BYTES]
  rw [if_neg (by omega), Nat.mul_comm]
  rfl

theorem readTextPointer_toOption (shows : r.Shows segmentId pointerWord t) :
    ((fun text => Value.string (text.getD "")) <$> r.readTextPointer segmentId
      pointerWord).toOption = Value.string <$> treeText t := by
  unfold readTextPointer
  cases showsList shows with
  | null read =>
    rw [read]
    rfl
  | capability read | struct read =>
    rw [Fallible.toOption_map, Fallible.toOption_bind, read]
    rfl
  | inlineComposite read =>
    rw [read]
    rfl
  | @flat s start es n _ read inside =>
    rw [read]
    by_cases bytes : es = 2
    · subst bytes
      simp only [Fallible.ok_bind, readBytes_flat inside, treeText]
      split_ifs
      · rfl
      · cases strictDecode (slice (blank (Shape.flat 2 n).slots (r.block (.flat 2 n) s start)) 0
          n).dropLast <;> rfl
    · simp [treeText, bytes]

theorem readDataPointer_toOption (shows : r.Shows segmentId pointerWord t) :
    ((fun data => Value.bytes (data.getD [])) <$> r.readDataPointer segmentId
      pointerWord).toOption = Value.bytes <$> treeData t := by
  unfold readDataPointer
  cases showsList shows with
  | null read =>
    rw [read]
    rfl
  | capability read | struct read =>
    rw [Fallible.toOption_map, Fallible.toOption_bind, read]
    rfl
  | inlineComposite read =>
    rw [read]
    rfl
  | @flat s start es n _ read inside =>
    rw [read]
    by_cases bytes : es = 2
    · subst bytes
      simp only [Fallible.ok_bind, readBytes_flat inside, treeData]
      rfl
    · simp [treeData, bytes]

/-- A decoder of structs that returns what the view of a struct says. -/
def DecodesViews (r : MessageReader) (decodeStruct : ι → StructRef → Except Thrown Record)
    (decodeView : ι → StructView → Option Record) : Prop :=
  ∀ get structRef view, ShowsStruct r structRef view → (decodeStruct get structRef).toOption =
    decodeView get view

variable {decodeStruct : ι → StructRef → Except Thrown Record}
  {decodeView : ι → StructView → Option Record}

theorem decodeListField_toOption {decodeElement : ℕ → ℕ → Except Thrown Value}
    {elementTree : ObjectTree → Option Value} (structs : DecodesViews r decodeStruct decodeView)
    {elementType : TypeDescriptor ι} (elements : ∀ s p t, r.Shows s p t →
      (decodeElement s p).toOption = elementTree t)
    (shows : r.Shows segmentId pointerWord t) :
    (decodeListField decodeStruct decodeElement r segmentId pointerWord elementType).toOption =
      treeListField decodeView elementTree elementType t := by
  unfold decodeListField
  cases showsList shows with
  | null read =>
    rw [read]
    rfl
  | capability read | struct read =>
    rw [Fallible.toOption_bind, read]
    rfl
  | @inlineComposite s start w n dw pc children read room inside arity child =>
    rw [read, Fallible.ok_bind]
    cases elementType with
    | struct get =>
      apply Fallible.toOption_mapM
      apply List.forall₂_same.2
      intro i mem
      rw [Fallible.toOption_map, structs get _ _
        (showsStruct_element (List.mem_range.1 mem) room inside arity child)]
    | primitive kind => cases kind <;> rfl
    | enum | text | data | list | interface | anyPointer => rfl
  | @flat s start es n children read inside arity child =>
    rw [read, Fallible.ok_bind]
    have pointers : es = 6 → ((List.range n).mapM fun i => decodeElement s (start + i)).toOption =
        children.mapM elementTree := by
      rintro rfl
      have slots : (Shape.flat 6 n).slots = List.range n := rfl
      rw [slots] at arity child
      apply Fallible.toOption_mapM
      refine List.forall₂_iff_get.2 ⟨arity, fun i low low' => ?_⟩
      rw [List.get_eq_getElem, List.get_eq_getElem, List.getElem_range]
      rw [List.length_range] at low
      exact elements _ _ _ (child i i _ (by simp [low]) (List.getElem?_eq_getElem low'))
    cases scalar : isDataType elementType with
    | true =>
      have data : isPointerType elementType = false := by rw [isPointerType, scalar]; rfl
      by_cases size : es = listElementSize elementType
      · have elements : es ≠ 0 → ((List.range n).mapM fun i =>
            decodeDataElement r s (start * WORD_BYTES) elementType i).toOption =
            some ((List.range n).map fun i => scalarAt (blank (Shape.flat es n).slots
              (r.block (.flat es n) s start)) i elementType 0) := by
          intro present
          rw [Fallible.mapM_congr fun i mem =>
            decodeDataElement_flat scalar size present inside (List.mem_range.1 mem)]
          exact congrArg Except.toOption List.mapM_pure
        cases elementType with
        | primitive | enum =>
          simp only [treeListField, data, Bool.false_eq_true, if_false]
          rw [if_neg (not_not.2 size), if_neg (not_not.2 size), ← size]
          by_cases empty : es = 0
          · rw [if_pos empty, if_pos empty]
            rfl
          · rw [if_neg empty, if_neg empty]
            exact elements empty
        | struct | list | text | data | interface | anyPointer => cases scalar
      · cases elementType with
        | primitive | enum =>
          simp only [treeListField, data, Bool.false_eq_true, if_false]
          rw [if_pos size, if_pos size]
          rfl
        | struct | list | text | data | interface | anyPointer => cases scalar
    | false =>
      have pointer : isPointerType elementType = true := by rw [isPointerType, scalar]; rfl
      cases elementType with
      | primitive | enum => cases scalar
      | struct => rfl
      | text | data | list | interface | anyPointer =>
        simp only [treeListField, pointer, if_true]
        by_cases six : es = 6
        · rw [if_pos six, ← pointers six]
          subst six
          rfl
        · rw [if_neg six]
          rcases es with _ | _ | _ | _ | _ | _ | _ | es
          iterate 6 · rfl
          · exact absurd rfl six
          · rfl

theorem decodePointerField_toOption (structs : DecodesViews r decodeStruct decodeView)
    (type : TypeDescriptor ι) (shows : r.Shows segmentId pointerWord t) :
    (decodePointerField (schema.createDefault stack) decodeStruct r segmentId pointerWord
      type).toOption = treePointer (treeDefault schema stack) decodeView type t := by
  induction type generalizing segmentId pointerWord t with
  | primitive | enum =>
    unfold decodePointerField treePointer
    cases t <;> rfl
  | text =>
    unfold decodePointerField treePointer
    exact readTextPointer_toOption shows
  | data =>
    unfold decodePointerField treePointer
    exact readDataPointer_toOption shows
  | list element ih =>
    unfold decodePointerField treePointer
    rw [Fallible.toOption_map, decodeListField_toOption structs (fun s p t shows => ih shows) shows]
  | struct get =>
    unfold decodePointerField
    cases shows with
    | null target =>
      rw [(readPointer_null target).1]
      exact Fallible.toOption_map _ _
    | capability target =>
      rw [Fallible.toOption_bind, readStructPointer_fails target (by simp) (by simp)]
      rfl
    | @object _ _ shape s start children target _ arity child =>
      cases shape with
      | struct dw pc =>
        obtain ⟨-, inside, -⟩ := locate_object target
        rw [readStructPointer_of_locate target, Fallible.ok_bind]
        dsimp only
        rw [Fallible.toOption_map, structs get _ _ (showsStruct_whole inside arity child)]
        rfl
      | flat | inlineComposite =>
        rw [Fallible.toOption_bind, readStructPointer_fails target (by simp) (by simp)]
        rfl
  | interface =>
    unfold decodePointerField readResolvedPointerWord readResolvedPointer
    cases shows with
    | null target =>
      obtain ⟨resolved, done, null, -⟩ := resolved_of_locate target
      rw [done]
      have zero := (null.1 rfl).1
      simp [zero, treePointer]
    | @capability _ _ word target =>
      obtain ⟨resolved, done, -, known, -⟩ := resolved_of_locate target
      obtain ⟨rfl, kind⟩ := known word rfl
      have present : resolved.word ≠ 0 := fun zero => by rw [zero] at kind; cases kind
      rw [done]
      simp [present, treePointer, Fallible.toOption_map]
    | object target plain =>
      obtain ⟨resolved, done, -, -, kind⟩ := resolved_of_locate target
      have kind := kind _ _ _ rfl
      have present : resolved.word ≠ 0 := fun zero => plain (by
        unfold readResolvedPointerWord readResolvedPointer
        rw [done, ← zero]
        rfl)
      rw [done]
      simp [present, treePointer, decodeCapabilityPointerWord, and_kind, show resolved.word % 4 ≠
        3 by omega]
  | anyPointer =>
    unfold decodePointerField readResolvedPointer
    cases shows with
    | null target =>
      obtain ⟨resolved, done, null, -⟩ := resolved_of_locate target
      rw [done, Fallible.ok_bind, if_pos (null.1 rfl)]
      rfl
    | @capability _ _ word target =>
      obtain ⟨resolved, done, null, known, -⟩ := resolved_of_locate target
      obtain ⟨rfl, kind⟩ := known word rfl
      rw [done, Fallible.ok_bind, if_neg (fun empty => by cases null.2 empty)]
      simp [and_kind, kind, treePointer, Fallible.toOption_map]
    | object target plain arity child =>
      obtain ⟨resolved, done, null, -, kind⟩ := resolved_of_locate target
      have kind := kind _ _ _ rfl
      rw [done, Fallible.ok_bind, if_neg (fun empty => by cases null.2 empty)]
      simp only [and_kind, show resolved.word % 4 ≠
        3 by omega, if_false, Fallible.toOption_map, treePointer]
      rw [treeCopy_eq (MessageReader.Shows.object target plain arity child).reads]

end Pointers

/-! ## Structs -/

/-- A void field has no default to apply. -/
def FieldDescriptor.VoidPlain (field : FieldDescriptor ι) : Prop :=
  ∀ name offset type defaultMask discriminantValue, field =
    .slot name offset type defaultMask discriminantValue →
    type = .primitive .void → defaultMask = 0

def Schema.VoidsPlain (schema : Schema ι) : Prop :=
  ∀ get, ∀ field ∈ (schema get).fields, field.VoidPlain

section Structs

variable {schema : Schema ι} {r : MessageReader} {stack : ℕ} {structRef : StructRef}
  {view : StructView} {decodeStruct : ι → StructRef → Except Thrown Record}
  {decodeView : ι → StructView → Option Record}

theorem decodeField_toOption (structs : DecodesViews r decodeStruct decodeView)
    (shows : ShowsStruct r structRef view) {field : FieldDescriptor ι} (proper : field.VoidPlain) :
    (decodeField (schema.createDefault stack) decodeStruct r structRef field).toOption =
      treeField (treeDefault schema stack) decodeView view field := by
  cases field with
  | group name get discriminantValue =>
    unfold decodeField treeField
    rw [Fallible.toOption_map, structs get _ _ shows]
  | slot name offset type defaultMask discriminantValue =>
    cases scalar : isDataType type with
    | true =>
      rw [decodeField_scalar name scalar, WORD_BYTES, Nat.mul_comm, ← shows.length_data]
      simp only [treeField, scalar, if_true]
      split_ifs with outside
      · rfl
      · rw [decodeDataField_view shows (not_lt.1 outside) scalar (proper _ _ _ _ _ rfl)]
        rfl
    | false =>
      simp only [decodeField, treeField, scalar, Bool.false_eq_true, if_false]
      by_cases beyond : offset ≥ structRef.pointerCount
      · rw [if_pos beyond, List.getElem?_eq_none (by rw [shows.arity]; exact beyond)]
        rfl
      · rw [if_neg beyond]
        have low : offset < view.pointers.length := by
          rw [shows.arity]
          exact not_le.1 beyond
        have known := List.getElem?_eq_getElem low
        have shown := shows.pointers offset _ known
        rw [known]
        unfold MessageReader.pointerWordIndex readResolvedPointerWord readResolvedPointer
        rw [if_neg beyond, Fallible.pure_eq_ok, Fallible.ok_bind]
        generalize view.pointers[offset] = t at shown
        cases shown with
        | null target =>
          obtain ⟨resolved, done, null, -⟩ := resolved_of_locate target
          rw [done]
          simp [(null.1 rfl).1]
        | @capability _ _ word target =>
          obtain ⟨resolved, done, -, known, -⟩ := resolved_of_locate target
          obtain ⟨rfl, kind⟩ := known word rfl
          have present : resolved.word ≠ 0 := fun zero => by rw [zero] at kind; cases kind
          have pointer := @decodePointerField_toOption _ schema _ stack _ _ _ _ _ structs type
            (.capability target)
          rw [done]
          simp [present, pointer, Fallible.toOption_map]
        | object target plain arity child =>
          obtain ⟨resolved, done, -⟩ := resolved_of_locate target
          have present : resolved.word ≠ 0 := fun zero => plain (by
            unfold readResolvedPointerWord readResolvedPointer
            rw [done, ← zero]
            rfl)
          have pointer := @decodePointerField_toOption _ schema _ stack _ _ _ _ _ structs type
            (.object target plain arity child)
          rw [done]
          simp [present, pointer, Fallible.toOption_map]

/-- The decoder of structs reads views. -/
theorem decodeStructAt_toOption (voids : schema.VoidsPlain) (stack : ℕ) :
    DecodesViews r (decodeStructAt schema r stack) (treeStruct schema stack) := by
  induction stack with
  | zero => exact fun _ _ _ _ => rfl
  | succ stack ih =>
    intro get structRef view shows
    unfold decodeStructAt treeStruct treeDefault
    dsimp only
    rw [Fallible.toOption_bind]
    apply congrArg (Option.bind _)
    funext out
    rw [decodeDiscriminant_view shows, Fallible.ok_bind]
    apply Fallible.toOption_foldlM
    intro record field mem
    rw [Fallible.toOption_ite, Fallible.toOption_map,
      decodeField_toOption ih shows (voids get field mem)]
    rfl

end Structs

/-! ## Messages -/

variable {schema : Schema ι} {message message' : Bytes} {t : ObjectTree}

/-- What a message decodes to is what its tree decodes to. -/
theorem decodeStructMessage_toOption (voids : schema.VoidsPlain) (shows : MessageShows message t)
    (stack : ℕ) (get : ι) :
    (decodeStructMessage schema stack get message).toOption = treeMessage schema stack get t := by
  obtain ⟨r, opened, shows⟩ := shows
  unfold decodeStructMessage
  rw [opened, Fallible.ok_bind]
  show (r.readStructPointer 0 (0 : ℕ) >>= _).toOption = _
  cases shows with
  | null target =>
    rw [(readPointer_null target).1]
    rfl
  | capability target =>
    rw [Fallible.toOption_bind, readStructPointer_fails target (by simp) (by simp)]
    rfl
  | @object _ _ shape s start children target _ arity child =>
    cases shape with
    | struct dw pc =>
      obtain ⟨-, inside, -⟩ := locate_object target
      rw [readStructPointer_of_locate target, Fallible.ok_bind]
      exact decodeStructAt_toOption voids stack get _ _ (showsStruct_whole inside arity child)
    | flat | inlineComposite =>
      rw [Fallible.toOption_bind, readStructPointer_fails target (by simp) (by simp)]
      rfl

/-- **Decoding does not depend on placement.**  Two messages that show the same tree, in whatever
segments, with near, far or double-far pointers, gaps and order of objects, decode to the same
record, or neither decodes. -/
theorem decode_any_placement (voids : schema.VoidsPlain) (shows : MessageShows message t)
    (shows' : MessageShows message' t) (stack : ℕ) (get : ι) :
    (decodeStructMessage schema stack get message).toOption =
      (decodeStructMessage schema stack get message').toOption := by
  rw [decodeStructMessage_toOption voids shows, decodeStructMessage_toOption voids shows']

/-- `farSource`, framed. -/
def farMessage : Bytes := toLE 4 1 ++ toLE 4 1 ++ toLE 4 2 ++ toLE 4 0 ++ farSource.segments.flatten

/-- A struct of one word. -/
def wordTree : ObjectTree := .object (.struct 1 0) (toLE 8 42) []

theorem shows_wordTree {r : MessageReader} {s start : ℕ}
    (target : r.locate 0 0 = .ok (.object (.struct 1 0) s start))
    (plain : r.readResolvedPointerWord 0 0 ≠ .ok 0)
    (content : r.block (.struct 1 0) s start = toLE 8 42) :
    r.Shows 0 0 wordTree := by
  have shows := @Shows.object r 0 0 (.struct 1 0) s start [] target plain rfl
    (fun i slot t known => by simp [Shape.slots] at known)
  rw [content] at shows
  exact shows

def countSchema : Schema Unit := fun _ =>
  ⟨1, 0, [.slot "count" 0 (.primitive .uint64) 0 none], .const [("count", .bigint 0)], none⟩

theorem decode_any_placement_far : MessageShows farMessage wordTree ∧
    MessageShows farCopy wordTree ∧
    (decodeStructMessage countSchema 2 () farMessage).toOption =
      (decodeStructMessage countSchema 2 () farCopy).toOption := by
  have far : MessageShows farMessage wordTree :=
    ⟨farSource, by decide, @shows_wordTree _ 1 1 (by decide) (by decide) (by decide)⟩
  have near : MessageShows farCopy wordTree :=
    ⟨⟨[farCopy.drop 8]⟩, by decide, @shows_wordTree _ 0 1 (by decide) (by decide) (by decide)⟩
  have voids : countSchema.VoidsPlain := by
    rintro get field mem name offset type mask d rfl void
    simp only [countSchema, List.mem_singleton, FieldDescriptor.slot.injEq] at mem
    exact mem.2.2.2.1
  exact ⟨far, near, decode_any_placement voids far near 2 ()⟩

end CapnpDeno
