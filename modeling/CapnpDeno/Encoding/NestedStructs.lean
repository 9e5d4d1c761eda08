import CapnpDeno.Encoding.DefaultMasks
import CapnpDeno.Lib.CallScript

/-!
# The structs nested in a struct

What a struct of a message holds under a descriptor, read with the accessors of the reader: the
structs of its groups, its struct fields and its struct lists, and the descriptors whose defaults
stand for null structs, in the order of the fields and up to the first place that cannot be read.
`decodeStructAt` calls itself for these structs, in this order.
-/

namespace CapnpDeno

open CallScript

variable {ι : Type}

/-- A struct of a message, with the descriptor that it is read by. -/
abbrev StructPlace (ι : Type) := ι × StructRef

/-- A struct, or a default. -/
abbrev Nested (ι : Type) := StructPlace ι ⊕ ι

/-! ## Places -/

section Places

variable (r : MessageReader)

/-- A place that cannot be read. -/
def malformed (message : String) : CallScript (Nested ι) Thrown := ⟨[], some (plainError message)⟩

def structsInList (structsAt : ℕ → ℕ → CallScript (Nested ι) Thrown) (segmentId pointerWord : ℕ)
    (elementType : TypeDescriptor ι) : CallScript (Nested ι) Thrown :=
  after (r.readListPointer segmentId pointerWord) fun
    | none => done
    | some list =>
      match elementType with
      | .struct get =>
        match list with
        | .inlineComposite segmentId tagWord elementCount dataWordCount pointerCount _ =>
          all (List.range elementCount) fun i =>
            one
              (.inl (get, ⟨segmentId, tagWord + 1 + i * (dataWordCount + pointerCount),
                dataWordCount, pointerCount⟩))
        | .flat _ _ _ _ => malformed "expected inline composite list for struct element type"
      | _ =>
        if isPointerType elementType then
          match list with
          | .flat segmentId startWord 6 elementCount =>
            all (List.range elementCount) fun i => structsAt segmentId (startWord + i)
          | _ => malformed "expected pointer list for pointer element type"
        else
          match list with
          | .flat segmentId startWord elementSize elementCount =>
            if elementSize ≠ listElementSize elementType then
              malformed
                s!"list element size mismatch: expected={listElementSize elementType} actual={elementSize}"
            else if listElementSize elementType = 0 then done
            else all (List.range elementCount) fun i =>
              ofResult (decodeDataElement r segmentId (startWord * WORD_BYTES) elementType i)
          | .inlineComposite _ _ _ _ _ _ =>
            malformed
              s!"list element size mismatch: expected={listElementSize elementType} actual=7"

def structsAt (segmentId pointerWord : ℕ) : TypeDescriptor ι → CallScript (Nested ι) Thrown
  | .text => ofResult (r.readTextPointer segmentId pointerWord)
  | .data => ofResult (r.readDataPointer segmentId pointerWord)
  | .struct get =>
    after (r.readStructPointer segmentId pointerWord) fun
      | none => one (.inr get)
      | some ref => one (.inl (get, ref))
  | .list element =>
    structsInList r (fun segmentId pointerWord => structsAt segmentId pointerWord element) segmentId
      pointerWord element
  | .interface =>
    after (r.readResolvedPointerWord segmentId pointerWord) fun word =>
      if word = 0 then done else ofResult (decodeCapabilityPointerWord word)
  | .anyPointer =>
    after (r.readResolvedPointer segmentId pointerWord) fun resolved =>
      if resolved.word = 0 ∧ resolved.contentWord = none then done
      else if resolved.word &&& 0x3 = 3 then ofResult (decodeCapabilityPointerWord resolved.word)
      else ofResult (decodeAnyPointerMessageFromReader r segmentId pointerWord .default)
  | type => malformed ("unexpected data type in pointer field: " ++ type.kind)

/-- A field beyond its section holds nothing, and neither does a null pointer. -/
def structsInField (structRef : StructRef) : FieldDescriptor ι → CallScript (Nested ι) Thrown
  | .group _ get _ => one (.inl (get, structRef))
  | .slot _ offset type defaultMask _ =>
    if isDataType type then
      if scalarEnd type offset > structRef.dataWordCount * WORD_BYTES then done
      else ofResult (decodeDataField r structRef offset type defaultMask)
    else if offset ≥ structRef.pointerCount then done
    else
      after (MessageReader.pointerWordIndex structRef offset) fun pointerWord =>
        after (r.readResolvedPointerWord structRef.segmentId pointerWord) fun word =>
          if word = 0 then done else structsAt r structRef.segmentId pointerWord type

/-- The default of the struct comes first, then its active fields. -/
def structsIn (schema : Schema ι) (place : StructPlace ι) : CallScript (Nested ι) Thrown :=
  (one (.inr place.1)).andThen <| after (decodeDiscriminant r (schema place.1) place.2)
    fun activeDiscriminant =>
    all (schema place.1).fields fun field =>
      if isInactive field activeDiscriminant then done else structsInField r place.2 field

end Places

/-! ## The decoder reads these places -/

section Runs

variable {r : MessageReader} {createDefault : ι → Except Thrown Record}
  {decodeStruct : ι → StructRef → Except Thrown Record} {call : Nested ι → Option Thrown}

/-- The errors of `createDefault` and of `decodeStruct`. -/
structure CallsOf (call : Nested ι → Option Thrown) (createDefault : ι → Except Thrown Record)
    (decodeStruct : ι → StructRef → Except Thrown Record) : Prop where
  defaults : ∀ get, errorOf (createDefault get) = call (.inr get)
  structs : ∀ get ref, errorOf (decodeStruct get ref) = call (.inl (get, ref))

theorem run_structsInList (calls : CallsOf call createDefault decodeStruct)
    {decodeElement : ℕ → ℕ → Except Thrown Value} {structsAt : ℕ → ℕ → CallScript (Nested ι) Thrown}
    (segmentId pointerWord : ℕ) (elementType : TypeDescriptor ι)
    (elements : ∀ segmentId pointerWord, errorOf (decodeElement segmentId pointerWord) =
      (structsAt segmentId pointerWord).run call) :
    errorOf (decodeListField decodeStruct decodeElement r segmentId pointerWord elementType) =
      (structsInList r structsAt segmentId pointerWord elementType).run call := by
  unfold decodeListField structsInList
  apply run_after
  intro found _
  cases found with
  | none => rfl
  | some list =>
    cases elementType with
    | struct get =>
      cases list with
      | flat => rfl
      | inlineComposite segmentId tagWord elementCount dataWordCount pointerCount words =>
        apply run_all_mapM
        intro i _
        rw [errorOf_map, run_one, calls.structs]
    | text | data | list | interface | anyPointer =>
      cases list with
      | inlineComposite => rfl
      | flat segmentId startWord elementSize elementCount =>
        rcases elementSize with _ | _ | _ | _ | _ | _ | _ | _
        iterate 6 · rfl
        · exact run_all_mapM fun i _ => elements _ _
        · rfl
    | primitive | enum =>
      cases list with
      | inlineComposite => rfl
      | flat segmentId startWord elementSize elementCount =>
        simp only [isPointerType, isDataType, Bool.not_true, Bool.false_eq_true, if_false]
        split_ifs
        · rfl
        · rfl
        · rfl
        · exact run_all_mapM fun i _ => (run_ofResult _).symm

theorem run_structsAt (calls : CallsOf call createDefault decodeStruct) (segmentId pointerWord : ℕ)
    (type : TypeDescriptor ι) :
    errorOf (decodePointerField createDefault decodeStruct r segmentId pointerWord type) =
      (structsAt r segmentId pointerWord type).run call := by
  induction type generalizing segmentId pointerWord with
  | primitive | enum => rfl
  | text | data =>
    unfold decodePointerField structsAt
    rw [errorOf_map, run_ofResult]
  | struct get =>
    unfold decodePointerField structsAt
    apply run_after
    intro found _
    cases found with
    | none => rw [errorOf_map, run_one, calls.defaults]
    | some ref => rw [errorOf_map, run_one, calls.structs]
  | list element ih =>
    unfold decodePointerField structsAt
    rw [errorOf_map]
    exact run_structsInList calls segmentId pointerWord element ih
  | interface =>
    unfold decodePointerField structsAt
    apply run_after
    intro word _
    split_ifs
    · rfl
    · rw [errorOf_map, run_ofResult]
  | anyPointer =>
    unfold decodePointerField structsAt
    apply run_after
    intro resolved _
    dsimp only
    split_ifs
    · rfl
    · rw [errorOf_map, run_ofResult]
    · rw [errorOf_map, run_ofResult]

theorem run_structsInField (calls : CallsOf call createDefault decodeStruct) (structRef : StructRef)
    (field : FieldDescriptor ι) :
    errorOf (decodeField createDefault decodeStruct r structRef field) =
      (structsInField r structRef field).run call := by
  cases field with
  | group name get discriminantValue =>
    unfold decodeField structsInField
    rw [errorOf_map, run_one, calls.structs]
  | slot name offset type defaultMask discriminantValue =>
    by_cases scalar : isDataType type = true
    · rw [decodeField_scalar name scalar]
      simp only [structsInField, scalar, if_true]
      split_ifs
      · rfl
      · rw [errorOf_map, run_ofResult]
    · simp only [decodeField, structsInField, scalar, Bool.false_eq_true, if_false]
      split_ifs
      · rfl
      · apply run_after
        intro pointerWord _
        apply run_after
        intro word _
        split_ifs
        · rfl
        · exact (errorOf_map ..).trans (run_structsAt calls ..)

/-- A struct is decoded by the calls of its script. -/
theorem run_structsIn {schema : Schema ι} {stack : ℕ} (place : StructPlace ι)
    (calls : CallsOf call (schema.createDefault stack) (decodeStructAt schema r stack)) :
    errorOf (decodeStructAt schema r (stack + 1) place.1 place.2) =
      (structsIn r schema place).run call := by
  rw [decodeStructAt, structsIn, run_andThen, run_one, ← calls.defaults]
  apply errorOf_bind
  intro out _
  apply run_after
  intro activeDiscriminant _
  apply run_all_foldlM
  intro record field _
  split_ifs
  · rfl
  · exact (errorOf_map ..).trans (run_structsInField calls ..)

end Runs

end CapnpDeno
