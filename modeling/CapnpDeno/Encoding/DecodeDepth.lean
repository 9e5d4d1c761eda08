import CapnpDeno.Encoding.NestedStructs

/-!
# How deep the decoder recurses

The reader and the copier raise their own errors only, so that the decoder exhausts its stack
exactly where a chain of structs in the message, each nested in the one before, is as long as the
stack, or a default needs more than the chain has left of it.
-/

namespace CapnpDeno

open CallScript

/-! ## Errors of the reader -/

@[simp] theorem plainError_ne (message : String) : plainError message ≠ stackOverflow :=
  fun same => nomatch congrArg Thrown.cls same

@[simp] theorem protocolError_ne (message : String) : protocolError message ≠ stackOverflow :=
  fun same => nomatch congrArg Thrown.cls same

@[simp] theorem nullAccess_ne : nullAccess ≠ stackOverflow :=
  fun same => nomatch congrArg Thrown.cls same

@[simp] theorem invalidTypedArrayLength_ne (length : ℕ) :
    invalidTypedArrayLength length ≠ stackOverflow := by
  intro same
  have messages := congrArg (fun thrown => thrown.message.toList.head?) same
  simp only [invalidTypedArrayLength, stackOverflow, String.toList_append, List.head?_append]
    at messages
  have first : (toString "Invalid typed array length: ").toList.head? = some 'I' := by decide
  have second : "Maximum call stack size exceeded".toList.head? = some 'M' := by decide
  rw [first, second] at messages
  cases messages

/-- The stack is not exhausted. -/
abbrev Shallow {α : Type} (x : Except Thrown α) : Prop := Avoids stackOverflow x

namespace MessageReader

variable (r : MessageReader)

theorem shallow_segment (segmentId : ℕ) : Shallow (r.segment segmentId) := by
  unfold segment
  split <;> simp

theorem shallow_requireWordRange (segmentId : ℕ) (wordIndex : ℤ) (count : ℕ) (context : String) :
    Shallow (r.requireWordRange segmentId wordIndex count context) :=
  (shallow_segment r segmentId).bind fun _ => .ite (by simp) (by simp)

theorem shallow_readWord (segmentId : ℕ) (wordIndex : ℤ) :
    Shallow (r.readWord segmentId wordIndex) :=
  (shallow_requireWordRange r _ _ _ _).bind fun _ => (shallow_segment r _).bind fun _ => by simp

theorem shallow_resolveDoubleFar (landingSegmentId landingPadWord : ℕ) :
    Shallow (r.resolveDoubleFar landingSegmentId landingPadWord) := by
  refine (shallow_requireWordRange r _ _ _ _).bind fun _ =>
    (shallow_readWord r _ _).bind fun pad0 => ?_
  refine .ite (by simp) (.ite (by simp) ?_)
  exact (shallow_readWord r _ _).bind fun _ => by simp

theorem shallow_resolveHops (hops currentSegmentId : ℕ) (currentPointerWord : ℤ) (word : ℕ) :
    Shallow (r.resolveHops hops currentSegmentId currentPointerWord word) := by
  induction hops generalizing currentSegmentId currentPointerWord word with
  | zero => simp [resolveHops]
  | succ hops ih =>
    unfold resolveHops
    refine .ite (by simp) (.ite (shallow_resolveDoubleFar r _ _) ?_)
    exact (shallow_readWord r _ _).bind fun word => ih _ _ word

theorem shallow_resolvePointer (segmentId : ℕ) (pointerWord : ℤ) :
    Shallow (r.resolvePointer segmentId pointerWord) :=
  (shallow_readWord r _ _).bind fun word => shallow_resolveHops r 8 _ _ word

theorem shallow_readStructPointer (segmentId : ℕ) (pointerWord : ℤ) :
    Shallow (r.readStructPointer segmentId pointerWord) := by
  refine (shallow_resolvePointer r _ _).bind fun resolved =>
    .ite (by simp) (.ite (by simp) (.ite (by simp) ?_))
  exact (shallow_requireWordRange r _ _ _ _).bind fun _ => by simp

theorem shallow_flatListWords (elementSize count : ℕ) :
    Shallow (flatListWords elementSize count) := by
  unfold flatListWords
  split <;> simp

theorem shallow_readListPointer (segmentId : ℕ) (pointerWord : ℤ) :
    Shallow (r.readListPointer segmentId pointerWord) := by
  refine (shallow_resolvePointer r _ _).bind fun resolved =>
    .ite (by simp) (.ite (by simp) (.ite ?_ ?_))
  · refine (shallow_requireWordRange r _ _ _ _).bind fun _ =>
      (shallow_readWord r _ _).bind fun tag => ?_
    refine .ite (by simp) (.ite (by simp) ?_)
    exact (shallow_requireWordRange r _ _ _ _).bind fun _ => by simp
  · refine (shallow_flatListWords _ _).bind fun words => ?_
    exact (shallow_requireWordRange r _ _ _ _).bind fun _ => by simp

theorem shallow_requireDataByteRange (segmentId byteOffset len maxLen : ℕ) (context : String) :
    Shallow (r.requireDataByteRange segmentId byteOffset len maxLen context) :=
  (shallow_segment r _).bind fun _ => .ite (by simp) (.ite (by simp) (by simp))

theorem shallow_readUintAt (len segmentId byteOffset maxLen : ℕ) (context : String) :
    Shallow (r.readUintAt len segmentId byteOffset maxLen context) :=
  (shallow_requireDataByteRange r _ _ _ _ _).bind fun _ =>
    (shallow_segment r _).bind fun _ => by simp

theorem shallow_readBytes (segmentId byteOffset len : ℕ) :
    Shallow (r.readBytes segmentId byteOffset len) :=
  (shallow_segment r _).bind fun _ => .ite (by simp) (by simp)

theorem shallow_strictDecode (bytes : Bytes) : Shallow (strictDecode bytes) := by
  unfold strictDecode
  split <;> simp

theorem shallow_readTextPointer (segmentId : ℕ) (pointerWord : ℤ) :
    Shallow (r.readTextPointer segmentId pointerWord) := by
  refine (shallow_readListPointer r _ _).bind fun list => ?_
  split
  · simp
  · refine (shallow_readBytes r _ _ _).bind fun bytes => .ite (by simp) ?_
    exact (shallow_strictDecode _).bind fun _ => by simp
  · simp

theorem shallow_readDataPointer (segmentId : ℕ) (pointerWord : ℤ) :
    Shallow (r.readDataPointer segmentId pointerWord) := by
  refine (shallow_readListPointer r _ _).bind fun list => ?_
  split
  · simp
  · exact (shallow_readBytes r _ _ _).bind fun _ => by simp
  · simp

end MessageReader

/-! ## Errors of the copier -/

theorem shallow_writeWord (b : MessageBuilder) (wordIndex word : ℕ) :
    Shallow (b.writeWord wordIndex word) := by
  unfold MessageBuilder.writeWord
  split <;> simp

theorem shallow_encodeSigned30 (value : ℤ) : Shallow (encodeSigned30 value) := by
  unfold encodeSigned30
  exact .ite (by simp [signed30RangeError]) (by simp)

theorem shallow_setStructPointer (b : MessageBuilder)
    (pointerWord targetWord dataWordCount pointerCount : ℕ) :
    Shallow (b.setStructPointer pointerWord targetWord dataWordCount pointerCount) :=
  (shallow_encodeSigned30 _).bind fun _ => shallow_writeWord b _ _

theorem shallow_setListPointer (b : MessageBuilder) (pointerWord targetWord elementSize count : ℕ) :
    Shallow (b.setListPointer pointerWord targetWord elementSize count) :=
  (shallow_encodeSigned30 _).bind fun _ => shallow_writeWord b _ _

theorem shallow_toMessageBytes (b : MessageBuilder) : Shallow b.toMessageBytes :=
  .ite (by simp) (by simp)

theorem shallow_copyLimit (value : Option JsNumber) (fallback : ℕ) (name : String) :
    Shallow (copyLimit value fallback name) := by
  unfold copyLimit
  split
  · simp
  · exact .ite (by simp) (by simp)

theorem shallow_chargeWork (budget : AnyPointerCopyBudget) (amount : ℕ) :
    Shallow (budget.chargeWork amount) :=
  .ite (by simp [workLimitExceeded]) (by simp)

theorem shallow_chargeOutput (budget : AnyPointerCopyBudget) (amount : ℕ) :
    Shallow (budget.chargeOutput amount) :=
  .ite (by simp [outputLimitExceeded]) (by simp)

theorem shallow_budget (options : AnyPointerCopyOptions) :
    Shallow (AnyPointerCopyBudget.new options) :=
  (shallow_copyLimit _ _ _).bind fun _ => (shallow_copyLimit _ _ _).bind fun _ =>
    (shallow_copyLimit _ _ _).bind fun _ => shallow_chargeOutput _ _

theorem shallow_listDataWordsForAnyPointerCopy (elementSize elementCount : ℕ) :
    Shallow (listDataWordsForAnyPointerCopy elementSize elementCount) := by
  unfold listDataWordsForAnyPointerCopy
  split <;> simp

theorem shallow_copyWordsForAnyPointer (r : MessageReader) (srcSegmentId srcStartWord wordCount : ℕ)
    (b : MessageBuilder) (dstStartWord : ℕ) :
    Shallow (copyWordsForAnyPointer r srcSegmentId srcStartWord wordCount b dstStartWord) :=
  Avoids.foldlM (fun _ _ => (r.shallow_readWord _ _).bind fun _ => shallow_writeWord _ _ _) b

theorem shallow_deepCopyAnyPointer (r : MessageReader) (levels srcSegmentId srcPointerWord : ℕ)
    (b : MessageBuilder) (dstPointerWord : ℕ) (budget : AnyPointerCopyBudget) :
    Shallow (deepCopyAnyPointer r levels srcSegmentId srcPointerWord b dstPointerWord budget) := by
  induction levels generalizing srcSegmentId srcPointerWord b dstPointerWord budget with
  | zero => simp [deepCopyAnyPointer, depthLimitExceeded]
  | succ levels ih =>
    unfold deepCopyAnyPointer
    refine (shallow_chargeWork _ _).bind fun budget =>
      (r.shallow_resolvePointer _ _).bind fun resolved => ?_
    refine .ite ((shallow_writeWord _ _ _).bind fun _ => by simp)
      (.ite ((shallow_writeWord _ _ _).bind fun _ => by simp) ?_)
    refine .ite ?_ (.ite (by simp) ?_)
    · refine (r.shallow_readStructPointer _ _).bind fun found => ?_
      split
      · simp
      · refine (shallow_chargeWork _ _).bind fun _ => (shallow_chargeOutput _ _).bind fun _ => ?_
        refine (shallow_setStructPointer _ _ _ _ _).bind fun b =>
          (shallow_copyWordsForAnyPointer _ _ _ _ _ _).bind fun b => ?_
        exact Avoids.foldlM (fun _ _ => ih _ _ _ _ _) _
    · refine (r.shallow_readListPointer _ _).bind fun found => ?_
      split
      · simp
      · refine (shallow_chargeWork _ _).bind fun _ => (shallow_chargeWork _ _).bind fun _ => ?_
        refine (shallow_chargeOutput _ _).bind fun _ =>
          (shallow_setListPointer _ _ _ _ _).bind fun b => ?_
        refine (shallow_copyWordsForAnyPointer _ _ _ _ _ _).bind fun b => .ite (by simp) ?_
        exact Avoids.foldlM (fun _ _ => Avoids.foldlM (fun _ _ => ih _ _ _ _ _) _) _
      · refine (shallow_chargeWork _ _).bind fun _ =>
          (shallow_listDataWordsForAnyPointerCopy _ _).bind fun words => ?_
        refine (shallow_chargeWork _ _).bind fun _ => (shallow_chargeOutput _ _).bind fun _ => ?_
        refine (shallow_setListPointer _ _ _ _ _).bind fun b => .ite ?_ ?_
        · exact Avoids.foldlM (fun _ _ => ih _ _ _ _ _) _
        · exact (shallow_copyWordsForAnyPointer _ _ _ _ _ _).bind fun _ => by simp

theorem shallow_decodeAnyPointerMessageFromReader (r : MessageReader) (segmentId pointerWord : ℕ)
    (options : AnyPointerCopyOptions) :
    Shallow (decodeAnyPointerMessageFromReader r segmentId pointerWord options) :=
  (shallow_budget options).bind fun _ => (shallow_deepCopyAnyPointer _ _ _ _ _ _ _).bind fun _ =>
    shallow_toMessageBytes _

/-! ## Errors of the decoder -/

section Decoder

variable {ι : Type} {r : MessageReader}

theorem shallow_inStruct {α : Type} {readAt : ℕ → ℕ → ℕ → String → Except Thrown α}
    (reads : ∀ segmentId byteOffset maxLen context,
      Shallow (readAt segmentId byteOffset maxLen context))
    (structRef : StructRef) (byteOffset : ℕ) (context : String) :
    Shallow (MessageReader.inStruct readAt structRef byteOffset context) := reads _ _ _ _

theorem shallow_readUintInStruct (len : ℕ) (structRef : StructRef) (byteOffset : ℕ)
    (context : String) :
    Shallow (MessageReader.inStruct (r.readUintAt len) structRef byteOffset context) :=
  shallow_inStruct (r.shallow_readUintAt len) _ _ _

theorem shallow_readBool (structRef : StructRef) (bitOffset : ℕ) :
    Shallow (r.readBool structRef bitOffset) :=
  (shallow_readUintInStruct 1 _ _ _).bind fun _ => by simp

theorem shallow_decodeDataWithDefault (structRef : StructRef) (offset : ℕ) (type : TypeDescriptor ι)
    (mask : ℕ) :
    Shallow (decodeDataWithDefault r structRef offset type mask) := by
  unfold decodeDataWithDefault
  split
  · exact avoids_map.mpr (shallow_readBool _ _)
  · dsimp only
    split
    · exact (shallow_readUintInStruct 1 _ _ _).bind fun _ => by simp
    · exact (shallow_readUintInStruct 2 _ _ _).bind fun _ => by simp
    · exact (shallow_readUintInStruct 4 _ _ _).bind fun _ => by simp
    · exact (shallow_readUintInStruct 8 _ _ _).bind fun _ => by simp
    · simp

theorem shallow_decodeDataField (structRef : StructRef) (offset : ℕ) (type : TypeDescriptor ι)
    (defaultMask : ℕ) :
    Shallow (decodeDataField r structRef offset type defaultMask) := by
  refine .ite (shallow_decodeDataWithDefault _ _ _ _) ?_
  split
  · simp
  · exact avoids_map.mpr (shallow_readBool _ _)
  · exact avoids_map.mpr (avoids_map.mpr (shallow_readUintInStruct 1 _ _ _))
  · exact avoids_map.mpr (avoids_map.mpr (shallow_readUintInStruct 2 _ _ _))
  · exact avoids_map.mpr (avoids_map.mpr (shallow_readUintInStruct 4 _ _ _))
  · exact avoids_map.mpr (avoids_map.mpr (shallow_readUintInStruct 8 _ _ _))
  · exact avoids_map.mpr (shallow_readUintInStruct 1 _ _ _)
  · exact avoids_map.mpr (shallow_readUintInStruct 2 _ _ _)
  · exact avoids_map.mpr (shallow_readUintInStruct 4 _ _ _)
  · exact avoids_map.mpr ((shallow_readUintInStruct 8 _ _ _).bind fun _ => by simp)
  · exact avoids_map.mpr (avoids_map.mpr (shallow_readUintInStruct 4 _ _ _))
  · exact avoids_map.mpr (avoids_map.mpr (shallow_readUintInStruct 8 _ _ _))
  · exact avoids_map.mpr (shallow_readUintInStruct 2 _ _ _)
  · simp

theorem shallow_decodeDataElement (segmentId baseByte : ℕ) (elementType : TypeDescriptor ι)
    (i : ℕ) :
    Shallow (decodeDataElement r segmentId baseByte elementType i) := by
  unfold decodeDataElement
  have unsigned := fun len segmentId byteOffset maxLen context =>
    r.shallow_readUintAt len segmentId byteOffset maxLen context
  split
  · exact avoids_map.mpr (unsigned 1 _ _ _ _)
  · exact avoids_map.mpr (avoids_map.mpr (unsigned 1 _ _ _ _))
  · exact avoids_map.mpr (avoids_map.mpr (unsigned 2 _ _ _ _))
  · exact avoids_map.mpr (unsigned 2 _ _ _ _)
  · exact avoids_map.mpr (unsigned 2 _ _ _ _)
  · exact avoids_map.mpr (avoids_map.mpr (unsigned 4 _ _ _ _))
  · exact avoids_map.mpr (avoids_map.mpr (unsigned 4 _ _ _ _))
  · exact avoids_map.mpr (unsigned 4 _ _ _ _)
  · exact avoids_map.mpr (avoids_map.mpr (unsigned 8 _ _ _ _))
  · exact avoids_map.mpr (avoids_map.mpr (unsigned 8 _ _ _ _))
  · exact avoids_map.mpr ((unsigned 8 _ _ _ _).bind fun _ => by simp)
  · exact avoids_map.mpr (unsigned 1 _ _ _ _)

theorem shallow_decodeCapabilityPointerWord (word : ℕ) :
    Shallow (decodeCapabilityPointerWord word) :=
  .ite (by simp) (by simp)

/-! ## Errors of the places -/

theorem own_structsInList {structsAt : ℕ → ℕ → CallScript (Nested ι) Thrown}
    (elements : ∀ segmentId pointerWord, (structsAt segmentId pointerWord).failure ≠
      some stackOverflow)
    (segmentId pointerWord : ℕ) (elementType : TypeDescriptor ι) :
    (structsInList r structsAt segmentId pointerWord elementType).failure ≠ some stackOverflow := by
  refine own_after (r.shallow_readListPointer _ _) fun found => ?_
  cases found with
  | none => simp [done]
  | some list =>
    dsimp only
    split
    · split
      · exact own_all fun _ => by simp [one]
      · simp [malformed]
    · by_cases pointers : isPointerType elementType = true
      · rw [if_pos pointers]
        split
        · exact own_all fun _ => elements _ _
        · simp [malformed]
      · rw [if_neg pointers]
        split
        · split_ifs
          · simp [malformed]
          · simp [done]
          · exact own_all fun _ => own_ofResult (shallow_decodeDataElement _ _ _ _)
        · simp [malformed]

theorem own_structsAt (segmentId pointerWord : ℕ) (type : TypeDescriptor ι) :
    (structsAt r segmentId pointerWord type).failure ≠ some stackOverflow := by
  induction type generalizing segmentId pointerWord with
  | struct get =>
    refine own_after (r.shallow_readStructPointer _ _) fun found => ?_
    cases found <;> simp [one]
  | list element ih => exact own_structsInList ih _ _ _
  | text => exact own_ofResult (r.shallow_readTextPointer _ _)
  | data => exact own_ofResult (r.shallow_readDataPointer _ _)
  | interface =>
    refine own_after (avoids_map.mpr (r.shallow_resolvePointer _ _)) fun word => ?_
    split_ifs
    · simp [done]
    · exact own_ofResult (shallow_decodeCapabilityPointerWord _)
  | anyPointer =>
    refine own_after (r.shallow_resolvePointer _ _) fun resolved => ?_
    split_ifs
    · simp [done]
    · exact own_ofResult (shallow_decodeCapabilityPointerWord _)
    · exact own_ofResult (shallow_decodeAnyPointerMessageFromReader _ _ _ _)
  | primitive | enum => simp [structsAt, malformed]

theorem own_structsInField (structRef : StructRef) (field : FieldDescriptor ι) :
    (structsInField r structRef field).failure ≠ some stackOverflow := by
  cases field with
  | group => simp [structsInField, one]
  | slot name offset type defaultMask discriminantValue =>
    dsimp only [structsInField]
    split_ifs
    · simp [done]
    · exact own_ofResult (shallow_decodeDataField _ _ _ _)
    · simp [done]
    · refine own_after (.ite (by simp) (by simp)) fun pointerWord => ?_
      refine own_after (avoids_map.mpr (r.shallow_resolvePointer _ _)) fun word => ?_
      split_ifs
      · simp [done]
      · exact own_structsAt _ _ _

theorem own_structsIn (schema : Schema ι) (place : StructPlace ι) :
    (structsIn r schema place).failure ≠ some stackOverflow := by
  refine own_andThen (by simp [one]) (own_after ?_ fun active => own_all fun field => ?_)
  · unfold decodeDiscriminant
    split
    · simp
    · exact .ite (by simp) (avoids_map.mpr (shallow_readUintInStruct 2 _ _ _))
  · split_ifs
    · simp [done]
    · exact own_structsInField _ _

/-! ## Deeper stacks -/

section Stacks

variable {f g : ι → Except Thrown Record}
  {decodeStruct decodeStruct' : ι → StructRef → Except Thrown Record}

theorem decodeListField_mono
    (structs : ∀ get ref, Approximates stackOverflow (decodeStruct get ref) (decodeStruct' get ref))
    {decodeElement decodeElement' : ℕ → ℕ → Except Thrown Value}
    (elements : ∀ segmentId pointerWord,
      Approximates stackOverflow (decodeElement segmentId pointerWord)
        (decodeElement' segmentId pointerWord))
    (segmentId pointerWord : ℕ) (elementType : TypeDescriptor ι) :
    Approximates stackOverflow (decodeListField decodeStruct decodeElement r segmentId pointerWord
      elementType)
      (decodeListField decodeStruct' decodeElement' r segmentId pointerWord elementType) := by
  refine (Approximates.refl _).bind fun found => ?_
  cases found with
  | none => exact .refl _
  | some list =>
    dsimp only
    split
    · split
      · exact .mapM (fun i => (structs _ _).map _) _
      · exact .refl _
    · refine .ite ?_ (.refl _)
      split
      · exact .mapM (fun i => elements _ _) _
      · exact .refl _

theorem decodePointerField_mono (defaults : ∀ get, Approximates stackOverflow (f get) (g get))
    (structs : ∀ get ref, Approximates stackOverflow (decodeStruct get ref) (decodeStruct' get ref))
    (segmentId pointerWord : ℕ) (type : TypeDescriptor ι) :
    Approximates stackOverflow (decodePointerField f decodeStruct r segmentId pointerWord type)
      (decodePointerField g decodeStruct' r segmentId pointerWord type) := by
  induction type generalizing segmentId pointerWord with
  | struct get =>
    refine (Approximates.refl _).bind fun found => ?_
    cases found with
    | none => exact (defaults get).map _
    | some ref => exact (structs get ref).map _
  | list element ih => exact (decodeListField_mono structs ih _ _ _).map _
  | primitive | enum | text | data | interface | anyPointer => exact .refl _

theorem decodeField_mono (defaults : ∀ get, Approximates stackOverflow (f get) (g get))
    (structs : ∀ get ref, Approximates stackOverflow (decodeStruct get ref) (decodeStruct' get ref))
    (structRef : StructRef) (field : FieldDescriptor ι) :
    Approximates stackOverflow (decodeField f decodeStruct r structRef field)
      (decodeField g decodeStruct' r structRef field) := by
  cases field with
  | group name get discriminantValue => exact (structs get structRef).map _
  | slot name offset type defaultMask discriminantValue =>
    unfold decodeField
    refine .ite (.refl _) (.ite (.refl _) ?_)
    refine (Approximates.refl _).bind fun pointerWord => (Approximates.refl _).bind fun word => ?_
    exact .ite (.refl _) ((decodePointerField_mono defaults structs _ _ _).map _)

theorem decodeStructAt_deeper (schema : Schema ι) (stack : ℕ) (get : ι) (structRef : StructRef) :
    Approximates stackOverflow (decodeStructAt schema r stack get structRef)
      (decodeStructAt schema r (stack + 1) get structRef) := by
  induction stack generalizing get structRef with
  | zero => exact .overflow _
  | succ stack ih =>
    have defaults := fun get => (schema get).createDefault.deeper stack
    refine (defaults get).bind fun out => (Approximates.refl _).bind fun active => ?_
    refine .foldlM (fun record field => .ite (.refl _) (.map ?_ _)) _ _
    exact decodeField_mono defaults ih structRef field

end Stacks

/-- `decodeStructAt` of a place. -/
def decodePlace (schema : Schema ι) (r : MessageReader) (place : StructPlace ι) :
    StackFunction stackOverflow Record where
  call stack := decodeStructAt schema r stack place.1 place.2
  exhausted := rfl
  deeper stack := decodeStructAt_deeper schema stack place.1 place.2

/-- The `createDefault` functions of a schema. -/
def Schema.defaults (schema : Schema ι) (get : ι) : StackFunction stackOverflow Record :=
  (schema get).createDefault

theorem decodePlace_scripted (schema : Schema ι) (r : MessageReader) :
    Scripted (decodePlace schema r) schema.defaults (structsIn r schema) where
  step _ place := run_structsIn place ⟨fun _ => rfl, fun _ _ => rfl⟩
  own := own_structsIn schema

/-! ## Messages -/

theorem shallow_takeSegments (bytes : Bytes) (cursor : ℕ) (sizes : List ℕ) :
    Shallow (MessageReader.takeSegments bytes cursor sizes) := by
  induction sizes generalizing cursor with
  | nil => simp [MessageReader.takeSegments]
  | cons size sizes ih => exact .ite (by simp) ((ih _).bind fun _ => by simp)

theorem shallow_ofBytes (bytes : Bytes) : Shallow (MessageReader.ofBytes bytes) :=
  .ite (by simp) (.ite (by simp) ((shallow_takeSegments _ _ _).bind fun _ => by simp))

/-- What a message starts with: its root struct, or the default that stands for a null root. -/
def rootPlace (get : ι) : Option StructRef → Nested ι
  | none => .inr get
  | some root => .inl (get, root)

/-- The message can be opened, and has something of its root. -/
def AtRoot (p : MessageReader → Nested ι → Prop) (get : ι) (bytes : Bytes) : Prop :=
  ∃ r root, MessageReader.ofBytes bytes = .ok r ∧ r.readStructPointer 0 0 = .ok root ∧
    p r (rootPlace get root)

/-- So many structs, the first of them at the root, each nested in the one before behind others that
can be read to their ends.  The chain may end before with a default that needs more than the
rest. -/
def StructChain (schema : Schema ι) (length : ℕ) : ι → Bytes → Prop :=
  AtRoot fun r place => Chain schema.defaults (structsIn r schema) length place

/-- So many structs, the first of them at the root, each nested in the one before. -/
def DeepNesting (schema : Schema ι) (length : ℕ) : ι → Bytes → Prop :=
  AtRoot fun r place => Deep schema.defaults (structsIn r schema) length place

theorem decodeStructMessage_overflows_iff (schema : Schema ι) (limit : ℕ) (get : ι)
    (bytes : Bytes) :
    decodeStructMessage schema limit get bytes = .error stackOverflow ↔
    StructChain schema limit get bytes := by
  have root : ∀ r root, (match root with
      | none => schema.createDefault limit get
      | some root => decodeStructAt schema r limit get root) = .error stackOverflow ↔
      Chain schema.defaults (structsIn r schema) limit (rootPlace get root) := by
    intro r root
    rw [← (decodePlace_scripted schema r).overflows_iff, ← errorOf_eq_some]
    cases root <;> rfl
  unfold decodeStructMessage StructChain AtRoot
  rw [Fallible.bind_eq_error]
  constructor
  · rintro (unread | ⟨r, opened, failed⟩)
    · exact absurd unread (shallow_ofBytes bytes)
    · obtain unread | ⟨found, rooted, failed⟩ := Fallible.bind_eq_error.mp failed
      · exact absurd unread (r.shallow_readStructPointer 0 0)
      · exact ⟨r, found, opened, rooted, (root r found).mp failed⟩
  · rintro ⟨r, found, opened, rooted, chain⟩
    refine .inr ⟨r, opened, ?_⟩
    rw [Fallible.bind_eq_error]
    exact .inr ⟨found, rooted, (root r found).mpr chain⟩

/-- The decoder stays within a stack exactly where no such chain is as long as the stack, and
wherever structs are not nested as deep. -/
theorem decodeStructMessage_bounded (schema : Schema ι) (limit : ℕ) (get : ι) (bytes : Bytes) :
    (decodeStructMessage schema limit get bytes ≠ .error stackOverflow ↔
      ¬ StructChain schema limit get bytes) ∧
      (¬ DeepNesting schema limit get bytes → decodeStructMessage schema limit get bytes ≠
        .error stackOverflow) := by
  have exact := not_congr (decodeStructMessage_overflows_iff schema limit get bytes)
  refine ⟨exact, fun shallow => exact.mpr ?_⟩
  rintro ⟨r, root, opened, rooted, chain⟩
  exact shallow ⟨r, root, opened, rooted, chain.deep⟩

end Decoder

/-- `struct Recursive { next @0 :Recursive; }`, with `createDefault: () => ({})`. -/
def recursiveSchema : Schema Unit :=
  fun _ => ⟨0, 1, [.slot "next" 0 (.struct ()) 0 none], .const [], none⟩

/-- A root struct whose only pointer points to the root struct. -/
def selfPointing : Bytes :=
  [0, 0, 0, 0, 2, 0, 0, 0,
    0, 0, 0, 0, 0, 0, 1, 0,
    0xfc, 0xff, 0xff, 0xff, 0, 0, 1, 0]

/-- The reader of the message, and its root struct. -/
def selfPointingReader : MessageReader := ⟨[selfPointing.drop 8]⟩

def selfPointingRoot : StructPlace Unit := ((), ⟨0, 1, 0, 1⟩)

theorem selfPointing_calls :
    (structsIn selfPointingReader recursiveSchema selfPointingRoot).calls =
      [.inr (), .inl selfPointingRoot] := by
  decide

/-- No stack is enough. -/
theorem selfPointing_overflows :
    selfPointing.length = 24 ∧
      ∀ limit, decodeStructMessage recursiveSchema limit () selfPointing =
        .error stackOverflow := by
  refine ⟨rfl, fun limit => ?_⟩
  have opened : (MessageReader.ofBytes selfPointing).toOption = some selfPointingReader := by decide
  have rooted : (selfPointingReader.readStructPointer 0 0).toOption =
      some (some selfPointingRoot.2) := by decide
  have default : Clean recursiveSchema.defaults (structsIn selfPointingReader recursiveSchema)
      (.inr ()) :=
    .outside (show (recursiveSchema.defaults ()).call 1 = .ok [] from rfl)
  have again : Descends recursiveSchema.defaults (structsIn selfPointingReader recursiveSchema)
      selfPointingRoot
      (.inl selfPointingRoot) := ⟨[.inr ()], [], selfPointing_calls, by simpa using default⟩
  have chain : ∀ length, Chain recursiveSchema.defaults
      (structsIn selfPointingReader recursiveSchema) length
      (.inl selfPointingRoot) := by
    intro length
    induction length with
    | zero => trivial
    | succ length ih => exact ⟨_, again, ih⟩
  apply (decodeStructMessage_overflows_iff recursiveSchema limit () selfPointing).mpr
  exact ⟨_, _, Fallible.toOption_eq_some.mp opened, Fallible.toOption_eq_some.mp rooted,
    chain limit⟩

end CapnpDeno
