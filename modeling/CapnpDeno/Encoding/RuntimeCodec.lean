import CapnpDeno.Encoding.AnyPointerCopy

/-!
# The schema-driven codec

`encodeStructMessage` and `decodeStructMessage`.  A struct, its pointer fields and its lists call
each other in the source; here the functions on fields and lists get the recursive call on structs
as an argument, and the first argument of `encodeStructAt` and `decodeStructAt` is the call stack
that is left.
-/

namespace CapnpDeno

variable {ι : Type}

/-! ## Kinds -/

/-- The `kind` of a primitive type. -/
def PrimitiveTypeKind.name : PrimitiveTypeKind → String
  | void => "void"
  | bool => "bool"
  | int8 => "int8"
  | int16 => "int16"
  | int32 => "int32"
  | int64 => "int64"
  | uint8 => "uint8"
  | uint16 => "uint16"
  | uint32 => "uint32"
  | uint64 => "uint64"
  | float32 => "float32"
  | float64 => "float64"

namespace TypeDescriptor

/-- `type.kind`. -/
def kind : TypeDescriptor ι → String
  | primitive kind => kind.name
  | enum _ _ => "enum"
  | struct _ => "struct"
  | list _ => "list"
  | text => "text"
  | data => "data"
  | interface => "interface"
  | anyPointer => "anyPointer"

/-- `type.kind.startsWith("int")`, which "interface" does, too. -/
def isInt : TypeDescriptor ι → Bool
  | primitive .int8 | primitive .int16 | primitive .int32 | primitive .int64 | interface => true
  | _ => false

end TypeDescriptor

/-- `value === undefined || value === null`. -/
def isNullish : Value → Bool
  | .undefined | .null => true
  | _ => false

/-! ## Data fields -/

/-- `BigInt(x)`. -/
def bigIntOfNumber (x : JsNumber) : Except Thrown ℤ :=
  if x.isInteger then pure x.trunc
  else throw ⟨.rangeError,
    s!"The number {x.toText} cannot be converted to a BigInt because it is not an integer"⟩

/-- `typeof value === "number" ? value : 0`. -/
def numericValue : Value → JsNumber
  | .number x => x
  | _ => .zero

/-- The bits of a scalar before its default is applied. -/
def dataBits (type : TypeDescriptor ι) (value : Value) : Except Thrown ℤ :=
  match type with
  | .primitive .float32 => pure (numericValue value).toFloat32
  | .primitive .float64 => pure (numericValue value).bits.toNat
  | .enum _ toOrdinal => pure (enumOrdinal toOrdinal value)
  | .primitive .int64 | .primitive .uint64 => pure (asBigInt value)
  | _ => bigIntOfNumber (asNumber value)

/-- `BigInt.asUintN(width * 8, bits)`. -/
def asUintN (width : ℕ) (bits : ℤ) : ℕ := (bits % (256 ^ width : ℕ)).toNat

/-- `BigInt.asIntN(width * 8, bits)`. -/
def asIntN (width bits : ℕ) : ℤ := MessageReader.toSigned width (bits % 256 ^ width)

/-- A mask has no more bits than its field, so that `Number(bits)` is exact. -/
def encodeDataWithDefault (b : MessageBuilder) (structWord offset : ℕ) (type : TypeDescriptor ι)
    (value : Value) (mask : ℕ) : Except Thrown MessageBuilder :=
  let base := structWord * WORD_BYTES
  match type with
  | .primitive .bool => b.setBool (base + offset / 8) (offset % 8) (asBoolean value != (mask != 0))
  | _ => do
    let width := dataByteOffset type 1
    let place := base + dataByteOffset type offset
    let bits ← dataBits type value
    let bits := asUintN width bits ^^^ mask
    match width with
    | 1 => b.writeUint8 place bits
    | 2 => b.writeUint16 place bits
    | 4 => b.writeUint32 place bits
    | 8 => b.writeBigUint64 place bits
    | _ => throw (protocolError ("invalid scalar default type: " ++ type.kind))

def encodeDataField (b : MessageBuilder) (structWord offset : ℕ) (type : TypeDescriptor ι)
    (value : Value) (defaultMask : ℕ) : Except Thrown MessageBuilder :=
  let base := structWord * WORD_BYTES
  let place := base + dataByteOffset type offset
  if defaultMask ≠ 0 then encodeDataWithDefault b structWord offset type value defaultMask
  else
    match type with
    | .primitive .void => pure b
    | .primitive .bool => b.setBool (base + offset / 8) (offset % 8) (asBoolean value)
    | .primitive .int8 => b.writeInt8 place (asNumber value).trunc
    | .primitive .int16 => b.writeInt16 place (asNumber value).trunc
    | .primitive .int32 => b.writeInt32 place (asNumber value).trunc
    | .primitive .int64 => b.writeBigInt64 place (asBigInt value)
    | .primitive .uint8 => b.writeUint8 place (asNumber value).trunc
    | .primitive .uint16 => b.writeUint16 place (asNumber value).trunc
    | .primitive .uint32 => b.writeUint32 place (asNumber value).trunc
    | .primitive .uint64 => b.writeBigUint64 place (asBigInt value)
    | .primitive .float32 => b.writeFloat32 place (asNumber value)
    | .primitive .float64 => b.writeFloat64 place (asNumber value)
    | .enum _ toOrdinal => b.writeUint16 place (enumOrdinal toOrdinal value)
    | _ => throw (plainError ("unexpected pointer type in data field: " ++ type.kind))

/-- The value that the bits of a scalar stand for. -/
def scalarOfBits (type : TypeDescriptor ι) (width bits : ℕ) : Value :=
  match type with
  | .enum byOrdinal _ => .string (enumValue byOrdinal bits)
  | .primitive .float32 => .number (.ofFloat32 (bits % 2 ^ 32))
  | .primitive .float64 => .number ⟨UInt64.ofNat bits⟩
  | _ =>
    let signed : ℤ := if type.isInt then asIntN width bits else bits
    if width = 8 then .bigint signed else .number (.ofInt signed)

def decodeDataWithDefault (r : MessageReader) (ref : StructRef) (offset : ℕ)
    (type : TypeDescriptor ι) (mask : ℕ) : Except Thrown Value :=
  match type with
  | .primitive .bool => (fun bit => .bool (bit != (mask != 0))) <$> r.readBool ref offset
  | _ => do
    let width := dataByteOffset type 1
    let place := dataByteOffset type offset
    let bits ← match width with
      | 1 => r.readUint8InStruct ref place
      | 2 => r.readUint16InStruct ref place
      | 4 => r.readUint32InStruct ref place
      | 8 => r.readBigUint64InStruct ref place
      | _ => throw (protocolError ("invalid scalar default type: " ++ type.kind))
    return scalarOfBits type width (bits ^^^ mask)

def decodeDataField (r : MessageReader) (structRef : StructRef) (offset : ℕ)
    (type : TypeDescriptor ι) (defaultMask : ℕ) : Except Thrown Value :=
  let place := dataByteOffset type offset
  if defaultMask ≠ 0 then decodeDataWithDefault r structRef offset type defaultMask
  else
    match type with
    | .primitive .void => pure .undefined
    | .primitive .bool => .bool <$> r.readBool structRef offset
    | .primitive .int8 => (.number <| .ofInt ·) <$> r.readInt8InStruct structRef place
    | .primitive .int16 => (.number <| .ofInt ·) <$> r.readInt16InStruct structRef place
    | .primitive .int32 => (.number <| .ofInt ·) <$> r.readInt32InStruct structRef place
    | .primitive .int64 => .bigint <$> r.readBigInt64InStruct structRef place
    | .primitive .uint8 => (.number <| .ofNat ·) <$> r.readUint8InStruct structRef place
    | .primitive .uint16 => (.number <| .ofNat ·) <$> r.readUint16InStruct structRef place
    | .primitive .uint32 => (.number <| .ofNat ·) <$> r.readUint32InStruct structRef place
    | .primitive .uint64 => (.bigint ·) <$> r.readBigUint64InStruct structRef place
    | .primitive .float32 => .number <$> r.readFloat32InStruct structRef place
    | .primitive .float64 => .number <$> r.readFloat64InStruct structRef place
    | .enum byOrdinal _ =>
      (.string <| enumValue byOrdinal ·) <$> r.readUint16InStruct structRef place
    | _ => throw (plainError ("unexpected pointer type in data field: " ++ type.kind))

/-! ## Lists and pointers -/

section Encode

/-- One element of a list of scalars, in the inner switch for its size. -/
def encodeDataElement (b : MessageBuilder) (baseByte : ℕ) (elementType : TypeDescriptor ι)
    (i : ℕ) (value : Value) : Except Thrown MessageBuilder :=
  match elementType with
  | .primitive .bool => b.setBool (baseByte + i / 8) (i % 8) (asBoolean value)
  | .primitive .int8 => b.writeInt8 (baseByte + i) (asNumber value).trunc
  | .primitive .int16 => b.writeInt16 (baseByte + i * 2) (asNumber value).trunc
  | .enum _ toOrdinal => b.writeUint16 (baseByte + i * 2) (enumOrdinal toOrdinal value)
  | .primitive .uint16 => b.writeUint16 (baseByte + i * 2) (asNumber value).trunc
  | .primitive .int32 => b.writeInt32 (baseByte + i * 4) (asNumber value).trunc
  | .primitive .float32 => b.writeFloat32 (baseByte + i * 4) (asNumber value)
  | .primitive .uint32 => b.writeUint32 (baseByte + i * 4) (asNumber value).trunc
  | .primitive .int64 => b.writeBigInt64 (baseByte + i * 8) (asBigInt value)
  | .primitive .float64 => b.writeFloat64 (baseByte + i * 8) (asNumber value)
  | .primitive .uint64 => b.writeBigUint64 (baseByte + i * 8) (asBigInt value)
  | _ => b.writeUint8 (baseByte + i) (asNumber value).trunc

/-- The words of a list of scalars, by the outer switch. -/
def dataListWords (elementSize count : ℕ) : Except Thrown ℕ :=
  match elementSize with
  | 1 => pure ((count + 63) / 64)
  | 2 => pure (bytesToWords count)
  | 3 => pure (bytesToWords (count * 2))
  | 4 => pure (bytesToWords (count * 4))
  | 5 => pure count
  | _ => throw (plainError s!"unsupported list element size for encode: {elementSize}")

/-- `encodeListField`; `encodeStruct` is `encodeStructAt`, and `encodeElement` is
`encodePointerField` at the type of the elements. -/
def encodeListField (schema : Schema ι)
    (encodeStruct : MessageBuilder → ι → ℕ → Value → Except Thrown MessageBuilder)
    (encodeElement : MessageBuilder → ℕ → Value → Except Thrown MessageBuilder) (b : MessageBuilder)
    (pointerWord : ℕ) (elementType : TypeDescriptor ι) (values : List Value) :
    Except Thrown MessageBuilder :=
  match elementType with
  | .primitive .void => b.setListPointer pointerWord (pointerWord + 1) 0 values.length
  | .struct get => do
    let descriptor := schema get
    let stride := descriptor.dataWordCount + descriptor.pointerCount
    let wordsInElements := stride * values.length
    let (startWord, b) := b.allocWords (1 + wordsInElements)
    let tag := values.length <<< 2 ||| descriptor.dataWordCount <<< 32 |||
      descriptor.pointerCount <<< 48
    let b ← b.writeWord startWord tag
    let b ← values.zipIdx.foldlM (fun b item =>
      encodeStruct b get (startWord + 1 + item.2 * stride) item.1) b
    b.setListPointer pointerWord startWord 7 wordsInElements
  | _ =>
    if isPointerType elementType then do
      let (startWord, b) := b.allocWords values.length
      let b ← values.zipIdx.foldlM (fun b item => encodeElement b (startWord + item.2) item.1) b
      b.setListPointer pointerWord startWord 6 values.length
    else do
      let words ← dataListWords (listElementSize elementType) values.length
      let (startWord, b) := b.allocWords words
      let b ← values.zipIdx.foldlM (fun b item =>
        encodeDataElement b (startWord * WORD_BYTES) elementType item.2 item.1) b
      b.setListPointer pointerWord startWord (listElementSize elementType) values.length

def encodePointerField (schema : Schema ι)
    (encodeStruct : MessageBuilder → ι → ℕ → Value → Except Thrown MessageBuilder)
    (b : MessageBuilder) (pointerWord : ℕ) (type : TypeDescriptor ι) (value : Value) :
    Except Thrown MessageBuilder :=
  if isNullish value then b.writeWord pointerWord 0
  else
    match type with
    | .text => b.writeTextPointer pointerWord (asString value)
    | .data => b.writeDataPointer pointerWord (asUint8Array value)
    | .struct get => do
      let descriptor := schema get
      let (structWord, b) := b.allocWords (descriptor.dataWordCount + descriptor.pointerCount)
      let b ← b.setStructPointer pointerWord structWord descriptor.dataWordCount
        descriptor.pointerCount
      encodeStruct b get structWord value
    | .list element =>
      encodeListField schema encodeStruct
        (fun b pointerWord value => encodePointerField schema encodeStruct b pointerWord
          element value)
        b pointerWord element (asArray value)
    | .interface => do
      match ← capabilityIndexFrom value with
      | none => b.writeWord pointerWord 0
      | some capabilityIndex =>
        let word ← encodeCapabilityPointerWord capabilityIndex
        b.writeWord pointerWord word
    | .anyPointer => do
      match ← asAnyPointerValue value with
      | .null => b.writeWord pointerWord 0
      | .interface capabilityIndex =>
        let word ← encodeCapabilityPointerWord capabilityIndex
        b.writeWord pointerWord word
      | .message message => encodeAnyPointerMessageIntoBuilder b pointerWord message .default
    | type => throw (plainError ("unexpected data type in pointer field: " ++ type.kind))

end Encode

section Decode

/-- One element of a list of scalars, in the inner switch for its size. -/
def decodeDataElement (r : MessageReader) (segmentId baseByte : ℕ) (elementType : TypeDescriptor ι)
    (i : ℕ) : Except Thrown Value :=
  let limit := MessageReader.MAX_SAFE_INTEGER
  match elementType with
  | .primitive .bool =>
    (fun byte => .bool (byte &&& (1 <<< (i % 8)) ≠ 0)) <$>
      r.readUint8At segmentId (baseByte + i / 8) limit "decode bool list"
  | .primitive .int8 =>
    (.number <| .ofInt ·) <$> r.readInt8At segmentId (baseByte + i) limit "decode int8 list"
  | .primitive .int16 =>
    (.number <| .ofInt ·) <$> r.readInt16At segmentId (baseByte + i * 2) limit "decode int16 list"
  | .enum byOrdinal _ =>
    (.string <| enumValue byOrdinal ·) <$>
      r.readUint16At segmentId (baseByte + i * 2) limit "decode enum list"
  | .primitive .uint16 =>
    (.number <| .ofNat ·) <$> r.readUint16At segmentId (baseByte + i * 2) limit "decode uint16 list"
  | .primitive .int32 =>
    (.number <| .ofInt ·) <$> r.readInt32At segmentId (baseByte + i * 4) limit "decode int32 list"
  | .primitive .float32 =>
    .number <$> r.readFloat32At segmentId (baseByte + i * 4) limit "decode float32 list"
  | .primitive .uint32 =>
    (.number <| .ofNat ·) <$> r.readUint32At segmentId (baseByte + i * 4) limit "decode uint32 list"
  | .primitive .int64 =>
    .bigint <$> r.readBigInt64At segmentId (baseByte + i * 8) limit "decode int64 list"
  | .primitive .float64 =>
    .number <$> r.readFloat64At segmentId (baseByte + i * 8) limit "decode float64 list"
  | .primitive .uint64 =>
    (.bigint ·) <$> r.readBigUint64At segmentId (baseByte + i * 8) limit "decode uint64 list"
  | _ =>
    (.number <| .ofNat ·) <$> r.readUint8At segmentId (baseByte + i) limit "decode uint8 list"

/-- `decodeListField`; `decodeStruct` is `decodeStructAt`, and `decodeElement` is
`decodePointerField` at the type of the elements. -/
def decodeListField (decodeStruct : ι → StructRef → Except Thrown Record)
    (decodeElement : ℕ → ℕ → Except Thrown Value) (r : MessageReader) (segmentId pointerWord : ℕ)
    (elementType : TypeDescriptor ι) : Except Thrown (List Value) := do
  match ← r.readListPointer segmentId pointerWord with
  | none => return []
  | some list =>
    match elementType with
    | .struct get =>
      match list with
      | .inlineComposite segmentId tagWord elementCount dataWordCount pointerCount _ =>
        let stride := dataWordCount + pointerCount
        let startWord := tagWord + 1
        (List.range elementCount).mapM fun i =>
          .object <$> decodeStruct get ⟨segmentId, startWord + i * stride, dataWordCount,
            pointerCount⟩
      | .flat _ _ _ _ =>
        throw (plainError "expected inline composite list for struct element type")
    | _ =>
      if isPointerType elementType then
        match list with
        | .flat segmentId startWord 6 elementCount =>
          (List.range elementCount).mapM fun i => decodeElement segmentId (startWord + i)
        | _ => throw (plainError "expected pointer list for pointer element type")
      else
        let expectedSize := listElementSize elementType
        match list with
        | .flat segmentId startWord elementSize elementCount =>
          if elementSize ≠ expectedSize then
            throw (plainError
              s!"list element size mismatch: expected={expectedSize} actual={elementSize}")
          if expectedSize = 0 then
            return List.replicate elementCount .undefined
          (List.range elementCount).mapM fun i =>
            decodeDataElement r segmentId (startWord * WORD_BYTES) elementType i
        | .inlineComposite _ _ _ _ _ _ =>
          throw (plainError s!"list element size mismatch: expected={expectedSize} actual=7")

/-- `decodePointerField`; `createDefault` and `decodeStruct` run on the stack that is left. -/
def decodePointerField (createDefault : ι → Except Thrown Record)
    (decodeStruct : ι → StructRef → Except Thrown Record) (r : MessageReader)
    (segmentId pointerWord : ℕ) (type : TypeDescriptor ι) : Except Thrown Value :=
  match type with
  | .text => (fun text => .string (text.getD "")) <$> r.readTextPointer segmentId pointerWord
  | .data => (fun data => .bytes (data.getD [])) <$> r.readDataPointer segmentId pointerWord
  | .struct get => do
    match ← r.readStructPointer segmentId pointerWord with
    | none => .object <$> createDefault get
    | some ref => .object <$> decodeStruct get ref
  | .list element =>
    .array <$> decodeListField decodeStruct
      (fun segmentId pointerWord => decodePointerField createDefault decodeStruct r segmentId
        pointerWord element)
      r segmentId pointerWord element
  | .interface => do
    let word ← r.readResolvedPointerWord segmentId pointerWord
    if word = 0 then
      return .null
    capabilityPointer <$> decodeCapabilityPointerWord word
  | .anyPointer => do
    let resolved ← r.readResolvedPointer segmentId pointerWord
    if resolved.word = 0 ∧ resolved.contentWord = none then
      return AnyPointerValue.null.toValue
    let kind := resolved.word &&& 0x3
    if kind = 3 then
      (AnyPointerValue.interface · |>.toValue) <$> decodeCapabilityPointerWord resolved.word
    else
      (AnyPointerValue.message · |>.toValue) <$>
        decodeAnyPointerMessageFromReader r segmentId pointerWord .default
  | type => throw (plainError ("unexpected data type in pointer field: " ++ type.kind))

end Decode

/-! ## Structs -/

/-- The discriminant of a union. -/
def encodeDiscriminant (b : MessageBuilder) (descriptor : StructDescriptor ι) (structWord : ℕ)
    (activeDiscriminant : Option ℕ) : Except Thrown MessageBuilder :=
  match descriptor.union, activeDiscriminant with
  | some union, some active =>
    b.writeUint16 (structWord * WORD_BYTES + union.discriminantOffset * 2) active
  | _, _ => pure b

/-- The branches of the loop for an active field; an absent value leaves its zeros. -/
def encodeField (schema : Schema ι)
    (encodeStruct : MessageBuilder → ι → ℕ → Value → Except Thrown MessageBuilder)
    (descriptor : StructDescriptor ι) (structWord : ℕ) (b : MessageBuilder)
    (field : FieldDescriptor ι) (fieldValue : Value) : Except Thrown MessageBuilder :=
  match fieldValue with
  | .undefined => pure b
  | _ =>
    match field with
    | .group _ get _ => encodeStruct b get structWord (.object (asRecord fieldValue))
    | .slot _ offset type defaultMask _ =>
      if isDataType type then encodeDataField b structWord offset type fieldValue defaultMask
      else
        encodePointerField schema encodeStruct b
          (MessageBuilder.pointerWordIndex structWord descriptor.dataWordCount offset) type
          fieldValue

def encodeStructAt (schema : Schema ι) :
    ℕ → MessageBuilder → ι → ℕ → Value → Except Thrown MessageBuilder
  | 0, _, _, _, _ => throw stackOverflow
  | stack + 1, b, get, structWord, value => do
    let descriptor := schema get
    let record := asRecord value
    let activeDiscriminant := resolveActiveDiscriminant descriptor record
    let b ← encodeDiscriminant b descriptor structWord activeDiscriminant
    descriptor.fields.foldlM (fun b field =>
      if isInactive field activeDiscriminant then pure b
      else encodeField schema (encodeStructAt schema stack) descriptor structWord b field
        (getProp record field.name)) b

/-- The discriminant in a struct, zero where its data section is too short for one. -/
def decodeDiscriminant (r : MessageReader) (descriptor : StructDescriptor ι)
    (structRef : StructRef) :
    Except Thrown (Option ℕ) :=
  match descriptor.union with
  | none => pure none
  | some union =>
    if union.discriminantOffset * 2 + 2 > structRef.dataWordCount * WORD_BYTES then pure (some 0)
    else some <$> r.readUint16InStruct structRef (union.discriminantOffset * 2)

/-- `record["which"] = tag`, for a known member. -/
def tagRecord (descriptor : StructDescriptor ι) (activeDiscriminant : Option ℕ) (record : Record) :
    Record :=
  match descriptor.union, activeDiscriminant with
  | some union, some active =>
    match union.byDiscriminant.lookup active with
    | some tag => setProp record "which" (.string tag)
    | none => record
  | _, _ => record

/-- The branches of the loop for an active field: its value, or none to keep the default. -/
def decodeField (createDefault : ι → Except Thrown Record)
    (decodeStruct : ι → StructRef → Except Thrown Record) (r : MessageReader)
    (structRef : StructRef) (field : FieldDescriptor ι) : Except Thrown (Option Value) :=
  match field with
  | .group _ get _ => (fun record => some (.object record)) <$> decodeStruct get structRef
  | .slot _ offset type defaultMask _ =>
    if isDataType type then
      let byteOffset := match type with
        | .primitive .bool => offset / 8
        | _ => dataByteOffset type offset
      let byteWidth := match type with
        | .primitive .void => 0
        | _ => dataByteOffset type 1
      if byteOffset + byteWidth > structRef.dataWordCount * WORD_BYTES then pure none
      else some <$> decodeDataField r structRef offset type defaultMask
    else if offset ≥ structRef.pointerCount then pure none
    else do
      let pointerWord ← MessageReader.pointerWordIndex structRef offset
      let word ← r.readResolvedPointerWord structRef.segmentId pointerWord
      if word = 0 then
        return none
      some <$> decodePointerField createDefault decodeStruct r structRef.segmentId pointerWord type

def decodeStructAt (schema : Schema ι) (r : MessageReader) :
    ℕ → ι → StructRef → Except Thrown Record
  | 0, _, _ => throw stackOverflow
  | stack + 1, get, structRef => do
    let descriptor := schema get
    let out ← schema.createDefault stack get
    let activeDiscriminant ← decodeDiscriminant r descriptor structRef
    let record := tagRecord descriptor activeDiscriminant out
    descriptor.fields.foldlM (fun record field =>
      if isInactive field activeDiscriminant then pure record
      else assign record field.name <$>
        decodeField (schema.createDefault stack) (decodeStructAt schema r stack) r structRef field)
        record

/-! ## Messages -/

def encodeStructMessage (schema : Schema ι) (stack : ℕ) (get : ι) (value : Value) :
    Except Thrown Bytes := do
  let descriptor := schema get
  let (structWord, b) := MessageBuilder.new.allocWords
    (descriptor.dataWordCount + descriptor.pointerCount)
  let b ← b.setStructPointer 0 structWord descriptor.dataWordCount descriptor.pointerCount
  let b ← encodeStructAt schema stack b get structWord value
  b.toMessageBytes

def decodeStructMessage (schema : Schema ι) (stack : ℕ) (get : ι) (bytes : Bytes) :
    Except Thrown Record := do
  let r ← MessageReader.ofBytes bytes
  match ← r.readStructPointer 0 0 with
  | none => schema.createDefault stack get
  | some root => decodeStructAt schema r stack get root

end CapnpDeno
