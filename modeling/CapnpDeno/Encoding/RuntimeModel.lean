import CapnpDeno.Errors
import CapnpDeno.Lib.BitField
import CapnpDeno.Lib.ByteList
import CapnpDeno.Lib.StackFunction

/-!
# Descriptor model and scalar helpers

ECMAScript values as the codec sees them (`Value`), the schema descriptors, and the conversions of
`runtime_model.ts`.  A descriptor refers to the next one through `StructTypeDescriptor.get`; here
`get` holds an index and a schema maps indices to descriptors, so that descriptors may refer to
themselves and to each other.
-/

namespace CapnpDeno

/-! ## Numbers -/

/-- An ECMAScript Number, as the bit pattern of its IEEE 754 double. -/
structure JsNumber where
  bits : UInt64
deriving DecidableEq

namespace JsNumber

/-- The sign bit. -/
def negative (x : JsNumber) : Bool := 2 ^ 63 ≤ x.bits.toNat

/-- The biased exponent field. -/
def exponent (x : JsNumber) : ℕ := x.bits.toNat / 2 ^ 52 % 2048

/-- The fraction field. -/
def fraction (x : JsNumber) : ℕ := x.bits.toNat % 2 ^ 52

/-- `Number.isFinite`. -/
def isFinite (x : JsNumber) : Bool := x.exponent ≠ 2047

/-- A finite number is `± significand * 2 ^ (scale - 1075)`. -/
def significand (x : JsNumber) : ℕ :=
  if x.exponent = 0 then x.fraction else 2 ^ 52 + x.fraction

def scale (x : JsNumber) : ℕ := max x.exponent 1

/-- The integer part of the absolute value of a finite number. -/
def magnitude (x : JsNumber) : ℕ := x.significand * 2 ^ x.scale / 2 ^ 1075

/-- `Math.trunc` of a finite number. -/
def trunc (x : JsNumber) : ℤ := if x.negative then -(x.magnitude : ℤ) else x.magnitude

/-- `Number.isInteger`. -/
def isInteger (x : JsNumber) : Bool :=
  x.isFinite && x.significand * 2 ^ x.scale % 2 ^ 1075 == 0

/-- `Number.isSafeInteger`. -/
def isSafeInteger (x : JsNumber) : Bool := x.isInteger && decide (x.trunc.natAbs < 2 ^ 53)

/-- `n > x` for an integer `n`: false on NaN, decided by the sign on the infinities. -/
def natGt (n : ℕ) (x : JsNumber) : Bool :=
  if x.isFinite then decide (x.trunc < n) || (x.negative && decide (x.trunc = n) && !x.isInteger)
  else x.fraction == 0 && x.negative

/-- `String(x)`, which spells out the integers below `10 ^ 21`; of any other finite number only the
integer part is kept here. -/
def toText (x : JsNumber) : String :=
  if x.isFinite then toString x.trunc
  else if x.fraction ≠ 0 then "NaN"
  else if x.negative then "-Infinity" else "Infinity"

/-- The double of an integer below `2 ^ 53`. -/
def ofNat (n : ℕ) : JsNumber :=
  if n = 0 then ⟨0⟩
  else ⟨UInt64.ofNat ((n.log2 + 1023) * 2 ^ 52 + (n * 2 ^ 52 / 2 ^ n.log2 - 2 ^ 52))⟩

/-- The double of an integer between `-2 ^ 53` and `2 ^ 53`. -/
def ofInt (i : ℤ) : JsNumber :=
  if i < 0 then ⟨UInt64.ofNat (2 ^ 63 + (ofNat i.natAbs).bits.toNat)⟩ else ofNat i.natAbs

/-- The zero that `asNumber` falls back to. -/
def zero : JsNumber := ⟨0⟩

/-- `m / d` rounded to the nearest integer, ties to even. -/
def roundHalfEven (m d : ℕ) : ℕ :=
  if 2 * (m % d) < d then m / d
  else if d < 2 * (m % d) then m / d + 1
  else m / d + m / d % 2

/-- The single-precision bit pattern `DataView.setFloat32` writes. -/
def toFloat32 (x : JsNumber) : ℕ :=
  let sign := if x.negative then 2 ^ 31 else 0
  let infinity := 255 * 2 ^ 23
  if x.isFinite then
    let shift := if 897 ≤ x.scale then 29 else 926 - x.scale
    sign + min infinity ((x.scale - 897) * 2 ^ 23 + roundHalfEven x.significand (2 ^ shift))
  else if x.fraction = 0 then sign + infinity
  else infinity + 2 ^ 22

/-- The double `DataView.getFloat32` reads from a single-precision bit pattern. -/
def ofFloat32 (b : ℕ) : JsNumber :=
  let sign := b / 2 ^ 31 % 2 * 2 ^ 63
  let e := b / 2 ^ 23 % 256
  let f := b % 2 ^ 23
  if e = 255 then ⟨UInt64.ofNat (sign + 2047 * 2 ^ 52 + f * 2 ^ 29)⟩
  else if e = 0 then
    if f = 0 then ⟨UInt64.ofNat sign⟩
    else ⟨UInt64.ofNat (sign + (f.log2 + 874) * 2 ^ 52 + (f * 2 ^ 52 / 2 ^ f.log2 - 2 ^ 52))⟩
  else ⟨UInt64.ofNat (sign + (e + 896) * 2 ^ 52 + f * 2 ^ 29)⟩

end JsNumber

/-! ## Values -/

/-- A value tree.  Strings are well-formed Unicode. -/
inductive Value
  | undefined
  | null
  | bool (b : Bool)
  | number (x : JsNumber)
  | bigint (i : ℤ)
  | string (s : String)
  | bytes (bs : Bytes)
  | array (xs : List Value)
  | object (props : List (String × Value))

/-- The own properties of an object. -/
abbrev Record := List (String × Value)

/-- `record[name]`. -/
def getProp (record : Record) (name : String) : Value := (record.lookup name).getD .undefined

/-- `record[name] = value`. -/
def setProp : Record → String → Value → Record
  | [], name, value => [(name, value)]
  | prop :: record, name, value =>
    if prop.1 = name then (name, value) :: record else prop :: setProp record name value

/-- `record[name] = value`, when there is a new value. -/
def assign (record : Record) (name : String) : Option Value → Record
  | some value => setProp record name value
  | none => record

/-! ## Descriptors -/

inductive PrimitiveTypeKind
  | void | bool
  | int8 | int16 | int32 | int64
  | uint8 | uint16 | uint32 | uint64
  | float32 | float64
deriving DecidableEq

/-- `TypeDescriptor`, with the descriptors a schema names by `ι`. -/
inductive TypeDescriptor (ι : Type)
  | primitive (kind : PrimitiveTypeKind)
  | enum (byOrdinal : List String) (toOrdinal : List (String × ℕ))
  | struct (get : ι)
  | list (element : TypeDescriptor ι)
  | text
  | data
  | interface
  | anyPointer

inductive FieldDescriptor (ι : Type)
  | slot (name : String) (offset : ℕ) (type : TypeDescriptor ι) (defaultMask : ℕ)
      (discriminantValue : Option ℕ)
  | group (name : String) (get : ι) (discriminantValue : Option ℕ)

namespace FieldDescriptor

variable {ι : Type}

def name : FieldDescriptor ι → String
  | slot name _ _ _ _ => name
  | group name _ _ => name

def discriminantValue : FieldDescriptor ι → Option ℕ
  | slot _ _ _ _ d => d
  | group _ _ d => d

end FieldDescriptor

structure StructUnionDescriptor where
  discriminantOffset : ℕ
  defaultDiscriminant : ℕ
  byName : List (String × ℕ)
  byDiscriminant : List (ℕ × String)

structure StructDescriptor (ι : Type) where
  dataWordCount : ℕ
  pointerCount : ℕ
  fields : List (FieldDescriptor ι)
  createDefault : StackFunction stackOverflow Record
  union : Option StructUnionDescriptor

/-- What the `get` functions of a schema return. -/
abbrev Schema (ι : Type) := ι → StructDescriptor ι

/-- `get().createDefault()`, on the stack that is left. -/
def Schema.createDefault {ι : Type} (schema : Schema ι) (stack : ℕ) (get : ι) :
    Except Thrown Record :=
  (schema get).createDefault.call stack

/-! ## Constants and pointer offsets -/

abbrev WORD_BYTES : ℕ := 8
def MASK_30 : ℕ := 0x3fff_ffff
def MASK_29 : ℕ := 0x1fff_ffff
def POINTER_OFFSET_MASK : ℕ := MASK_30 <<< 2

def bytesToWords (bytes : ℕ) : ℕ := (bytes + 7) / 8

def signed30 (raw : ℕ) : ℤ :=
  let value := raw &&& MASK_30
  if value &&& (1 <<< 29) ≠ 0 then (value : ℤ) - (1 <<< 30 : ℕ) else value

/-- The error `encodeSigned30` raises. -/
def signed30RangeError (value : ℤ) : Thrown :=
  plainError s!"pointer offset is out of signed 30-bit range: {value}"

def encodeSigned30 (value : ℤ) : Except Thrown ℕ :=
  if value < -(1 <<< 29 : ℕ) ∨ value > (1 <<< 29 : ℕ) - 1 then throw (signed30RangeError value)
  else pure ((if value < 0 then value + (1 <<< 30 : ℕ) else value).toNat &&& MASK_30)

/-! ## Type predicates and sizes -/

section Types

variable {ι : Type}

def isDataType : TypeDescriptor ι → Bool
  | .primitive _ => true
  | .enum _ _ => true
  | _ => false

def isPointerType (type : TypeDescriptor ι) : Bool := !isDataType type

def dataByteOffset (type : TypeDescriptor ι) (offset : ℕ) : ℕ :=
  match type with
  | .primitive .int8 | .primitive .uint8 => offset
  | .primitive .int16 | .primitive .uint16 | .enum _ _ => offset * 2
  | .primitive .int32 | .primitive .uint32 | .primitive .float32 => offset * 4
  | .primitive .int64 | .primitive .uint64 | .primitive .float64 => offset * 8
  | _ => offset

def listElementSize : TypeDescriptor ι → ℕ
  | .primitive .void => 0
  | .primitive .bool => 1
  | .primitive .int8 | .primitive .uint8 => 2
  | .primitive .int16 | .primitive .uint16 | .enum _ _ => 3
  | .primitive .int32 | .primitive .uint32 | .primitive .float32 => 4
  | .primitive .int64 | .primitive .uint64 | .primitive .float64 => 5
  | .text | .data | .list _ | .interface | .anyPointer => 6
  | .struct _ => 7

end Types

/-! ## Conversions of untyped values -/

/-- A value that is no object has no properties; arrays and byte arrays have none that a field
name could denote. -/
def asRecord : Value → Record
  | .object props => props
  | _ => []

def asBoolean : Value → Bool
  | .bool b => b
  | _ => false

def asNumber : Value → JsNumber
  | .number x => if x.isFinite then x else .zero
  | _ => .zero

/-- The white space and line terminators that string-to-number conversion trims. -/
def isStrWhiteSpace (c : Char) : Bool :=
  c.toNat ∈ [0x9, 0xa, 0xb, 0xc, 0xd, 0x20, 0xa0, 0x1680, 0x2028, 0x2029, 0x202f, 0x205f, 0x3000,
    0xfeff] || (0x2000 ≤ c.toNat && c.toNat ≤ 0x200a)

/-- The value of a digit in a base up to sixteen. -/
def digitValue (base : ℕ) (c : Char) : Option ℕ :=
  let d := if c.isDigit then c.toNat - 48
    else if 'a' ≤ c ∧ c ≤ 'f' then c.toNat - 87
    else if 'A' ≤ c ∧ c ≤ 'F' then c.toNat - 55
    else base
  if d < base then some d else none

/-- A nonempty run of digits. -/
def digitsValue (base : ℕ) : List Char → Option ℕ
  | [] => none
  | cs => cs.foldlM (fun acc c => (digitValue base c).map (acc * base + ·)) 0

/-- `BigInt(text)`, without the exception. -/
def stringToBigInt (text : String) : Option ℤ :=
  let cs := ((text.toList.dropWhile isStrWhiteSpace).reverse.dropWhile isStrWhiteSpace).reverse
  match cs with
  | [] => some 0
  | '0' :: 'x' :: ds | '0' :: 'X' :: ds => (digitsValue 16 ds).map Int.ofNat
  | '0' :: 'o' :: ds | '0' :: 'O' :: ds => (digitsValue 8 ds).map Int.ofNat
  | '0' :: 'b' :: ds | '0' :: 'B' :: ds => (digitsValue 2 ds).map Int.ofNat
  | '-' :: ds => (digitsValue 10 ds).map fun n => -(n : ℤ)
  | '+' :: ds => (digitsValue 10 ds).map Int.ofNat
  | ds => (digitsValue 10 ds).map Int.ofNat

def asBigInt : Value → ℤ
  | .bigint i => i
  | .number x => if x.isFinite then x.trunc else 0
  | .string s => (stringToBigInt s).getD 0
  | _ => 0

def asString : Value → String
  | .string s => s
  | _ => ""

def asUint8Array : Value → Bytes
  | .bytes bs => bs
  | _ => []

def asArray : Value → List Value
  | .array xs => xs
  | _ => []

/-! ## Capabilities and AnyPointers -/

/-- `{ capabilityIndex }`. -/
def capabilityPointer (index : ℕ) : Value :=
  .object [("capabilityIndex", .number (.ofNat index))]

/-- The error for a value that denotes no capability. -/
def invalidCapability : Thrown := plainError "invalid capability pointer value"

/-- A Number that can be a capability index. -/
def indexOfNumber (x : JsNumber) : Except Thrown (Option ℕ) :=
  if x.isInteger ∧ 0 ≤ x.trunc then pure (some x.trunc.toNat) else throw invalidCapability

def capabilityIndexFrom : Value → Except Thrown (Option ℕ)
  | .null | .undefined => pure none
  | .number x => indexOfNumber x
  | .object record =>
    match getProp record "capabilityIndex" with
    | .number x => indexOfNumber x
    | _ => throw invalidCapability
  | _ => throw invalidCapability

inductive AnyPointerValue
  | null
  | interface (capabilityIndex : ℕ)
  | message (message : Bytes)

/-- The AnyPointer value of an optional capability index. -/
def AnyPointerValue.ofIndex : Option ℕ → AnyPointerValue
  | none => null
  | some index => interface index

def asAnyPointerValue (value : Value) : Except Thrown AnyPointerValue :=
  match value with
  | .null | .undefined => pure .null
  | .bytes message => pure (.message message)
  | .object record =>
    match getProp record "kind" with
    | .string "null" => pure .null
    | .string "interface" =>
      AnyPointerValue.ofIndex <$> capabilityIndexFrom (getProp record "capabilityIndex")
    | .string "message" =>
      match getProp record "message" with
      | .bytes message => pure (.message message)
      | _ => throw (plainError "invalid anyPointer message payload")
    | _ => AnyPointerValue.ofIndex <$> capabilityIndexFrom value
  | _ => AnyPointerValue.ofIndex <$> capabilityIndexFrom value

/-- The object that a decoded AnyPointer becomes. -/
def AnyPointerValue.toValue : AnyPointerValue → Value
  | null => .object [("kind", .string "null")]
  | interface index =>
    .object [("kind", .string "interface"), ("capabilityIndex", .number (.ofNat index))]
  | message bytes => .object [("kind", .string "message"), ("message", .bytes bytes)]

def encodeCapabilityPointerWord (capabilityIndex : ℕ) : Except Thrown ℕ :=
  if capabilityIndex > 0xffff_ffff then
    throw (plainError "capabilityIndex is out of 32-bit range")
  else pure (0x3 ||| capabilityIndex <<< 32)

def decodeCapabilityPointerWord (word : ℕ) : Except Thrown ℕ :=
  if word &&& 0x3 ≠ 3 then throw (plainError "expected capability pointer kind=3")
  else pure ((word >>> 32) &&& 0xffff_ffff)

/-! ## Enumerants and unions -/

def enumOrdinal (toOrdinal : List (String × ℕ)) : Value → ℕ
  | .string s => (toOrdinal.lookup s).getD 0
  | _ => 0

def enumValue (byOrdinal : List String) (ordinal : ℕ) : String :=
  (byOrdinal[ordinal]?).getD (byOrdinal.head?.getD "")

def isPresentField (record : Record) (name : String) : Bool :=
  match getProp record name with
  | .undefined => false
  | _ => true

def resolveActiveDiscriminant {ι : Type} (descriptor : StructDescriptor ι) (record : Record) :
    Option ℕ :=
  descriptor.union.map fun union =>
    let named := match getProp record "which" with
      | .string which => union.byName.lookup which
      | _ => none
    let present := descriptor.fields.findSome? fun field =>
      match field.discriminantValue with
      | none => none
      | some d => if isPresentField record field.name then some d else none
    (named.or present).getD union.defaultDiscriminant

/-- The test at the head of every walk over the fields: a member of the union other than the active
one is passed over. -/
def isInactive {ι : Type} (field : FieldDescriptor ι) (activeDiscriminant : Option ℕ) : Bool :=
  match field.discriminantValue, activeDiscriminant with
  | some d, some active => d ≠ active
  | _, _ => false

end CapnpDeno
