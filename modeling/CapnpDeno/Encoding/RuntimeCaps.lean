import CapnpDeno.Encoding.RuntimeCodec

/-!
# Capability tables

The walks over a value along its descriptor: `collectCapabilityPointersFromStruct` lists the
capabilities, `remapCapabilityIndices` and `resolveDecodedCapabilities` replace their indices.  Each
is recursive in the source; its first argument here is the call stack that is left.
-/

namespace CapnpDeno

/-- A capability descriptor of the RPC cap table. -/
structure PreambleCapDescriptor where
  tag : ℕ
  id : ℕ
deriving DecidableEq

def CAP_DESCRIPTOR_TAG_SENDER_HOSTED : ℕ := 1

structure CollectedCapability where
  fieldPath : String
  capabilityIndex : ℕ
deriving DecidableEq

variable {ι : Type}

/-! ## Collecting -/

/-- `prefix ? prefix + "." + field.name : field.name`. -/
def fieldPathOf (path : String) (field : FieldDescriptor ι) : String :=
  if path ≠ "" then path ++ "." ++ field.name else field.name

/-- `fieldPath + "[" + i + "]"`. -/
def itemPathOf (fieldPath : String) (i : ℕ) : String := fieldPath ++ "[" ++ toString i ++ "]"

/-- A capability, if there is one. -/
def collectedAt (fieldPath : String) : Option ℕ → List CollectedCapability
  | some index => [⟨fieldPath, index⟩]
  | none => []

/-- The index of an AnyPointer that is a capability. -/
def AnyPointerValue.index : AnyPointerValue → Option ℕ
  | interface index => some index
  | _ => none

/-- The branch of the loop for an active field; `collect` is the recursive call. -/
def collectField (collect : ι → Value → String → Except Thrown (List CollectedCapability))
    (field : FieldDescriptor ι) (fieldValue : Value) (fieldPath : String) :
    Except Thrown (List CollectedCapability) :=
  match field with
  | .group _ get _ => collect get (.object (asRecord fieldValue)) fieldPath
  | .slot _ _ type _ _ =>
    match type with
    | .interface => collectedAt fieldPath <$> capabilityIndexFrom fieldValue
    | .anyPointer =>
      (fun pointer => collectedAt fieldPath pointer.index) <$> asAnyPointerValue fieldValue
    | .list .interface =>
      List.flatten <$> (asArray fieldValue).zipIdx.mapM fun item =>
        collectedAt (itemPathOf fieldPath item.2) <$> capabilityIndexFrom item.1
    | .list .anyPointer =>
      List.flatten <$> (asArray fieldValue).zipIdx.mapM fun item =>
        (fun pointer => collectedAt (itemPathOf fieldPath item.2) pointer.index) <$>
          asAnyPointerValue item.1
    | .list (.struct get) =>
      List.flatten <$> (asArray fieldValue).zipIdx.mapM fun item =>
        collect get (.object (asRecord item.1)) (itemPathOf fieldPath item.2)
    | .struct get => collect get (.object (asRecord fieldValue)) fieldPath
    | _ => return []

def collectCapabilityPointersFromStruct (schema : Schema ι) :
    ℕ → ι → Value → String → Except Thrown (List CollectedCapability)
  | 0, _, _, _ => throw stackOverflow
  | stack + 1, get, value, path => do
    let descriptor := schema get
    let record := asRecord value
    let activeDiscriminant := resolveActiveDiscriminant descriptor record
    List.flatten <$> descriptor.fields.mapM fun field =>
      if isInactive field activeDiscriminant then pure []
      else collectField (collectCapabilityPointersFromStruct schema stack) field
        (getProp record field.name) (fieldPathOf path field)

/-! ## Rewriting -/

/-- `Map<number, number>`. -/
abbrev IndexMap := List (ℕ × ℕ)

def IndexMap.get (mapping : IndexMap) (index : ℕ) : Option ℕ := List.lookup index mapping

/-- How a walk replaces the value at a capability; `none` leaves it as it is. -/
abbrev Rewrite := Value → Except Thrown (Option Value)

/-- The branch of the loop for an active field: the new value, if there is one. -/
def rewriteField (onInterface onAnyPointer : Rewrite) (rewrite : ι → Value → Except Thrown Value)
    (field : FieldDescriptor ι) (fieldValue : Value) : Except Thrown (Option Value) :=
  match field with
  | .group _ get _ => some <$> rewrite get (.object (asRecord fieldValue))
  | .slot _ _ type _ _ =>
    match type with
    | .interface => onInterface fieldValue
    | .anyPointer => onAnyPointer fieldValue
    | .list .interface =>
      (fun items => some (.array items)) <$> (asArray fieldValue).mapM fun item =>
        (·.getD item) <$> onInterface item
    | .list .anyPointer =>
      (fun items => some (.array items)) <$> (asArray fieldValue).mapM fun item =>
        (·.getD item) <$> onAnyPointer item
    | .list (.struct get) =>
      (fun items => some (.array items)) <$> (asArray fieldValue).mapM fun item =>
        rewrite get (.object (asRecord item))
    | .struct get => some <$> rewrite get (.object (asRecord fieldValue))
    | _ => return none

/-- The walk that `remapCapabilityIndices` and `resolveDecodedCapabilities` share. -/
def rewriteCapabilities (schema : Schema ι) (onInterface onAnyPointer : Rewrite) :
    ℕ → ι → Value → Except Thrown Value
  | 0, _, _ => throw stackOverflow
  | stack + 1, get, value => do
    let descriptor := schema get
    let record := asRecord value
    let activeDiscriminant := resolveActiveDiscriminant descriptor record
    Value.object <$> descriptor.fields.foldlM (fun out field =>
      if isInactive field activeDiscriminant then pure out
      else assign out field.name <$> rewriteField onInterface onAnyPointer
        (rewriteCapabilities schema onInterface onAnyPointer stack) field
        (getProp record field.name)) record

/-- `{ kind: "interface", capabilityIndex }`. -/
def interfacePointer (index : ℕ) : Value := (AnyPointerValue.interface index).toValue

/-- The mapped index of an interface value. -/
def remapInterface (mapping : IndexMap) : Rewrite := fun value =>
  (fun index => (index.bind mapping.get).map capabilityPointer) <$> capabilityIndexFrom value

/-- The mapped index of an AnyPointer that is a capability.  In lists of AnyPointers the walk after
decoding passes over `null` and `undefined` first, which are no capabilities here either. -/
def remapAnyPointer (mapping : IndexMap) : Rewrite := fun value =>
  (fun pointer => (pointer.index.bind mapping.get).map interfacePointer) <$> asAnyPointerValue value

def remapCapabilityIndices (schema : Schema ι) (mapping : IndexMap) :
    ℕ → ι → Value → Except Thrown Value :=
  rewriteCapabilities schema (remapInterface mapping) (remapAnyPointer mapping)

/-- `mapping.get((value as CapabilityPointer).capabilityIndex)`: no check of the value is made. -/
def resolveInterface (mapping : IndexMap) : Rewrite
  | .null | .undefined => return none
  | value =>
    match getProp (asRecord value) "capabilityIndex" with
    | .number x =>
      return if x.isInteger ∧ 0 ≤ x.trunc then
        (mapping.get x.trunc.toNat).map capabilityPointer
      else none
    | _ => return none

def resolveDecodedCapabilities (schema : Schema ι) (mapping : IndexMap) :
    ℕ → ι → Value → Except Thrown Value :=
  rewriteCapabilities schema (resolveInterface mapping) (remapAnyPointer mapping)

/-! ## Cap tables -/

structure EncodeWithCapsResult where
  content : Bytes
  capTable : List PreambleCapDescriptor
deriving DecidableEq

/-- The loop body: a capability that is met for the first time gets the next place of the table. -/
def addCapability (tables : IndexMap × List PreambleCapDescriptor) (entry : CollectedCapability) :
    IndexMap × List PreambleCapDescriptor :=
  if (tables.1.get entry.capabilityIndex).isSome then tables
  else
    (tables.1 ++ [(entry.capabilityIndex, tables.2.length)],
      tables.2 ++ [⟨CAP_DESCRIPTOR_TAG_SENDER_HOSTED, entry.capabilityIndex⟩])

/-- `capTableMap` and `capTable` after the loop over the collected capabilities. -/
def capTables (collected : List CollectedCapability) : IndexMap × List PreambleCapDescriptor :=
  collected.foldl addCapability ([], [])

/-- The longest array of the language. -/
def MAX_ARRAY_LENGTH : ℕ := 2 ^ 32 - 1

def encodeStructMessageWithCaps (schema : Schema ι) (stack : ℕ) (get : ι) (value : Value) :
    Except Thrown EncodeWithCapsResult := do
  let collected ← collectCapabilityPointersFromStruct schema stack get value ""
  let (capTableMap, capTable) := capTables collected
  if capTable.length > MAX_ARRAY_LENGTH then
    throw invalidArrayLength
  if capTable.length = 0 then
    let content ← encodeStructMessage schema stack get value
    return ⟨content, []⟩
  let remapped ← remapCapabilityIndices schema capTableMap stack get value
  let content ← encodeStructMessage schema stack get remapped
  return ⟨content, capTable⟩

/-- `indexToId`. -/
def idsByIndex (capTable : List PreambleCapDescriptor) : IndexMap :=
  capTable.zipIdx.map fun entry => (entry.2, entry.1.id)

def decodeStructMessageWithCaps (schema : Schema ι) (stack : ℕ) (get : ι) (bytes : Bytes)
    (capTable : List PreambleCapDescriptor) : Except Thrown Value := do
  let decoded ← decodeStructMessage schema stack get bytes
  if capTable.length = 0 then
    return .object decoded
  resolveDecodedCapabilities schema (idsByIndex capTable) stack get (.object decoded)

end CapnpDeno
