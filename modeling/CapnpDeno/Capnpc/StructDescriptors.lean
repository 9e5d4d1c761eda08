import CapnpDeno.Capnpc.EmitterTypes
import CapnpDeno.Encoding.RuntimeCodec

/-!
# The emitted struct descriptors

For each struct of a file the emitter prints a descriptor, which refers to other descriptors of its
module or of imported ones.  Its `createDefault` makes a new object with a default for each field;
the default of a struct-typed field calls the `createDefault` of that struct.  Here the body of
`createDefault` is the list of its expressions, and calling it runs them.
-/

namespace CapnpDeno

/-- A struct of a module. -/
structure ModuleRef where
  fileId : TypeId
  structId : TypeId
deriving DecidableEq

inductive DefaultExpression
  | value (value : Value)
  | createDefault (target : ModuleRef)

/-- The function that the expression calls. -/
def DefaultExpression.target : DefaultExpression → Option ModuleRef
  | value _ => none
  | createDefault target => some target

/-! ## Expressions -/

/-- A number that is printed and read again; all NaN are printed alike. -/
def numberLiteral (x : JsNumber) : Value :=
  if x.isFinite ∨ x.fraction = 0 then .number x else .number ⟨0x7ff8000000000000⟩

/-- The default of a scalar from its bits, which fit its type. -/
def scalarExpression (type : TypeModel) (bits : ℕ) : Value :=
  match type with
  | .primitive .bool => .bool (bits ≠ 0)
  | .primitive .int64 => .bigint (asIntN 8 bits)
  | .primitive .uint64 => .bigint bits
  | .primitive .float32 => numberLiteral (.ofFloat32 (bits % 2 ^ 32))
  | .primitive .float64 => numberLiteral ⟨UInt64.ofNat bits⟩
  | .primitive .int8 => .number (.ofInt (asIntN 1 bits))
  | .primitive .int16 => .number (.ofInt (asIntN 2 bits))
  | .primitive .int32 => .number (.ofInt (asIntN 4 bits))
  | _ => .number (.ofNat bits)

/-- The default of a type that names no other. -/
def implicitExpression : TypeModel → Value
  | .primitive .void => .undefined
  | .primitive .bool => .bool false
  | .primitive .int64 | .primitive .uint64 => .bigint 0
  | .primitive _ => .number .zero
  | .text => .string ""
  | .data => .bytes []
  | .list _ => .array []
  | .interface _ => .null
  | .anyPointer => AnyPointerValue.null.toValue
  | .enum _ | .struct _ => .undefined

/-- `defaultMask`, which is zero where it is absent. -/
def FieldDefaultModel.mask : Option FieldDefaultModel → ℕ
  | some (.scalar bits) => bits
  | _ => 0

namespace TypeEmitContext

variable (ctx : TypeEmitContext)

def defaultValueExpression (type : TypeModel) (value : Option FieldDefaultModel) :
    Except Thrown DefaultExpression :=
  match value, type with
  | some (.text text), _ => pure (.value (.string text))
  | some (.data data), _ => pure (.value (.bytes data))
  | value, .enum typeId =>
    match ctx.enumOf typeId with
    | some info => pure (.value (enumDefault info value))
    | none => do
      match ← ctx.crossFileTypeReference typeId with
      | some (.enum _ _ info) => pure (.value (enumDefault info value))
      | _ => pure (.value .undefined)
  | some (.scalar bits), type => pure (.value (scalarExpression type bits))
  | none, .struct typeId =>
    match ctx.structOf typeId with
    | some info => pure (.createDefault ⟨ctx.fileId, info.id⟩)
    | none => do
      match ← ctx.crossFileTypeReference typeId with
      | some (.struct fileId _ info) => pure (.createDefault ⟨fileId, info.id⟩)
      | _ => pure (.value .undefined)
  | none, type => pure (.value (implicitExpression type))

/-- The property of a field; a field that is neither a slot nor a group has none. -/
def fieldDefault (field : FieldModel) : Except Thrown (List (String × DefaultExpression)) :=
  match field.slot, field.group with
  | some slot, _ =>
    (fun expression => [(toCamelCase field.name, expression)]) <$>
      ctx.defaultValueExpression slot.type slot.defaultValue
  | none, some typeId =>
    match ctx.structOf typeId with
    | some info => pure [(toCamelCase field.name, .createDefault ⟨ctx.fileId, info.id⟩)]
    | none => pure [(toCamelCase field.name, .value (.object []))]
  | none, none => pure []

/-! ## Types -/

/-- The descriptor of a type; a type of which nothing is known has one of another kind. -/
def typeDescriptorExpression : TypeModel → Except Thrown (TypeDescriptor ModuleRef)
  | .primitive kind => pure (.primitive kind)
  | .text => pure .text
  | .data => pure .data
  | .list elementType => .list <$> typeDescriptorExpression elementType
  | .enum typeId =>
    match ctx.enumOf typeId with
    | some info => pure (emitEnum info)
    | none => do
      match ← ctx.crossFileTypeReference typeId with
      | some (.enum _ _ info) => pure (enumMirror info)
      | _ => pure (.primitive .uint16)
  | .struct typeId =>
    match ctx.structOf typeId with
    | some info => pure (.struct ⟨ctx.fileId, info.id⟩)
    | none => do
      match ← ctx.crossFileTypeReference typeId with
      | some (.struct fileId _ info) => pure (.struct ⟨fileId, info.id⟩)
      | _ => pure .anyPointer
  | .interface _ => pure .interface
  | .anyPointer => pure .anyPointer

/-- The descriptor of a field, which is a member of the union if it has the name of one. -/
def fieldDescriptor (unionFields : List FieldModel) (field : FieldModel) :
    Except Thrown (List (FieldDescriptor ModuleRef)) :=
  let fieldName := toCamelCase field.name
  let inUnion := unionFields.any fun member => toCamelCase member.name = fieldName
  let discriminantValue := if inUnion then some field.discriminantValue else none
  match field.slot, field.group with
  | some slot, _ =>
    (fun type => [.slot fieldName slot.offset type (FieldDefaultModel.mask slot.defaultValue)
      discriminantValue]) <$> ctx.typeDescriptorExpression slot.type
  | none, some typeId =>
    match ctx.structOf typeId with
    | some info => pure [.group fieldName ⟨ctx.fileId, info.id⟩ discriminantValue]
    | none =>
      throw (plainError s!"group field {field.name} references unknown local struct id {typeId}")
  | none, none => pure []

end TypeEmitContext

/-! ## Structs -/

/-- By discriminant, then by `codeOrder`. -/
def compareMembers (a b : FieldModel) : ℤ :=
  let difference := (a.discriminantValue : ℤ) - b.discriminantValue
  if difference ≠ 0 then difference else (a.codeOrder : ℤ) - b.codeOrder

/-- The members of the union; where the discriminants do not fit their number, the last fields. -/
def inferUnionFields (fields : List FieldModel) (discriminantCount : ℕ) : List FieldModel :=
  if discriminantCount = 0 then []
  else
    let explicit := fields.filter (·.discriminantValue ≠ FIELD_NO_DISCRIMINANT)
    if explicit.length = discriminantCount then sortBy compareMembers explicit
    else
      let unique := sortBy compareMembers (explicit.filter fun field =>
        explicit.countP (·.discriminantValue = field.discriminantValue) = 1)
      if unique.length ≥ discriminantCount then unique.take discriminantCount
      else fields.drop (fields.length - discriminantCount)

/-- The fields in the order of the source file. -/
def emittedFields (node : StructNodeModel) : List FieldModel :=
  (sortBy (fun a b => (a.codeOrder : ℤ) - b.codeOrder) node.fields).filter fun field =>
    field.slot.isSome || field.group.isSome

theorem mem_emittedFields {node : StructNodeModel} {field : FieldModel} :
    field ∈ emittedFields node ↔ field ∈ node.fields ∧
    (field.slot.isSome ∨ field.group.isSome) := by
  rw [emittedFields, List.mem_filter, (perm_sortBy _ _).mem_iff, Bool.or_eq_true]

/-- The properties of the object that `createDefault` returns. -/
abbrev DefaultBody := List (String × DefaultExpression)

/-- A descriptor as it is printed. -/
structure EmittedDescriptor where
  dataWordCount : ℕ
  pointerCount : ℕ
  createDefault : DefaultBody
  union : Option StructUnionDescriptor
  fields : List (FieldDescriptor ModuleRef)

def unionDescriptor (discriminantOffset : ℕ) : List FieldModel → Option StructUnionDescriptor
  | [] => none
  | member :: members =>
    let entries := (member :: members).map fun field =>
      (toCamelCase field.name, field.discriminantValue)
    some
      { discriminantOffset
        defaultDiscriminant := member.discriminantValue
        byName := objectLiteral entries
        byDiscriminant := entries.foldl (fun names entry => mapSet names entry.2 entry.1) [] }

def TypeEmitContext.emitStructDescriptor (ctx : TypeEmitContext) (info : StructInfo) :
    Except Thrown EmittedDescriptor := do
  let fields := emittedFields info.node
  let unionFields := inferUnionFields fields info.node.discriminantCount
  let entries ← fields.mapM ctx.fieldDefault
  let which := match unionFields with
    | [] => []
    | member :: _ => [("which", .value (.string (toCamelCase member.name)))]
  let descriptors ← fields.mapM (ctx.fieldDescriptor unionFields)
  return {
    dataWordCount := info.node.dataWordCount
    pointerCount := info.node.pointerCount
    createDefault := entries.flatten ++ which
    union := unionDescriptor info.node.discriminantOffset unionFields
    fields := descriptors.flatten }

/-! ## Modules -/

/-- The descriptors of all modules. -/
abbrev Modules := List (ModuleRef × EmittedDescriptor)

/-- The types of a file; the index has them for every file of the request. -/
def fileTypes (localeCompare : String → String → ℤ) (moduleIndex : ModuleIndex) (nodes : NodeMap)
    (fileNode : NodeModel) : ModuleFileTypes :=
  (moduleIndex.byFileId.lookup fileNode.id).getD
    ⟨(collectLocalTypes localeCompare fileNode nodes []).1,
      (collectLocalTypes localeCompare fileNode nodes []).2,
      collectLocalInterfaces localeCompare fileNode nodes⟩

/-- The context of a module. -/
def emitContext (localeCompare : String → String → ℤ) (moduleIndex : ModuleIndex) (nodes : NodeMap)
    (fileNode : NodeModel) : TypeEmitContext :=
  let types := fileTypes localeCompare moduleIndex nodes fileNode
  ⟨fileNode.id, types.enumInfos, types.structInfos, moduleIndex⟩

/-- Of the module of a file, the struct descriptors. -/
def emitTypesModule (ctx : TypeEmitContext) : Except Thrown Modules :=
  ctx.structInfos.mapM fun info => (⟨ctx.fileId, info.id⟩, ·) <$> ctx.emitStructDescriptor info

/-- `nodeById.get(id)`, if it is a file. -/
def fileNodeOf (nodes : NodeMap) (id : TypeId) : Option NodeModel :=
  (nodes.lookup id).filter (·.kind = .file)

/-- The modules of the requested files. -/
def generateTypescriptFiles (localeCompare : String → String → ℤ)
    (request : CodeGeneratorRequestModel) :
    Except Thrown Modules := do
  let nodes := nodeById request
  let moduleIndex := buildModuleIndex localeCompare request
  let modules ← (request.requestedFiles.filterMap fun requested =>
      fileNodeOf nodes requested.id).mapM fun fileNode =>
    emitTypesModule (emitContext localeCompare moduleIndex nodes fileNode)
  return modules.flatten

/-! ## Links -/

/-- The descriptors whose `createDefault` the body calls. -/
def DefaultBody.targets (body : DefaultBody) : List ModuleRef :=
  body.filterMap fun entry => entry.2.target

/-- The structs that a type names. -/
def TypeDescriptor.named {ι : Type} : TypeDescriptor ι → List ι
  | .struct get => [get]
  | .list element => element.named
  | .primitive _ | .enum _ _ | .text | .data | .interface | .anyPointer => []

def FieldDescriptor.named {ι : Type} : FieldDescriptor ι → List ι
  | .slot _ _ type _ _ => type.named
  | .group _ get _ => [get]

/-- The descriptors that a descriptor names, those of other modules as imports. -/
def EmittedDescriptor.named (descriptor : EmittedDescriptor) : List ModuleRef :=
  descriptor.createDefault.targets ++ descriptor.fields.flatMap FieldDescriptor.named

/-- Every import names an export of an emitted module, as the engine demands before it runs a
module. -/
def Linked (modules : Modules) : Prop :=
  ∀ entry ∈ modules, ∀ ref ∈ entry.2.named, (modules.lookup ref).isSome

instance (modules : Modules) : Decidable (Linked modules) :=
  inferInstanceAs (Decidable (∀ entry ∈ modules, ∀ ref ∈ entry.2.named,
    (modules.lookup ref).isSome))

/-! ## Calls -/

/-- What an expression gives; `createDefault` makes a call. -/
def DefaultExpression.evaluate (createDefault : ModuleRef → Except Thrown Record) :
    DefaultExpression → Except Thrown Value
  | .value default => pure default
  | .createDefault target => .object <$> createDefault target

/-- `createDefault()` of a descriptor, on the call stack that is left; there is no descriptor
without a function. -/
def createDefault (modules : Modules) : ℕ → ModuleRef → Except Thrown Record
  | 0, _ => throw stackOverflow
  | stack + 1, ref =>
    match modules.lookup ref with
    | none => throw ⟨.typeError, "undefined is not an object"⟩
    | some descriptor => do
      let entries ← descriptor.createDefault.mapM fun entry =>
        (entry.1, ·) <$> entry.2.evaluate (createDefault modules stack)
      return objectLiteral entries

theorem createDefault_deeper (modules : Modules) (stack : ℕ) (ref : ModuleRef) :
    Approximates stackOverflow (createDefault modules stack ref)
    (createDefault modules (stack + 1) ref) := by
  induction stack generalizing ref with
  | zero => exact .overflow _
  | succ stack ih =>
    rw [createDefault, createDefault]
    cases modules.lookup ref with
    | none => exact .refl _
    | some descriptor =>
      refine .bind (.mapM (fun entry => .map ?_ _) _) fun entries => .refl _
      obtain ⟨name, expression⟩ := entry
      cases expression with
      | value value => exact .refl _
      | createDefault target => exact (ih target).map _

/-- `createDefault` of a descriptor. -/
def defaultFunction (modules : Modules) (ref : ModuleRef) : StackFunction stackOverflow Record where
  call stack := createDefault modules stack ref
  exhausted := rfl
  deeper stack := createDefault_deeper modules stack ref

/-- The descriptors of linked modules as the codec gets them; what is not there is not named,
either. -/
def emittedSchema (modules : Modules) : Schema ModuleRef := fun ref =>
  match modules.lookup ref with
  | some descriptor =>
    ⟨descriptor.dataWordCount, descriptor.pointerCount, descriptor.fields,
      defaultFunction modules ref, descriptor.union⟩
  | none => ⟨0, 0, [], defaultFunction modules ref, none⟩

end CapnpDeno
