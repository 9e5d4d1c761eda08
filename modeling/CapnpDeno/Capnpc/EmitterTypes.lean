import CapnpDeno.Capnpc.EmitterHelpers

/-!
# The emitter of types

The index of the modules of a request, what a module knows of the types of another one, and the
descriptors of enums.
-/

namespace CapnpDeno

/-! ## The module index -/

inductive ModuleIndexEntry
  | enum (fileId : TypeId) (schemaFilename : String) (info : EnumInfo)
  | struct (fileId : TypeId) (schemaFilename : String) (info : StructInfo)
  | interface (fileId : TypeId) (schemaFilename : String) (info : InterfaceInfo)

def ModuleIndexEntry.fileId : ModuleIndexEntry → TypeId
  | .enum fileId _ _ | .struct fileId _ _ | .interface fileId _ _ => fileId

structure ModuleFileTypes where
  enumInfos : List EnumInfo
  structInfos : List StructInfo
  interfaceInfos : List InterfaceInfo

structure ModuleIndex where
  byId : List (TypeId × ModuleIndexEntry)
  byFileId : List (TypeId × ModuleFileTypes)

/-- The file that a node is in. -/
def fileIdByNode (nodes : NodeMap) : List (TypeId × TypeId) :=
  (nodes.filter (·.2.kind = .file)).foldl (fun files file =>
    (nodes.filter fun node => isLocal file.2 node.2).foldl (fun files node =>
      mapSet files node.2.id file.2.id) files) []

/-- The types that a type names. -/
def TypeModel.named : TypeModel → List TypeId
  | .list elementType => elementType.named
  | .enum typeId | .struct typeId | .interface typeId => [typeId]
  | .primitive _ | .text | .data | .anyPointer => []

/-- The types that a node refers to. -/
def NodeModel.referred (node : NodeModel) : List TypeId :=
  let inStruct := match node.kind, node.structNode with
    | .struct, some struct => struct.fields.flatMap fun field =>
      (field.slot.map fun slot => slot.type.named).getD [] ++ field.group.toList
    | _, _ => []
  let inInterface := match node.kind, node.interfaceNode with
    | .interface, some interface => interface.methods.flatMap fun method =>
      [method.paramStructTypeId, method.resultStructTypeId]
    | _, _ => []
  inStruct ++ inInterface

def collectCrossFileNestedTypeIds (nodes : NodeMap) : List TypeId :=
  let files := fileIdByNode nodes
  nodes.flatMap fun owner => owner.2.referred.filter fun typeId =>
    (files.lookup typeId).isSome && files.lookup typeId ≠ files.lookup owner.2.id

def ModuleIndex.add (localeCompare : String → String → ℤ) (request : CodeGeneratorRequestModel)
    (index : ModuleIndex) (node : NodeModel) : ModuleIndex :=
  let nodes := nodeById request
  let filenames :=
    request.requestedFiles.foldl (fun names file => mapSet names file.id file.filename) []
  let schemaFilename := (filenames.lookup node.id).getD node.displayName
  let (enumInfos, structInfos) :=
    collectLocalTypes localeCompare node nodes (collectCrossFileNestedTypeIds nodes)
  let interfaceInfos := collectLocalInterfaces localeCompare node nodes
  let entries : List (TypeId × ModuleIndexEntry) :=
    enumInfos.map (fun info => (info.id, .enum node.id schemaFilename info)) ++
      structInfos.map (fun info => (info.id, .struct node.id schemaFilename info)) ++
      interfaceInfos.map fun info => (info.id, .interface node.id schemaFilename info)
  { byId := entries.foldl (fun byId entry => mapSet byId entry.1 entry.2) index.byId
    byFileId := mapSet index.byFileId node.id ⟨enumInfos, structInfos, interfaceInfos⟩ }

def buildModuleIndex (localeCompare : String → String → ℤ) (request : CodeGeneratorRequestModel) :
    ModuleIndex :=
  (request.nodes.filter (·.kind = .file)).foldl (ModuleIndex.add localeCompare request) ⟨[], []⟩

/-! ## References to other modules -/

/-- What follows the last occurrence of the marker. -/
def afterLast (marker : List Char) : List Char → Option (List Char)
  | [] => none
  | c :: cs =>
    match afterLast marker cs with
    | some rest => some rest
    | none => if marker.isPrefixOf (c :: cs) then some ((c :: cs).drop marker.length) else none

/-- The dotted path of a type within its file. -/
def nestedTypeDisplayPath (displayName : String) : String :=
  match afterLast ".capnp:".toList displayName.toList with
  | some path => String.ofList path
  | none => displayName

structure TypeEmitContext where
  fileId : TypeId
  enumInfos : List EnumInfo
  structInfos : List StructInfo
  moduleIndex : ModuleIndex

namespace TypeEmitContext

variable (ctx : TypeEmitContext)

/-- `enumById.get(typeId)`. -/
def enumOf (typeId : TypeId) : Option EnumInfo := ctx.enumInfos.find? (·.id = typeId)

/-- `structById.get(typeId)`. -/
def structOf (typeId : TypeId) : Option StructInfo := ctx.structInfos.find? (·.id = typeId)

def notExported (displayName schemaFilename : String) : Thrown :=
  codegenEmitError (s!"cross-file reference to nested type {nestedTypeDisplayPath displayName} " ++
    s!"(file {schemaFilename}) is not supported by capnpc-deno yet; hoist the type to the top level of " ++
    s!"{schemaFilename} so its generated module exports it")

/-- The type of another module with the id; a type that its module keeps to itself is an error. -/
def crossFileTypeReference (id : TypeId) : Except Thrown (Option ModuleIndexEntry) :=
  match ctx.moduleIndex.byId.lookup id with
  | none => pure none
  | some entry =>
    if entry.fileId = ctx.fileId then pure none
    else
      match entry with
      | .enum _ schemaFilename info =>
        if info.exported then pure (some entry)
          else throw (notExported info.displayName schemaFilename)
      | .struct _ schemaFilename info =>
        if info.exported then pure (some entry)
          else throw (notExported info.displayName schemaFilename)
      | .interface _ _ _ => pure (some entry)

end TypeEmitContext

/-! ## Enums -/

section Enums

variable {ι : Type}

/-- The descriptor with the values; `toOrdinal` is an object literal. -/
def enumDescriptor (values : List String) : TypeDescriptor ι :=
  .enum values (objectLiteral values.zipIdx)

def emitEnum (info : EnumInfo) : TypeDescriptor ι := enumDescriptor info.values

/-- The mirror of an enum of another module. -/
def enumMirror (entry : EnumInfo) : TypeDescriptor ι := enumDescriptor entry.values

end Enums

/-- The ordinal of a default. -/
def FieldDefaultModel.ordinal : Option FieldDefaultModel → ℕ
  | some (.scalar bits) => bits
  | _ => 0

/-- `…Values[ordinal]`. -/
def enumDefault (info : EnumInfo) (value : Option FieldDefaultModel) : Value :=
  match info.values[FieldDefaultModel.ordinal value]? with
  | some name => .string name
  | none => .undefined

end CapnpDeno
