import CapnpDeno.Capnpc.StructDescriptors
import CapnpDeno.Lib.GraphSearch

/-!
# The capability walkers

For each struct from which the planner finds a capability, a module has two functions:
`hydrateStubs$T` wraps the capability pointers of a decoded value into stubs, and `dehydrateStubs$T`
replaces stubs by their pointers.  The statements that the emitter writes for them are data here,
and running them is a function.  A walker is known by the id of its struct; the names that tell
walkers apart in the module are left out, and so is their order.
-/

namespace CapnpDeno

namespace TypeEmitContext

variable (ctx : TypeEmitContext)

/-- The type of another module with the id, if that module exports it. -/
def crossFileEntry (id : TypeId) : Option ModuleIndexEntry :=
  match ctx.moduleIndex.byId.lookup id with
  | none => none
  | some entry =>
    if entry.fileId = ctx.fileId then none
    else
      match entry with
      | .enum _ _ info => if info.exported then some entry else none
      | .struct _ _ info => if info.exported then some entry else none
      | .interface _ _ _ => some entry

end TypeEmitContext

/-- What the walkers of a module are planned from; `isGroup` is that of the struct nodes. -/
structure WalkerContext extends TypeEmitContext where
  nodeById : NodeMap
  interfaceInfos : List InterfaceInfo
  isGroup : TypeId → Bool

/-- The context in which `emitTypesModule` plans the walkers of a file. -/
def WalkerContext.ofFile (localeCompare : String → String → ℤ) (request : CodeGeneratorRequestModel)
    (isGroup : TypeId → Bool) (fileNode : NodeModel) : WalkerContext :=
  let nodes := CapnpDeno.nodeById request
  let index := buildModuleIndex localeCompare request
  let (enumInfos, structInfos) := collectLocalTypes localeCompare fileNode nodes []
  let types := (index.byFileId.lookup fileNode.id).getD
    ⟨enumInfos, structInfos, collectLocalInterfaces localeCompare fileNode nodes⟩
  { fileId := fileNode.id
    enumInfos := types.enumInfos
    structInfos := types.structInfos
    moduleIndex := index
    nodeById := nodes
    interfaceInfos := types.interfaceInfos
    isGroup := isGroup }

/-- A field with its property, the fields of a group in their place. -/
inductive WalkableField
  | slot (property : String) (type : TypeModel)
  | group (property : String) (fields : List WalkableField)

def WalkableField.property : WalkableField → String
  | slot property _ | group property _ => property

namespace WalkableField

/-! The types of the slots, those of groups included. -/

mutual

def types : WalkableField → List TypeModel
  | slot _ type => [type]
  | group _ fields => allTypes fields

def allTypes : List WalkableField → List TypeModel
  | [] => []
  | field :: fields => field.types ++ allTypes fields

end

end WalkableField

/-- A walker for each of these structs, with its fields. -/
abbrev CapabilityWalkerPlan := List (TypeId × List WalkableField)

/-! ## Planning -/

namespace WalkerContext

variable (ctx : WalkerContext)

/-- `nodeById.get(id)?.structNode`. -/
def structNodeOf (id : TypeId) : Option StructNodeModel :=
  (ctx.nodeById.lookup id).bind NodeModel.structNode

/-- The interface whose client factories wrap a capability of the id. -/
def resolveInterfaceTokenBinding (id : TypeId) : Option InterfaceInfo :=
  match ctx.interfaceInfos.find? (·.id = id) with
  | some info => some info
  | none =>
    match ctx.crossFileEntry id with
    | some (.interface _ _ info) => some info
    | _ => none

/-- Whether the interface id resolves to a typed stub in this module. -/
def walkerInterfaceResolves (id : TypeId) : Bool :=
  ctx.interfaceInfos.any (·.id = id) ||
    match ctx.crossFileEntry id with
    | some (.interface _ _ _) => true
    | _ => false

/-- Struct ids a walker can recurse into (local, or importable foreign). -/
def walkerStructResolves (id : TypeId) : Bool :=
  (ctx.structOf id).isSome ||
    match ctx.crossFileEntry id with
    | some (.struct _ _ _) => true
    | _ => false

/-- What a field comes to; the fields of a group are asked for. -/
def walkableField (inner : StructNodeModel → Except Thrown (List WalkableField))
    (field : FieldModel) :
    Except Thrown (List WalkableField) :=
  match field.slot, field.group with
  | some slot, _ => pure [.slot (toCamelCase field.name) slot.type]
  | none, some typeId =>
    match ctx.structNodeOf typeId with
    | some groupNode => (fun fields => [.group (toCamelCase field.name) fields]) <$> inner groupNode
    | none => pure []
  | none, none => pure []

/-- The fields of a struct in the order of the source file, with a recursive call for each group. -/
def walkableFields : ℕ → StructNodeModel → Except Thrown (List WalkableField)
  | 0, _ => throw stackOverflow
  | stack + 1, node =>
    List.flatten <$> (emittedFields node).mapM (ctx.walkableField (walkableFields stack))

/-- The structs that a type refers to, and whether it is a capability. -/
def collectTypeRefs : TypeModel → List TypeId × Bool
  | .interface typeId => ([], ctx.walkerInterfaceResolves typeId)
  | .struct typeId => (if ctx.walkerStructResolves typeId then [typeId] else [], false)
  | .list elementType => collectTypeRefs elementType
  | .primitive _ | .text | .data | .enum _ | .anyPointer => ([], false)

def walkerNodeRefs (fields : List WalkableField) : List TypeId × Bool :=
  let found := (WalkableField.allTypes fields).map ctx.collectTypeRefs
  (found.flatMap Prod.fst, found.any Prod.snd)

/-- The structs that may enter the queue. -/
def enqueued (id : TypeId) : Bool := (ctx.structNodeOf id).isSome && !ctx.isGroup id

def walkerSearch (stack : ℕ) : GraphSearch TypeId (List WalkableField) Thrown where
  known := ctx.enqueued
  visit id :=
    match ctx.structNodeOf id with
    | some node => ctx.walkableFields stack node
    | none => pure []
  refs fields := (ctx.walkerNodeRefs fields).1

/-- The references recorded for a struct. -/
def structRefsById (records : CapabilityWalkerPlan) (id : TypeId) : List TypeId :=
  match records.lookup id with
  | some fields => (ctx.walkerNodeRefs fields).1
  | none => []

/-- The structs with a capability of their own. -/
def directCapability (records : CapabilityWalkerPlan) (id : TypeId) : Bool :=
  match records.lookup id with
  | some fields => (ctx.walkerNodeRefs fields).2
  | none => false

def planCapabilityWalkers (stack : ℕ) : Except Thrown CapabilityWalkerPlan := do
  let search := ctx.walkerSearch stack
  let found ← search.run ctx.nodeById.length (search.start (ctx.structInfos.map StructInfo.id))
  let capBearing :=
    Spread.saturate (ctx.structRefsById found.records) found.visited (found.visited.length + 1)
    (found.visited.filter (ctx.directCapability found.records))
  pure (found.records.filter fun entry =>
    capBearing.contains entry.1 && ctx.walkerStructResolves entry.1)

end WalkerContext

/-! ## Emission -/

/-- What is written for the value of a property or of an item, each guarded by a test for `null`. -/
inductive WalkerExpression
  | capability (binding : InterfaceInfo)
  | struct (typeId : TypeId)
  | map (item : WalkerExpression)

inductive WalkerStatement
  | assign (property : String) (expression : WalkerExpression)
  | group (property : String) (body : List WalkerStatement)

namespace WalkerContext

variable (ctx : WalkerContext) (plan : CapabilityWalkerPlan)

def walkerTypeIsRelevant : TypeModel → Bool
  | .interface typeId => (ctx.resolveInterfaceTokenBinding typeId).isSome
  | .struct typeId => (plan.lookup typeId).isSome
  | .list elementType => walkerTypeIsRelevant elementType
  | .primitive _ | .text | .data | .enum _ | .anyPointer => false

/-- Whether a group subtree contains anything the walkers transform. -/
def groupSubtreeIsRelevant (fields : List WalkableField) : Bool :=
  (WalkableField.allTypes fields).any (ctx.walkerTypeIsRelevant plan)

def walkerListElementExpression : TypeModel → Option WalkerExpression
  | .interface typeId => (ctx.resolveInterfaceTokenBinding typeId).map .capability
  | .struct typeId => (plan.lookup typeId).map fun _ => .struct typeId
  | .list elementType => (walkerListElementExpression elementType).map .map
  | .primitive _ | .text | .data | .enum _ | .anyPointer => none

def emitWalkerSlotStatement : TypeModel → Option WalkerExpression
  | .interface typeId => (ctx.resolveInterfaceTokenBinding typeId).map .capability
  | .struct typeId => (plan.lookup typeId).map fun _ => .struct typeId
  | .list elementType =>
    if ctx.walkerTypeIsRelevant plan elementType
      then (ctx.walkerListElementExpression plan elementType).map .map
    else none
  | .primitive _ | .text | .data | .enum _ | .anyPointer => none

mutual

def emitWalkerField : WalkableField → List WalkerStatement
  | .slot property type => ((ctx.emitWalkerSlotStatement plan type).map (.assign property)).toList
  | .group property fields =>
    if ctx.groupSubtreeIsRelevant plan fields then [.group property (emitWalkerStatements fields)]
      else []

def emitWalkerStatements : List WalkableField → List WalkerStatement
  | [] => []
  | field :: fields => emitWalkerField field ++ emitWalkerStatements fields

end

/-- The statements of the two walkers of each struct. -/
def emitCapabilityWalkers : List (TypeId × List WalkerStatement) :=
  plan.map fun target => (target.1, ctx.emitWalkerStatements plan target.2)

end WalkerContext

/-! ## Running -/

/-- A value of a decoded message, or one to be encoded.  `pointer` is an object `{ capabilityIndex
}`, and `stub` one that is tagged with such a pointer; `leaf` is any value without parts that a
walker looks at. -/
inductive Live
  | pointer (capabilityIndex : ℕ)
  | stub (binding : InterfaceInfo) (capabilityIndex : ℕ)
  | array (items : List Live)
  | object (properties : List (String × Live))
  | leaf (value : Value)

namespace Live

/-- `value == null`. -/
def isNullish : Live → Bool
  | leaf .null | leaf .undefined => true
  | _ => false

/-- The properties of `{ ...value }`, of a value that the emitted types admit. -/
def spread : Live → List (String × Live)
  | object properties => properties
  | _ => []

end Live

def parseCapabilityPointer : Live → Option ℕ
  | .pointer capabilityIndex | .stub _ capabilityIndex => some capabilityIndex
  | .array _ | .object _ | .leaf _ => none

def requireRpcStubCapability (value : Live) : Except Thrown ℕ :=
  match parseCapabilityPointer value with
  | some capability => pure capability
  | none => throw (sessionError "expected RpcStub capability")

/-- `transport` is the call of the thunk that is handed to `hydrateStubs`. -/
inductive CapabilityWalkerMode
  | hydrate (transport : Except Thrown Unit)
  | dehydrate

def walkerCapability (mode : CapabilityWalkerMode) (binding : InterfaceInfo) (value : Live) :
    Except Thrown Live :=
  match mode with
  | .hydrate transport => do
    transport
    let capability ← requireRpcStubCapability value
    pure (.stub binding capability)
  | .dehydrate => .pointer <$> requireRpcStubCapability value

/-- `object.property = f(object.property)`, where there is the property. -/
def updateProperty (f : Live → Except Thrown Live) (name : String)
    (properties : List (String × Live)) :
    Except Thrown (List (String × Live)) :=
  properties.mapM fun entry => if entry.1 = name then (entry.1, ·) <$> f entry.2 else pure entry

section Run

variable (mode : CapabilityWalkerMode) (call : TypeId → Live → Except Thrown Live)

def WalkerExpression.run : WalkerExpression → Live → Except Thrown Live
  | .capability binding, value =>
    if value.isNullish then pure value else walkerCapability mode binding value
  | .struct typeId, value => if value.isNullish then pure value else call typeId value
  | .map item, value =>
    if value.isNullish then pure value
    else
      match value with
      | .array items => .array <$> items.mapM item.run
      | _ => throw ⟨.typeError, "map is not a function"⟩

mutual

def WalkerStatement.run : WalkerStatement → List (String × Live) →
    Except Thrown (List (String × Live))
  | .assign property expression, properties =>
    updateProperty (expression.run mode call) property properties
  | .group property body, properties =>
    updateProperty (fun value =>
      if value.isNullish then pure value else .object <$> runWalkerStatements body value.spread)
        property properties

def runWalkerStatements : List WalkerStatement → List (String × Live) →
    Except Thrown (List (String × Live))
  | [], properties => pure properties
  | statement :: statements, properties => do
    let properties ← statement.run properties
    runWalkerStatements statements properties

end

end Run

/-- A call of the walker of a struct, `hydrateStubs$T` or `dehydrateStubs$T`, with so much call
stack. -/
def runWalker (walkers : List (TypeId × List WalkerStatement)) (mode : CapabilityWalkerMode) :
    ℕ → TypeId → Live → Except Thrown Live
  | 0, _, _ => throw stackOverflow
  | stack + 1, typeId, value =>
    match walkers.lookup typeId with
    | some statements =>
      .object <$> runWalkerStatements mode (runWalker walkers mode stack) statements value.spread
    | none => throw ⟨.typeError, "walker is not a function"⟩

end CapnpDeno
