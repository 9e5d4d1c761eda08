import CapnpDeno.Capnpc.EmitterHelpers

/-!
# The emitter of clients and servers

`resolveInterfaceInfo` lists the methods of an interface and of its ancestors; of the emitted code
there is what it does: which call a client method makes, and which method of the server a call runs.
-/

namespace CapnpDeno

structure ResolvedMethodInfo where
  method : InterfaceMethodModel
  methodName : String
  params : StructInfo
  results : Option StructInfo
  isStreaming : Bool
  sourceInterfaceId : TypeId

structure ResolvedInterfaceInfo where
  info : InterfaceInfo
  methods : List ResolvedMethodInfo
  acceptedInterfaceIds : List TypeId

section Resolve

variable (localeCompare : String → String → ℤ) (nodes : NodeMap) (info : InterfaceInfo)

/-- By `codeOrder`, then by name. -/
def compareMethods (a b : InterfaceMethodModel) : ℤ :=
  let difference := (a.codeOrder : ℤ) - b.codeOrder
  if difference ≠ 0 then difference else localeCompare a.name b.name

def sortedInterfaceMethods (node : InterfaceNodeModel) : List InterfaceMethodModel :=
  sortBy (compareMethods localeCompare) node.methods

/-! ## Ancestors -/

/-- The interface node with the id. -/
def interfaceNodeOf (interfaceId : TypeId) : Option InterfaceNodeModel :=
  match nodes.lookup interfaceId with
  | some node => if node.kind = .interface then node.interfaceNode else none
  | none => none

def unknownSuperclass (interfaceId : TypeId) : Thrown :=
  plainError
    s!"interface {info.typeName} references unknown superclass id {formatBigint interfaceId}"

structure AncestorWalk where
  seen : List TypeId
  visiting : List TypeId
  ancestors : List TypeId

/-- One superclass of the loop; `walk` visits it. -/
def visitParent (walk : AncestorWalk → TypeId → Except Thrown AncestorWalk) (w : AncestorWalk)
    (parentId : TypeId) :
    Except Thrown AncestorWalk :=
  if w.seen.contains parentId then pure w
  else do
    let w ← walk { w with seen := parentId :: w.seen } parentId
    return { w with ancestors := w.ancestors ++ [parentId] }

/-- `walk`, on the call stack that is left. -/
def walkAncestors : ℕ → AncestorWalk → TypeId → Except Thrown AncestorWalk
  | 0, _, _ => throw stackOverflow
  | stack + 1, w, interfaceId =>
    if w.visiting.contains interfaceId then
      throw (plainError s!"cyclic interface inheritance detected at {formatBigint interfaceId}")
    else
      match interfaceNodeOf nodes interfaceId with
      | none => throw (unknownSuperclass info interfaceId)
      | some node => do
        let w ← node.superclasses.foldlM (visitParent (walkAncestors stack))
          { w with visiting := interfaceId :: w.visiting }
        return { w with visiting := w.visiting.erase interfaceId }

def collectAncestorInterfaceIds (stack : ℕ) : Except Thrown (List TypeId) :=
  AncestorWalk.ancestors <$> walkAncestors nodes info stack ⟨[info.id], [], []⟩ info.id

/-! ## Methods -/

def unknownStruct (role : String) (method : InterfaceMethodModel)
    (typeId sourceInterfaceId : TypeId) : Thrown :=
  plainError
    (s!"interface {info.typeName} method \"{method.name}\" references unknown {role} struct id " ++
    s!"{formatBigint typeId} (source interface {formatBigint sourceInterfaceId})")

def addMethod (structs : List StructInfo) (sourceInterfaceId : TypeId)
    (methods : List ResolvedMethodInfo) (method : InterfaceMethodModel) :
    Except Thrown (List ResolvedMethodInfo) := do
  let methodName := uniqueName (methods.map ResolvedMethodInfo.methodName) (toCamelCase method.name)
  match structs.find? (·.id = method.paramStructTypeId) with
  | none => throw (unknownStruct info "param" method method.paramStructTypeId sourceInterfaceId)
  | some params =>
    if method.resultStructTypeId = STREAM_RESULT_TYPE_ID then
      return methods ++ [⟨method, methodName, params, none, true, sourceInterfaceId⟩]
    else
      match structs.find? (·.id = method.resultStructTypeId) with
      | none =>
        throw (unknownStruct info "result" method method.resultStructTypeId sourceInterfaceId)
      | some results =>
        return methods ++ [⟨method, methodName, params, some results, false, sourceInterfaceId⟩]

/-- The methods of an interface are added; `node` is its node. -/
def addInterface (structs : List StructInfo) (methods : List ResolvedMethodInfo)
    (interfaceId : TypeId) :
    Except Thrown (List ResolvedMethodInfo) :=
  match interfaceNodeOf nodes interfaceId with
  | none => throw (unknownSuperclass info interfaceId)
  | some node =>
    (sortedInterfaceMethods localeCompare node).foldlM (addMethod info structs interfaceId) methods

def resolveInterfaceInfo (structs : List StructInfo) (stack : ℕ) :
    Except Thrown ResolvedInterfaceInfo := do
  let ancestors ← collectAncestorInterfaceIds nodes info stack
  let own ← (sortedInterfaceMethods localeCompare info.node).foldlM (addMethod info structs info.id)
      []
  let methods ← ancestors.foldlM (addInterface localeCompare nodes info structs) own
  return ⟨info, methods, info.id :: ancestors⟩

end Resolve

/-- The interfaces of a file; a type that another file refers to is exported, but has the same
methods. -/
def resolveRpcInterfaces (localeCompare : String → String → ℤ) (nodes : NodeMap)
    (fileNode : NodeModel) (stack : ℕ) :
    Except Thrown (List ResolvedInterfaceInfo) :=
  let structs := (collectLocalTypes localeCompare fileNode nodes []).2
  (collectLocalInterfaces localeCompare fileNode nodes).mapM fun info =>
    resolveInterfaceInfo localeCompare nodes info structs stack

/-! ## The emitted code -/

namespace ResolvedInterfaceInfo

variable (resolved : ResolvedInterfaceInfo)

/-- `…MethodOrdinals`. -/
def methodOrdinals : List (String × ℕ) :=
  objectLiteral (resolved.methods.map fun method => (method.methodName, method.method.codeOrder))

/-- The interface and the method that a method of `create…Client` calls, where the options name no
interface. -/
def clientCalls : List (String × TypeId × Option ℕ) :=
  objectLiteral (resolved.methods.map fun method =>
    (method.methodName, method.sourceInterfaceId, resolved.methodOrdinals.lookup method.methodName))

/-- `switch (methodId)`; it runs a method of the server. -/
def methodSwitch (methods : List ResolvedMethodInfo) (methodId : ℕ) : Except Thrown String :=
  match methods.find? (·.method.codeOrder = methodId) with
  | some method => pure method.methodName
  | none => throw (protocolError s!"unknown method ordinal: {methodId}")

/-- `dispatch` of `create…Server`; the interface id is that of the context. -/
def dispatch (interfaceId : Option TypeId) (methodId : ℕ) : Except Thrown String :=
  let of (interfaceId : TypeId) := resolved.methods.filter (·.sourceInterfaceId = interfaceId)
  if resolved.acceptedInterfaceIds.length > 1 then
    let resolvedInterfaceId := interfaceId.getD resolved.info.id
    if resolved.acceptedInterfaceIds.contains resolvedInterfaceId then methodSwitch
      (of resolvedInterfaceId) methodId
    else throw (protocolError s!"unknown interface id: {resolvedInterfaceId}")
  else methodSwitch (of resolved.info.id) methodId

end ResolvedInterfaceInfo

end CapnpDeno
