import CapnpDeno.Encoding.RuntimeModel

/-!
# The model of a CodeGeneratorRequest

What the request parser makes of a request: the nodes of all files, with their ids.  Of a node only
what the descriptors and the wire numbers depend on is kept.
-/

namespace CapnpDeno

/-- The id of a node. -/
abbrev TypeId := ℕ

inductive NodeKind
  | file
  | struct
  | enum
  | interface
  | const
  | annotation
deriving DecidableEq

inductive TypeModel
  | primitive (kind : PrimitiveTypeKind)
  | text
  | data
  | list (elementType : TypeModel)
  | enum (typeId : TypeId)
  | struct (typeId : TypeId)
  | interface (typeId : TypeId)
  | anyPointer

/-- Nonzero scalar bits or nonempty pointer defaults from schema.Value. -/
inductive FieldDefaultModel
  | scalar (bits : ℕ)
  | text (value : String)
  | data (value : Bytes)

structure FieldSlotModel where
  offset : ℕ
  type : TypeModel
  defaultValue : Option FieldDefaultModel

/-- `group` is the id of the struct node of the group. -/
structure FieldModel where
  name : String
  codeOrder : ℕ
  discriminantValue : ℕ
  slot : Option FieldSlotModel
  group : Option TypeId

structure StructNodeModel where
  dataWordCount : ℕ
  pointerCount : ℕ
  discriminantCount : ℕ
  discriminantOffset : ℕ
  fields : List FieldModel

structure EnumerantModel where
  name : String
  codeOrder : ℕ
deriving DecidableEq

structure EnumNodeModel where
  enumerants : List EnumerantModel

structure InterfaceMethodModel where
  name : String
  codeOrder : ℕ
  paramStructTypeId : TypeId
  resultStructTypeId : TypeId
deriving DecidableEq

structure InterfaceNodeModel where
  methods : List InterfaceMethodModel
  superclasses : List TypeId

/-- `nestedNodes` are the ids of the nested nodes. -/
structure NodeModel where
  id : TypeId
  displayName : String
  displayNamePrefixLength : ℕ
  nestedNodes : List TypeId
  kind : NodeKind
  structNode : Option StructNodeModel
  enumNode : Option EnumNodeModel
  interfaceNode : Option InterfaceNodeModel

structure RequestedFileModel where
  id : TypeId
  filename : String

structure CodeGeneratorRequestModel where
  nodes : List NodeModel
  requestedFiles : List RequestedFileModel

def STREAM_RESULT_TYPE_ID : TypeId := 0x995f9a3377c0b16e

def FIELD_NO_DISCRIMINANT : ℕ := 0xffff

/-! ## The numbered items of a node -/

/-- What a reader shows of an enumerant or of a method: the text at pointer 0 and the number at
offset 0. -/
structure ItemReader where
  name : Option String
  codeOrder : ℕ

def parseEnumNode : Option (List ItemReader) → EnumNodeModel
  | none => ⟨[]⟩
  | some list => ⟨list.map fun item => ⟨item.name.getD "", item.codeOrder⟩⟩

/-- The methods of `parseInterfaceNode`; the ids are at offsets 8 and 16. -/
def parseMethods : Option (List (ItemReader × TypeId × TypeId)) → List InterfaceMethodModel
  | none => []
  | some list => list.map fun item => ⟨item.1.name.getD "", item.1.codeOrder, item.2.1, item.2.2⟩

end CapnpDeno
