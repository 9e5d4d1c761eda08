import CapnpDeno.Capnpc.WalkerPlan

/-!
# Places of capabilities in a value

`hydrated` says which capability pointers of a value become stubs: all in a place of an interface
that the module can bind, where places are followed through lists, groups and the structs that the
module can name.  A value in whose place no capability is reached stays as it is.
-/

namespace CapnpDeno

/-- Where in a struct a value is: in a field of a type, or as a group. -/
inductive Place
  | value (type : TypeModel)
  | group (node : StructNodeModel)

namespace WalkerContext

variable (ctx : WalkerContext)

def placeOfField (field : FieldModel) : Option Place :=
  match field.slot, field.group with
  | some slot, _ => some (.value slot.type)
  | none, some typeId => (ctx.structNodeOf typeId).map .group
  | none, none => none

/-- The place of a property of a struct. -/
def placeOf (node : StructNodeModel) (name : String) : Option Place :=
  ((emittedFields node).find? (toCamelCase ·.name = name)).bind ctx.placeOfField

/-- The struct in the place, where it is one that is followed. -/
def nodeAt : Place → Option StructNodeModel
  | .value (.struct typeId) =>
    if ctx.enqueued typeId && ctx.walkerStructResolves typeId then ctx.structNodeOf typeId else none
  | .group node => some node
  | .value _ => none

/-- The value with a stub for each capability pointer that is in the place of an interface. -/
def hydrated : Live → Place → Live
  | .pointer capabilityIndex, .value (.interface typeId) =>
    match ctx.resolveInterfaceTokenBinding typeId with
    | some binding => .stub binding capabilityIndex
    | none => .pointer capabilityIndex
  | .array items, .value (.list elementType) =>
    .array (items.map fun item => hydrated item (.value elementType))
  | .object properties, place =>
    match ctx.nodeAt place with
    | some node => .object (properties.map fun entry => (entry.1,
        match ctx.placeOf node entry.1 with
        | some place => hydrated entry.2 place
        | none => entry.2))
    | none => .object properties
  | value, _ => value
termination_by value => sizeOf value
decreasing_by
  · simp only [Live.array.sizeOf_spec]
    have := List.sizeOf_lt_of_mem ‹_ ∈ _›
    omega
  · simp only [Live.object.sizeOf_spec]
    have := List.sizeOf_lt_of_mem ‹_ ∈ _›
    have : sizeOf entry.2 < sizeOf entry := by cases entry; simp +arith
    omega

/-- The decoded value is of the type of its place: capabilities are pointers, and a struct has its
fields. -/
inductive Fits : Live → Place → Prop
  | nullish {value : Live} {place : Place} (null : value.isNullish) : Fits value place
  | pointer {capabilityIndex : ℕ} {typeId : TypeId} :
    Fits (.pointer capabilityIndex) (.value (.interface typeId))
  | array {items : List Live} {elementType : TypeModel}
    (each : ∀ item ∈ items, Fits item (.value elementType)) :
      Fits (.array items) (.value (.list elementType))
  | struct {properties : List (String × Live)} {typeId : TypeId} {node : StructNodeModel}
      (found : ctx.structNodeOf typeId = some node)
      (each : ∀ entry ∈ properties, ∀ place, ctx.placeOf node entry.1 = some place →
        Fits entry.2 place) :
      Fits (.object properties) (.value (.struct typeId))
  | group {properties : List (String × Live)} {node : StructNodeModel}
      (each : ∀ entry ∈ properties, ∀ place, ctx.placeOf node entry.1 = some place →
        Fits entry.2 place) :
      Fits (.object properties) (.group node)
  | unknown {value : Live} {typeId : TypeId} (foreign : ctx.structNodeOf typeId = none) :
      Fits value (.value (.struct typeId))
  | plain {value : Live} {type : TypeModel} (other : ∀ typeId elementType,
      type ≠ .interface typeId ∧ type ≠ .struct typeId ∧ type ≠ .list elementType) :
      Fits value (.value type)

/-- No two fields of a struct have one property. -/
def WellNamed : Prop :=
  ∀ typeId node, ctx.structNodeOf typeId = some node →
    ((emittedFields node).map (toCamelCase ·.name)).Nodup

variable {ctx} in
theorem wellNamed_of_forall (names : ∀ entry ∈ ctx.nodeById, ∀ node ∈ entry.2.structNode,
    ((emittedFields node).map (toCamelCase ·.name)).Nodup) : ctx.WellNamed := by
  intro typeId node found
  obtain ⟨entry, known, is⟩ := Option.bind_eq_some_iff.1 found
  exact names _ (mem_of_lookup known) node is

/-- A capability is reached from a value of the type. -/
def TypeBears (type : TypeModel) : Prop :=
  (∃ typeId, type.innermost = .interface typeId ∧ ctx.walkerInterfaceResolves typeId) ∨
    ∃ typeId, type.innermost = .struct typeId ∧ ctx.Nameable typeId ∧ ctx.Bears ctx.Nameable typeId

def BearsAt : Place → Prop
  | .value type => ctx.TypeBears type
  | .group node => ∃ type, ctx.HasSlot node type ∧ ctx.TypeBears type

/-- The struct of the type is one that the module comes to, if it can name it. -/
def TypeWithin (type : TypeModel) : Prop :=
  ∀ typeId, type.innermost = .struct typeId → ctx.Nameable typeId → ctx.Reached typeId

def Within : Place → Prop
  | .value type => ctx.TypeWithin type
  | .group node => (∃ typeId, ctx.structNodeOf typeId = some node) ∧ ∀ type, ctx.HasSlot node type →
      ctx.TypeWithin type

variable {ctx} {node : StructNodeModel} {typeId : TypeId} {place : Place} {name : String}
  {value : Live}

/-! ## Places -/

/-- A place in a struct is that of a slot or of a group of it. -/
theorem cases_placeOf (here : ctx.placeOf node name = some place) : ∃ field ∈ node.fields,
    (∃ slot, field.slot = some slot ∧ place = .value slot.type) ∨ field.slot = none ∧
      ∃ typeId groupNode,
      field.group = some typeId ∧ ctx.structNodeOf typeId = some groupNode ∧
      place = .group groupNode := by
  obtain ⟨field, found, is⟩ := Option.bind_eq_some_iff.1 here
  refine ⟨field, (mem_emittedFields.1 (List.mem_of_find?_eq_some found)).1, ?_⟩
  unfold placeOfField at is
  cases slot : field.slot with
  | some own =>
    simp only [slot, Option.some.injEq] at is
    exact .inl ⟨own, rfl, is.symm⟩
  | none =>
    cases group : field.group with
    | none => simp [slot, group] at is
    | some typeId =>
      simp only [slot, group, Option.map_eq_some_iff] at is
      obtain ⟨groupNode, known, rfl⟩ := is
      exact .inr ⟨rfl, typeId, groupNode, rfl, known, rfl⟩

theorem BearsAt.outer (here : ctx.placeOf node name = some place) (bears : ctx.BearsAt place) :
    ctx.BearsAt (.group node) := by
  obtain ⟨field, mem, ⟨slot, is, rfl⟩ | ⟨plain, typeId, groupNode, is, found, rfl⟩⟩ :=
    cases_placeOf here
  · exact ⟨slot.type, .own mem is, bears⟩
  · obtain ⟨type, has, bears⟩ := bears
    exact ⟨type, .group mem plain is found has, bears⟩

theorem Within.inner (here : ctx.placeOf node name = some place)
    (within : ctx.Within (.group node)) :
    ctx.Within place := by
  obtain ⟨field, mem, ⟨slot, is, rfl⟩ | ⟨plain, typeId, groupNode, is, found, rfl⟩⟩ :=
    cases_placeOf here
  · exact within.2 _ (.own mem is)
  · exact ⟨⟨typeId, found⟩, fun type has => within.2 type (.group mem plain is found has)⟩

theorem bears_iff (found : ctx.structNodeOf typeId = some node) :
    ctx.Bears ctx.Nameable typeId ↔ ctx.BearsAt (.group node) := by
  constructor
  · intro bears
    cases bears with
    | here found' capability =>
      obtain rfl := Option.some.inj (found.symm.trans found')
      obtain ⟨type, interfaceId, has, innermost, resolves⟩ := capability
      exact ⟨type, has, .inl ⟨interfaceId, innermost, resolves⟩⟩
    | there found' refers nameable bears =>
      obtain rfl := Option.some.inj (found.symm.trans found')
      obtain ⟨type, has, innermost⟩ := refers
      exact ⟨type, has, .inr ⟨_, innermost, nameable, bears⟩⟩
  · rintro ⟨type, has, ⟨interfaceId, innermost, resolves⟩ | ⟨ref, innermost, nameable, bears⟩⟩
    · exact .here found ⟨type, interfaceId, has, innermost, resolves⟩
    · exact .there found ⟨type, has, innermost⟩ nameable bears

theorem within_of_reached (reached : ctx.Reached typeId)
    (found : ctx.structNodeOf typeId = some node) :
    ctx.Within (.group node) :=
  ⟨⟨typeId, found⟩, fun type has _ innermost nameable =>
    .step reached found ⟨type, has, innermost⟩ nameable⟩

theorem nodeAt_struct : ctx.nodeAt (.value (.struct typeId)) = some node ↔
    ctx.Nameable typeId ∧ ctx.structNodeOf typeId = some node := by
  unfold nodeAt Nameable
  rw [ite_eq_iff, Bool.and_eq_true]
  simp

theorem binding_isSome : (ctx.resolveInterfaceTokenBinding typeId).isSome =
    ctx.walkerInterfaceResolves typeId := by
  unfold resolveInterfaceTokenBinding walkerInterfaceResolves
  cases own : ctx.interfaceInfos.find? (·.id = typeId) with
  | some info =>
    have any : ctx.interfaceInfos.any (·.id = typeId) = true :=
      List.any_eq_true.2 ⟨info, List.mem_of_find?_eq_some own, by simpa using List.find?_some own⟩
    simp [any]
  | none =>
    have any : ctx.interfaceInfos.any (·.id = typeId) = false := by
      rw [List.any_eq_false]
      exact fun info mem => by simpa using List.find?_eq_none.1 own info mem
    rw [any, Bool.false_or]
    cases ctx.crossFileEntry typeId with
    | none => rfl
    | some entry => cases entry <;> rfl

theorem BearsAt.of_nodeAt (here : ctx.nodeAt place = some node)
    (bears : ctx.BearsAt (.group node)) :
    ctx.BearsAt place := by
  cases place with
  | group _ =>
    cases here
    exact bears
  | value type =>
    cases type with
    | struct typeId =>
      obtain ⟨nameable, found⟩ := nodeAt_struct.1 here
      exact .inr ⟨typeId, rfl, nameable, (bears_iff found).2 bears⟩
    | _ => cases here

/-! ## Forms of a value -/

theorem eq_leaf_of_isNullish (null : value.isNullish) : ∃ leaf, value = .leaf leaf := by
  cases value with
  | leaf leaf => exact ⟨leaf, rfl⟩
  | _ => cases null

theorem isNullish_hydrated : (ctx.hydrated value place).isNullish = value.isNullish := by
  fun_cases hydrated ctx value place <;> rfl

/-- Where no capability is reached, the value stays as it is. -/
theorem hydrated_of_not_bears (plain : ¬ ctx.BearsAt place) : ctx.hydrated value place = value := by
  fun_induction hydrated ctx value place with
  | case1 _ typeId binding bound =>
    refine (plain (.inl ⟨typeId, rfl, ?_⟩)).elim
    rw [← binding_isSome, bound]
    rfl
  | case2 => rfl
  | case3 items elementType ih =>
    have same : items.map (fun item => ctx.hydrated item (.value elementType)) = items.map id :=
      List.map_congr_left fun item mem => ih item mem plain
    rw [same, List.map_id]
  | case4 properties place node here ih =>
    have same : ∀ entry ∈ properties, (entry.1, match ctx.placeOf node entry.1 with
        | some place => ctx.hydrated entry.2 place
        | none => entry.2) = id entry := by
      intro entry mem
      cases inner : ctx.placeOf node entry.1 with
      | none => rfl
      | some place =>
        exact Prod.ext rfl (ih entry mem place fun bears =>
          plain (.of_nodeAt here (bears.outer inner)))
    rw [List.map_congr_left same, List.map_id]
  | case5 => rfl
  | case6 => rfl

variable (ctx) in
/-- The value with stubs, or with pointers. -/
def form (stubs : Bool) (value : Live) (place : Place) : Live :=
  if stubs then ctx.hydrated value place else value

variable (ctx) in
/-- The form of a property of a struct. -/
def formIn (stubs : Bool) (node : StructNodeModel) (entry : String × Live) : Live :=
  match ctx.placeOf node entry.1 with
  | some place => ctx.form stubs entry.2 place
  | none => entry.2

section Form

variable {stubs : Bool}

theorem isNullish_form : (ctx.form stubs value place).isNullish = value.isNullish := by
  cases stubs with
  | false => rfl
  | true => exact isNullish_hydrated

theorem form_nullish (null : value.isNullish) : ctx.form stubs value place = value := by
  cases stubs with
  | false => rfl
  | true =>
    obtain ⟨leaf, rfl⟩ := eq_leaf_of_isNullish null
    show ctx.hydrated _ _ = _
    rw [hydrated] <;> nofun

theorem form_of_not_bears (plain : ¬ ctx.BearsAt place) : ctx.form stubs value place = value := by
  cases stubs with
  | false => rfl
  | true => exact hydrated_of_not_bears plain

theorem form_array {items : List Live} {elementType : TypeModel} :
    ctx.form stubs (.array items) (.value (.list elementType)) =
      .array (items.map fun item => ctx.form stubs item (.value elementType)) := by
  cases stubs with
  | false => simp [form]
  | true =>
    show ctx.hydrated _ _ = _
    rw [hydrated]
    rfl

theorem form_object {properties : List (String × Live)} (here : ctx.nodeAt place = some node) :
    ctx.form stubs (.object properties) place =
      .object (properties.map fun entry => (entry.1, ctx.formIn stubs node entry)) := by
  cases stubs with
  | false =>
    have same : ∀ entry ∈ properties, (entry.1, ctx.formIn false node entry) = id entry := by
      intro entry _
      unfold formIn
      cases ctx.placeOf node entry.1 <;> rfl
    rw [List.map_congr_left same, List.map_id]
    rfl
  | true =>
    show ctx.hydrated _ _ = _
    rw [hydrated, here]
    rfl

end Form

end WalkerContext

end CapnpDeno
