import CapnpDeno.Capnpc.WalkerValues

/-!
# The walkers undo each other

The walker of a struct that is called with `hydrate` gives the hydrated value, and called with
`dehydrate` it takes that value back.  Both run the same statements, so one induction over the value
serves both: from one form of the value they give the other.
-/

namespace CapnpDeno

namespace WalkerContext

variable {ctx : WalkerContext} {plan : CapabilityWalkerPlan} {stack : ℕ} {type : TypeModel}
  {node : StructNodeModel} {fields : List WalkableField} {field : WalkableField} {place : Place}
  {value : Live} {mode : CapabilityWalkerMode} {call : TypeId → Live → Except Thrown Live}

/-! ## Relevance -/

/-- An expression is written for the types from whose values a capability is reached. -/
theorem walkerListElementExpression_isSome (done : ctx.planCapabilityWalkers stack = .ok plan)
    (within : ctx.TypeWithin type) : (ctx.walkerListElementExpression plan type).isSome ↔
    ctx.TypeBears type := by
  induction type with
  | interface typeId =>
    simp [walkerListElementExpression, binding_isSome, TypeBears, TypeModel.innermost]
  | struct typeId =>
    rw [walkerListElementExpression, Option.isSome_map, planned_iff done]
    constructor
    · rintro ⟨reached, bears⟩
      exact .inr ⟨typeId, rfl, ⟨enqueued_of_reached reached, resolves_of_reached reached⟩, bears⟩
    · rintro (⟨_, impossible, -⟩ | ⟨_, same, nameable, bears⟩)
      · cases impossible
      · cases same
        exact ⟨within typeId rfl nameable, bears⟩
  | list elementType ih =>
    rw [walkerListElementExpression, Option.isSome_map]
    exact ih within
  | _ => simp [walkerListElementExpression, TypeBears, TypeModel.innermost]

theorem walkerTypeIsRelevant_eq :
    ctx.walkerTypeIsRelevant plan type = (ctx.walkerListElementExpression plan type).isSome := by
  induction type with
  | list elementType ih =>
    rw [walkerTypeIsRelevant, ih, walkerListElementExpression, Option.isSome_map]
  | _ => simp [walkerTypeIsRelevant, walkerListElementExpression]

/-- A field and an item of a list are treated alike. -/
theorem emitWalkerSlotStatement_eq :
    ctx.emitWalkerSlotStatement plan type = ctx.walkerListElementExpression plan type := by
  cases type with
  | list elementType =>
    rw [emitWalkerSlotStatement, walkerTypeIsRelevant_eq, walkerListElementExpression]
    cases ctx.walkerListElementExpression plan elementType <;> rfl
  | _ => rfl

theorem groupSubtreeIsRelevant_iff (done : ctx.planCapabilityWalkers stack = .ok plan) {depth : ℕ}
    (made : ctx.walkableFields depth node = .ok fields) (within : ctx.Within (.group node)) :
    ctx.groupSubtreeIsRelevant plan fields ↔ ctx.BearsAt (.group node) := by
  rw [groupSubtreeIsRelevant, List.any_eq_true]
  constructor
  · rintro ⟨type, mem, relevant⟩
    have has := (mem_allTypes made).1 mem
    rw [walkerTypeIsRelevant_eq, walkerListElementExpression_isSome done (within.2 type has)]
      at relevant
    exact ⟨type, has, relevant⟩
  · rintro ⟨type, has, bears⟩
    refine ⟨type, (mem_allTypes made).2 has, ?_⟩
    rw [walkerTypeIsRelevant_eq]
    exact (walkerListElementExpression_isSome done (within.2 type has)).2 bears

/-! ## Statements -/

variable (ctx plan mode call) in
/-- What the statements for a field do to the value of its property. -/
def effect : WalkableField → Live → Except Thrown Live
  | .slot _ type =>
    match ctx.walkerListElementExpression plan type with
    | some expression => expression.run mode call
    | none => pure
  | .group _ fields =>
    if ctx.groupSubtreeIsRelevant plan fields then fun value =>
      if value.isNullish then pure value
      else .object <$> runWalkerStatements mode call (ctx.emitWalkerStatements plan fields)
        value.spread
    else pure

theorem updateProperty_map {f : Live → Except Thrown Live} {name : String}
    {properties : List (String × Live)} {before after : String × Live → Live}
    (each : ∀ entry ∈ properties, entry.1 = name → f (before entry) = .ok (after entry)) :
    updateProperty f name (properties.map fun entry => (entry.1, before entry)) =
      .ok (properties.map fun entry => (entry.1, if entry.1 = name then after entry
        else before entry)) := by
  unfold updateProperty
  rw [Fallible.mapM_eq_ok, List.forall₂_map_left_iff, List.forall₂_map_right_iff, List.forall₂_same]
  intro entry mem
  by_cases here : entry.1 = name
  · rw [if_pos here, if_pos here, each entry mem here]
    rfl
  · rw [if_neg here, if_neg here]
    rfl

theorem updateProperty_pure (name : String) (properties : List (String × Live)) :
    updateProperty pure name properties = .ok properties := by
  have each : ∀ entry ∈ properties, entry.1 = name →
      (pure : Live → Except Thrown Live) (Prod.snd entry) = .ok (Prod.snd entry) := fun _ _ _ => rfl
  have same := updateProperty_map each
  simpa using same

theorem runWalkerStatements_append (first rest : List WalkerStatement)
    (properties : List (String × Live)) :
    runWalkerStatements mode call (first ++ rest) properties =
      runWalkerStatements mode call first properties >>= runWalkerStatements mode call rest := by
  induction first generalizing properties with
  | nil => rfl
  | cons statement first ih =>
    rw [List.cons_append, runWalkerStatements, runWalkerStatements, bind_assoc]
    exact congrArg _ (funext ih)

/-- The statements of a struct are those of its fields, one after the other. -/
theorem runWalkerStatements_emit (properties : List (String × Live)) :
    runWalkerStatements mode call (ctx.emitWalkerStatements plan fields) properties =
      fields.foldlM (fun properties field =>
        updateProperty (ctx.effect plan mode call field) field.property properties)
        properties := by
  induction fields generalizing properties with
  | nil => rfl
  | cons field fields ih =>
    rw [emitWalkerStatements, runWalkerStatements_append, List.foldlM_cons]
    have own : runWalkerStatements mode call (ctx.emitWalkerField plan field) properties =
        updateProperty (ctx.effect plan mode call field) field.property properties := by
      have single (statement : WalkerStatement) :
          runWalkerStatements mode call [statement] properties =
          statement.run mode call properties := by
        rw [runWalkerStatements]
        exact bind_pure _
      cases field with
      | slot property type =>
        rw [emitWalkerField, emitWalkerSlotStatement_eq, effect]
        cases ctx.walkerListElementExpression plan type with
        | none => exact (updateProperty_pure property properties).symm
        | some expression => exact single (.assign property expression)
      | group property inner =>
        rw [emitWalkerField, effect]
        by_cases relevant : ctx.groupSubtreeIsRelevant plan inner
        · rw [if_pos relevant, if_pos relevant, single, WalkerStatement.run]
          rfl
        · rw [if_neg relevant, if_neg relevant]
          exact (updateProperty_pure property properties).symm
    rw [own]
    exact congrArg _ (funext ih)

/-- Where no two fields have one property, each property is updated by its own field only. -/
theorem foldlM_updateProperty {change : WalkableField → Live → Except Thrown Live}
    (names : (fields.map WalkableField.property).Nodup) {properties : List (String × Live)}
    (before after : String × Live → Live)
    (hit : ∀ entry ∈ properties, ∀ field ∈ fields, field.property = entry.1 →
      change field (before entry) = .ok (after entry))
    (miss : ∀ entry ∈ properties, entry.1 ∉ fields.map WalkableField.property →
      before entry = after entry) :
    fields.foldlM (fun properties field => updateProperty (change field) field.property properties)
      (properties.map fun entry => (entry.1, before entry)) =
      .ok (properties.map fun entry => (entry.1, after entry)) := by
  induction fields generalizing before with
  | nil =>
    have same : ∀ entry ∈ properties, (entry.1, before entry) = (entry.1, after entry) :=
      fun entry mem =>
      congrArg _ (miss entry mem List.not_mem_nil)
    rw [List.map_congr_left same]
    rfl
  | cons field fields ih =>
    rw [List.map_cons, List.nodup_cons] at names
    have first : updateProperty (change field) field.property (properties.map fun entry =>
        (entry.1, before entry)) =
        .ok (properties.map fun entry =>
          (entry.1, if entry.1 = field.property then after entry else before entry)) :=
      updateProperty_map fun entry mem here => hit entry mem field List.mem_cons_self here.symm
    rw [List.foldlM_cons, first]
    refine ih names.2 (fun entry => if entry.1 = field.property then after entry
      else before entry) ?_ ?_
    · intro entry mem other later same
      have apart : entry.1 ≠ field.property := fun here =>
        names.1 (List.mem_map.2 ⟨other, later, same.trans here⟩)
      simp only [if_neg apart]
      exact hit entry mem other (List.mem_cons_of_mem field later) same
    · intro entry mem none
      by_cases here : entry.1 = field.property
      · simp only [if_pos here]
      · simp only [if_neg here]
        exact miss entry mem
          (by simp only [List.map_cons, List.mem_cons, not_or]; exact ⟨here, none⟩)

/-! ## The fields of a struct and its places -/

/-- The field is what the planner has of the place. -/
def Shows (ctx : WalkerContext) : WalkableField → Place → Prop
  | .slot _ type, place => place = .value type
  | .group _ fields, place =>
    ∃ node depth, place = .group node ∧ ctx.walkableFields depth node = .ok fields

/-- A field comes to a walkable field for its place, if it has one. -/
theorem cases_walkableField {own : FieldModel} {part : List WalkableField} {depth : ℕ}
    (made : ctx.walkableField (ctx.walkableFields depth) own = .ok part) :
    ctx.placeOfField own = none ∧ part = [] ∨ ∃ field place, ctx.placeOfField own = some place ∧
      part = [field] ∧
      field.property = toCamelCase own.name ∧ ctx.Shows field place := by
  unfold walkableField at made
  unfold placeOfField
  cases slot : own.slot with
  | some slot =>
    simp only [slot] at made
    cases made
    exact .inr ⟨_, _, rfl, rfl, rfl, rfl⟩
  | none =>
    cases group : own.group with
    | none =>
      simp only [slot, group] at made
      cases made
      exact .inl ⟨rfl, rfl⟩
    | some typeId =>
      cases found : ctx.structNodeOf typeId with
      | none =>
        simp only [slot, group, found] at made
        cases made
        exact .inl ⟨by simp [found], rfl⟩
      | some groupNode =>
        simp only [slot, group, found] at made
        obtain ⟨fields, inner, rfl⟩ := Fallible.map_eq_ok.1 made
        exact .inr ⟨_, .group groupNode, by simp [found], rfl, rfl, groupNode, depth, rfl, inner⟩

section Fields

variable {depth : ℕ} (made : ctx.walkableFields depth node = .ok fields)
include made

theorem sublist_properties :
    (fields.map WalkableField.property).Sublist
      ((emittedFields node).map (toCamelCase ·.name)) := by
  cases depth with
  | zero => cases made
  | succ depth =>
    obtain ⟨parts, mapped, rfl⟩ := Fallible.map_eq_ok.1 made
    have each := Fallible.mapM_eq_ok.1 mapped
    clear mapped made
    generalize emittedFields node = own at each ⊢
    induction each with
    | nil => exact .slnil
    | cons here rest ih =>
      rw [List.flatten_cons, List.map_append, List.map_cons]
      obtain ⟨-, rfl⟩ | ⟨field, place, -, rfl, same, -⟩ := cases_walkableField here
      · exact ih.cons _
      · rw [List.map_singleton, same]
        exact ih.cons_cons _

/-- Each walkable field shows the place of its property. -/
theorem exists_shows (names : ((emittedFields node).map (toCamelCase ·.name)).Nodup)
    (mem : field ∈ fields) :
    ∃ place, ctx.placeOf node field.property = some place ∧ ctx.Shows field place := by
  cases depth with
  | zero => cases made
  | succ depth =>
    obtain ⟨parts, mapped, rfl⟩ := Fallible.map_eq_ok.1 made
    obtain ⟨part, inside, mem⟩ := List.mem_flatten.1 mem
    obtain ⟨own, emitted, made⟩ := Fallible.exists_of_mem_mapM mapped inside
    obtain ⟨-, rfl⟩ | ⟨field', place, is, rfl, same, shows⟩ := cases_walkableField made
    · cases mem
    · obtain rfl := List.mem_singleton.1 mem
      refine ⟨place, ?_, shows⟩
      rw [placeOf, same, find?_of_nodup names emitted]
      exact is

theorem mem_properties {name : String} (here : ctx.placeOf node name = some place) :
    name ∈ fields.map WalkableField.property := by
  obtain ⟨own, found, is⟩ := Option.bind_eq_some_iff.1 here
  cases depth with
  | zero => cases made
  | succ depth =>
    obtain ⟨parts, mapped, rfl⟩ := Fallible.map_eq_ok.1 made
    obtain ⟨part, inside, made⟩ := Fallible.mem_of_mapM mapped (List.mem_of_find?_eq_some found)
    have named : toCamelCase own.name = name := by simpa using List.find?_some found
    obtain ⟨nowhere, -⟩ | ⟨field, place, -, rfl, same, -⟩ := cases_walkableField made
    · cases nowhere.symm.trans is
    · exact List.mem_map.2 ⟨field, List.mem_flatten.2 ⟨_, inside, List.mem_singleton_self field⟩,
        same.trans named⟩

end Fields

/-! ## Values -/

/-- The form of the value that a walker takes; it gives the other one. -/
def takesStubs : CapabilityWalkerMode → Bool
  | .hydrate _ => false
  | .dehydrate => true

/-- There is a transport, if one is needed. -/
def Ready (mode : CapabilityWalkerMode) : Prop := mode = .hydrate (.ok ()) ∨ mode = .dehydrate

theorem walkerCapability_form (ready : Ready mode) {typeId : TypeId} {binding : InterfaceInfo}
    (bound : ctx.resolveInterfaceTokenBinding typeId = some binding) (capabilityIndex : ℕ) :
    walkerCapability mode binding
        (ctx.form (takesStubs mode) (.pointer capabilityIndex) (.value (.interface typeId))) =
      .ok (ctx.form (!takesStubs mode) (.pointer capabilityIndex)
        (.value (.interface typeId))) := by
  have stub : ctx.form true (.pointer capabilityIndex) (.value (.interface typeId)) =
      .stub binding capabilityIndex := by
    show ctx.hydrated _ _ = _
    rw [hydrated, bound]
  rcases ready with rfl | rfl
  · exact congrArg Except.ok stub.symm
  · show walkerCapability .dehydrate binding (ctx.form true _ _) = _
    rw [stub]
    rfl

theorem effect_nullish (null : value.isNullish) :
    ctx.effect plan mode call field value = .ok value := by
  cases field with
  | slot property type =>
    rw [effect]
    cases ctx.walkerListElementExpression plan type with
    | none => rfl
    | some expression => cases expression <;> exact if_pos null
  | group property fields =>
    rw [effect]
    split_ifs
    · exact if_pos null
    · rfl

/-- For a place from which no capability is reached there are no statements. -/
theorem effect_of_not_bears (done : ctx.planCapabilityWalkers stack = .ok plan)
    (within : ctx.Within place) (shown : ctx.Shows field place) (plain : ¬ ctx.BearsAt place) :
    ctx.effect plan mode call field = pure := by
  cases field with
  | slot property type =>
    obtain rfl := shown
    rw [effect, Option.not_isSome_iff_eq_none.1
      ((walkerListElementExpression_isSome done within).not.2 plain)]
  | group property fields =>
    obtain ⟨node, depth, rfl, made⟩ := shown
    rw [effect, if_neg ((groupSubtreeIsRelevant_iff done made within).not.2 plain)]

/-- The statements of a struct take its properties from one form to the other, where those of the
fields do from which a capability is reached. -/
theorem runWalkerStatements_form {before after : Bool} {depth : ℕ}
    {properties : List (String × Live)} (done : ctx.planCapabilityWalkers stack = .ok plan)
    (named : ctx.WellNamed) (within : ctx.Within (.group node))
    (made : ctx.walkableFields depth node = .ok fields)
    (each : ∀ entry ∈ properties, ∀ place, ctx.placeOf node entry.1 = some place →
      ∀ field, ctx.Within place →
      ctx.Shows field place → ctx.BearsAt place →
        ctx.effect plan mode call field (ctx.form before entry.2 place) =
          .ok (ctx.form after entry.2 place)) :
    runWalkerStatements mode call (ctx.emitWalkerStatements plan fields)
        (properties.map fun entry => (entry.1, ctx.formIn before node entry)) =
      .ok (properties.map fun entry => (entry.1, ctx.formIn after node entry)) := by
  obtain ⟨typeId, found⟩ := within.1
  have names := named typeId node found
  rw [runWalkerStatements_emit]
  refine foldlM_updateProperty (names.sublist (sublist_properties made)) _ _ ?_ ?_
  · intro entry mem field inside same
    obtain ⟨place, here, shown⟩ := exists_shows made names inside
    rw [same] at here
    have form (stubs : Bool) : ctx.formIn stubs node entry = ctx.form stubs entry.2 place := by
      rw [formIn, here]
    rw [form, form]
    by_cases bears : ctx.BearsAt place
    · exact each entry mem place here field (within.inner here) shown bears
    · rw [effect_of_not_bears done (within.inner here) shown bears, form_of_not_bears bears,
        form_of_not_bears bears]
      rfl
  · intro entry mem none
    have nowhere : ctx.placeOf node entry.1 = .none := by
      cases here : ctx.placeOf node entry.1 with
      | none => rfl
      | some place => exact (none (mem_properties made here)).elim
    rw [formIn, formIn, nowhere]

theorem lookup_emitCapabilityWalkers (typeId : TypeId) :
    (ctx.emitCapabilityWalkers plan).lookup typeId =
    (plan.lookup typeId).map (ctx.emitWalkerStatements plan) := by
  unfold emitCapabilityWalkers
  generalize ctx.emitWalkerStatements plan = emit
  induction plan with
  | nil => rfl
  | cons target plan ih =>
    rw [List.map_cons, lookup_pair, lookup_pair target.1 typeId target.2 plan, ih]
    split_ifs <;> rfl

theorem sizeOf_lt_object {properties : List (String × Live)} {entry : String × Live}
    (mem : entry ∈ properties) :
    sizeOf entry.2 < sizeOf (Live.object properties) := by
  have smaller := List.sizeOf_lt_of_mem mem
  have own : sizeOf entry.2 < sizeOf entry := by cases entry; simp +arith
  simp only [Live.object.sizeOf_spec]
  omega

/-- The statements for a place take a value that fits it from one form to the other. -/
theorem effect_form (done : ctx.planCapabilityWalkers stack = .ok plan) (named : ctx.WellNamed)
    (ready : Ready mode) {calls : ℕ} (fits : ctx.Fits value place) (within : ctx.Within place)
    (shown : ctx.Shows field place) (bears : ctx.BearsAt place) (deep : sizeOf value ≤ calls) :
    ctx.effect plan mode (runWalker (ctx.emitCapabilityWalkers plan) mode calls) field
        (ctx.form (takesStubs mode) value place) =
          .ok (ctx.form (!takesStubs mode) value place) := by
  induction fits generalizing field calls with
  | nullish null => rw [form_nullish null, form_nullish null, effect_nullish null]
  | @pointer capabilityIndex typeId =>
    have alive : (ctx.form (takesStubs mode) (.pointer capabilityIndex)
        (.value (.interface typeId))).isNullish = false :=
      isNullish_form
    have written := (walkerListElementExpression_isSome done within).2 bears
    cases field with
    | group => obtain ⟨_, _, impossible, -⟩ := shown; cases impossible
    | slot property type =>
      cases shown
      rw [walkerListElementExpression, Option.isSome_map] at written
      obtain ⟨binding, bound⟩ := Option.isSome_iff_exists.1 written
      rw [effect, walkerListElementExpression, bound]
      show WalkerExpression.run _ _ (.capability binding) _ = _
      rw [WalkerExpression.run, alive]
      exact walkerCapability_form ready bound capabilityIndex
  | @array items elementType each ih =>
    have written := (walkerListElementExpression_isSome done within).2 bears
    cases field with
    | group => obtain ⟨_, _, impossible, -⟩ := shown; cases impossible
    | slot property type =>
      cases shown
      rw [walkerListElementExpression, Option.isSome_map] at written
      obtain ⟨item, is⟩ := Option.isSome_iff_exists.1 written
      rw [effect, walkerListElementExpression, is, form_array, form_array]
      show Live.array <$> List.mapM _ _ = _
      have all : (items.map fun item => ctx.form (takesStubs mode) item (.value elementType)).mapM
          (item.run mode (runWalker (ctx.emitCapabilityWalkers plan) mode calls)) =
            .ok (items.map fun item => ctx.form (!takesStubs mode) item (.value elementType)) := by
        rw [Fallible.mapM_eq_ok, List.forall₂_map_left_iff, List.forall₂_map_right_iff,
          List.forall₂_same]
        intro value mem
        have smaller : sizeOf value < sizeOf (Live.array items) := by
          have := List.sizeOf_lt_of_mem mem
          simp only [Live.array.sizeOf_spec]
          omega
        have one : ctx.effect plan mode _ (.slot property elementType) _ = _ :=
          ih value mem within rfl bears (smaller.le.trans deep)
        rwa [effect, is] at one
      rw [all]
      rfl
  | @struct properties typeId node found each ih =>
    have written := (walkerListElementExpression_isSome done within).2 bears
    cases field with
    | group => obtain ⟨_, _, impossible, -⟩ := shown; cases impossible
    | slot property type =>
      cases shown
      rw [walkerListElementExpression, Option.isSome_map] at written
      obtain ⟨fields, planned⟩ := Option.isSome_iff_exists.1 written
      obtain ⟨reached, -, node', found', made⟩ := (lookup_plan done).1 planned
      obtain rfl := Option.some.inj (found.symm.trans found')
      have here : ctx.nodeAt (.value (.struct typeId)) = some node :=
        nodeAt_struct.2 ⟨⟨enqueued_of_reached reached, resolves_of_reached reached⟩, found⟩
      rw [effect, walkerListElementExpression, planned, form_object here, form_object here]
      cases calls with
      | zero =>
        simp only [Live.object.sizeOf_spec] at deep
        omega
      | succ calls =>
        show runWalker _ _ (calls + 1) typeId (.object _) = _
        rw [runWalker, lookup_emitCapabilityWalkers, planned]
        show Live.object <$> runWalkerStatements _ _ _ (List.map _ _) = _
        rw [runWalkerStatements_form done named (within_of_reached reached found) made]
        · rfl
        · intro entry mem place here field within shown bears
          have smaller := sizeOf_lt_object mem
          exact ih entry mem place here within shown bears (by omega)
  | @group properties node each ih =>
    cases field with
    | slot property type => cases shown
    | group property fields =>
      obtain ⟨_, depth, same, made⟩ := shown
      cases same
      have here : ctx.nodeAt (.group node) = some node := rfl
      rw [effect, if_pos ((groupSubtreeIsRelevant_iff done made within).2 bears), form_object here,
        form_object here]
      show Live.object <$> runWalkerStatements _ _ _ (List.map _ _) = _
      rw [runWalkerStatements_form done named within made]
      · rfl
      · intro entry mem place here field within shown bears
        exact ih entry mem place here within shown bears ((sizeOf_lt_object mem).le.trans deep)
  | @unknown value typeId foreign =>
    obtain ⟨_, impossible, -⟩ | ⟨_, same, -, bears⟩ := bears
    · cases impossible
    · cases same
      cases bears with
      | here found _ => cases foreign.symm.trans found
      | there found _ _ _ => cases foreign.symm.trans found
  | @plain value type other =>
    have none : ¬ ctx.TypeBears type := by
      cases type with
      | interface typeId => exact ((other typeId .text).1 rfl).elim
      | struct typeId => exact ((other typeId .text).2.1 rfl).elim
      | list elementType => exact ((other 0 elementType).2.2 rfl).elim
      | _ => simp [TypeBears, TypeModel.innermost]
    exact (none bears).elim

/-- The walker of a struct takes an object that fits it from one form to the other. -/
theorem runWalker_form (done : ctx.planCapabilityWalkers stack = .ok plan) (named : ctx.WellNamed)
    (ready : Ready mode) {typeId : TypeId} {properties : List (String × Live)} {calls : ℕ}
    (planned : (plan.lookup typeId).isSome)
    (fits : ctx.Fits (.object properties) (.value (.struct typeId)))
    (deep : sizeOf (Live.object properties) ≤ calls) :
    runWalker (ctx.emitCapabilityWalkers plan) mode calls typeId
        (ctx.form (takesStubs mode) (.object properties) (.value (.struct typeId))) =
      .ok (ctx.form (!takesStubs mode) (.object properties) (.value (.struct typeId))) := by
  obtain ⟨reached, bears⟩ := (planned_iff done).1 planned
  have within : ctx.Within (.value (.struct typeId)) := by
    intro ref same _
    cases same
    exact reached
  have run : ctx.effect plan mode _ (.slot "" (.struct typeId)) _ = _ :=
    effect_form done named ready fits within rfl
    (.inr ⟨typeId, rfl, ⟨enqueued_of_reached reached, resolves_of_reached reached⟩, bears⟩) deep
  obtain ⟨fields, is⟩ := Option.isSome_iff_exists.1 planned
  rw [effect, walkerListElementExpression, is] at run
  have alive : (ctx.form (takesStubs mode) (.object properties)
      (.value (.struct typeId))).isNullish = false :=
    isNullish_form
  have call : WalkerExpression.run mode (runWalker (ctx.emitCapabilityWalkers plan) mode calls)
      (.struct typeId) (ctx.form (takesStubs mode) (.object properties) (.value (.struct typeId))) =
        .ok (ctx.form (!takesStubs mode) (.object properties) (.value (.struct typeId))) := run
  rw [WalkerExpression.run, alive] at call
  exact call

/-- For a schema whose groups are not within themselves and where no two fields of a struct have one
property: on every stack that is deep enough the planner returns, there are walkers for exactly the
structs that the module comes to and from which a capability is reached through structs that it can
name, and on the values of these structs `hydrate` replaces the pointers in the places of
capabilities and nothing else, and `dehydrate` takes it back. -/
theorem walkers_cover_and_undo (named : ctx.WellNamed) (grounded : ctx.GroupsGrounded) :
    ∃ depth, ∀ stack ≥ depth, ∃ plan, ctx.planCapabilityWalkers stack = .ok plan ∧
      (∀ typeId, ((ctx.emitCapabilityWalkers plan).lookup typeId).isSome ↔
        ctx.Reached typeId ∧ ctx.Bears ctx.Nameable typeId) ∧
      ∀ typeId properties, ((ctx.emitCapabilityWalkers plan).lookup typeId).isSome →
        ctx.Fits (.object properties) (.value (.struct typeId)) →
        let hydrated := ctx.hydrated (.object properties) (.value (.struct typeId))
        ∃ deep, ∀ calls ≥ deep,
          runWalker (ctx.emitCapabilityWalkers plan)
          (.hydrate (.ok ())) calls typeId (.object properties) =
            .ok hydrated ∧
          runWalker (ctx.emitCapabilityWalkers plan) .dehydrate calls typeId hydrated =
          .ok (.object properties) := by
  obtain ⟨depth, total⟩ := Filter.eventually_atTop.1 (planCapabilityWalkers_total grounded)
  refine ⟨depth, fun stack enough => ?_⟩
  obtain ⟨plan, done⟩ := total stack enough
  have exist (typeId : TypeId) : ((ctx.emitCapabilityWalkers plan).lookup typeId).isSome =
      (plan.lookup typeId).isSome := by
    rw [lookup_emitCapabilityWalkers, Option.isSome_map]
  refine ⟨plan, done, fun typeId => ?_, fun typeId properties planned fits => ?_⟩
  · rw [exist]
    exact planned_iff done
  · rw [exist] at planned
    exact ⟨sizeOf (Live.object properties), fun calls deep =>
      ⟨runWalker_form done named (.inl rfl) planned fits deep,
        runWalker_form done named (.inr rfl) planned fits deep⟩⟩

namespace TwoFiles

/-! ## Two files

`a.capnp` has the structs `Outer`, with a nested struct `Inner` and a group, and `Wrapper`, whose
field is an `Inner`. `b.capnp` has a struct with a field of type `Wrapper`.
-/

/-- By code units. -/
def compareText (a b : String) : ℤ := if a < b then -1 else if a = b then 0 else 1

def slotField (name : String) (type : TypeModel) : FieldModel :=
  ⟨name, 0, FIELD_NO_DISCRIMINANT, some ⟨0, type, none⟩, none⟩

def structNode (id : TypeId) (displayName : String) (displayNamePrefixLength : ℕ)
    (fields : List FieldModel) :
    NodeModel :=
  ⟨id, displayName, displayNamePrefixLength, [], .struct, some ⟨0, 1, 0, 0, fields⟩, none, none⟩

def fileA : NodeModel := ⟨1, "a.capnp", 0, [2, 4, 8], .file, none, none, none⟩

def fileB : NodeModel := ⟨5, "b.capnp", 0, [6], .file, none, none, none⟩

def request : CodeGeneratorRequestModel :=
  ⟨[fileA,
    structNode 2 "a.capnp:Outer" 8 [slotField "inner" (.struct 3),
      ⟨"link", 1, FIELD_NO_DISCRIMINANT, none, some 7⟩],
    structNode 3 "a.capnp:Outer.Inner" 14 [slotField "cap" (.interface 4)],
    structNode 7 "a.capnp:Outer.link" 14 [slotField "all" (.list (.list (.interface 4)))],
    ⟨4, "a.capnp:Iface", 8, [], .interface, none, none, some ⟨[], []⟩⟩,
    structNode 8 "a.capnp:Wrapper" 8 [slotField "inner" (.struct 3)],
    fileB,
    structNode 6 "b.capnp:Holder" 8 [slotField "wrapper" (.struct 8)]],
    [⟨1, "a.capnp"⟩, ⟨5, "b.capnp"⟩]⟩

/-- The context of a file of the request. -/
def context (fileNode : NodeModel) : WalkerContext := .ofFile compareText request (· == 7) fileNode

/-- A value of `Outer`. -/
def properties : List (String × Live) :=
  [("inner", .object [("cap", .pointer 1)]),
    ("link", .object [("all", .array [.array [.pointer 2, .pointer 3]])])]

theorem fits_properties : (context fileA).Fits (.object properties) (.value (.struct 2)) := by
  have inner : (context fileA).Fits (.object [("cap", .pointer 1)]) (.value (.struct 3)) := by
    refine .struct rfl fun entry mem place here => ?_
    obtain rfl := List.mem_singleton.1 mem
    obtain rfl : Place.value (.interface 4) = place := Option.some.inj here
    exact .pointer
  have link : (context fileA).Fits (.object [("all", .array [.array [.pointer 2, .pointer 3]])])
      (.group ⟨0, 1, 0, 0, [slotField "all" (.list (.list (.interface 4)))]⟩) := by
    refine .group fun entry mem place here => ?_
    obtain rfl := List.mem_singleton.1 mem
    obtain rfl : Place.value (.list (.list (.interface 4))) = place := Option.some.inj here
    refine .array fun items mem => ?_
    obtain rfl := List.mem_singleton.1 mem
    refine .array fun item mem => ?_
    rcases List.mem_cons.1 mem with rfl | mem
    · exact .pointer
    · obtain rfl := List.mem_singleton.1 mem
      exact .pointer
  refine .struct rfl fun entry mem place here => ?_
  rcases List.mem_cons.1 mem with rfl | mem
  · obtain rfl : Place.value (.struct 3) = place := Option.some.inj here
    exact inner
  · obtain rfl := List.mem_singleton.1 mem
    obtain rfl : Place.group _ = place := Option.some.inj here
    exact link

/-- The walkers of `Outer` in `a.capnp`. -/
theorem outer_walkers_undo : ∃ plan calls,
    runWalker ((context fileA).emitCapabilityWalkers plan)
    (.hydrate (.ok ())) calls 2 (.object properties) =
        .ok ((context fileA).hydrated (.object properties) (.value (.struct 2))) ∧
      runWalker ((context fileA).emitCapabilityWalkers plan) .dehydrate calls 2
        ((context fileA).hydrated (.object properties) (.value (.struct 2))) =
          .ok (.object properties) := by
  have planned : ((context fileA).planCapabilityWalkers 5).toOption.isSome := by decide
  obtain ⟨plan, done⟩ := Option.isSome_iff_exists.1 planned
  have named : (context fileA).WellNamed := wellNamed_of_forall (by decide)
  have grounded := groupsGrounded_of_planned (Fallible.toOption_eq_some.1 done)
  obtain ⟨depth, total⟩ := walkers_cover_and_undo named grounded
  obtain ⟨plan, -, exist, undo⟩ := total depth le_rfl
  have reached : (context fileA).Reached 2 := by
    have own : 2 ∈ (context fileA).structInfos.map StructInfo.id := by decide
    obtain ⟨info, mem, is⟩ := List.mem_map.1 own
    rw [← is]
    exact .start mem (by rw [is]; decide)
  have bears : (context fileA).Bears (context fileA).Nameable 3 :=
    .here rfl ⟨_, 4, .own (List.mem_singleton_self _) rfl, rfl, by decide⟩
  obtain ⟨deep, run⟩ := undo 2 properties ((exist 2).2 ⟨reached,
    .there rfl ⟨_, .own List.mem_cons_self rfl, rfl⟩ ⟨by decide, by decide⟩ bears⟩) fits_properties
  exact ⟨plan, deep, run deep le_rfl⟩

/-- `Inner` is not exported, so that `b.capnp` does not find the capability in the `Wrapper` of its
`Holder`. -/
theorem nested_struct_not_followed :
    (∃ plan, (context fileB).planCapabilityWalkers 5 = .ok plan ∧
      ((context fileB).emitCapabilityWalkers plan).lookup 6 = none) ∧
      (context fileB).Reached 6 ∧
      (context fileB).Bears (fun typeId => (context fileB).enqueued typeId) 6 := by
  have planned : (context fileB).planCapabilityWalkers 5 = .ok [] := by
    have keys : ((context fileB).planCapabilityWalkers 5).toOption.map List.length = some 0 := by
      decide
    obtain ⟨plan, done, empty⟩ := Option.map_eq_some_iff.1 keys
    rw [Fallible.toOption_eq_some.1 done, List.length_eq_zero_iff.1 empty]
  have reached : (context fileB).Reached 6 := by
    have own : 6 ∈ (context fileB).structInfos.map StructInfo.id := by decide
    obtain ⟨info, mem, is⟩ := List.mem_map.1 own
    rw [← is]
    exact .start mem (by rw [is]; decide)
  have inner : (context fileB).Bears (fun typeId => (context fileB).enqueued typeId) 3 :=
    .here rfl ⟨_, 4, .own (List.mem_singleton_self _) rfl, rfl, by decide⟩
  have wrapper : (context fileB).Bears (fun typeId => (context fileB).enqueued typeId) 8 :=
    .there rfl ⟨_, .own (List.mem_singleton_self _) rfl, rfl⟩ (by decide) inner
  exact ⟨⟨[], planned, rfl⟩, reached,
    .there rfl ⟨_, .own (List.mem_singleton_self _) rfl, rfl⟩ (by decide) wrapper⟩

end TwoFiles

end WalkerContext

end CapnpDeno
