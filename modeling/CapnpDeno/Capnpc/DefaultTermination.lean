import CapnpDeno.Capnpc.StructDescriptors
import CapnpDeno.Lib.CallGraph
import CapnpDeno.Lib.Fallible

/-!
# The emitted defaults end

The `createDefault` functions call each other as the structs of the schema hold each other.  There
is nothing that ends these calls but a struct that holds no other, so that a function returns
exactly where no struct that its struct holds holds itself.
-/

namespace CapnpDeno

open Filter

/-! ## Calls -/

/-- The functions that a function calls. -/
def callsOf (modules : Modules) (ref : ModuleRef) : List ModuleRef :=
  ((modules.lookup ref).map fun descriptor => descriptor.createDefault.targets).getD []

section Calls

variable {modules : Modules} {ref : ModuleRef}

theorem mem_targets {body : DefaultBody} {target : ModuleRef} :
    target ∈ body.targets ↔ ∃ name, (name, DefaultExpression.createDefault target) ∈ body := by
  simp only [DefaultBody.targets, List.mem_filterMap, Prod.exists]
  constructor
  · rintro ⟨name, expression, mem, same⟩
    cases expression with
    | value value => cases same
    | createDefault other =>
      cases same
      exact ⟨name, mem⟩
  · rintro ⟨name, mem⟩
    exact ⟨name, _, mem, rfl⟩

theorem evaluate_congr {f g : ModuleRef → Except Thrown Record} {expression : DefaultExpression}
    (same : ∀ target, expression.target = some target → f target = g target) :
    expression.evaluate f = expression.evaluate g := by
  cases expression with
  | value value => rfl
  | createDefault target =>
    rw [DefaultExpression.evaluate, DefaultExpression.evaluate, same target rfl]

/-- A function fails with its calls only, but for one that is missing. -/
theorem createDefault_limited (modules : Modules) :
    StackLimited (createDefault modules) stackOverflow (callsOf modules) fun ref =>
      modules.lookup ref = none where
  exhausted _ := rfl
  determined m n ref same := by
    rw [createDefault, createDefault]
    cases there : modules.lookup ref with
    | none => rfl
    | some descriptor =>
      have calls : callsOf modules ref = descriptor.createDefault.targets := by
        rw [callsOf, there]; rfl
      rw [calls] at same
      have entries : descriptor.createDefault.mapM (fun entry =>
          (entry.1, ·) <$> entry.2.evaluate (createDefault modules m)) =
          descriptor.createDefault.mapM fun entry =>
          (entry.1, ·) <$> entry.2.evaluate (createDefault modules n) := by
        apply Fallible.mapM_congr
        intro entry mem
        rw [evaluate_congr]
        intro target here
        exact same target (List.mem_filterMap.mpr ⟨entry, mem, here⟩)
      simp only [entries]
  returns n ref record done target called := by
    rw [createDefault] at done
    cases there : modules.lookup ref with
    | none => simp [there, throw, throwThe, MonadExceptOf.throw] at done
    | some descriptor =>
      have calls : callsOf modules ref = descriptor.createDefault.targets := by
        rw [callsOf, there]; rfl
      rw [calls, mem_targets] at called
      obtain ⟨name, mem⟩ := called
      simp only [there] at done
      obtain ⟨entries, evaluated, -⟩ := Fallible.bind_eq_ok.mp done
      obtain ⟨entry, done⟩ := Fallible.ok_of_mapM evaluated mem
      obtain ⟨value, done, -⟩ := Fallible.map_eq_ok.mp done
      obtain ⟨record, done, -⟩ := Fallible.map_eq_ok.mp done
      exact ⟨record, done⟩
  fails n ref e failed := by
    rw [createDefault] at failed
    cases there : modules.lookup ref with
    | none =>
      simp only [there] at failed
      cases failed
      exact .inl ⟨by decide, rfl⟩
    | some descriptor =>
      have calls : callsOf modules ref = descriptor.createDefault.targets := by
        rw [callsOf, there]; rfl
      simp only [there] at failed
      rcases Fallible.bind_eq_error.mp failed with failed | ⟨entries, -, done⟩
      · obtain ⟨⟨name, expression⟩, mem, failed⟩ := Fallible.mapM_eq_error failed
        have failed := Fallible.map_eq_error.mp failed
        cases expression with
        | value value => cases failed
        | createDefault target =>
          have called : target ∈ callsOf modules ref := calls ▸ mem_targets.mpr ⟨name, mem⟩
          exact .inr ⟨target, called, Fallible.map_eq_error.mp failed⟩
      · cases done

theorem Linked.named_known (linked : Linked modules) {descriptor : EmittedDescriptor}
    (there : modules.lookup ref = some descriptor) {target : ModuleRef}
    (named : target ∈ descriptor.named) :
    (modules.lookup target).isSome := linked _ (mem_of_lookup there) target named

theorem Linked.known (linked : Linked modules) {target : ModuleRef}
    (called : target ∈ callsOf modules ref) :
    (modules.lookup target).isSome := by
  rw [callsOf] at called
  cases there : modules.lookup ref with
  | none => simp [there] at called
  | some descriptor =>
    rw [there, Option.map_some, Option.getD_some] at called
    exact linked.named_known there (List.mem_append_left _ called)

theorem Linked.leadsTo_known (linked : Linked modules) (known : (modules.lookup ref).isSome)
    {target : ModuleRef} (leads : LeadsTo (callsOf modules) ref target) :
    (modules.lookup target).isSome := by
  induction leads with
  | refl => exact known
  | tail _ called _ => exact linked.known called

theorem finite_leadsTo (linked : Linked modules) (known : (modules.lookup ref).isSome) :
    {target | LeadsTo (callsOf modules) ref target}.Finite := by
  apply (List.finite_toSet (modules.map Prod.fst)).subset
  intro target leads
  obtain ⟨body, there⟩ := Option.isSome_iff_exists.mp (linked.leadsTo_known known leads)
  exact List.mem_map.mpr ⟨_, mem_of_lookup there, rfl⟩

/-- A function returns, and always the same, where it does not lead to a cycle. -/
theorem createDefault_returns_iff (linked : Linked modules) (known : (modules.lookup ref).isSome) :
    (∃ record, ∀ᶠ stack in atTop, createDefault modules stack ref = .ok record) ↔
      ∀ target, LeadsTo (callsOf modules) ref target → ¬ OnCycle (callsOf modules) target := by
  rw [← acc_iff_acyclic (finite_leadsTo linked known)]
  have good : ∀ target, LeadsTo (callsOf modules) ref target → ¬ modules.lookup target = none := by
    intro target leads missing
    have there := linked.leadsTo_known known leads
    rw [missing] at there
    cases there
  constructor
  · rintro ⟨record, returns⟩
    obtain ⟨stack, done⟩ := returns.exists
    exact (createDefault_limited modules).acc_of_returns done
  · intro grounded
    obtain ⟨result, fine, settled⟩ := (createDefault_limited modules).settles_of_acc grounded
    cases result with
    | ok record => exact ⟨record, settled⟩
    | error e =>
      obtain ⟨stack, failed⟩ := settled.exists
      exact absurd
        (congrArg Except.error ((createDefault_limited modules).overflow_of_fails good failed)) fine

/-- A function that leads to a cycle exhausts every stack. -/
theorem createDefault_overflows (linked : Linked modules) (known : (modules.lookup ref).isSome)
    {target : ModuleRef} (leads : LeadsTo (callsOf modules) ref target)
    (cycle : OnCycle (callsOf modules) target) (stack : ℕ) :
    createDefault modules stack ref = .error stackOverflow := by
  cases result : createDefault modules stack ref with
  | ok record =>
    have grounded := acc_of_leadsTo ((createDefault_limited modules).acc_of_returns result) leads
    exact absurd cycle (not_onCycle_of_acc grounded)
  | error e =>
    have good : ∀ target, LeadsTo (callsOf modules) ref target → ¬ modules.lookup target =
        none := by
      intro target leads missing
      have there := linked.leadsTo_known known leads
      rw [missing] at there
      cases there
    rw [(createDefault_limited modules).overflow_of_fails good result]

end Calls

/-! ## The structs that a struct holds -/

/-- The struct that a slot holds, where it has no other default. -/
def FieldSlotModel.held : FieldSlotModel → Option TypeId
  | ⟨_, .struct typeId, none⟩ => some typeId
  | _ => none

/-- The struct that a field holds: that of its type, or a group. -/
def FieldModel.held (field : FieldModel) : Option TypeId :=
  match field.slot with
  | some slot => slot.held
  | none => field.group

/-- The struct with the id, of this module or exported by another. -/
def TypeEmitContext.structTarget (ctx : TypeEmitContext) (typeId : TypeId) : Option ModuleRef :=
  match ctx.structOf typeId with
  | some info => some ⟨ctx.fileId, info.id⟩
  | none =>
    match ctx.moduleIndex.byId.lookup typeId with
    | some (.struct fileId _ info) => if fileId = ctx.fileId then none else some ⟨fileId, info.id⟩
    | _ => none

section Emitted

variable {ctx : TypeEmitContext} {field : FieldModel} {target : ModuleRef}

/-- A reference that is allowed is the entry of another module. -/
theorem crossFileTypeReference_eq_ok {typeId : TypeId} {entry : Option ModuleIndexEntry}
    (done : ctx.crossFileTypeReference typeId = .ok entry) :
    entry = (ctx.moduleIndex.byId.lookup typeId).filter (·.fileId ≠ ctx.fileId) := by
  unfold TypeEmitContext.crossFileTypeReference at done
  cases there : ctx.moduleIndex.byId.lookup typeId with
  | none =>
    simp only [there] at done
    cases done
    rfl
  | some found =>
    simp only [there] at done
    by_cases own : found.fileId = ctx.fileId
    · rw [if_pos own] at done
      cases done
      simp [Option.filter_some, own]
    · rw [if_neg own] at done
      have all : entry = some found := by
        cases found with
        | enum fileId schemaFilename info =>
          dsimp only at done
          split_ifs at done
          cases done
          rfl
        | struct fileId schemaFilename info =>
          dsimp only at done
          split_ifs at done
          cases done
          rfl
        | interface fileId schemaFilename info =>
          cases done
          rfl
      simp [all, Option.filter_some, own]

theorem target_of_enum {typeId : TypeId} {value : Option FieldDefaultModel}
    {expression : DefaultExpression} (done : (match ctx.enumOf typeId with
      | some info => pure (.value (enumDefault info value))
      | none => do
        match ← ctx.crossFileTypeReference typeId with
        | some (.enum _ _ info) => pure (.value (enumDefault info value))
        | _ => pure (.value .undefined)) = Except.ok expression) : expression.target = none := by
  split at done
  next =>
    cases done
    rfl
  next =>
    obtain ⟨entry, -, done⟩ := Fallible.bind_eq_ok.mp done
    split at done <;> cases done <;> rfl

theorem target_of_struct {typeId : TypeId} {expression : DefaultExpression}
    (done : ctx.defaultValueExpression (.struct typeId) none = .ok expression) :
    expression.target = ctx.structTarget typeId := by
  simp only [TypeEmitContext.defaultValueExpression] at done
  unfold TypeEmitContext.structTarget
  cases own : ctx.structOf typeId with
  | some info =>
    simp only [own] at done
    cases done
    rfl
  | none =>
    simp only [own] at done
    obtain ⟨entry, found, done⟩ := Fallible.bind_eq_ok.mp done
    rw [crossFileTypeReference_eq_ok found] at done
    cases there : ctx.moduleIndex.byId.lookup typeId with
    | none =>
      simp only [there] at done
      cases done
      rfl
    | some entry =>
      by_cases here : entry.fileId = ctx.fileId
      · simp only [there, Option.filter_some, here, ne_eq, not_true, decide_false,
          Bool.false_eq_true, if_false] at done
        cases done
        cases entry with
        | struct fileId schemaFilename info =>
          have same : fileId = ctx.fileId := here
          simp [DefaultExpression.target, same]
        | enum => rfl
        | interface => rfl
      · simp only [there, Option.filter_some, ne_eq, here, not_false_eq_true, decide_true,
          if_true] at done
        cases entry with
        | struct fileId schemaFilename info =>
          cases done
          have other : fileId ≠ ctx.fileId := here
          simp [DefaultExpression.target, other]
        | enum =>
          cases done
          rfl
        | interface =>
          cases done
          rfl

theorem target_of_defaultValueExpression {slot : FieldSlotModel} {expression : DefaultExpression}
    (done : ctx.defaultValueExpression slot.type slot.defaultValue = .ok expression) :
    expression.target = slot.held.bind ctx.structTarget := by
  obtain ⟨offset, type, value⟩ := slot
  cases type with
  | struct typeId =>
    cases value with
    | none => exact target_of_struct done
    | some value =>
      cases value <;> cases done <;> rfl
  | enum typeId =>
    cases value with
    | none => exact target_of_enum done
    | some value =>
      cases value with
      | scalar bits => exact target_of_enum done
      | text | data =>
        cases done
        rfl
  | primitive | text | data | list | interface | anyPointer =>
    cases value with
    | none =>
      cases done
      rfl
    | some value => cases value <;> cases done <;> rfl

theorem targets_of_fieldDefault {entries : DefaultBody} {unionFields : List FieldModel}
    {descriptors : List (FieldDescriptor ModuleRef)} (done : ctx.fieldDefault field = .ok entries)
    (described : ctx.fieldDescriptor unionFields field = .ok descriptors) :
    entries.targets = (field.held.bind ctx.structTarget).toList := by
  unfold TypeEmitContext.fieldDefault at done
  unfold TypeEmitContext.fieldDescriptor at described
  unfold FieldModel.held
  cases slot : field.slot with
  | some slot =>
    simp only [slot] at done
    obtain ⟨expression, chosen, rfl⟩ := Fallible.map_eq_ok.mp done
    rw [← target_of_defaultValueExpression chosen]
    cases called : expression.target <;> simp [DefaultBody.targets, called]
  | none =>
    cases group : field.group with
    | none =>
      simp only [slot, group] at done
      cases done
      rfl
    | some typeId =>
      simp only [slot, group] at done described
      cases own : ctx.structOf typeId with
      | none => simp [own] at described
      | some info =>
        simp only [own] at done
        cases done
        simp [DefaultBody.targets, DefaultExpression.target, TypeEmitContext.structTarget, own]

/-- The body calls the functions of the structs that the struct holds. -/
theorem mem_targets_of_emitStructDescriptor {info : StructInfo} {descriptor : EmittedDescriptor}
    (done : ctx.emitStructDescriptor info = .ok descriptor) :
    target ∈ descriptor.createDefault.targets ↔ ∃ field ∈ info.node.fields,
      field.held.bind ctx.structTarget = some target := by
  obtain ⟨entries, mapped, done⟩ := Fallible.bind_eq_ok.mp done
  obtain ⟨descriptors, described, done⟩ := Fallible.bind_eq_ok.mp done
  have each : ∀ field ∈ emittedFields info.node, ∀ own, ctx.fieldDefault field = .ok own →
      DefaultBody.targets own = (field.held.bind ctx.structTarget).toList := by
    intro field mem own made
    obtain ⟨descriptor, described⟩ := Fallible.ok_of_mapM described mem
    exact targets_of_fieldDefault made described
  have all : target ∈ descriptor.createDefault.targets ↔ ∃ own ∈ entries, target ∈
      DefaultBody.targets own := by
    obtain ⟨which, same, none⟩ : ∃ which : DefaultBody,
        descriptor.createDefault = entries.flatten ++ which ∧ which.targets = [] := by
      cases done
      refine ⟨_, rfl, ?_⟩
      split <;> rfl
    rw [same]
    have parts : DefaultBody.targets (entries.flatten ++ which) =
        DefaultBody.targets entries.flatten ++ which.targets :=
      List.filterMap_append
    rw [parts, none, List.append_nil]
    simp only [mem_targets, List.mem_flatten]
    constructor
    · rintro ⟨name, own, inside, mem⟩
      exact ⟨own, inside, name, mem⟩
    · rintro ⟨own, inside, name, mem⟩
      exact ⟨name, own, inside, mem⟩
  rw [all]
  constructor
  · rintro ⟨own, mem, called⟩
    obtain ⟨field, inside, made⟩ := Fallible.exists_of_mem_mapM mapped mem
    rw [each field inside own made, Option.mem_toList] at called
    exact ⟨field, (mem_emittedFields.mp inside).1, called⟩
  · rintro ⟨field, inside, held⟩
    have emitted : field ∈ emittedFields info.node := by
      refine mem_emittedFields.mpr ⟨inside, ?_⟩
      cases slot : field.slot with
      | some slot => exact .inl rfl
      | none =>
        cases group : field.group with
        | some typeId => exact .inr rfl
        | none => simp [FieldModel.held, slot, group] at held
    obtain ⟨own, mem, made⟩ := Fallible.mem_of_mapM mapped emitted
    exact ⟨own, mem, by rw [each field emitted own made, held]; simp⟩

end Emitted

/-! ## Modules -/

section Lookup

variable {ctx : TypeEmitContext} {ref : ModuleRef}

theorem lookup_emitTypesModule {modules : Modules} (done : emitTypesModule ctx = .ok modules) :
    modules.lookup ref =
      if ref.fileId = ctx.fileId then
        (ctx.structInfos.find? (·.id = ref.structId)).bind fun info =>
          (ctx.emitStructDescriptor info).toOption
      else none := by
  unfold emitTypesModule at done
  generalize ctx.structInfos = infos at done ⊢
  have all := Fallible.mapM_eq_ok.mp done
  clear done
  induction all with
  | nil => simp
  | @cons info entry infos modules here rest ih =>
    obtain ⟨descriptor, emitted, rfl⟩ := Fallible.map_eq_ok.mp here
    rw [lookup_pair, ih]
    by_cases file : ref.fileId = ctx.fileId
    · by_cases own : info.id = ref.structId
      · have same : ref = ⟨ctx.fileId, info.id⟩ := by rw [← file, own]
        simp [same, emitted]
      · have other : ref ≠ ⟨ctx.fileId, info.id⟩ := by
          rintro rfl
          exact own rfl
        rw [if_neg other, if_pos file, if_pos file, List.find?_cons_of_neg (by simpa using own)]
    · have other : ref ≠ ⟨ctx.fileId, info.id⟩ := by
        rintro rfl
        exact file rfl
      rw [if_neg other, if_neg file, if_neg file]

end Lookup

/-! ## The schema -/

section Generated

variable (localeCompare : String → String → ℤ) (request : CodeGeneratorRequestModel)
  {modules : Modules} {ref target : ModuleRef}

/-- A struct of a file, with what its module knows of the others. -/
def structAt (ref : ModuleRef) : Option (TypeEmitContext × StructInfo) :=
  (fileNodeOf (nodeById request) ref.fileId).bind fun fileNode =>
    let ctx := emitContext localeCompare (buildModuleIndex localeCompare request)
      (nodeById request) fileNode
    (ctx.structInfos.find? (·.id = ref.structId)).map fun info => (ctx, info)

/-- The struct is in a requested file. -/
def Requested (ref : ModuleRef) : Prop :=
  ref.fileId ∈ request.requestedFiles.map (·.id) ∧ (structAt localeCompare request ref).isSome

/-- The first struct has a field that holds the second. -/
def Holds (ref target : ModuleRef) : Prop :=
  ∃ ctx info, structAt localeCompare request ref = some (ctx, info) ∧
    ∃ field ∈ info.node.fields, field.held.bind ctx.structTarget = some target

variable {localeCompare request}

theorem id_of_lookup_nodeById {id : TypeId} {node : NodeModel}
    (found : (nodeById request).lookup id = some node) :
    node.id = id := by
  have along : ∀ (nodes : List NodeModel) (map : NodeMap),
      (∀ node, map.lookup id = some node → node.id = id) →
      ∀ node, (nodes.foldl (fun map node => mapSet map node.id node) map).lookup id = some node →
      node.id = id := by
    intro nodes
    induction nodes with
    | nil => exact fun map known => known
    | cons node nodes ih =>
      intro map known
      apply ih
      intro other found
      rw [lookup_mapSet] at found
      split_ifs at found with same
      · cases found
        exact same.symm
      · exact known other found
  exact along request.nodes [] (by simp) node found

theorem id_of_fileNodeOf {id : TypeId} {fileNode : NodeModel}
    (found : fileNodeOf (nodeById request) id = some fileNode) : fileNode.id = id :=
  id_of_lookup_nodeById (Option.filter_eq_some_iff.mp found).1

/-- The modules have the structs of the requested files. -/
theorem lookup_generated (generated : generateTypescriptFiles localeCompare request = .ok modules) :
    modules.lookup ref =
      if ref.fileId ∈ request.requestedFiles.map (·.id) then
        (structAt localeCompare request ref).bind fun place =>
          (place.1.emitStructDescriptor place.2).toOption
      else none := by
  obtain ⟨files, mapped, done⟩ := Fallible.bind_eq_ok.mp generated
  cases done
  clear generated
  generalize request.requestedFiles = requested at mapped ⊢
  induction requested generalizing files with
  | nil =>
    cases mapped
    rfl
  | cons file requested ih =>
    rw [List.map_cons]
    cases found : fileNodeOf (nodeById request) file.id with
    | none =>
      rw [List.filterMap_cons, found] at mapped
      dsimp only at mapped
      rw [ih files mapped]
      by_cases same : ref.fileId = file.id
      · simp [structAt, same, found]
      · simp [same]
    | some fileNode =>
      rw [List.filterMap_cons, found] at mapped
      dsimp only at mapped
      rw [List.mapM_cons] at mapped
      obtain ⟨first, here, mapped⟩ := Fallible.bind_eq_ok.mp mapped
      obtain ⟨rest, later, mapped⟩ := Fallible.bind_eq_ok.mp mapped
      cases mapped
      have own : (emitContext localeCompare (buildModuleIndex localeCompare request)
          (nodeById request)
        fileNode).fileId = file.id := id_of_fileNodeOf found
      rw [List.flatten_cons, List.lookup_append, lookup_emitTypesModule here, ih rest later, own]
      by_cases same : ref.fileId = file.id
      · have member : ref.fileId ∈ file.id :: requested.map (·.id) := by
          rw [same]
          exact List.mem_cons_self
        rw [if_pos same, if_pos member]
        rw [structAt, same, found, Option.bind_some]
        simp only [Option.bind_map, Function.comp_def]
        split_ifs <;> simp
      · rw [if_neg same]
        simp only [List.mem_cons, same, false_or, Option.none_or]

/-- A descriptor is emitted for each struct of a requested file. -/
theorem emitted_of_requested (generated : generateTypescriptFiles localeCompare request =
      .ok modules)
    (requested : Requested localeCompare request ref) :
    ∃ ctx info descriptor, structAt localeCompare request ref = some (ctx, info) ∧
      ctx.emitStructDescriptor info = .ok descriptor ∧ modules.lookup ref = some descriptor := by
  obtain ⟨asked, there⟩ := requested
  have found : modules.lookup ref = _ := lookup_generated generated
  obtain ⟨⟨ctx, info⟩, there⟩ := Option.isSome_iff_exists.mp there
  obtain ⟨fileNode, file, place⟩ := Option.bind_eq_some_iff.mp there
  obtain ⟨info', own, same⟩ := Option.map_eq_some_iff.mp place
  cases same
  obtain ⟨files, mapped, -⟩ := Fallible.bind_eq_ok.mp generated
  obtain ⟨entry, mem, here⟩ := List.mem_map.mp asked
  have inside : fileNode ∈ request.requestedFiles.filterMap fun requested =>
      fileNodeOf (nodeById request) requested.id :=
        List.mem_filterMap.mpr ⟨entry, mem, by rw [here, file]⟩
  obtain ⟨functions, made⟩ := Fallible.ok_of_mapM mapped inside
  obtain ⟨function, emitted⟩ := Fallible.ok_of_mapM made (List.mem_of_find?_eq_some own)
  obtain ⟨descriptor, emitted, -⟩ := Fallible.map_eq_ok.mp emitted
  refine ⟨_, info, descriptor, there, emitted, ?_⟩
  rw [found, if_pos asked, there, Option.bind_some, emitted, Fallible.toOption_ok]

theorem lookup_isSome_iff (generated : generateTypescriptFiles localeCompare request =
      .ok modules) :
    (modules.lookup ref).isSome ↔ Requested localeCompare request ref := by
  constructor
  · intro known
    rw [lookup_generated generated] at known
    split_ifs at known with asked
    · refine ⟨asked, ?_⟩
      cases there : structAt localeCompare request ref with
      | none => simp [there] at known
      | some place => rfl
    · cases known
  · intro requested
    obtain ⟨ctx, info, descriptor, -, -, found⟩ := emitted_of_requested generated requested
    rw [found]
    rfl

/-- A function calls those of the structs that its struct holds. -/
theorem mem_callsOf_iff (generated : generateTypescriptFiles localeCompare request = .ok modules)
    (requested : Requested localeCompare request ref) :
    target ∈ callsOf modules ref ↔ Holds localeCompare request ref target := by
  obtain ⟨ctx, info, descriptor, there, emitted, found⟩ := emitted_of_requested generated requested
  rw [callsOf, found, Option.map_some, Option.getD_some,
    mem_targets_of_emitStructDescriptor emitted]
  constructor
  · exact fun held => ⟨ctx, info, there, held⟩
  · rintro ⟨ctx', info', there', held⟩
    cases there.symm.trans there'
    exact held

section Linked

variable (generated : generateTypescriptFiles localeCompare request = .ok modules)
  (linked : Linked modules) (requested : Requested localeCompare request ref)
include generated linked requested

theorem leadsTo_iff :
    LeadsTo (callsOf modules) ref target ↔
    Relation.ReflTransGen (Holds localeCompare request) ref target :=
  reflTransGen_iff_on (fun _ _ _ called => (lookup_isSome_iff generated).mp (linked.known called))
    (fun _ _ requested => mem_callsOf_iff generated requested) requested

theorem onCycle_iff : OnCycle (callsOf modules) ref ↔
    Relation.TransGen (Holds localeCompare request) ref ref :=
  transGen_iff_on (fun _ _ _ called => (lookup_isSome_iff generated).mp (linked.known called))
    (fun _ _ requested => mem_callsOf_iff generated requested) requested

/-- What a requested struct holds is in a requested file, too. -/
theorem requested_of_holds (leads : Relation.ReflTransGen (Holds localeCompare request) ref
      target) :
    Requested localeCompare request target :=
  (lookup_isSome_iff generated).mp <| linked.leadsTo_known
    ((lookup_isSome_iff generated).mpr requested)
    ((leadsTo_iff generated linked requested).mpr leads)

/-- The default of a struct is made, and is always the same, exactly where neither this struct nor
one that it holds, directly or through others, holds itself. -/
theorem createDefault_settles_iff :
    (∃ record, ∀ᶠ stack in atTop, createDefault modules stack ref = .ok record) ↔
      ∀ target, Relation.ReflTransGen (Holds localeCompare request) ref target →
        ¬ Relation.TransGen (Holds localeCompare request) target target := by
  rw [createDefault_returns_iff linked ((lookup_isSome_iff generated).mpr requested)]
  refine forall_congr' fun target => ?_
  rw [leadsTo_iff generated linked requested]
  refine forall_congr' fun leads => not_congr ?_
  exact onCycle_iff generated linked (requested_of_holds generated linked requested leads)

end Linked

end Generated

end CapnpDeno
