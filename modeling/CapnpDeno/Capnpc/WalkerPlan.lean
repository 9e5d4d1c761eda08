import CapnpDeno.Capnpc.CapabilityWalkers
import CapnpDeno.Lib.CallStack

/-!
# Which structs have walkers

A struct bears a capability when one of its slots, or a slot of a group in it, is of an interface
that the module can bind, or of a struct that bears one, behind any number of lists.  The plan has a
walker for exactly those structs that are reached from the structs of the module and bear a
capability, where only structs that the module can name are followed.
-/

namespace CapnpDeno

/-- The type of the items of the items … of a list. -/
def TypeModel.innermost : TypeModel → TypeModel
  | .list elementType => elementType.innermost
  | type => type

namespace WalkerContext

variable (ctx : WalkerContext)

/-- The struct has a slot of the type, of its own or in a group. -/
inductive HasSlot : StructNodeModel → TypeModel → Prop
  | own {node : StructNodeModel} {field : FieldModel} {slot : FieldSlotModel}
    (mem : field ∈ node.fields)
      (is : field.slot = some slot) : HasSlot node slot.type
  | group {node groupNode : StructNodeModel} {field : FieldModel} {typeId : TypeId}
    {type : TypeModel}
      (mem : field ∈ node.fields) (plain : field.slot = none) (is : field.group = some typeId)
      (found : ctx.structNodeOf typeId = some groupNode) (inner : HasSlot groupNode type) :
      HasSlot node type

/-- The struct refers to the struct, directly or as the items of a list. -/
def Refers (node : StructNodeModel) (ref : TypeId) : Prop :=
  ∃ type, ctx.HasSlot node type ∧ type.innermost = .struct ref

/-- The struct has a field of an interface that the module can bind. -/
def HasCapability (node : StructNodeModel) : Prop :=
  ∃ type typeId, ctx.HasSlot node type ∧ type.innermost = .interface typeId ∧
    ctx.walkerInterfaceResolves typeId

/-- From the struct a capability is reached through those structs. -/
inductive Bears (follows : TypeId → Prop) : TypeId → Prop
  | here {id : TypeId} {node : StructNodeModel} (found : ctx.structNodeOf id = some node)
      (capability : ctx.HasCapability node) : Bears follows id
  | there {id ref : TypeId} {node : StructNodeModel} (found : ctx.structNodeOf id = some node)
      (refers : ctx.Refers node ref) (follow : follows ref) (bears : Bears follows ref) :
      Bears follows id

/-- The struct is none of a group, and the module can name it. -/
def Nameable (id : TypeId) : Prop := ctx.enqueued id ∧ ctx.walkerStructResolves id

/-- The structs that the module comes to, from its own. -/
inductive Reached : TypeId → Prop
  | start {info : StructInfo} (mem : info ∈ ctx.structInfos) (plain : ctx.enqueued info.id) :
    Reached info.id
  | step {id ref : TypeId} {node : StructNodeModel} (reached : Reached id)
    (found : ctx.structNodeOf id = some node)
      (refers : ctx.Refers node ref) (nameable : ctx.Nameable ref) : Reached ref

variable {ctx}

/-! ## The fields of a struct -/

theorem mem_allTypes_flatten {parts : List (List WalkableField)} {type : TypeModel} :
    type ∈ WalkableField.allTypes parts.flatten ↔ ∃ part ∈ parts, type ∈
      WalkableField.allTypes part := by
  have append (first rest : List WalkableField) :
      WalkableField.allTypes (first ++ rest) = WalkableField.allTypes first ++
      WalkableField.allTypes rest := by
    induction first with
    | nil => rfl
    | cons field first ih => simp [WalkableField.allTypes, ih]
  induction parts with
  | nil => simp [WalkableField.allTypes]
  | cons part parts ih => simp [append, ih]

section Fields

variable {stack : ℕ} {node : StructNodeModel} {field : FieldModel}
  {fields part : List WalkableField} {type : TypeModel}
  {inner : StructNodeModel → Except Thrown (List WalkableField)}

/-- The types that a field brings. -/
theorem mem_of_walkableField (done : ctx.walkableField inner field = .ok part) :
    type ∈ WalkableField.allTypes part ↔ (∃ slot, field.slot = some slot ∧ type = slot.type) ∨
      field.slot = none ∧ ∃ typeId groupNode fields, field.group = some typeId ∧
        ctx.structNodeOf typeId = some groupNode ∧ inner groupNode = .ok fields ∧
          type ∈ WalkableField.allTypes fields := by
  unfold walkableField at done
  cases slot : field.slot with
  | some slot =>
    simp only [slot] at done
    cases done
    simp [WalkableField.allTypes, WalkableField.types]
  | none =>
    cases group : field.group with
    | none =>
      simp only [slot, group] at done
      cases done
      simp [WalkableField.allTypes]
    | some typeId =>
      cases found : ctx.structNodeOf typeId with
      | none =>
        simp only [slot, group, found] at done
        cases done
        simp [WalkableField.allTypes, found]
      | some groupNode =>
        simp only [slot, group, found] at done
        obtain ⟨fields, made, rfl⟩ := Fallible.map_eq_ok.1 done
        simp [WalkableField.allTypes, WalkableField.types, found, made]

theorem mem_allTypes (done : ctx.walkableFields stack node = .ok fields) :
    type ∈ WalkableField.allTypes fields ↔ ctx.HasSlot node type := by
  induction stack generalizing node fields with
  | zero => cases done
  | succ stack ih =>
    obtain ⟨parts, mapped, rfl⟩ := Fallible.map_eq_ok.1 done
    rw [mem_allTypes_flatten]
    constructor
    · rintro ⟨part, mem, inside⟩
      obtain ⟨field, emitted, made⟩ := Fallible.exists_of_mem_mapM mapped mem
      have own := (mem_emittedFields.1 emitted).1
      obtain ⟨slot, is, rfl⟩ | ⟨plain, typeId, groupNode, fields, is, found, made, inside⟩ :=
        (mem_of_walkableField made).1 inside
      · exact .own own is
      · exact .group own plain is found ((ih made).1 inside)
    · intro has
      cases has with
      | own mem is =>
        obtain ⟨part, inside, made⟩ :=
          Fallible.mem_of_mapM mapped (mem_emittedFields.2 ⟨mem, .inl (by simp [is])⟩)
        exact ⟨part, inside, (mem_of_walkableField made).2 (.inl ⟨_, is, rfl⟩)⟩
      | @group _ groupNode field typeId _ mem plain is found has =>
        obtain ⟨part, inside, made⟩ :=
          Fallible.mem_of_mapM mapped (mem_emittedFields.2 ⟨mem, .inr (by simp [is])⟩)
        obtain ⟨fields, inner⟩ : ∃ fields, ctx.walkableFields stack groupNode = .ok fields := by
          simp only [walkableField, plain, is, found] at made
          obtain ⟨fields, inner, -⟩ := Fallible.map_eq_ok.1 made
          exact ⟨fields, inner⟩
        exact ⟨part, inside, (mem_of_walkableField made).2
          (.inr ⟨plain, typeId, groupNode, fields, is, found, inner, (ih inner).2 has⟩)⟩

theorem mem_collectTypeRefs {ref : TypeId} : ref ∈ (ctx.collectTypeRefs type).1 ↔
    type.innermost = .struct ref ∧ ctx.walkerStructResolves ref := by
  induction type with
  | list elementType ih => exact ih
  | struct typeId =>
    simp only [collectTypeRefs, TypeModel.innermost, TypeModel.struct.injEq]
    split_ifs with resolves
    · constructor
      · intro mem
        rw [List.mem_singleton.1 mem]
        exact ⟨rfl, resolves⟩
      · rintro ⟨rfl, -⟩
        exact List.mem_singleton_self _
    · constructor
      · nofun
      · rintro ⟨rfl, yes⟩
        exact absurd yes resolves
  | _ => simp [collectTypeRefs, TypeModel.innermost]

theorem collectTypeRefs_capability : (ctx.collectTypeRefs type).2 = true ↔
    ∃ typeId, type.innermost = .interface typeId ∧ ctx.walkerInterfaceResolves typeId := by
  induction type with
  | list elementType ih => exact ih
  | _ => simp [collectTypeRefs, TypeModel.innermost]

theorem mem_walkerNodeRefs (done : ctx.walkableFields stack node = .ok fields) {ref : TypeId} :
    ref ∈ (ctx.walkerNodeRefs fields).1 ↔ ctx.Refers node ref ∧ ctx.walkerStructResolves ref := by
  simp only [walkerNodeRefs, List.mem_flatMap, List.mem_map, exists_exists_and_eq_and,
    mem_allTypes done, mem_collectTypeRefs, Refers]
  constructor
  · rintro ⟨type, has, innermost, resolves⟩
    exact ⟨⟨type, has, innermost⟩, resolves⟩
  · rintro ⟨⟨type, has, innermost⟩, resolves⟩
    exact ⟨type, has, innermost, resolves⟩

theorem walkerNodeRefs_capability (done : ctx.walkableFields stack node = .ok fields) :
    (ctx.walkerNodeRefs fields).2 = true ↔ ctx.HasCapability node := by
  simp only [walkerNodeRefs, List.any_map, List.any_eq_true, Function.comp_apply,
    collectTypeRefs_capability, mem_allTypes done, HasCapability]
  constructor
  · rintro ⟨type, has, typeId, innermost, resolves⟩
    exact ⟨type, typeId, has, innermost, resolves⟩
  · rintro ⟨type, typeId, has, innermost, resolves⟩
    exact ⟨type, has, typeId, innermost, resolves⟩

end Fields

/-! ## The plan -/

section Plan

variable {stack : ℕ} {id ref : TypeId} {node : StructNodeModel} {fields : List WalkableField}
  {plan : CapabilityWalkerPlan} {s : GraphSearch.State TypeId (List WalkableField)}

theorem exists_of_enqueued (plain : ctx.enqueued id) : ∃ node, ctx.structNodeOf id = some node := by
  unfold enqueued at plain
  rw [Bool.and_eq_true] at plain
  exact Option.isSome_iff_exists.1 plain.1

theorem mem_nodes_of_enqueued (plain : ctx.enqueued id) : id ∈ ctx.nodeById.map Prod.fst := by
  obtain ⟨node, found⟩ := exists_of_enqueued plain
  obtain ⟨entry, known, -⟩ := Option.bind_eq_some_iff.1 found
  exact List.mem_map.2 ⟨_, mem_of_lookup known, rfl⟩

theorem visit_eq (found : ctx.structNodeOf id = some node) :
    (ctx.walkerSearch stack).visit id = ctx.walkableFields stack node := by
  simp only [walkerSearch, found]

/-- The search from the structs of the module, finished. -/
abbrev Searched (ctx : WalkerContext) (stack : ℕ)
    (s : GraphSearch.State TypeId (List WalkableField)) : Prop :=
  (ctx.walkerSearch stack).Finished (ctx.structInfos.map StructInfo.id) s

theorem enqueued_of_reached (reached : ctx.Reached id) : ctx.enqueued id := by
  cases reached with
  | start _ plain => exact plain
  | step _ _ _ nameable => exact nameable.1

theorem reached_of_search (reached : (ctx.walkerSearch stack).Reached
      (ctx.structInfos.map StructInfo.id) id) :
    ctx.Reached id := by
  induction reached with
  | start mem known =>
    obtain ⟨info, inside, rfl⟩ := List.mem_map.1 mem
    exact .start inside known
  | step _ visited mem known ih =>
    obtain ⟨node, found⟩ := exists_of_enqueued (enqueued_of_reached ih)
    rw [visit_eq found] at visited
    obtain ⟨refers, resolves⟩ := (mem_walkerNodeRefs visited).1 mem
    exact .step ih found refers ⟨known, resolves⟩

theorem Searched.mem_visited (h : Searched ctx stack s) : id ∈ s.visited ↔ ctx.Reached id := by
  rw [h.reached]
  constructor
  · exact reached_of_search
  · intro reached
    induction reached with
    | start mem plain => exact .start (List.mem_map_of_mem mem) plain
    | step _ found refers nameable ih =>
      have mem := (h.reached _).2 ih
      rw [h.visited] at mem
      obtain ⟨entry, recorded, rfl⟩ := List.mem_map.1 mem
      have visited := h.recorded entry recorded
      refine .step ih visited ?_ nameable.1
      rw [visit_eq found] at visited
      exact (mem_walkerNodeRefs visited).2 ⟨refers, nameable.2⟩

/-- What is recorded for a struct. -/
theorem Searched.record (h : Searched ctx stack s) (reached : ctx.Reached id)
    (found : ctx.structNodeOf id = some node) :
    ∃ fields, s.records.lookup id = some fields ∧ ctx.walkableFields stack node = .ok fields := by
  have mem := h.mem_visited.2 reached
  rw [h.visited] at mem
  obtain ⟨fields, known⟩ := exists_lookup mem
  refine ⟨fields, known, ?_⟩
  have visited := h.recorded _ (mem_of_lookup known)
  rwa [visit_eq found] at visited

theorem Searched.mem_structRefs (h : Searched ctx stack s) (reached : ctx.Reached id)
    (found : ctx.structNodeOf id = some node) :
    ref ∈ ctx.structRefsById s.records id ↔ ctx.Refers node ref ∧ ctx.walkerStructResolves ref := by
  obtain ⟨fields, known, made⟩ := h.record reached found
  rw [structRefsById, known]
  exact mem_walkerNodeRefs made

theorem Searched.directCapability (h : Searched ctx stack s) (reached : ctx.Reached id)
    (found : ctx.structNodeOf id = some node) :
    ctx.directCapability s.records id = true ↔ ctx.HasCapability node := by
  obtain ⟨fields, known, made⟩ := h.record reached found
  rw [WalkerContext.directCapability, known]
  exact walkerNodeRefs_capability made

/-- The mark spreads to the structs that bear a capability. -/
theorem Searched.mem_capBearing (h : Searched ctx stack s) :
    id ∈ Spread.saturate (ctx.structRefsById s.records) s.visited (s.visited.length + 1)
        (s.visited.filter (ctx.directCapability s.records)) ↔
      ctx.Reached id ∧ ctx.Bears ctx.Nameable id := by
  have begun : Spread.Marked (ctx.structRefsById s.records) s.visited
      (s.visited.filter (ctx.directCapability s.records))
      (s.visited.filter (ctx.directCapability s.records)) :=
    { nodup := h.nodup.filter _
      subset := List.filter_sublist.subset
      contained := List.Subset.refl _
      leads := fun _ => .seed }
  rw [Spread.mem_saturate begun (by omega)]
  constructor
  · intro leads
    induction leads with
    | seed mem =>
      obtain ⟨mem, direct⟩ := List.mem_filter.1 mem
      have reached := h.mem_visited.1 mem
      obtain ⟨node, found⟩ := exists_of_enqueued (enqueued_of_reached reached)
      exact ⟨reached, .here found ((h.directCapability reached found).1 direct)⟩
    | step mem refers _ ih =>
      have reached := h.mem_visited.1 mem
      obtain ⟨node, found⟩ := exists_of_enqueued (enqueued_of_reached reached)
      obtain ⟨refers, resolves⟩ := (h.mem_structRefs reached found).1 refers
      exact ⟨reached, .there found refers ⟨enqueued_of_reached ih.1, resolves⟩ ih.2⟩
  · rintro ⟨reached, bears⟩
    induction bears with
    | here found capability =>
      exact .seed (List.mem_filter.2 ⟨h.mem_visited.2 reached,
        (h.directCapability reached found).2 capability⟩)
    | there found refers nameable _ ih =>
      exact .step (h.mem_visited.2 reached)
        ((h.mem_structRefs reached found).2 ⟨refers, nameable.2⟩)
        (ih (.step reached found refers nameable))

theorem exists_searched (done : ctx.planCapabilityWalkers stack = .ok plan) :
    ∃ s, Searched ctx stack s ∧
    plan = s.records.filter fun entry => (Spread.saturate (ctx.structRefsById s.records) s.visited
      (s.visited.length + 1) (s.visited.filter (ctx.directCapability s.records))).contains
        entry.1 && ctx.walkerStructResolves entry.1 := by
  obtain ⟨s, found, planned⟩ := Fallible.bind_eq_ok.1 done
  cases planned
  have finite : ∀ key, (ctx.walkerSearch stack).known key → key ∈ ctx.nodeById.map Prod.fst :=
    fun _ => mem_nodes_of_enqueued
  refine ⟨s, GraphSearch.finished_of_run finite ?_, rfl⟩
  rwa [List.length_map]

theorem resolves_of_reached (reached : ctx.Reached id) : ctx.walkerStructResolves id := by
  cases reached with
  | @start info mem _ =>
    have own : (ctx.structOf info.id).isSome := List.find?_isSome.2 ⟨info, mem, by simp⟩
    simp [walkerStructResolves, own]
  | step _ _ _ nameable => exact nameable.2

/-- The plan has a walker for the structs that are reached and bear a capability, with the fields of
the struct. -/
theorem lookup_plan (done : ctx.planCapabilityWalkers stack = .ok plan) :
    plan.lookup id = some fields ↔
    ctx.Reached id ∧ ctx.Bears ctx.Nameable id ∧
      ∃ node, ctx.structNodeOf id = some node ∧ ctx.walkableFields stack node = .ok fields := by
  obtain ⟨s, h, rfl⟩ := exists_searched done
  rw [lookup_filter fun id =>
    (Spread.saturate (ctx.structRefsById s.records) s.visited (s.visited.length + 1)
    (s.visited.filter (ctx.directCapability s.records))).contains id && ctx.walkerStructResolves id]
  rw [ite_eq_iff, Bool.and_eq_true, List.contains_iff_mem, h.mem_capBearing]
  constructor
  · rintro (⟨⟨⟨reached, bears⟩, -⟩, known⟩ | ⟨-, impossible⟩)
    · obtain ⟨node, found⟩ := exists_of_enqueued (enqueued_of_reached reached)
      obtain ⟨fields', known', made⟩ := h.record reached found
      rw [known, Option.some.injEq] at known'
      exact ⟨reached, bears, node, found, known' ▸ made⟩
    · cases impossible
  · rintro ⟨reached, bears, node, found, made⟩
    obtain ⟨fields', known, made'⟩ := h.record reached found
    obtain rfl : fields' = fields := Except.ok.inj (made'.symm.trans made)
    exact .inl ⟨⟨⟨reached, bears⟩, resolves_of_reached reached⟩, known⟩

theorem planned_iff (done : ctx.planCapabilityWalkers stack = .ok plan) :
    (plan.lookup id).isSome ↔ ctx.Reached id ∧ ctx.Bears ctx.Nameable id := by
  rw [Option.isSome_iff_exists]
  constructor
  · rintro ⟨fields, known⟩
    obtain ⟨reached, bears, -⟩ := (lookup_plan done).1 known
    exact ⟨reached, bears⟩
  · rintro ⟨reached, bears⟩
    obtain ⟨node, found⟩ := exists_of_enqueued (enqueued_of_reached reached)
    obtain ⟨s, h, -⟩ := exists_searched done
    obtain ⟨fields, -, made⟩ := h.record reached found
    exact ⟨fields, (lookup_plan done).2 ⟨reached, bears, node, found, made⟩⟩

end Plan

/-! ## The call stack of the planner -/

section Stack

variable (ctx)

def groupOf (field : FieldModel) : Option StructNodeModel :=
  match field.slot, field.group with
  | none, some typeId => ctx.structNodeOf typeId
  | _, _ => none

/-- The struct nodes of the groups of a struct. -/
def groupsOf (node : StructNodeModel) : List StructNodeModel :=
  (emittedFields node).filterMap ctx.groupOf

variable {ctx} {stack : ℕ} {field : FieldModel}

theorem walkableField_of_none (none : ctx.groupOf field = none) :
    ∃ part, ∀ inner, ctx.walkableField inner field = .ok part := by
  unfold groupOf at none
  unfold walkableField
  cases slot : field.slot with
  | some slot => exact ⟨_, fun _ => rfl⟩
  | none =>
    cases group : field.group with
    | none => exact ⟨_, fun _ => rfl⟩
    | some typeId =>
      simp only [slot, group] at none
      simp only [none]
      exact ⟨_, fun _ => rfl⟩

theorem walkableField_of_some {groupNode : StructNodeModel}
    (some : ctx.groupOf field = some groupNode)
    (inner : StructNodeModel → Except Thrown (List WalkableField)) : ctx.walkableField inner field =
      (fun fields => [.group (toCamelCase field.name) fields]) <$> inner groupNode := by
  unfold groupOf at some
  unfold walkableField
  cases slot : field.slot with
  | some slot => simp [slot] at some
  | none =>
    cases group : field.group with
    | none => simp [slot, group] at some
    | some typeId =>
      simp only [slot, group] at some
      simp only [some]

theorem walkableFields_stackLimited :
    StackLimited ctx.walkableFields stackOverflow ctx.groupsOf fun _ => False where
  exhausted _ := rfl
  determined m n node same := by
    refine congrArg _ (Fallible.mapM_congr fun field mem => ?_)
    cases group : ctx.groupOf field with
    | none =>
      obtain ⟨part, always⟩ := walkableField_of_none group
      rw [always, always]
    | some groupNode =>
      rw [walkableField_of_some group, walkableField_of_some group,
        same groupNode (List.mem_filterMap.2 ⟨field, mem, group⟩)]
  returns n node fields done groupNode mem := by
    obtain ⟨parts, mapped, -⟩ := Fallible.map_eq_ok.1 done
    obtain ⟨field, emitted, group⟩ := List.mem_filterMap.1 mem
    obtain ⟨part, made⟩ := Fallible.ok_of_mapM mapped emitted
    rw [walkableField_of_some group] at made
    obtain ⟨fields, made, -⟩ := Fallible.map_eq_ok.1 made
    exact ⟨fields, made⟩
  fails n node e failed := by
    obtain ⟨field, mem, failed⟩ := Fallible.mapM_eq_error (Fallible.map_eq_error.1 failed)
    cases group : ctx.groupOf field with
    | none =>
      obtain ⟨part, always⟩ := walkableField_of_none group
      cases (always _).symm.trans failed
    | some groupNode =>
      rw [walkableField_of_some group] at failed
      exact .inr ⟨groupNode, List.mem_filterMap.2 ⟨field, mem, group⟩,
        Fallible.map_eq_error.1 failed⟩

/-- The groups of the structs that the module comes to are not within themselves. -/
def GroupsGrounded (ctx : WalkerContext) : Prop :=
  ∀ id node, ctx.Reached id → ctx.structNodeOf id = some node → Acc (CalledBy ctx.groupsOf) node

/-- The planner returns on every stack that is deep enough. -/
theorem planCapabilityWalkers_total (grounded : ctx.GroupsGrounded) :
    ∀ᶠ stack in Filter.atTop, ∃ plan, ctx.planCapabilityWalkers stack = .ok plan := by
  have each : ∀ entry ∈ {entry | entry ∈ ctx.nodeById}, ∀ᶠ stack in Filter.atTop, ∀ node,
      ctx.Reached entry.1 →
      ctx.structNodeOf entry.1 = some node → ∃ fields, ctx.walkableFields stack node =
      .ok fields := by
    intro entry _
    cases found : ctx.structNodeOf entry.1 with
    | none => exact .of_forall nofun
    | some node =>
      by_cases reached : ctx.Reached entry.1
      · obtain ⟨result, fine, settled⟩ :=
          walkableFields_stackLimited.settles_of_acc (grounded entry.1 node reached found)
        filter_upwards [settled] with stack same node' _ is
        cases is
        cases result with
        | ok fields => exact ⟨fields, same⟩
        | error e =>
          exact (fine
            (by rw [walkableFields_stackLimited.overflow_of_fails (fun _ _ => id) same])).elim
      · exact .of_forall fun _ _ yes => (reached yes).elim
  filter_upwards [(Filter.eventually_all_finite (List.finite_toSet ctx.nodeById)).2 each] with stack
    deep
  have visit : ∀ id, (ctx.walkerSearch stack).Reached (ctx.structInfos.map StructInfo.id) id →
      ∃ fields, (ctx.walkerSearch stack).visit id = .ok fields := by
    intro id searched
    have reached := reached_of_search searched
    obtain ⟨node, found⟩ := exists_of_enqueued (enqueued_of_reached reached)
    obtain ⟨entry, mem, rfl⟩ := List.mem_map.1 (mem_nodes_of_enqueued (enqueued_of_reached reached))
    rw [visit_eq found]
    exact deep entry mem node reached found
  obtain ⟨s, ran⟩ := GraphSearch.run_total GraphSearch.searching_start visit
  exact ⟨_, Fallible.bind_eq_ok.2 ⟨s, ran, rfl⟩⟩

/-- It returns only there. -/
theorem groupsGrounded_of_planned {plan : CapabilityWalkerPlan}
    (done : ctx.planCapabilityWalkers stack = .ok plan) :
    ctx.GroupsGrounded := by
  intro id node reached found
  obtain ⟨s, h, -⟩ := exists_searched done
  obtain ⟨fields, -, made⟩ := h.record reached found
  exact walkableFields_stackLimited.acc_of_returns made

end Stack

end WalkerContext

end CapnpDeno
