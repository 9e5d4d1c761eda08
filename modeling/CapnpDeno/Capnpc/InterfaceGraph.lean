import CapnpDeno.Capnpc.WireOrdinals

/-!
# Inheritance graphs

The walk over the ancestors enters an interface at most once, so it returns on every graph of known
interfaces where the call stack has room for them.  An interface is seen before it is entered, and
one that was seen is passed over; so no walk comes upon an interface that it is in, and a cycle is
not noticed.
-/

namespace CapnpDeno

variable {localeCompare : String → String → ℤ} {nodes : NodeMap} {info : InterfaceInfo}
  {structs : List StructInfo}

/-- An interface or one of its ancestors is its own ancestor. -/
def Cyclic (nodes : NodeMap) (interfaceId : TypeId) : Prop :=
  ∃ id, Ancestor nodes interfaceId id ∧ Relation.TransGen (Superclass nodes) id id

def KnownInterfaces (nodes : NodeMap) (info : InterfaceInfo) : Prop :=
  ∀ id, Ancestor nodes info.id id → ∃ node, interfaceNodeOf nodes id = some node

/-- The structs of the method are known. -/
def KnownStruct (structs : List StructInfo) (method : InterfaceMethodModel) : Prop :=
  (∃ params, structs.find? (·.id = method.paramStructTypeId) = some params) ∧
    (method.resultStructTypeId = STREAM_RESULT_TYPE_ID ∨
      ∃ results, structs.find? (·.id = method.resultStructTypeId) = some results)

def KnownStructs (nodes : NodeMap) (info : InterfaceInfo) (structs : List StructInfo) : Prop :=
  ∀ id, Ancestor nodes info.id id → ∀ method ∈ nodeMethods nodes info id, KnownStruct structs method

/-- No interface has two methods with one number. -/
def DifferentMethods (nodes : NodeMap) (info : InterfaceInfo) : Prop :=
  ∀ id, Ancestor nodes info.id id →
    ((nodeMethods nodes info id).map InterfaceMethodModel.codeOrder).Nodup

/-- The interface is resolved to its graph: the ids and the methods are all those of the graph, and
the server runs what a client method calls by the name of this method. -/
structure ResolvesGraph (nodes : NodeMap) (info : InterfaceInfo)
    (resolved : ResolvedInterfaceInfo) : Prop where
  different : resolved.acceptedInterfaceIds.Nodup
  accepted : ∀ id, id ∈ resolved.acceptedInterfaceIds ↔ Ancestor nodes info.id id
  sources : ∀ entry ∈ resolved.methods, entry.sourceInterfaceId ∈ resolved.acceptedInterfaceIds
  methods : ∀ id ∈ resolved.acceptedInterfaceIds,
    ((fromInterface resolved.methods id).map ResolvedMethodInfo.method).Perm
    (nodeMethods nodes info id)
  names : (resolved.methods.map ResolvedMethodInfo.methodName).Nodup
  routes : ∀ entry ∈ resolved.methods,
    resolved.clientCalls.lookup entry.methodName =
    some (entry.sourceInterfaceId, some entry.method.codeOrder) ∧
      resolved.dispatch (some entry.sourceInterfaceId) entry.method.codeOrder = .ok entry.methodName

/-- `resolveInterfaceInfo` returns for a graph without cycle where all is known, on a call stack
that is large enough; what it returns is the graph, and a graph with a cycle or an unknown ancestor
is rejected. -/
structure CoversGraphs (localeCompare : String → String → ℤ) (nodes : NodeMap)
    (info : InterfaceInfo) (structs : List StructInfo) : Prop where
  returns : ¬Cyclic nodes info.id → KnownInterfaces nodes info → KnownStructs nodes info structs →
    ∃ bound, ∀ stack ≥ bound, ∃ resolved,
    resolveInterfaceInfo localeCompare nodes info structs stack = .ok resolved
  exactly : ∀ stack resolved, resolveInterfaceInfo localeCompare nodes info structs stack =
    .ok resolved →
    ResolvesGraph nodes info resolved
  rejects : Cyclic nodes info.id ∨ ¬KnownInterfaces nodes info → ∀ stack resolved,
    resolveInterfaceInfo localeCompare nodes info structs stack ≠ .ok resolved

/-! ## The walk returns -/

/-- The known nodes that a walk has not seen. -/
def unseen (nodes : NodeMap) (w : AncestorWalk) : ℕ :=
  ((nodes.map Prod.fst).filter (· ∉ w.seen)).length

theorem unseen_le {w w' : AncestorWalk} (keeps : w.seen ⊆ w'.seen) :
    unseen nodes w' ≤ unseen nodes w := by
  unfold unseen
  refine List.Sublist.length_le (List.monotone_filter_right _ fun id fresh => ?_)
  simp only [decide_eq_true_eq] at fresh ⊢
  exact fun mem => fresh (keeps mem)

theorem unseen_lt {w : AncestorWalk} {id : TypeId} {node : InterfaceNodeModel}
    (known : interfaceNodeOf nodes id = some node) (fresh : id ∉ w.seen) :
    unseen nodes { w with seen := id :: w.seen } < unseen nodes w := by
  have key : id ∈ nodes.map Prod.fst := by
    unfold interfaceNodeOf at known
    cases here : nodes.lookup id with
    | none => simp [here] at known
    | some node =>
      obtain ⟨before, after, split, -⟩ := List.lookup_eq_some_iff.mp here
      simp [split]
  unfold unseen
  have fewer : ∀ keys : List TypeId, id ∈ keys → (keys.filter (· ∉ id :: w.seen)).length <
      (keys.filter (· ∉ w.seen)).length := by
    intro keys mem
    have split : keys.filter (· ∉ id :: w.seen) = (keys.filter (· ∉ w.seen)).filter (· ≠ id) := by
      rw [List.filter_filter]
      exact List.filter_congr fun other _ => by simp [not_or]
    rw [split]
    refine List.length_filter_lt_length_iff_exists.mpr ⟨id, ?_, by simp⟩
    simpa [fresh] using mem
  exact fewer _ key

theorem foldlM_returns {stack : ℕ} (ids : List TypeId)
    (walks : ∀ w, ∀ id ∈ ids, w.visiting ⊆ w.seen → id ∉ w.visiting → id ∈ w.seen →
      unseen nodes w < stack →
      ∃ w', walkAncestors nodes info stack w id = .ok w' ∧ w'.visiting = w.visiting)
      {w : AncestorWalk}
    (inside : w.visiting ⊆ w.seen) (room : unseen nodes w ≤ stack)
    (known : ∀ id ∈ ids, ∃ node, interfaceNodeOf nodes id = some node) :
    ∃ w', ids.foldlM (visitParent (walkAncestors nodes info stack)) w = .ok w' ∧
    w'.visiting = w.visiting := by
  induction ids generalizing w with
  | nil => exact ⟨w, rfl, rfl⟩
  | cons id ids ih =>
    have rest : ∀ {w₁ : AncestorWalk}, w₁.visiting = w.visiting → w.seen ⊆ w₁.seen →
        ∃ w', ids.foldlM (visitParent (walkAncestors nodes info stack)) w₁ = .ok w' ∧
        w'.visiting = w.visiting := by
      intro w₁ same keeps
      obtain ⟨w', done, same'⟩ := @ih (fun w id mem => walks w id (List.mem_cons_of_mem _ mem)) w₁
        (same ▸ List.Subset.trans inside keeps) ((unseen_le keeps).trans room)
        fun id mem => known id (List.mem_cons_of_mem _ mem)
      exact ⟨w', done, same'.trans same⟩
    rw [List.foldlM_cons]
    unfold visitParent
    by_cases seen : w.seen.contains id = true
    · rw [if_pos seen]
      exact rest rfl (List.Subset.refl _)
    · rw [if_neg seen]
      have fresh : id ∉ w.seen := fun mem => seen (List.contains_iff_mem.mpr mem)
      obtain ⟨node, found⟩ := known id List.mem_cons_self
      obtain ⟨w₁, walked, same⟩ := walks { w with seen := id :: w.seen } id List.mem_cons_self
        (List.subset_cons_of_subset id inside) (fun mem => fresh (inside mem)) List.mem_cons_self
        ((unseen_lt found fresh).trans_le room)
      have keeps := (walkAncestors_gathers walked).keeps
      rw [walked]
      exact rest same fun other mem => keeps (List.mem_cons_of_mem _ mem)

theorem walkAncestors_returns (info : InterfaceInfo) {stack : ℕ} {w : AncestorWalk}
    {interfaceId : TypeId} (known : ∀ id, Ancestor nodes interfaceId id →
      ∃ node, interfaceNodeOf nodes id = some node)
    (inside : w.visiting ⊆ w.seen) (entered : interfaceId ∉ w.visiting)
    (seen : interfaceId ∈ w.seen) (room : unseen nodes w < stack) :
    ∃ w', walkAncestors nodes info stack w interfaceId = .ok w' ∧ w'.visiting = w.visiting := by
  induction stack generalizing w interfaceId with
  | zero => exact absurd room (Nat.not_lt_zero _)
  | succ stack ih =>
    obtain ⟨node, found⟩ := known interfaceId .refl
    unfold walkAncestors
    rw [if_neg (by simpa using entered)]
    simp only [found]
    have parents : ∀ id ∈ node.superclasses, ∀ id', Ancestor nodes id id' →
        Ancestor nodes interfaceId id' :=
      fun id mem id' reached => .head ⟨node, found, mem⟩ reached
    obtain ⟨w', done, same⟩ :=
      foldlM_returns node.superclasses (w := { w with visiting := interfaceId :: w.visiting })
      (fun w id mem inside entered seen room =>
        ih (fun id' reached => known id' (parents id mem id' reached)) inside entered seen room)
      (List.cons_subset.mpr ⟨seen, inside⟩) (Nat.lt_succ_iff.mp room) fun id mem =>
      known id (parents id mem id .refl)
    refine ⟨{ w' with visiting := w'.visiting.erase interfaceId }, ?_, ?_⟩
    · rw [done]
      rfl
    · show w'.visiting.erase interfaceId = w.visiting
      rw [same]
      exact List.erase_cons_head ..

theorem collectAncestorInterfaceIds_returns (known : KnownInterfaces nodes info) {stack : ℕ}
    (room : nodes.length < stack) : ∃ ancestors, collectAncestorInterfaceIds nodes info stack =
      .ok ancestors := by
  have enough : unseen nodes ⟨[info.id], [], []⟩ < stack := by
    refine lt_of_le_of_lt ?_ room
    unfold unseen
    exact (List.length_filter_le _ _).trans_eq (List.length_map _)
  obtain ⟨w, done, -⟩ := walkAncestors_returns info known (List.nil_subset _) List.not_mem_nil
    List.mem_cons_self enough
  exact ⟨w.ancestors, Fallible.map_eq_ok.mpr ⟨w, done, rfl⟩⟩

/-! ## The methods -/

theorem addMethod_returns_iff {methods : List ResolvedMethodInfo} {interfaceId : TypeId}
    {method : InterfaceMethodModel} :
    (∃ methods', addMethod info structs interfaceId methods method = .ok methods') ↔
    KnownStruct structs method := by
  unfold addMethod KnownStruct
  dsimp only
  cases structs.find? (·.id = method.paramStructTypeId) with
  | none => simp
  | some params =>
    by_cases streaming : method.resultStructTypeId = STREAM_RESULT_TYPE_ID
    · simp [streaming]
    · cases structs.find? (·.id = method.resultStructTypeId) <;> simp [streaming]

theorem addMethods_returns (info : InterfaceInfo) (interfaceId : TypeId)
    (added : List InterfaceMethodModel) (known : ∀ method ∈ added, KnownStruct structs method)
    (methods : List ResolvedMethodInfo) :
    ∃ methods', added.foldlM (addMethod info structs interfaceId) methods = .ok methods' := by
  induction added generalizing methods with
  | nil => exact ⟨methods, rfl⟩
  | cons method added ih =>
    obtain ⟨between, first⟩ := addMethod_returns_iff.mpr (known method List.mem_cons_self)
    obtain ⟨methods', rest⟩ :=
      ih (fun other mem => known other (List.mem_cons_of_mem _ mem)) between
    exact ⟨methods', by rw [List.foldlM_cons, first]; exact rest⟩

theorem addInterfaces_returns (localeCompare : String → String → ℤ) (info : InterfaceInfo)
    {ancestors : List TypeId} (known : ∀ id ∈ ancestors, ∃ node, interfaceNodeOf nodes id =
      some node ∧
      ∀ method ∈ node.methods, KnownStruct structs method) (methods : List ResolvedMethodInfo) :
    ∃ methods', ancestors.foldlM (addInterface localeCompare nodes info structs) methods =
      .ok methods' := by
  induction ancestors generalizing methods with
  | nil => exact ⟨methods, rfl⟩
  | cons ancestor ancestors ih =>
    obtain ⟨node, found, structs⟩ := known ancestor List.mem_cons_self
    obtain ⟨between, first⟩ :=
      addMethods_returns info ancestor (sortedInterfaceMethods localeCompare node)
      (fun method mem => structs method ((perm_sortBy _ _).mem_iff.mp mem)) methods
    obtain ⟨methods', rest⟩ :=
      ih (fun other mem => known other (List.mem_cons_of_mem _ mem)) between
    refine ⟨methods', ?_⟩
    rw [List.foldlM_cons]
    unfold addInterface at rest ⊢
    simp only [found, first]
    exact rest

/-- All is returned where all is known, a cycle or not. -/
theorem resolveInterfaceInfo_returns (localeCompare : String → String → ℤ)
    (interfaces : KnownInterfaces nodes info) (known : KnownStructs nodes info structs)
    {stack : ℕ} (room : nodes.length < stack) :
    ∃ resolved, resolveInterfaceInfo localeCompare nodes info structs stack = .ok resolved := by
  obtain ⟨ancestors, walked⟩ := collectAncestorInterfaceIds_returns interfaces room
  have reached : ∀ id ∈ info.id :: ancestors, Ancestor nodes info.id id := fun id mem =>
    (mem_accepted_iff walked).mp mem
  obtain ⟨own, first⟩ :=
    addMethods_returns info info.id (sortedInterfaceMethods localeCompare info.node)
    (fun method mem => known info.id .refl method (by
      simpa [nodeMethods] using (perm_sortBy _ _).mem_iff.mp mem)) []
  have others : ∀ id ∈ ancestors, ∃ node, interfaceNodeOf nodes id = some node ∧
      ∀ method ∈ node.methods, KnownStruct structs method := by
    intro id mem
    have reached := reached id (List.mem_cons_of_mem _ mem)
    obtain ⟨node, found⟩ := interfaces id reached
    refine ⟨node, found, fun method inside => known id reached method ?_⟩
    have other : id ≠ info.id := fun same =>
      (List.nodup_cons.mp (collectAncestorInterfaceIds_nodup walked)).1 (same ▸ mem)
    simpa [nodeMethods, other, found] using inside
  obtain ⟨methods, rest⟩ := addInterfaces_returns localeCompare info others own
  refine ⟨⟨info, methods, info.id :: ancestors⟩, ?_⟩
  unfold resolveInterfaceInfo
  rw [walked, Fallible.ok_bind, first, Fallible.ok_bind, rest]
  rfl

theorem known_of_walkAncestors {stack : ℕ} {w w' : AncestorWalk} {interfaceId : TypeId}
    (walked : walkAncestors nodes info stack w interfaceId = .ok w') :
    ∃ node, interfaceNodeOf nodes interfaceId = some node := by
  cases stack with
  | zero => cases walked
  | succ stack =>
    unfold walkAncestors at walked
    split_ifs at walked
    split at walked
    · cases walked
    · exact ⟨_, ‹_›⟩

/-- What is not known is refused. -/
theorem known_of_resolveInterfaceInfo {stack : ℕ} {resolved : ResolvedInterfaceInfo}
    (done : resolveInterfaceInfo localeCompare nodes info structs stack = .ok resolved) :
    KnownInterfaces nodes info ∧ KnownStructs nodes info structs := by
  obtain ⟨ancestors, walked, done⟩ := Fallible.bind_eq_ok.mp done
  obtain ⟨own, first, done⟩ := Fallible.bind_eq_ok.mp done
  obtain ⟨methods, rest, done⟩ := Fallible.bind_eq_ok.mp done
  have mem : ∀ id, Ancestor nodes info.id id → id = info.id ∨ id ∈ ancestors := fun id reached =>
    List.mem_cons.mp ((mem_accepted_iff walked).mpr reached)
  constructor
  · intro id reached
    obtain rfl | later := mem id reached
    · obtain ⟨w, walked, -⟩ := Fallible.map_eq_ok.mp walked
      exact known_of_walkAncestors walked
    · obtain ⟨t, t', added⟩ := Fallible.ok_of_foldlM rest later
      unfold addInterface at added
      split at added
      · cases added
      · exact ⟨_, ‹_›⟩
  · intro id reached method inside
    by_cases same : id = info.id
    · subst same
      have sorted : method ∈ sortedInterfaceMethods localeCompare info.node :=
        (perm_sortBy _ _).mem_iff.mpr (by simpa [nodeMethods] using inside)
      obtain ⟨t, t', added⟩ := Fallible.ok_of_foldlM first sorted
      exact addMethod_returns_iff.mp ⟨t', added⟩
    · obtain ⟨t, t', added⟩ := Fallible.ok_of_foldlM rest ((mem id reached).resolve_left same)
      unfold addInterface at added
      split at added
      · cases added
      · next node found =>
        have sorted : method ∈ sortedInterfaceMethods localeCompare node :=
          (perm_sortBy _ _).mem_iff.mpr (by simpa [nodeMethods, same, found] using inside)
        obtain ⟨u, u', added⟩ := Fallible.ok_of_foldlM added sorted
        exact addMethod_returns_iff.mp ⟨u', added⟩

/-! ## The graph -/

theorem codeOrders_perm {resolved : ResolvedInterfaceInfo} {interfaceIds : List TypeId}
    {id : TypeId} (collected : Collected localeCompare nodes info interfaceIds resolved.methods)
    (mem : id ∈ interfaceIds) :
    ((fromInterface resolved.methods id).map fun entry => entry.method.codeOrder).Perm
      ((nodeMethods nodes info id).map InterfaceMethodModel.codeOrder) := by
  have block := congrArg (List.map InterfaceMethodModel.codeOrder) (collected.blocks id mem)
  rw [List.map_map] at block
  refine (List.Perm.of_eq block).trans ?_
  exact (perm_sortBy (compareMethods localeCompare) (nodeMethods nodes info id)).map
    InterfaceMethodModel.codeOrder

/-- What is returned is the graph, where the methods of each interface have different numbers. -/
theorem resolvesGraph_iff {stack : ℕ} {resolved : ResolvedInterfaceInfo}
    (done : resolveInterfaceInfo localeCompare nodes info structs stack = .ok resolved) :
    ResolvesGraph nodes info resolved ↔ DifferentMethods nodes info := by
  have different : resolved.acceptedInterfaceIds.Nodup := by
    obtain ⟨ancestors, walked, done⟩ := Fallible.bind_eq_ok.mp done
    obtain ⟨own, -, done⟩ := Fallible.bind_eq_ok.mp done
    obtain ⟨methods, -, done⟩ := Fallible.bind_eq_ok.mp done
    cases done
    exact collectAncestorInterfaceIds_nodup walked
  obtain ⟨rfl, ⟨ancestors, all⟩, accepted, collected⟩ := resolveInterfaceInfo_collected done
  constructor
  · intro graph id reached
    have mem := (accepted id).mpr reached
    have apart := graph.names
    rw [← (codeOrders_perm collected mem).nodup_iff]
    have items : (fromInterface resolved.methods id).Nodup := (List.Nodup.of_map _ apart).filter _
    refine List.Nodup.map_on ?_ items
    intro entry inside other inside' same
    obtain ⟨here, rfl⟩ := mem_fromInterface.mp inside
    obtain ⟨here', source⟩ := mem_fromInterface.mp inside'
    have first := (graph.routes entry here).2
    have second := (graph.routes other here').2
    rw [source, ← same, first] at second
    exact List.inj_on_of_nodup_map apart here here' (Except.ok.inj second)
  · intro numbers
    refine ⟨different, accepted, collected.sources, fun id mem => ?_, collected.named.different,
      fun entry mem => ?_⟩
    · rw [collected.blocks id mem]
      exact perm_sortBy _ _
    · have source := collected.sources entry mem
      refine ⟨clientCalls_lookup collected.named mem, ?_⟩
      rw [dispatch_of_mem all source]
      refine methodSwitch_of_mem ?_ (mem_fromInterface.mpr ⟨mem, rfl⟩)
      rw [(codeOrders_perm collected source).nodup_iff]
      exact numbers _ ((accepted _).mp source)

/-- Inheritance graphs are covered as they should be where no interface is its own ancestor. -/
theorem inheritance_covered_iff (localeCompare : String → String → ℤ) (nodes : NodeMap)
    (info : InterfaceInfo) (structs : List StructInfo) :
    CoversGraphs localeCompare nodes info structs ↔
      ¬KnownInterfaces nodes info ∨ ¬KnownStructs nodes info structs ∨
        ¬Cyclic nodes info.id ∧ DifferentMethods nodes info := by
  constructor
  · intro covers
    by_contra missed
    simp only [not_or, not_not, not_and] at missed
    obtain ⟨interfaces, known, missed⟩ := missed
    obtain ⟨resolved, done⟩ := resolveInterfaceInfo_returns localeCompare interfaces known
      (Nat.lt_succ_self _)
    have acyclic : ¬Cyclic nodes info.id :=
      fun cyclic => covers.rejects (.inl cyclic) _ resolved done
    exact missed acyclic ((resolvesGraph_iff done).mp (covers.exactly _ resolved done))
  · intro condition
    have graph : ∀ {stack resolved}, resolveInterfaceInfo localeCompare nodes info structs stack =
        .ok resolved →
        ¬Cyclic nodes info.id ∧ DifferentMethods nodes info := by
      intro stack resolved done
      obtain ⟨interfaces, known⟩ := known_of_resolveInterfaceInfo done
      exact (condition.resolve_left (not_not.mpr interfaces)).resolve_left (not_not.mpr known)
    refine ⟨fun _ interfaces known => ⟨nodes.length + 1, fun stack room => ?_⟩,
      fun stack resolved done => ?_, ?_⟩
    · exact resolveInterfaceInfo_returns localeCompare interfaces known room
    · exact (resolvesGraph_iff done).mpr (graph done).2
    · rintro (cyclic | unknown) stack resolved done
      · exact (graph done).1 cyclic
      · exact unknown (known_of_resolveInterfaceInfo done).1

/-- Two interfaces that extend each other. -/
def cyclicNodes : NodeMap :=
  [(1, ⟨1, "a.capnp:A", 8, [], .interface, none, none, some ⟨[], [2]⟩⟩),
    (2, ⟨2, "a.capnp:B", 8, [], .interface, none, none, some ⟨[], [1]⟩⟩)]

theorem cyclic_inheritance_resolved :
    let info : InterfaceInfo := ⟨1, "A", ⟨[], [2]⟩⟩
    (resolveInterfaceInfo (fun _ _ => 0) cyclicNodes info [] 100).toOption.map
        ResolvedInterfaceInfo.acceptedInterfaceIds = some [1, 2] ∧
      ¬CoversGraphs (fun _ _ => 0) cyclicNodes info [] := by
  intro info
  have done : (resolveInterfaceInfo (fun _ _ => 0) cyclicNodes info [] 100).toOption.map
      ResolvedInterfaceInfo.acceptedInterfaceIds = some [1, 2] := by decide
  refine ⟨done, fun covers => ?_⟩
  obtain ⟨resolved, done, -⟩ := Option.map_eq_some_iff.mp done
  have up : Superclass cyclicNodes 1 2 := ⟨⟨[], [2]⟩, rfl, by simp⟩
  have down : Superclass cyclicNodes 2 1 := ⟨⟨[], [1]⟩, rfl, by simp⟩
  have cyclic : Cyclic cyclicNodes info.id := ⟨1, .refl, .tail (.single up) down⟩
  exact covers.rejects (.inl cyclic) 100 resolved (Fallible.toOption_eq_some.mp done)

end CapnpDeno
