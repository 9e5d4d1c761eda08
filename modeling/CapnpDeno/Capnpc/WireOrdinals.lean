import Mathlib
import CapnpDeno.Capnpc.EmitterRpc
import CapnpDeno.Capnpc.EmitterTypes
import CapnpDeno.Lib.Fallible

/-!
# The wire numbers in the emitted code

An enumerant and a method are known on the wire by their position in the node.  The emitters number
enumerants by their place in the order of `codeOrder`, and methods by `codeOrder` itself; so the
numbers are those of the wire exactly where declarations are in the order of the positions.
-/

namespace CapnpDeno

/-! ## Lists in order -/

section Lists

variable {α β : Type}

/-- Of two arrangements of different names, equal names are in equal places. -/
theorem eq_of_perm_of_map_eq {f : α → β} {l l' : List α} (perm : l.Perm l')
    (same : l.map f = l'.map f) (different : (l'.map f).Nodup) : l = l' := by
  apply List.ext_getElem perm.length_eq
  intro i low low'
  apply List.inj_on_of_nodup_map different (perm.mem_iff.mp (List.getElem_mem low))
    (List.getElem_mem low')
  have place := congrArg (·[i]?) same
  simpa [List.getElem?_map, low, low'] using place

theorem mem_zipIdx_iff {l : List α} {a : α} {i : ℕ} : (a, i) ∈ l.zipIdx ↔ l[i]? = some a := by
  simp [List.mem_zipIdx_iff_getElem?]

end Lists

/-! ## Enums -/

/-- The descriptor has the enumerants at their positions, and gives them these numbers. -/
def Denotes (node : EnumNodeModel) : TypeDescriptor TypeId → Prop
  | .enum byOrdinal toOrdinal =>
    (∀ i : ℕ, byOrdinal[i]? = node.enumerants[i]?.map EnumerantModel.name) ∧
      ∀ name (i : ℕ), toOrdinal.lookup name = some i ↔ byOrdinal[i]? = some name
  | _ => False

/-- The descriptors and the defaults of an enum are those of its node. -/
def EnumOrdinals (info : EnumInfo) : Prop :=
  Denotes info.node (emitEnum info) ∧ Denotes info.node (enumMirror info) ∧
    ∀ value, enumDefault info value =
      match info.node.enumerants[FieldDefaultModel.ordinal value]? with
      | some enumerant => .string enumerant.name
      | none => .undefined

/-- The enumerants have different names that a property can have, and were declared in the order of
their ordinals. -/
structure InOrdinalOrder (enumerants : List EnumerantModel) : Prop where
  different : (enumerants.map EnumerantModel.name).Nodup
  plain : ∀ enumerant ∈ enumerants, enumerant.name ≠ "__proto__"
  declared : enumerants.Pairwise fun a b => a.codeOrder ≤ b.codeOrder

instance : Std.Total fun a b : EnumerantModel => (a.codeOrder : ℤ) - b.codeOrder ≤ 0 :=
  ⟨fun a b => by omega⟩

instance : IsTrans EnumerantModel fun a b => (a.codeOrder : ℤ) - b.codeOrder ≤ 0 :=
  ⟨fun a b c => by omega⟩

theorem enumValues_eq {node : EnumNodeModel}
    (declared : node.enumerants.Pairwise fun a b => a.codeOrder ≤ b.codeOrder) :
    enumValues node = node.enumerants.map EnumerantModel.name := by
  rw [enumValues, sortBy_eq]
  exact declared.imp fun before => by omega

theorem inOrdinalOrder_of_denotes {node : EnumNodeModel}
    (denotes : Denotes node (enumDescriptor (enumValues node))) :
    InOrdinalOrder node.enumerants := by
  obtain ⟨places, numbers⟩ := denotes
  have values : enumValues node = node.enumerants.map EnumerantModel.name := by
    apply List.ext_getElem?
    intro i
    rw [places, List.getElem?_map]
  have different : (node.enumerants.map EnumerantModel.name).Nodup := by
    rw [← values, List.nodup_iff_getElem?_ne_getElem?]
    intro i j before low same
    have first := (numbers _ i).mpr (List.getElem?_eq_getElem (before.trans low))
    have second := (numbers _ j).mpr (same.symm.trans (List.getElem?_eq_getElem (before.trans low)))
    have places := Option.some.inj (first.symm.trans second)
    omega
  refine ⟨different, fun enumerant mem proto => ?_, ?_⟩
  · obtain ⟨i, low, here⟩ := List.mem_iff_getElem.mp mem
    have named : (enumValues node)[i]? = some enumerant.name := by simp [values, low, here]
    have property := (numbers enumerant.name i).mpr named
    exact (mem_of_objectLiteral property).2 proto
  · have sorted :=
      List.pairwise_insertionSort (fun a b : EnumerantModel => (a.codeOrder : ℤ) - b.codeOrder ≤ 0)
      node.enumerants
    have unmoved : node.enumerants.insertionSort (fun a b => (a.codeOrder : ℤ) - b.codeOrder ≤ 0) =
        node.enumerants :=
      eq_of_perm_of_map_eq (List.perm_insertionSort _ _) values different
    rw [unmoved] at sorted
    exact sorted.imp fun before => by omega

theorem denotes_of_inOrdinalOrder {node : EnumNodeModel} (order : InOrdinalOrder node.enumerants) :
    Denotes node (enumDescriptor (enumValues node)) := by
  rw [enumValues_eq order.declared]
  have keys : (((node.enumerants.map EnumerantModel.name).zipIdx).map Prod.fst).Nodup := by
    rw [List.zipIdx_map_fst]
    exact order.different
  refine ⟨fun i => List.getElem?_map .., fun name i => ⟨fun found => ?_, fun there => ?_⟩⟩
  · exact mem_zipIdx_iff.mp (mem_of_objectLiteral found).1
  · apply objectLiteral_of_mem keys (mem_zipIdx_iff.mpr there)
    obtain ⟨enumerant, mem, rfl⟩ := List.mem_map.mp (List.mem_of_getElem? there)
    exact order.plain enumerant mem

theorem enumOrdinals_iff {info : EnumInfo} (values : info.values = enumValues info.node) :
    EnumOrdinals info ↔ InOrdinalOrder info.node.enumerants := by
  constructor
  · rintro ⟨denotes, -⟩
    rw [emitEnum, values] at denotes
    exact inOrdinalOrder_of_denotes denotes
  · intro order
    have denotes := denotes_of_inOrdinalOrder order
    refine ⟨?_, ?_, fun value => ?_⟩
    · rwa [emitEnum, values]
    · rwa [enumMirror, values]
    · rw [enumDefault, values, enumValues_eq order.declared, List.getElem?_map]
      cases info.node.enumerants[FieldDefaultModel.ordinal value]? <;> rfl

/-! ## Methods -/

/-- A name that is given is not one of those in use. -/
theorem uniqueName_not_mem (used : List String) (base : String) : uniqueName used base ∉ used := by
  have candidates : ∀ rounds suffix, uniqueSuffix used base rounds suffix ∈ used →
      ∀ n, suffix ≤ n → n ≤ suffix + rounds → base ++ toString n ∈ used := by
    intro rounds
    induction rounds with
    | zero =>
      intro suffix taken n low high
      obtain rfl : n = suffix := by omega
      exact taken
    | succ rounds ih =>
      intro suffix taken n low high
      rw [uniqueSuffix] at taken
      split_ifs at taken with first
      · rcases Nat.eq_or_lt_of_le low with rfl | later
        · exact List.contains_iff_mem.mp first
        · exact ih (suffix + 1) taken n later (by omega)
      · exact absurd (List.contains_iff_mem.mpr taken) first
  rw [uniqueName]
  split_ifs with taken
  · intro mem
    have all := candidates used.length 2 mem
    have different : ((List.range (used.length + 1)).map fun n =>
        base ++ toString (n + 2)).Nodup := by
      apply List.Nodup.map _ List.nodup_range
      intro m n same
      simpa [Nat.toString_eq_repr, Nat.repr_inj] using same
    have inside : ((List.range (used.length + 1)).map fun n => base ++ toString (n + 2)) ⊆
        used := by
      intro name mem
      obtain ⟨n, low, rfl⟩ := List.mem_map.mp mem
      rw [List.mem_range] at low
      exact all (n + 2) (by omega) (by omega)
    have fewer := (List.subperm_of_subset different inside).length_le
    rw [List.length_map, List.length_range] at fewer
    omega
  · exact fun mem => taken (List.contains_iff_mem.mpr mem)

/-- The words of a name have letters and digits only. -/
theorem nameWords_alphanumeric {value : String} {word : List Char} (mem : word ∈ nameWords value) :
    word ≠ [] ∧ ∀ c ∈ word, c.isAlphanum = true := by
  have pieces : ∀ (chars : List Char), ∀ word ∈ chars.splitOnP fun c => !c.isAlphanum,
      ∀ c ∈ word, c.isAlphanum = true := by
    intro chars
    induction chars with
    | nil => simp [List.splitOnP_nil]
    | cons first chars ih =>
      intro word mem c inside
      rw [List.splitOnP_cons_eq_if_modifyHead] at mem
      split_ifs at mem with apart
      · rcases List.mem_cons.mp mem with rfl | later
        · simp at inside
        · exact ih word later c inside
      · cases pieces : chars.splitOnP fun c => !c.isAlphanum with
        | nil => exact absurd pieces (List.splitOnP_ne_nil _ _)
        | cons piece others =>
          rw [pieces, List.modifyHead_cons] at mem
          rw [pieces] at ih
          rcases List.mem_cons.mp mem with rfl | later
          · rcases List.mem_cons.mp inside with rfl | old
            · simpa using apart
            · exact ih piece List.mem_cons_self c old
          · exact ih word (List.mem_cons_of_mem _ later) c inside
  rw [nameWords, List.mem_filter] at mem
  exact ⟨by simpa using mem.2, pieces _ word mem.1⟩

theorem lower_ne_underscore {c : Char} (alphanumeric : c.isAlphanum = true) :
    c.toUpper.toLower ≠ '_' := by
  intro same
  have value := congrArg Char.val same
  simp only [Char.isAlphanum, Char.isAlpha, Char.isUpper, Char.isLower, Char.isDigit]
    at alphanumeric
  simp only [Char.toUpper, Char.toLower] at value
  split at value <;> split at value <;> simp_all [UInt32.le_iff_toNat_le, ← UInt32.toNat_inj] <;>
    omega

/-- A method name does not begin with an underscore. -/
theorem toCamelCase_first (value : String) :
    ∃ first rest, (toCamelCase value).toList = first :: rest ∧ first ≠ '_' := by
  unfold toCamelCase toPascalCase
  cases words : nameWords value with
  | nil => exact ⟨'g', "eneratedType".toList, by decide, by decide⟩
  | cons word words' =>
    obtain ⟨nonempty, alphanumeric⟩ := nameWords_alphanumeric (words ▸ List.mem_cons_self)
    cases word with
    | nil => exact absurd rfl nonempty
    | cons first rest =>
      refine ⟨first.toUpper.toLower, rest ++ words'.flatMap upperFirst, ?_, ?_⟩
      · simp [upperFirst]
      · exact lower_ne_underscore (alphanumeric first List.mem_cons_self)

theorem uniqueName_eq_append (used : List String) (base : String) :
    ∃ tail, uniqueName used base = base ++ tail := by
  have suffixed : ∀ rounds suffix, ∃ tail, uniqueSuffix used base rounds suffix = base ++ tail := by
    intro rounds
    induction rounds with
    | zero => exact fun suffix => ⟨_, rfl⟩
    | succ rounds ih =>
      intro suffix
      rw [uniqueSuffix]
      split_ifs
      · exact ih (suffix + 1)
      · exact ⟨_, rfl⟩
  rw [uniqueName]
  split_ifs
  · exact suffixed used.length 2
  · exact ⟨"", by simp⟩

theorem uniqueName_ne_proto (used : List String) (value : String) :
    uniqueName used (toCamelCase value) ≠ "__proto__" := by
  obtain ⟨first, rest, name, plain⟩ := toCamelCase_first value
  obtain ⟨tail, begins⟩ := uniqueName_eq_append used (toCamelCase value)
  have proto : "__proto__".toList = '_' :: "_proto__".toList := by decide
  rw [begins]
  intro same
  have chars := congrArg String.toList same
  rw [String.toList_append, name, proto, List.cons_append] at chars
  exact plain (List.cons.inj chars).1

/-! ## Ancestors -/

section Ancestors

variable {nodes : NodeMap} {info : InterfaceInfo}

/-- A walk adds ancestors that were not seen before. -/
structure Gathers (w w' : AncestorWalk) : Prop where
  keeps : w.seen ⊆ w'.seen
  adds : ∃ new, w'.ancestors = w.ancestors ++ new ∧ new.Nodup ∧ ∀ id ∈ new, id ∉ w.seen ∧
    id ∈ w'.seen

theorem Gathers.refl (w : AncestorWalk) : Gathers w w := ⟨List.Subset.refl _, [], by simp⟩

theorem Gathers.trans {w w' w'' : AncestorWalk} (first : Gathers w w') (second : Gathers w' w'') :
    Gathers w w'' := by
  obtain ⟨new, same, different, fresh⟩ := first.adds
  obtain ⟨new', same', different', fresh'⟩ := second.adds
  refine ⟨List.Subset.trans first.keeps second.keeps,
    new ++ new', by rw [same', same, List.append_assoc], ?_, ?_⟩
  · rw [List.nodup_append]
    refine ⟨different, different', ?_⟩
    rintro id old _ new rfl
    exact (fresh' id new).1 (fresh id old).2
  · intro id mem
    rcases List.mem_append.mp mem with old | new
    · exact ⟨(fresh id old).1, second.keeps (fresh id old).2⟩
    · exact ⟨fun seen => (fresh' id new).1 (first.keeps seen), (fresh' id new).2⟩

theorem visitParent_gathers {walk : AncestorWalk → TypeId → Except Thrown AncestorWalk}
    (walks : ∀ w id w', walk w id = .ok w' → Gathers w w') {w w' : AncestorWalk} {parentId : TypeId}
    (visited : visitParent walk w parentId = .ok w') : Gathers w w' := by
  unfold visitParent at visited
  split_ifs at visited with seen
  · cases visited
    exact .refl w
  · obtain ⟨between, walked, done⟩ := Fallible.bind_eq_ok.mp visited
    cases done
    have unseen : parentId ∉ w.seen := fun mem => seen (List.contains_iff_mem.mpr mem)
    obtain ⟨keeps, new, same, different, fresh⟩ := walks _ _ _ walked
    have own : parentId ∉ new := fun mem => (fresh parentId mem).1 List.mem_cons_self
    refine ⟨fun id mem => keeps (List.mem_cons_of_mem _ mem), new ++ [parentId], ?_, ?_, ?_⟩
    · simp [same]
    · rw [List.nodup_append]
      refine ⟨different, List.nodup_singleton _, ?_⟩
      rintro id mem _ here rfl
      rw [List.mem_singleton] at here
      exact own (here ▸ mem)
    · intro id mem
      rcases List.mem_append.mp mem with old | here
      · exact ⟨fun seen => (fresh id old).1 (List.mem_cons_of_mem _ seen), (fresh id old).2⟩
      · rw [List.mem_singleton] at here
        subst here
        exact ⟨unseen, keeps List.mem_cons_self⟩

theorem foldlM_gathers {visit : AncestorWalk → TypeId → Except Thrown AncestorWalk}
    (visits : ∀ w id w', visit w id = .ok w' → Gathers w w') {ids : List TypeId}
    {w w' : AncestorWalk} (done : ids.foldlM visit w = .ok w') : Gathers w w' := by
  induction ids generalizing w with
  | nil =>
    cases done
    exact .refl _
  | cons id ids ih =>
    rw [List.foldlM_cons, Fallible.bind_eq_ok] at done
    obtain ⟨between, first, rest⟩ := done
    exact (visits _ id between first).trans (ih rest)

theorem walkAncestors_gathers {stack : ℕ} {w w' : AncestorWalk} {interfaceId : TypeId}
    (walked : walkAncestors nodes info stack w interfaceId = .ok w') : Gathers w w' := by
  induction stack generalizing w w' interfaceId with
  | zero => cases walked
  | succ stack ih =>
    unfold walkAncestors at walked
    split_ifs at walked
    split at walked
    next => cases walked
    next node _ =>
      obtain ⟨between, visited, done⟩ := Fallible.bind_eq_ok.mp walked
      cases done
      have gathers : Gathers { w with visiting := interfaceId :: w.visiting } between :=
        foldlM_gathers (fun _ _ _ visited =>
          visitParent_gathers (fun _ _ _ walked => ih walked) visited) visited
      exact ⟨gathers.keeps, gathers.adds⟩

/-- The interfaces whose methods are accepted are different. -/
theorem collectAncestorInterfaceIds_nodup {stack : ℕ} {ancestors : List TypeId}
    (collected : collectAncestorInterfaceIds nodes info stack = .ok ancestors) :
    (info.id :: ancestors).Nodup := by
  obtain ⟨w, walked, rfl⟩ := Fallible.map_eq_ok.mp collected
  obtain ⟨-, new, same, different, fresh⟩ := walkAncestors_gathers walked
  rw [List.nil_append] at same
  rw [same, List.nodup_cons]
  exact ⟨fun mem => (fresh _ mem).1 List.mem_cons_self, different⟩

/-- The parent is a superclass of the interface. -/
def Superclass (nodes : NodeMap) (interfaceId parentId : TypeId) : Prop :=
  ∃ node, interfaceNodeOf nodes interfaceId = some node ∧ parentId ∈ node.superclasses

/-- The interface or one of its ancestors. -/
abbrev Ancestor (nodes : NodeMap) : TypeId → TypeId → Prop :=
  Relation.ReflTransGen (Superclass nodes)

/-- A walk sees what it adds, all of the kind, and the superclasses of these. -/
def Explores (nodes : NodeMap) (P : TypeId → Prop) (w w' : AncestorWalk) : Prop :=
  ∃ new, w'.ancestors = w.ancestors ++ new ∧ (∀ id, id ∈ w'.seen ↔ id ∈ w.seen ∨ id ∈ new) ∧
    (∀ id ∈ new, P id) ∧ ∀ id ∈ new, ∀ parentId, Superclass nodes id parentId → parentId ∈ w'.seen

theorem Explores.refl (P : TypeId → Prop) (w : AncestorWalk) : Explores nodes P w w := ⟨[], by simp⟩

theorem Explores.keeps {P : TypeId → Prop} {w w' : AncestorWalk}
    (explores : Explores nodes P w w') :
    w.seen ⊆ w'.seen := by
  obtain ⟨new, -, seen, -, -⟩ := explores
  exact fun id mem => (seen id).mpr (.inl mem)

theorem Explores.trans {P : TypeId → Prop} {w w' w'' : AncestorWalk} (first : Explores nodes P w w')
    (second : Explores nodes P w' w'') : Explores nodes P w w'' := by
  have later := second.keeps
  obtain ⟨new, same, seen, kind, closed⟩ := first
  obtain ⟨new', same', seen', kind', closed'⟩ := second
  refine ⟨new ++ new', by rw [same', same, List.append_assoc], fun id => ?_, fun id mem =>
    ?_, fun id mem => ?_⟩
  · rw [seen', seen, List.mem_append, or_assoc]
  · exact (List.mem_append.mp mem).elim (kind id) (kind' id)
  · intro parentId superclass
    rcases List.mem_append.mp mem with old | new
    · exact later (closed id old parentId superclass)
    · exact closed' id new parentId superclass

/-- A walk from the interface also sees the superclasses of the interface. -/
def WalksFrom (nodes : NodeMap) (walk : AncestorWalk → TypeId → Except Thrown AncestorWalk) :
    Prop :=
  ∀ w interfaceId w', walk w interfaceId = .ok w' →
    Explores nodes (Ancestor nodes interfaceId) w w' ∧
    ∀ parentId, Superclass nodes interfaceId parentId → parentId ∈ w'.seen

theorem visitParent_explores {walk : AncestorWalk → TypeId → Except Thrown AncestorWalk}
    (walks : WalksFrom nodes walk) {w w' : AncestorWalk} {parentId : TypeId}
    (visited : visitParent walk w parentId = .ok w') :
    Explores nodes (Ancestor nodes parentId) w w' ∧ parentId ∈ w'.seen := by
  unfold visitParent at visited
  split_ifs at visited with seen
  · cases visited
    exact ⟨.refl _ w, List.contains_iff_mem.mp seen⟩
  · obtain ⟨between, walked, done⟩ := Fallible.bind_eq_ok.mp visited
    cases done
    obtain ⟨⟨new, same, seen, kind, closed⟩, own⟩ := walks _ _ _ walked
    have here : parentId ∈ between.seen := (seen parentId).mpr (.inl List.mem_cons_self)
    refine ⟨⟨new ++ [parentId], by simp [same], fun id => ?_, fun id mem => ?_, fun id mem => ?_⟩,
      here⟩
    · simp only [seen, List.mem_cons, List.mem_append, List.not_mem_nil, or_false]
      tauto
    · rcases List.mem_append.mp mem with old | last
      · exact kind id old
      · rw [List.mem_singleton.mp last]
    · rcases List.mem_append.mp mem with old | last
      · exact closed id old
      · rw [List.mem_singleton.mp last]
        exact own

theorem foldlM_explores {walk : AncestorWalk → TypeId → Except Thrown AncestorWalk}
    (walks : WalksFrom nodes walk) {P : TypeId → Prop} {ids : List TypeId}
    (below : ∀ parentId ∈ ids, ∀ id, Ancestor nodes parentId id → P id) {w w' : AncestorWalk}
    (done : ids.foldlM (visitParent walk) w = .ok w') :
    Explores nodes P w w' ∧ ids ⊆ w'.seen := by
  induction ids generalizing w with
  | nil =>
    cases done
    exact ⟨.refl _ _, List.nil_subset _⟩
  | cons parentId ids ih =>
    rw [List.foldlM_cons, Fallible.bind_eq_ok] at done
    obtain ⟨between, first, rest⟩ := done
    obtain ⟨⟨new, same, seen, kind, closed⟩, here⟩ := visitParent_explores walks first
    obtain ⟨later, all⟩ := ih (fun parentId mem => below parentId (List.mem_cons_of_mem _ mem)) rest
    have explores : Explores nodes P w between :=
      ⟨new, same, seen, fun id mem => below parentId List.mem_cons_self id (kind id mem), closed⟩
    exact ⟨explores.trans later, List.cons_subset.mpr ⟨later.keeps here, all⟩⟩

theorem walkAncestors_explores (stack : ℕ) : WalksFrom nodes (walkAncestors nodes info stack) := by
  induction stack with
  | zero =>
    intro w interfaceId w' walked
    cases walked
  | succ stack ih =>
    intro w interfaceId w' walked
    unfold walkAncestors at walked
    split_ifs at walked
    split at walked
    next => cases walked
    next node found =>
      obtain ⟨between, visited, done⟩ := Fallible.bind_eq_ok.mp walked
      cases done
      have below : ∀ parentId ∈ node.superclasses, ∀ id, Ancestor nodes parentId id →
          Ancestor nodes interfaceId id :=
        fun parentId mem id reached => .head ⟨node, found, mem⟩ reached
      obtain ⟨explores, all⟩ := foldlM_explores ih below visited
      refine ⟨explores, fun parentId => ?_⟩
      rintro ⟨node', found', mem⟩
      obtain rfl : node = node' := by simpa [found] using found'
      exact all mem

/-- Exactly the methods of the interface and of its ancestors are accepted. -/
theorem mem_accepted_iff {stack : ℕ} {ancestors : List TypeId}
    (collected : collectAncestorInterfaceIds nodes info stack = .ok ancestors)
    {interfaceId : TypeId} :
    interfaceId ∈ info.id :: ancestors ↔ Ancestor nodes info.id interfaceId := by
  obtain ⟨w, walked, rfl⟩ := Fallible.map_eq_ok.mp collected
  obtain ⟨⟨new, same, seen, kind, closed⟩, own⟩ := walkAncestors_explores stack _ _ _ walked
  rw [List.nil_append] at same
  subst same
  have all : ∀ id, id ∈ w.seen ↔ id ∈ info.id :: w.ancestors := by simpa using seen
  constructor
  · intro mem
    rcases List.mem_cons.mp mem with rfl | later
    · exact .refl
    · exact kind interfaceId later
  · intro reached
    induction reached with
    | refl => exact List.mem_cons_self
    | tail _ superclass ih =>
      rw [← all]
      rcases List.mem_cons.mp ih with rfl | later
      · exact own _ superclass
      · exact closed _ later _ superclass

end Ancestors

/-! ## Resolved methods -/

section Methods

variable {localeCompare : String → String → ℤ} {nodes : NodeMap} {info : InterfaceInfo}
  {structs : List StructInfo} {interfaceId : TypeId} {methods methods' : List ResolvedMethodInfo}

/-- The names of the methods are different, and each is the name of a property. -/
structure NamedMethods (methods : List ResolvedMethodInfo) : Prop where
  different : (methods.map ResolvedMethodInfo.methodName).Nodup
  plain : ∀ entry ∈ methods, entry.methodName ≠ "__proto__"

/-- Methods of one interface are added, in this order. -/
structure Adds (interfaceId : TypeId) (added : List InterfaceMethodModel)
    (methods methods' : List ResolvedMethodInfo) :
    Prop where
  named : NamedMethods methods → NamedMethods methods'
  block : ∃ new, methods' = methods ++ new ∧ new.map ResolvedMethodInfo.method = added ∧
    ∀ entry ∈ new, entry.sourceInterfaceId = interfaceId

theorem addMethod_adds {method : InterfaceMethodModel}
    (done : addMethod info structs interfaceId methods method = .ok methods') :
    Adds interfaceId [method] methods methods' := by
  have fresh := uniqueName_not_mem (methods.map ResolvedMethodInfo.methodName)
    (toCamelCase method.name)
  have plain := uniqueName_ne_proto (methods.map ResolvedMethodInfo.methodName) method.name
  obtain ⟨entry, rfl, here, source, name⟩ : ∃ entry, methods' = methods ++ [entry] ∧
      entry.method = method ∧
      entry.sourceInterfaceId = interfaceId ∧
      entry.methodName = uniqueName (methods.map ResolvedMethodInfo.methodName)
      (toCamelCase method.name) := by
    unfold addMethod at done
    dsimp only at done
    split at done
    · cases done
    · split_ifs at done
      · cases done
        exact ⟨_, rfl, rfl, rfl, rfl⟩
      · split at done
        · cases done
        · cases done
          exact ⟨_, rfl, rfl, rfl, rfl⟩
  refine ⟨fun named => ⟨?_, ?_⟩, [entry], rfl, by simp [here], by simp [source]⟩
  · rw [List.map_append, List.nodup_append]
    refine ⟨named.different, by simp, ?_⟩
    rintro other old _ new rfl
    rw [List.map_singleton, List.mem_singleton, name] at new
    exact fresh (new ▸ old)
  · intro other mem
    rcases List.mem_append.mp mem with old | new
    · exact named.plain other old
    · rw [List.mem_singleton] at new
      rw [new, name]
      exact plain

theorem addMethods_adds {added : List InterfaceMethodModel}
    (done : added.foldlM (addMethod info structs interfaceId) methods = .ok methods') :
    Adds interfaceId added methods methods' := by
  induction added generalizing methods with
  | nil =>
    cases done
    exact ⟨id, [], by simp⟩
  | cons method added ih =>
    rw [List.foldlM_cons, Fallible.bind_eq_ok] at done
    obtain ⟨between, first, rest⟩ := done
    obtain ⟨named, new, rfl, here, sources⟩ := addMethod_adds first
    obtain ⟨named', new', rfl, here', sources'⟩ := ih rest
    refine ⟨named' ∘ named, new ++ new', by rw [List.append_assoc], by simp [here, here'], ?_⟩
    intro entry mem
    rcases List.mem_append.mp mem with first | later
    · exact sources entry first
    · exact sources' entry later

/-- The methods of the interface or of an ancestor, in the order of its node. -/
def nodeMethods (nodes : NodeMap) (info : InterfaceInfo) (interfaceId : TypeId) :
    List InterfaceMethodModel :=
  if interfaceId = info.id then info.node.methods
  else
    match interfaceNodeOf nodes interfaceId with
    | some node => node.methods
    | none => []

/-- The methods that were added from an interface. -/
def fromInterface (methods : List ResolvedMethodInfo) (interfaceId : TypeId) :
    List ResolvedMethodInfo :=
  methods.filter (·.sourceInterfaceId = interfaceId)

/-- The methods of these interfaces were added. -/
structure Collected (localeCompare : String → String → ℤ) (nodes : NodeMap) (info : InterfaceInfo)
    (interfaceIds : List TypeId) (methods : List ResolvedMethodInfo) : Prop where
  named : NamedMethods methods
  sources : ∀ entry ∈ methods, entry.sourceInterfaceId ∈ interfaceIds
  blocks : ∀ interfaceId ∈ interfaceIds,
    (fromInterface methods interfaceId).map ResolvedMethodInfo.method =
    sortBy (compareMethods localeCompare) (nodeMethods nodes info interfaceId)

theorem Collected.add {interfaceIds : List TypeId}
    (collected : Collected localeCompare nodes info interfaceIds methods)
    (fresh : interfaceId ∉ interfaceIds)
    (adds : Adds interfaceId (sortBy (compareMethods localeCompare)
      (nodeMethods nodes info interfaceId)) methods methods') :
    Collected localeCompare nodes info (interfaceIds ++ [interfaceId]) methods' := by
  obtain ⟨named, new, rfl, here, source⟩ := adds
  refine ⟨named collected.named, fun entry mem => ?_, fun other mem => ?_⟩
  · rcases List.mem_append.mp mem with old | new
    · exact List.mem_append_left _ (collected.sources entry old)
    · rw [source entry new]
      simp
  · rw [fromInterface, List.filter_append, List.map_append]
    rcases List.mem_append.mp mem with old | new'
    · have apart : new.filter (·.sourceInterfaceId = other) = [] := by
        rw [List.filter_eq_nil_iff]
        intro entry inside
        have different : interfaceId ≠ other := fun same => fresh (same ▸ old)
        simpa [source entry inside] using different
      rw [apart, List.map_nil, List.append_nil]
      exact collected.blocks other old
    · obtain rfl : other = interfaceId := by simpa using new'
      have before : methods.filter (·.sourceInterfaceId = other) = [] := by
        rw [List.filter_eq_nil_iff]
        intro entry inside
        have different : entry.sourceInterfaceId ≠ other :=
          fun same => fresh (same ▸ collected.sources entry inside)
        simpa using different
      have all : new.filter (·.sourceInterfaceId = other) = new := by
        rw [List.filter_eq_self]
        intro entry inside
        simpa using source entry inside
      rw [before, all, List.map_nil, List.nil_append]
      exact here

theorem addInterfaces_collected {interfaceIds ancestors : List TypeId}
    (collected : Collected localeCompare nodes info interfaceIds methods)
    (own : info.id ∈ interfaceIds) (different : (interfaceIds ++ ancestors).Nodup)
    (done : ancestors.foldlM (addInterface localeCompare nodes info structs) methods =
      .ok methods') :
    Collected localeCompare nodes info (interfaceIds ++ ancestors) methods' := by
  induction ancestors generalizing methods interfaceIds with
  | nil =>
    cases done
    rwa [List.append_nil]
  | cons ancestor ancestors ih =>
    rw [List.foldlM_cons, Fallible.bind_eq_ok] at done
    obtain ⟨between, first, rest⟩ := done
    have fresh : ancestor ∉ interfaceIds := by
      intro mem
      exact (List.nodup_append.mp different).2.2 ancestor mem ancestor List.mem_cons_self rfl
    have other : ancestor ≠ info.id := fun same => fresh (same ▸ own)
    unfold addInterface at first
    split at first
    next => cases first
    next node found =>
      have adds := addMethods_adds first
      have methodsOf : nodeMethods nodes info ancestor = node.methods := by
        simp [nodeMethods, other, found]
      rw [sortedInterfaceMethods, ← methodsOf] at adds
      have next := ih (collected.add fresh adds) (by simp [own]) (by simpa using different) rest
      simpa using next

theorem resolveInterfaceInfo_collected {stack : ℕ} {resolved : ResolvedInterfaceInfo}
    (done : resolveInterfaceInfo localeCompare nodes info structs stack = .ok resolved) :
    resolved.info = info ∧ (∃ ancestors, resolved.acceptedInterfaceIds = info.id :: ancestors) ∧
      (∀ interfaceId, interfaceId ∈ resolved.acceptedInterfaceIds ↔
        Ancestor nodes info.id interfaceId) ∧
      Collected localeCompare nodes info resolved.acceptedInterfaceIds resolved.methods := by
  obtain ⟨ancestors, walked, done⟩ := Fallible.bind_eq_ok.mp done
  obtain ⟨own, first, done⟩ := Fallible.bind_eq_ok.mp done
  obtain ⟨methods, rest, done⟩ := Fallible.bind_eq_ok.mp done
  cases done
  have adds := addMethods_adds first
  have ownMethods : nodeMethods nodes info info.id = info.node.methods := by simp [nodeMethods]
  rw [sortedInterfaceMethods, ← ownMethods] at adds
  have start : Collected localeCompare nodes info [] [] := ⟨⟨by simp, by simp⟩, by simp, by simp⟩
  have collected := start.add (by simp) adds
  have all :=
    addInterfaces_collected collected (by simp) (collectAncestorInterfaceIds_nodup walked) rest
  exact ⟨rfl, ⟨ancestors, rfl⟩, fun interfaceId => mem_accepted_iff walked, all⟩

/-! ## Calls and dispatch -/

/-- The client calls a method by its position in the node of its interface, and the server runs it
there. -/
def MethodOrdinals (nodes : NodeMap) (resolved : ResolvedInterfaceInfo) : Prop :=
  ∀ interfaceId ∈ resolved.acceptedInterfaceIds, ∀ entry ∈
    fromInterface resolved.methods interfaceId, ∀ i : ℕ,
    (nodeMethods nodes resolved.info interfaceId)[i]? = some entry.method →
      resolved.clientCalls.lookup entry.methodName = some (interfaceId, some i) ∧
        resolved.dispatch (some interfaceId) i = .ok entry.methodName

/-- The methods of the interface and of its ancestors were declared in the order of their
ordinals. -/
def InMethodOrder (nodes : NodeMap) (info : InterfaceInfo) : Prop :=
  ∀ interfaceId, Ancestor nodes info.id interfaceId → ∀ (i : ℕ) (method : InterfaceMethodModel),
    (nodeMethods nodes info interfaceId)[i]? = some method → method.codeOrder = i

theorem clientCalls_lookup {resolved : ResolvedInterfaceInfo}
    (named : NamedMethods resolved.methods) {entry : ResolvedMethodInfo}
    (mem : entry ∈ resolved.methods) :
    resolved.clientCalls.lookup entry.methodName =
      some (entry.sourceInterfaceId, some entry.method.codeOrder) := by
  have plain := named.plain entry mem
  have ordinal : resolved.methodOrdinals.lookup entry.methodName = some entry.method.codeOrder := by
    have item : (entry.methodName, entry.method.codeOrder) ∈
        resolved.methods.map fun method => (method.methodName, method.method.codeOrder) :=
      List.mem_map.mpr ⟨entry, mem, rfl⟩
    apply objectLiteral_of_mem _ item plain
    rw [List.map_map]
    exact named.different
  have call :
      (entry.methodName, entry.sourceInterfaceId, resolved.methodOrdinals.lookup entry.methodName) ∈
      resolved.methods.map fun method =>
        (method.methodName, method.sourceInterfaceId,
          resolved.methodOrdinals.lookup method.methodName) :=
    List.mem_map.mpr ⟨entry, mem, rfl⟩
  rw [ordinal] at call
  apply objectLiteral_of_mem _ call plain
  rw [List.map_map]
  exact named.different

theorem mem_fromInterface {entry : ResolvedMethodInfo} {methods : List ResolvedMethodInfo}
    {interfaceId : TypeId} :
    entry ∈ fromInterface methods interfaceId ↔ entry ∈ methods ∧ entry.sourceInterfaceId =
      interfaceId := by
  simp [fromInterface]

/-- Methods whose numbers are their positions have different numbers. -/
theorem codeOrders_nodup {methods : List InterfaceMethodModel}
    (order : ∀ (i : ℕ) (method : InterfaceMethodModel), methods[i]? = some method →
      method.codeOrder = i) :
    (methods.map InterfaceMethodModel.codeOrder).Nodup := by
  have positions : methods.map InterfaceMethodModel.codeOrder = List.range methods.length := by
    apply List.ext_getElem (by simp)
    intro i inside _
    rw [List.length_map] at inside
    simpa using order i methods[i] (List.getElem?_eq_getElem inside)
  rw [positions]
  exact List.nodup_range

theorem methodSwitch_of_mem {methods : List ResolvedMethodInfo}
    (different : (methods.map fun method => method.method.codeOrder).Nodup)
    {entry : ResolvedMethodInfo} (mem : entry ∈ methods) :
    ResolvedInterfaceInfo.methodSwitch methods entry.method.codeOrder = .ok entry.methodName := by
  have found : methods.find? (·.method.codeOrder = entry.method.codeOrder) = some entry :=
    find?_of_nodup different mem
  simp [ResolvedInterfaceInfo.methodSwitch, found, pure, Except.pure]

theorem dispatch_of_mem {resolved : ResolvedInterfaceInfo} {ancestors : List TypeId}
    {interfaceId : TypeId} (all : resolved.acceptedInterfaceIds = resolved.info.id :: ancestors)
    (accepts : interfaceId ∈ resolved.acceptedInterfaceIds) (methodId : ℕ) :
    resolved.dispatch (some interfaceId) methodId =
      ResolvedInterfaceInfo.methodSwitch (fromInterface resolved.methods interfaceId) methodId := by
  by_cases several : resolved.acceptedInterfaceIds.length > 1
  · simp [ResolvedInterfaceInfo.dispatch, several, accepts, fromInterface]
  · have own : interfaceId = resolved.info.id := by
      rw [all] at several accepts
      cases ancestors with
      | nil => simpa using accepts
      | cons ancestor ancestors => simp at several
    simp [ResolvedInterfaceInfo.dispatch, several, own, fromInterface]

theorem methodOrdinals_iff {stack : ℕ} {resolved : ResolvedInterfaceInfo}
    (done : resolveInterfaceInfo localeCompare nodes info structs stack = .ok resolved) :
    MethodOrdinals nodes resolved ↔ InMethodOrder nodes info := by
  obtain ⟨same, ⟨ancestors, all⟩, accepted, collected⟩ := resolveInterfaceInfo_collected done
  subst same
  constructor
  · intro ordinals interfaceId reached i method there
    have accepts := (accepted interfaceId).mpr reached
    have sorted : method ∈ (fromInterface resolved.methods interfaceId).map
        ResolvedMethodInfo.method := by
      rw [collected.blocks interfaceId accepts]
      exact (perm_sortBy _ _).mem_iff.mpr (List.mem_of_getElem? there)
    obtain ⟨entry, mem, rfl⟩ := List.mem_map.mp sorted
    have called := (ordinals interfaceId accepts entry mem i there).1
    rw [clientCalls_lookup collected.named (mem_fromInterface.mp mem).1] at called
    simp only [Option.some.injEq, Prod.mk.injEq] at called
    exact called.2
  · intro order interfaceId accepts entry mem i there
    have declared := order interfaceId ((accepted interfaceId).mp accepts)
    have number := declared i entry.method there
    obtain ⟨inside, source⟩ := mem_fromInterface.mp mem
    constructor
    · rw [clientCalls_lookup collected.named inside, source, number]
    · have different : ((fromInterface resolved.methods interfaceId).map fun entry =>
          entry.method.codeOrder).Nodup := by
        have block := congrArg (List.map InterfaceMethodModel.codeOrder)
          (collected.blocks interfaceId accepts)
        rw [List.map_map] at block
        have sorted := ((perm_sortBy (compareMethods localeCompare)
          (nodeMethods nodes resolved.info interfaceId)).map
            InterfaceMethodModel.codeOrder).nodup_iff
        have positions := sorted.mpr (codeOrders_nodup declared)
        rw [← block] at positions
        exact positions
      rw [dispatch_of_mem all accepts, ← number]
      exact methodSwitch_of_mem different mem

end Methods

/-! ## The emitted code -/

section Emitted

variable {localeCompare : String → String → ℤ} {fileNode : NodeModel} {nodes : NodeMap}
  {node : NodeModel}

@[simp] theorem assignTypeNames_length (nodes : List NodeModel) :
    (assignTypeNames nodes).length = nodes.length := by
  have along : ∀ used : List String, (nodes.foldl (fun used node =>
      used ++ [uniqueName used (toPascalCase (simpleNodeName node))]) used).length =
        used.length + nodes.length := by
    induction nodes with
    | nil => simp
    | cons node nodes ih =>
      intro used
      rw [List.foldl_cons, ih]
      simp only [List.length_append, List.length_cons, List.length_nil]
      omega
  simpa [assignTypeNames] using along []

/-- Each item gets a name. -/
theorem exists_mem_zip {α β : Type} {items : List α} {names : List β}
    (enough : items.length ≤ names.length) {a : α} (mem : a ∈ items) :
    ∃ b, (a, b) ∈ items.zip names := by
  obtain ⟨i, low, here⟩ := List.mem_iff_getElem.mp mem
  have inside : i < (items.zip names).length := by
    rw [List.length_zip]
    omega
  refine ⟨names[i], List.mem_iff_getElem.mpr ⟨i, inside, ?_⟩⟩
  rw [List.getElem_zip, here]

/-- An enum of the file is emitted, with its own values. -/
theorem exists_enumInfo (crossIds : List TypeId) {content : EnumNodeModel}
    (mem : (node, content) ∈ localNodes localeCompare fileNode nodes .enum NodeModel.enumNode) :
    ∃ info ∈ (collectLocalTypes localeCompare fileNode nodes crossIds).1,
      info.id = node.id ∧ info.node = content ∧ info.values = enumValues content := by
  let localEnums := localNodes localeCompare fileNode nodes .enum NodeModel.enumNode
  let localStructs := localNodes localeCompare fileNode nodes .struct NodeModel.structNode
  have enough : localEnums.length ≤
      (assignTypeNames (localEnums.map Prod.fst ++ localStructs.map Prod.fst)).length := by
    simp
  obtain ⟨name, zipped⟩ := exists_mem_zip enough mem
  exact ⟨_, List.mem_map_of_mem zipped, rfl, rfl, rfl⟩

theorem exists_interfaceInfo {content : InterfaceNodeModel}
    (mem : (node, content) ∈ localNodes localeCompare fileNode nodes .interface
      NodeModel.interfaceNode) :
    ∃ info ∈ collectLocalInterfaces localeCompare fileNode nodes, info.id = node.id ∧
    info.node = content := by
  let localInterfaces := localNodes localeCompare fileNode nodes .interface NodeModel.interfaceNode
  have enough : localInterfaces.length ≤
      (assignTypeNames (localInterfaces.map Prod.fst)).length := by simp
  obtain ⟨name, zipped⟩ := exists_mem_zip enough mem
  exact ⟨_, List.mem_map_of_mem zipped, rfl, rfl⟩

/-- The numbers that are emitted for the enums and the interfaces of a file are the positions in
their nodes exactly where these were declared in that order. -/
theorem wire_ordinals (localeCompare : String → String → ℤ) (request : CodeGeneratorRequestModel)
    (fileNode : NodeModel) :
    (∀ (crossIds : List TypeId) (node : NodeModel) (content : EnumNodeModel),
      (node, content) ∈ localNodes localeCompare fileNode (nodeById request) .enum
        NodeModel.enumNode →
      ∃ info ∈ (collectLocalTypes localeCompare fileNode (nodeById request) crossIds).1,
        info.id = node.id ∧ info.node = content ∧
          (EnumOrdinals info ↔ InOrdinalOrder content.enumerants)) ∧
    ∀ (stack : ℕ) (resolveds : List ResolvedInterfaceInfo),
      resolveRpcInterfaces localeCompare (nodeById request) fileNode stack = .ok resolveds →
      ∀ (node : NodeModel) (content : InterfaceNodeModel),
        (node, content) ∈ localNodes localeCompare fileNode (nodeById request) .interface
          NodeModel.interfaceNode →
        ∃ resolved ∈ resolveds, resolved.info.id = node.id ∧ resolved.info.node = content ∧
          (MethodOrdinals (nodeById request) resolved ↔
            InMethodOrder (nodeById request) resolved.info) := by
  constructor
  · intro crossIds node content mem
    obtain ⟨info, inside, same, rfl, values⟩ := exists_enumInfo crossIds mem
    exact ⟨info, inside, same, rfl, enumOrdinals_iff values⟩
  · intro stack resolveds done node content mem
    obtain ⟨info, inside, same, rfl⟩ := exists_interfaceInfo mem
    obtain ⟨resolved, there, own⟩ := Fallible.mem_of_mapM done inside
    have resolvedInfo := (resolveInterfaceInfo_collected own).1
    exact ⟨resolved, there, by rw [resolvedInfo, same], by
      rw [resolvedInfo], resolvedInfo ▸ methodOrdinals_iff own⟩

end Emitted

/-! ## An enum and an interface in another order -/

/-- A file with an enum and an interface, whose items were declared from the last to the first. -/
def reversedRequest : CodeGeneratorRequestModel :=
  let params : StructNodeModel := ⟨0, 0, 0, 0, []⟩
  { nodes :=
      [⟨1, "a.capnp", 0, [2, 3], .file, none, none, none⟩,
        ⟨2, "a.capnp:Color", 8, [], .enum, none,
          some (parseEnumNode (some [⟨some "red", 1⟩, ⟨some "green", 0⟩])), none⟩,
        ⟨3, "a.capnp:Lamp", 8, [], .interface, none, none,
          some ⟨parseMethods (some [(⟨some "on", 1⟩, 4, 4), (⟨some "off", 0⟩, 4, 4)]), []⟩⟩,
        ⟨4, "a.capnp:Lamp.on$Params", 13, [], .struct, some params, none, none⟩]
    requestedFiles := [⟨1, "a.capnp"⟩] }

/-- The file of the request. -/
def reversedFile : NodeModel := ⟨1, "a.capnp", 0, [2, 3], .file, none, none, none⟩

theorem reversed_enums :
    (collectLocalTypes (fun _ _ => 0) reversedFile (nodeById reversedRequest) []).1.map
        (fun info => (info.values, info.node.enumerants)) =
      [(["green", "red"], [⟨"red", 1⟩, ⟨"green", 0⟩])] := by decide

theorem reversed_interfaces :
    (resolveRpcInterfaces (fun _ _ => 0) (nodeById reversedRequest) reversedFile 100).toOption.map
        (fun resolveds => resolveds.map fun resolved => decide (
          resolved.clientCalls = [("off", 3, some 0), ("on", 3, some 1)] ∧
          resolved.acceptedInterfaceIds = [3] ∧
          (resolved.methods.map fun entry =>
            (entry.methodName, entry.sourceInterfaceId, entry.method)) =
            [("off", 3, ⟨"off", 0, 4, 4⟩), ("on", 3, ⟨"on", 1, 4, 4⟩)] ∧
          resolved.info.id = 3 ∧ resolved.info.node.methods =
            [⟨"on", 1, 4, 4⟩, ⟨"off", 0, 4, 4⟩])) =
      some [true] := by
  decide

/-- `green` has the number of `red`, and `on` that of `off`. -/
theorem reversed_ordinals :
    (∃ info ∈ (collectLocalTypes (fun _ _ => 0) reversedFile (nodeById reversedRequest) []).1,
      info.node.enumerants = [⟨"red", 1⟩, ⟨"green", 0⟩] ∧ (emitEnum info : TypeDescriptor TypeId) =
        .enum ["green", "red"] [("green", 0), ("red", 1)] ∧ ¬ EnumOrdinals info) ∧
      ∃ resolveds, resolveRpcInterfaces (fun _ _ => 0) (nodeById reversedRequest) reversedFile 100 =
        .ok resolveds ∧
        ∃ resolved ∈ resolveds, resolved.clientCalls = [("off", 3, some 0), ("on", 3, some 1)] ∧
          ¬ MethodOrdinals (nodeById reversedRequest) resolved := by
  constructor
  · obtain ⟨info, all, shown⟩ := List.map_eq_singleton_iff.mp reversed_enums
    simp only [Prod.mk.injEq] at shown
    obtain ⟨values, items⟩ := shown
    have emitted : (emitEnum info : TypeDescriptor TypeId) = .enum ["green", "red"]
        [("green", 0), ("red", 1)] := by
      rw [emitEnum, values]
      rfl
    refine ⟨info, by simp [all], items, emitted, fun ordinals => ?_⟩
    have places := ordinals.1
    rw [emitted] at places
    have first := places.1 0
    simp [items] at first
  · obtain ⟨resolveds, done, shown⟩ := Option.map_eq_some_iff.mp reversed_interfaces
    obtain ⟨resolved, rfl, facts⟩ := List.map_eq_singleton_iff.mp shown
    obtain ⟨calls, accepted, methods, own, items⟩ := of_decide_eq_true facts
    have ok : resolveRpcInterfaces (fun _ _ => 0) (nodeById reversedRequest) reversedFile 100 =
        .ok [resolved] := by
      cases result : resolveRpcInterfaces (fun _ _ => 0)
        (nodeById reversedRequest) reversedFile 100 with
      | ok resolveds =>
        rw [result] at done
        cases done
        rfl
      | error thrown =>
        rw [result] at done
        cases done
    refine ⟨[resolved], ok, resolved, by simp, calls, fun ordinals => ?_⟩
    have on : ("on", 3, (⟨"on", 1, 4, 4⟩ : InterfaceMethodModel)) ∈
        resolved.methods.map fun entry =>
        (entry.methodName, entry.sourceInterfaceId, entry.method) := by
      simp [methods]
    obtain ⟨entry, mem, same⟩ := List.mem_map.mp on
    simp only [Prod.mk.injEq] at same
    obtain ⟨name, source, method⟩ := same
    have there : (nodeMethods (nodeById reversedRequest) resolved.info 3)[0]? =
        some entry.method := by
      simp [nodeMethods, own, items, method]
    have called :=
      (ordinals 3 (by simp [accepted]) entry (mem_fromInterface.mpr ⟨mem, source⟩) 0 there).1
    rw [calls, name] at called
    simp [List.lookup_cons] at called

end CapnpDeno
