import Mathlib.Data.List.Sort
import CapnpDeno.Capnpc.Model

/-!
# Helpers of the emitters

The names and the tables that the emitters share: which types a module has, under which names, and
which module has the type with an id.  How two names compare is a matter of the locale, and a
parameter here.
-/

namespace CapnpDeno

/-! ## Arrays, maps and objects -/

section Language

variable {α κ ν : Type} [DecidableEq κ]

/-- `Array.prototype.sort`, which keeps the order of items that compare equal. -/
def sortBy (compare : α → α → ℤ) (items : List α) : List α :=
  items.insertionSort fun a b => compare a b ≤ 0

/-- `map.set(key, value)`. -/
def mapSet : List (κ × ν) → κ → ν → List (κ × ν)
  | [], key, value => [(key, value)]
  | entry :: entries, key, value =>
    if entry.1 = key then (key, value) :: entries else entry :: mapSet entries key value

/-- The own properties of an object literal; the key `__proto__` gives the prototype. -/
def objectLiteral (entries : List (String × ν)) : List (String × ν) :=
  entries.foldl (fun object entry => if entry.1 = "__proto__" then object
    else mapSet object entry.1 entry.2) []

variable {entries object : List (String × ν)} {key name : String} {value : ν}

theorem perm_sortBy (compare : α → α → ℤ) (items : List α) : (sortBy compare items).Perm items :=
  List.perm_insertionSort _ items

theorem sortBy_eq {compare : α → α → ℤ} {items : List α}
    (sorted : items.Pairwise fun a b => compare a b ≤ 0) :
    sortBy compare items = items := sorted.insertionSort_eq

theorem lookup_pair (key other : κ) (value : ν) (entries : List (κ × ν)) :
    List.lookup other ((key, value) :: entries) = if other = key then some value
      else entries.lookup other := by
  by_cases same : other = key
  · simp [same]
  · simp [List.lookup_cons, same, beq_false_of_ne same]

theorem lookup_mapSet (entries : List (κ × ν)) (key other : κ) (value : ν) :
    (mapSet entries key value).lookup other = if other = key then some value
      else entries.lookup other := by
  induction entries with
  | nil => exact lookup_pair key other value []
  | cons entry entries ih =>
    obtain ⟨first, old⟩ := entry
    by_cases here : first = key
    · subst here
      by_cases same : other = first <;> simp [mapSet, lookup_pair, same]
    · by_cases same : other = first
      · simp [mapSet, here, same]
      · simp [mapSet, lookup_pair, here, same, ih]

theorem mem_of_lookup {entries : List (κ × ν)} {key : κ} {value : ν}
    (there : entries.lookup key = some value) :
    (key, value) ∈ entries := by
  induction entries with
  | nil => cases there
  | cons entry entries ih =>
    rw [lookup_pair entry.1 key entry.2 entries] at there
    split_ifs at there with same
    · cases there
      rw [same]
      exact List.mem_cons_self
    · exact List.mem_cons_of_mem _ (ih there)

theorem exists_lookup {entries : List (κ × ν)} {key : κ} (mem : key ∈ entries.map Prod.fst) :
    ∃ value, entries.lookup key = some value := by
  obtain ⟨entry, inside, rfl⟩ := List.mem_map.1 mem
  exact Option.isSome_iff_exists.1
    (List.lookup_isSome_iff.2 ⟨entry, inside, beq_self_eq_true entry.1⟩)

/-- Entries that are dropped for their keys are dropped with all entries of these keys. -/
theorem lookup_filter (keep : κ → Bool) (entries : List (κ × ν)) (key : κ) :
    (entries.filter fun entry => keep entry.1).lookup key = if keep key then entries.lookup key
      else none := by
  induction entries with
  | nil => simp
  | cons entry entries ih =>
    rw [List.filter_cons, lookup_pair entry.1 key entry.2 entries]
    by_cases kept : keep entry.1
    · rw [if_pos kept, lookup_pair entry.1 key entry.2, ih]
      by_cases same : key = entry.1
      · rw [if_pos same, if_pos same, same, if_pos kept]
      · rw [if_neg same, if_neg same]
    · rw [if_neg kept, ih]
      by_cases same : key = entry.1
      · rw [same, if_neg kept, if_neg kept]
      · rw [if_neg same]

/-- The only item with the key is the first one. -/
theorem find?_of_nodup {key : α → κ} {l : List α} (different : (l.map key).Nodup) {a : α}
    (mem : a ∈ l) :
    l.find? (fun b => key b = key a) = some a := by
  induction l with
  | nil => simp at mem
  | cons first l ih =>
    rw [List.map_cons, List.nodup_cons] at different
    rcases List.mem_cons.mp mem with rfl | later
    · simp
    · have other : key first ≠ key a := fun same => different.1 (same ▸ List.mem_map_of_mem later)
      rw [List.find?_cons_of_neg (by simpa using other)]
      exact ih different.2 later

/-- A property has its value from the literal. -/
theorem mem_of_objectLiteral (found : (objectLiteral entries).lookup key = some value) :
    (key, value) ∈ entries ∧ key ≠ "__proto__" := by
  have along : ∀ (entries : List (String × ν)) (object : List (String × ν)),
      (entries.foldl (fun object entry => if entry.1 = "__proto__" then object
        else mapSet object entry.1 entry.2) object).lookup key = some value →
      object.lookup key = some value ∨ (key, value) ∈ entries ∧ key ≠ "__proto__" := by
    intro entries
    induction entries with
    | nil => exact fun object found => .inl found
    | cons entry entries ih =>
      intro object found
      rw [List.foldl_cons] at found
      obtain old | ⟨mem, plain⟩ := ih _ found
      · split_ifs at old with proto
        · exact .inl old
        · rw [lookup_mapSet] at old
          split_ifs at old with same
          · obtain rfl : entry.2 = value := by simpa using old
            subst same
            exact .inr ⟨List.mem_cons_self, proto⟩
          · exact .inl old
      · exact .inr ⟨List.mem_cons_of_mem _ mem, plain⟩
  obtain none | there := along entries [] found
  · simp at none
  · exact there

/-- Among different keys, each has its own value. -/
theorem objectLiteral_of_mem (keys : (entries.map Prod.fst).Nodup) (mem : (key, value) ∈ entries)
    (plain : key ≠ "__proto__") : (objectLiteral entries).lookup key = some value := by
  have kept : ∀ (entries : List (String × ν)) (object : List (String × ν)), key ∉
      entries.map Prod.fst →
      (entries.foldl (fun object entry => if entry.1 = "__proto__" then object
        else mapSet object entry.1 entry.2) object).lookup key = object.lookup key := by
    intro entries
    induction entries with
    | nil => exact fun object _ => rfl
    | cons entry entries ih =>
      intro object apart
      rw [List.map_cons, List.mem_cons, not_or] at apart
      rw [List.foldl_cons, ih _ apart.2]
      split_ifs
      · rfl
      · rw [lookup_mapSet, if_neg apart.1]
  have along : ∀ (entries : List (String × ν)) (object : List (String × ν)),
      (entries.map Prod.fst).Nodup →
      (key, value) ∈ entries →
      (entries.foldl (fun object entry => if entry.1 = "__proto__" then object
        else mapSet object entry.1 entry.2) object).lookup key = some value := by
    intro entries
    induction entries with
    | nil => simp
    | cons entry entries ih =>
      intro object keys mem
      rw [List.map_cons, List.nodup_cons] at keys
      rw [List.foldl_cons]
      rcases List.mem_cons.mp mem with rfl | later
      · rw [kept entries _ keys.1, if_neg plain, lookup_mapSet, if_pos rfl]
      · exact ih _ keys.2 later
  exact along entries [] keys mem

end Language

/-! ## Names -/

/-- The runs of letters and digits. -/
def nameWords (value : String) : List (List Char) :=
  (value.toList.splitOnP fun c => !c.isAlphanum).filter (· ≠ [])

def upperFirst : List Char → List Char
  | [] => []
  | first :: rest => first.toUpper :: rest

def toPascalCase (value : String) : String :=
  match nameWords value with
  | [] => "GeneratedType"
  | words => String.ofList (words.flatMap upperFirst)

def toCamelCase (value : String) : String :=
  match (toPascalCase value).toList with
  | [] => "field"
  | first :: rest => String.ofList (first.toLower :: rest)

/-- `0x…n`. -/
def formatBigint (value : ℕ) : String := "0x" ++ String.ofList (Nat.toDigits 16 value) ++ "n"

def simpleNodeName (node : NodeModel) : String :=
  if node.displayNamePrefixLength ≥ node.displayName.length then node.displayName
  else String.ofList (node.displayName.toList.drop node.displayNamePrefixLength)

/-- The loop for a name that is taken; it ends within as many rounds as there are names. -/
def uniqueSuffix (used : List String) (base : String) : ℕ → ℕ → String
  | 0, suffix => base ++ toString suffix
  | rounds + 1, suffix =>
    if used.contains (base ++ toString suffix) then uniqueSuffix used base rounds (suffix + 1)
    else base ++ toString suffix

def uniqueName (used : List String) (base : String) : String :=
  if used.contains base then uniqueSuffix used base used.length 2 else base

/-- A name for each node, in their order. -/
def assignTypeNames (nodes : List NodeModel) : List String :=
  nodes.foldl (fun used node => used ++ [uniqueName used (toPascalCase (simpleNodeName node))]) []

/-! ## The types of a file -/

structure EnumInfo where
  id : TypeId
  typeName : String
  displayName : String
  values : List String
  node : EnumNodeModel
  exported : Bool

structure StructInfo where
  id : TypeId
  typeName : String
  displayName : String
  node : StructNodeModel
  exported : Bool

structure InterfaceInfo where
  id : TypeId
  typeName : String
  node : InterfaceNodeModel

/-- `nodeById`. -/
abbrev NodeMap := List (TypeId × NodeModel)

def nodeById (request : CodeGeneratorRequestModel) : NodeMap :=
  request.nodes.foldl (fun nodes node => mapSet nodes node.id node) []

/-- The node is in the file. -/
def isLocal (fileNode node : NodeModel) : Bool :=
  (fileNode.displayName.toList ++ [':']).isPrefixOf node.displayName.toList

/-- The nodes of the file that are of the kind, by their names, with what they have of it. -/
def localNodes {ν : Type} (localeCompare : String → String → ℤ) (fileNode : NodeModel)
    (nodes : NodeMap) (kind : NodeKind) (content : NodeModel → Option ν) : List (NodeModel × ν) :=
  sortBy (fun a b => localeCompare a.1.displayName b.1.displayName) <|
    nodes.filterMap fun entry =>
      if isLocal fileNode entry.2 && entry.2.kind = kind then (content entry.2).map (entry.2, ·)
        else none

/-- The values of an enum. -/
def enumValues (node : EnumNodeModel) : List String :=
  (sortBy (fun a b => (a.codeOrder : ℤ) - b.codeOrder) node.enumerants).map EnumerantModel.name

def collectLocalTypes (localeCompare : String → String → ℤ) (fileNode : NodeModel) (nodes : NodeMap)
    (crossFileNestedTypeIds : List TypeId) : List EnumInfo × List StructInfo :=
  let localInterfaces := localNodes localeCompare fileNode nodes .interface NodeModel.interfaceNode
  let methodStructIds := localInterfaces.flatMap fun node =>
    node.2.methods.flatMap fun method => [method.paramStructTypeId, method.resultStructTypeId]
  let exportedIds := fileNode.nestedNodes ++ methodStructIds ++ crossFileNestedTypeIds
  let localEnums := localNodes localeCompare fileNode nodes .enum NodeModel.enumNode
  let localStructs := localNodes localeCompare fileNode nodes .struct NodeModel.structNode
  let names := assignTypeNames (localEnums.map Prod.fst ++ localStructs.map Prod.fst)
  ((localEnums.zip names).map fun (node, typeName) =>
      ⟨node.1.id, typeName, node.1.displayName, enumValues node.2, node.2,
        exportedIds.contains node.1.id⟩,
    (localStructs.zip (names.drop localEnums.length)).map fun (node, typeName) =>
      ⟨node.1.id, typeName, node.1.displayName, node.2, exportedIds.contains node.1.id⟩)

def collectLocalInterfaces (localeCompare : String → String → ℤ) (fileNode : NodeModel)
    (nodes : NodeMap) :
    List InterfaceInfo :=
  let localInterfaces := localNodes localeCompare fileNode nodes .interface NodeModel.interfaceNode
  (localInterfaces.zip (assignTypeNames (localInterfaces.map Prod.fst))).map fun (node, typeName) =>
    ⟨node.1.id, typeName, node.2⟩

end CapnpDeno
