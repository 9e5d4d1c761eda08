import CapnpDeno.Encoding.RuntimeCaps
import CapnpDeno.Lib.CallStack
import CapnpDeno.Lib.Fallible

/-!
# When the capability walks settle

The walks recurse along the descriptor, also where the value has nothing: an absent struct field is
walked as the empty record.  So their call tree is well-founded exactly when the descriptors that
are entered with an empty record are.
-/

namespace CapnpDeno

variable {ι : Type} {schema : Schema ι}

/-! ## The call tree -/

/-- The recursive calls for an active field. -/
def nestedCalls (field : FieldDescriptor ι) (fieldValue : Value) (fieldPath : String) :
    List (ι × Value × String) :=
  match field with
  | .group _ get _ => [(get, .object (asRecord fieldValue), fieldPath)]
  | .slot _ _ (.struct get) _ _ => [(get, .object (asRecord fieldValue), fieldPath)]
  | .slot _ _ (.list (.struct get)) _ _ => (asArray fieldValue).zipIdx.map fun item =>
      (get, .object (asRecord item.1), itemPathOf fieldPath item.2)
  | _ => []

/-- The recursive calls of a walk that keeps a path. -/
def pathCalls (schema : Schema ι) (call : ι × Value × String) : List (ι × Value × String) :=
  let record := asRecord call.2.1
  let active := resolveActiveDiscriminant (schema call.1) record
  (schema call.1).fields.flatMap fun field =>
    if isInactive field active then []
    else nestedCalls field (getProp record field.name) (fieldPathOf call.2.2 field)

/-- The descriptors and values that a walk enters from a descriptor and a value. -/
def entered (schema : Schema ι) (call : ι × Value) : List (ι × Value) :=
  (pathCalls schema (call.1, call.2, "")).map fun call => (call.1, call.2.1)

/-- `entered` in any number of steps. -/
def Visits (schema : Schema ι) : ι × Value → ι × Value → Prop :=
  Relation.ReflTransGen fun a b => b ∈ entered schema a

/-- A descriptor is entered from an empty record of another one: it is the type of a group or struct
field that is active there. -/
def Eager (schema : Schema ι) (get get' : ι) : Prop :=
  (get', .object []) ∈ entered schema (get, .object [])

/-- No endless sequence of descriptors starts where the walk is left with an empty record. -/
def Grounded (schema : Schema ι) (get : ι) (value : Value) : Prop :=
  ∀ get', Visits schema (get, value) (get', .object []) → Acc (fun b a => Eager schema a b) get'

theorem nestedCalls_path (field : FieldDescriptor ι) (fieldValue : Value) (path path' : String) :
    (nestedCalls field fieldValue path).map (fun call => (call.1, call.2.1)) =
      (nestedCalls field fieldValue path').map fun call => (call.1, call.2.1) := by
  unfold nestedCalls
  split <;> simp [Function.comp_def]

/-- Paths do not matter to the calls. -/
theorem pathCalls_entered (schema : Schema ι) (call : ι × Value × String) :
    (pathCalls schema call).map (fun call => (call.1, call.2.1)) =
      entered schema (call.1, call.2.1) := by
  unfold entered pathCalls
  simp only [List.map_flatMap]
  congr 1
  funext field
  split_ifs
  · rfl
  · exact nestedCalls_path _ _ _ _

theorem getProp_size {record : Record} {name : String}
    (present : getProp record name ≠ .undefined) :
    sizeOf (getProp record name) < sizeOf (Value.object record) := by
  unfold getProp at present ⊢
  cases found : record.lookup name with
  | none =>
    rw [found] at present
    exact absurd rfl present
  | some value =>
    obtain ⟨before, after, split, -⟩ := List.lookup_eq_some_iff.1 found
    have mem : (name, value) ∈ record := by
      rw [split]
      exact List.mem_append_right _ List.mem_cons_self
    have small := List.sizeOf_lt_of_mem mem
    simp only [Option.getD_some, Value.object.sizeOf_spec, Prod.mk.sizeOf_spec] at small ⊢
    omega

/-- What a value is taken for as a record is the value itself or the empty record. -/
theorem asRecord_cases (value : Value) :
    Value.object (asRecord value) = value ∨ asRecord value = [] := by
  cases value with
  | object props => exact .inl rfl
  | _ => exact .inr rfl

/-- A nested call is one for the empty record or for a smaller value. -/
theorem nestedCalls_smaller {field : FieldDescriptor ι} {record : Record} {path : String}
    {call : ι × Value × String} (mem : call ∈ nestedCalls field (getProp record field.name) path) :
    call.2.1 = .object [] ∨ sizeOf call.2.1 < sizeOf (Value.object record) := by
  have plain : ∀ value, (value = .undefined ∨ sizeOf value < sizeOf (Value.object record)) →
      Value.object (asRecord value) = .object [] ∨
        sizeOf (Value.object (asRecord value)) < sizeOf (Value.object record) := by
    intro value small
    obtain same | empty := asRecord_cases value
    · obtain rfl | small := small
      · exact .inl rfl
      · exact .inr (same ▸ small)
    · exact .inl (congrArg _ empty)
  have own : getProp record field.name = .undefined ∨
      sizeOf (getProp record field.name) < sizeOf (Value.object record) := by
    by_cases absent : getProp record field.name = .undefined
    · exact .inl absent
    · exact .inr (getProp_size absent)
  unfold nestedCalls at mem
  split at mem
  · rw [List.mem_singleton.1 mem]
    exact plain _ own
  · rw [List.mem_singleton.1 mem]
    exact plain _ own
  · obtain ⟨⟨item, i⟩, inside, rfl⟩ := List.mem_map.1 mem
    refine plain item (.inr ?_)
    have member := List.fst_mem_of_mem_zipIdx inside
    cases value : getProp record _ with
    | array xs =>
      rw [value] at member own
      have small := List.sizeOf_lt_of_mem member
      obtain none | own := own
      · cases none
      · simp only [asArray, Value.array.sizeOf_spec] at small own
        omega
    | _ =>
      rw [value] at member
      cases member
  · cases mem

theorem nestedCalls_undefined {field : FieldDescriptor ι} {path : String}
    {call : ι × Value × String} (mem : call ∈ nestedCalls field .undefined path) :
    call.2.1 = .object [] := by
  unfold nestedCalls at mem
  split at mem
  · rw [List.mem_singleton.1 mem]
    rfl
  · rw [List.mem_singleton.1 mem]
    rfl
  · cases mem
  · cases mem

theorem entered_cases {call call' : ι × Value} (mem : call' ∈ entered schema call) :
    call'.2 = .object [] ∨ asRecord call.2 ≠ [] ∧ sizeOf call'.2 < sizeOf call.2 := by
  obtain ⟨nested, inside, rfl⟩ := List.mem_map.1 mem
  obtain ⟨field, -, member⟩ := List.mem_flatMap.1 inside
  split_ifs at member
  · cases member
  by_cases empty : asRecord call.2 = []
  · simp only [empty] at member
    exact .inl (nestedCalls_undefined member)
  · obtain same | empty' := asRecord_cases call.2
    · exact (nestedCalls_smaller member).imp_right fun small => ⟨empty, same ▸ small⟩
    · exact absurd empty' empty

/-! ## Grounded values -/

/-- From the empty record on, the call tree follows the eager fields. -/
theorem acc_empty_iff {get : ι} : Acc (CalledBy (entered schema)) (get, .object []) ↔
    Acc (fun b a => Eager schema a b) get := by
  constructor
  · intro grounded
    refine Subrelation.accessible (fun {b a} eager => ?_)
      (InvImage.accessible (fun get => (get, Value.object [])) grounded)
    exact eager
  · intro grounded
    induction grounded with
    | intro get _ ih =>
      refine ⟨_, fun call mem => ?_⟩
      obtain ⟨get', value⟩ := call
      obtain rfl | ⟨present, -⟩ := entered_cases mem
      · exact ih get' mem
      · exact absurd rfl present

theorem grounded_iff_acc {get : ι} {value : Value} :
    Grounded schema get value ↔ Acc (CalledBy (entered schema)) (get, value) := by
  constructor
  · intro grounded
    induction size : sizeOf value using Nat.strong_induction_on generalizing get value with
    | _ n ih =>
      subst size
      refine ⟨_, fun call mem => ?_⟩
      obtain ⟨get', value'⟩ := call
      obtain rfl | ⟨-, smaller⟩ := entered_cases mem
      · exact acc_empty_iff.2 (grounded get' (.single mem))
      · exact ih _ smaller (fun get'' visits => grounded get'' (.head mem visits)) rfl
  · intro grounded get' visits
    rw [← acc_empty_iff]
    generalize (get', Value.object []) = call at visits
    induction visits with
    | refl => exact grounded
    | tail _ mem ih => exact ih.inv mem

/-! ## Capability values -/

/-- The value of a field is, or lists, values that denote capabilities or AnyPointers. -/
def CapabilityFits (field : FieldDescriptor ι) (fieldValue : Value) : Prop :=
  match field with
  | .slot _ _ .interface _ _ => ∃ index, capabilityIndexFrom fieldValue = .ok index
  | .slot _ _ .anyPointer _ _ => ∃ pointer, asAnyPointerValue fieldValue = .ok pointer
  | .slot _ _ (.list .interface) _ _ =>
    ∀ item ∈ asArray fieldValue, ∃ index, capabilityIndexFrom item = .ok index
  | .slot _ _ (.list .anyPointer) _ _ =>
    ∀ item ∈ asArray fieldValue, ∃ pointer, asAnyPointerValue item = .ok pointer
  | _ => True

/-- The capability fields of a value fit, its nested values not counted. -/
def FitsAt (schema : Schema ι) (call : ι × Value) : Prop :=
  let record := asRecord call.2
  let active := resolveActiveDiscriminant (schema call.1) record
  ∀ field ∈ (schema call.1).fields, ¬ isInactive field active →
    CapabilityFits field (getProp record field.name)

/-- The capability fields fit wherever a walk comes. -/
def ValidCapabilities (schema : Schema ι) (get : ι) (value : Value) : Prop :=
  ∀ call, Visits schema (get, value) call → FitsAt schema call

theorem indexOfNumber_error {x : JsNumber} {e : Thrown} (failed : indexOfNumber x = .error e) :
    e ≠ stackOverflow := by
  unfold indexOfNumber at failed
  split_ifs at failed
  · cases failed
  · rw [← Except.error.inj failed]
    decide

theorem capabilityIndexFrom_error {value : Value} {e : Thrown}
    (failed : capabilityIndexFrom value = .error e) : e ≠ stackOverflow := by
  unfold capabilityIndexFrom at failed
  split at failed
  · cases failed
  · cases failed
  · exact indexOfNumber_error failed
  · split at failed
    · exact indexOfNumber_error failed
    · cases failed
      decide
  · cases failed
    decide

theorem asAnyPointerValue_error {value : Value} {e : Thrown}
    (failed : asAnyPointerValue value = .error e) : e ≠ stackOverflow := by
  unfold asAnyPointerValue at failed
  split at failed
  · cases failed
  · cases failed
  · cases failed
  · split at failed
    · cases failed
    · exact capabilityIndexFrom_error (Fallible.map_eq_error.1 failed)
    · split at failed
      · cases failed
      · cases failed
        decide
    · exact capabilityIndexFrom_error (Fallible.map_eq_error.1 failed)
  · exact capabilityIndexFrom_error (Fallible.map_eq_error.1 failed)

/-! ## The walks on a limited stack -/

section Collect

variable {collect collect' : ι → Value → String → Except Thrown (List CollectedCapability)}
  {field : FieldDescriptor ι} {fieldValue : Value} {fieldPath : String}

theorem collectField_congr (same : ∀ call ∈ nestedCalls field fieldValue fieldPath,
    collect call.1 call.2.1 call.2.2 = collect' call.1 call.2.1 call.2.2) :
    collectField collect field fieldValue fieldPath =
      collectField collect' field fieldValue fieldPath := by
  cases field with
  | group name get d => exact same _ (List.mem_singleton_self _)
  | slot name offset type mask d =>
    cases type with
    | struct get => exact same _ (List.mem_singleton_self _)
    | list element =>
      cases element with
      | struct get =>
        refine congrArg (List.flatten <$> ·) (Fallible.mapM_congr fun item mem => ?_)
        exact same _ (List.mem_map.2 ⟨item, mem, rfl⟩)
      | _ => rfl
    | _ => rfl

theorem collectField_eq_ok {found : List CollectedCapability}
    (done : collectField collect field fieldValue fieldPath = .ok found) :
    ∀ call ∈ nestedCalls field fieldValue fieldPath,
      ∃ found', collect call.1 call.2.1 call.2.2 = .ok found' := by
  intro call mem
  cases field with
  | group name get d =>
    rw [List.mem_singleton.1 mem]
    exact ⟨found, done⟩
  | slot name offset type mask d =>
    cases type with
    | struct get =>
      rw [List.mem_singleton.1 mem]
      exact ⟨found, done⟩
    | list element =>
      cases element with
      | struct get =>
        obtain ⟨item, inside, rfl⟩ := List.mem_map.1 mem
        obtain ⟨all, collected, -⟩ := Fallible.map_eq_ok.1 done
        exact Fallible.ok_of_mapM collected inside
      | _ => cases mem
    | _ => cases mem

theorem collectField_eq_error {e : Thrown}
    (failed : collectField collect field fieldValue fieldPath = .error e) :
    e ≠ stackOverflow ∧ ¬ CapabilityFits field fieldValue ∨
      ∃ call ∈ nestedCalls field fieldValue fieldPath,
        collect call.1 call.2.1 call.2.2 = .error e := by
  cases field with
  | group name get d => exact .inr ⟨_, List.mem_singleton_self _, failed⟩
  | slot name offset type mask d =>
    cases type with
    | struct get => exact .inr ⟨_, List.mem_singleton_self _, failed⟩
    | interface =>
      have bad := Fallible.map_eq_error.1 failed
      refine .inl ⟨capabilityIndexFrom_error bad, fun ⟨index, fits⟩ => ?_⟩
      cases fits.symm.trans bad
    | anyPointer =>
      have bad := Fallible.map_eq_error.1 failed
      refine .inl ⟨asAnyPointerValue_error bad, fun ⟨pointer, fits⟩ => ?_⟩
      cases fits.symm.trans bad
    | list element =>
      cases element with
      | struct get =>
        obtain ⟨item, mem, bad⟩ := Fallible.mapM_eq_error (Fallible.map_eq_error.1 failed)
        exact .inr ⟨_, List.mem_map.2 ⟨item, mem, rfl⟩, bad⟩
      | interface =>
        obtain ⟨item, mem, bad⟩ := Fallible.mapM_eq_error (Fallible.map_eq_error.1 failed)
        have bad := Fallible.map_eq_error.1 bad
        refine .inl ⟨capabilityIndexFrom_error bad, fun fits => ?_⟩
        obtain ⟨index, fits⟩ := fits item.1 (List.fst_mem_of_mem_zipIdx mem)
        cases fits.symm.trans bad
      | anyPointer =>
        obtain ⟨item, mem, bad⟩ := Fallible.mapM_eq_error (Fallible.map_eq_error.1 failed)
        have bad := Fallible.map_eq_error.1 bad
        refine .inl ⟨asAnyPointerValue_error bad, fun fits => ?_⟩
        obtain ⟨pointer, fits⟩ := fits item.1 (List.fst_mem_of_mem_zipIdx mem)
        cases fits.symm.trans bad
      | _ => cases failed
    | _ => cases failed

end Collect

theorem mem_pathCalls {call nested : ι × Value × String} : nested ∈ pathCalls schema call ↔
    ∃ field ∈ (schema call.1).fields,
      ¬ isInactive field (resolveActiveDiscriminant (schema call.1) (asRecord call.2.1)) ∧
      nested ∈ nestedCalls field (getProp (asRecord call.2.1) field.name)
        (fieldPathOf call.2.2 field) := by
  unfold pathCalls
  rw [List.mem_flatMap]
  refine exists_congr fun field => and_congr_right fun _ => ?_
  split_ifs with inactive <;> simp [inactive]

theorem collect_limited (schema : Schema ι) :
    StackLimited (fun stack (call : ι × Value × String) =>
      collectCapabilityPointersFromStruct schema stack call.1 call.2.1 call.2.2) stackOverflow
      (pathCalls schema) (fun call => ¬ FitsAt schema (call.1, call.2.1)) where
  exhausted _ := rfl
  determined m n call same := by
    refine congrArg (List.flatten <$> ·) (Fallible.mapM_congr fun field mem => ?_)
    split_ifs with inactive
    · rfl
    · exact collectField_congr fun nested inside =>
        same nested (mem_pathCalls.2 ⟨field, mem, inactive, inside⟩)
  returns n call found done nested inside := by
    obtain ⟨field, mem, inactive, inside⟩ := mem_pathCalls.1 inside
    obtain ⟨all, collected, -⟩ := Fallible.map_eq_ok.1 done
    obtain ⟨part, collected⟩ := Fallible.ok_of_mapM collected mem
    rw [if_neg inactive] at collected
    exact collectField_eq_ok collected nested inside
  fails n call e failed := by
    obtain ⟨field, mem, failed⟩ := Fallible.mapM_eq_error (Fallible.map_eq_error.1 failed)
    by_cases inactive : isInactive field
        (resolveActiveDiscriminant (schema call.1) (asRecord call.2.1)) = true
    · rw [if_pos inactive] at failed
      cases failed
    rw [if_neg inactive] at failed
    obtain ⟨fine, misfit⟩ | ⟨nested, inside, failed⟩ := collectField_eq_error failed
    · exact .inl ⟨fine, fun fits => misfit (fits field mem inactive)⟩
    · exact .inr ⟨nested, mem_pathCalls.2 ⟨field, mem, inactive, inside⟩, failed⟩

/-- A rewrite that fails on nothing but values that fit no capability. -/
def Checks {α : Type} (rewrite : Rewrite) (read : Value → Except Thrown α) : Prop :=
  ∀ value e, rewrite value = .error e → e ≠ stackOverflow ∧ ¬ ∃ a, read value = .ok a

theorem remapInterface_checks (mapping : IndexMap) :
    Checks (remapInterface mapping) capabilityIndexFrom := by
  intro value e failed
  have bad := Fallible.map_eq_error.1 failed
  refine ⟨capabilityIndexFrom_error bad, fun ⟨index, fits⟩ => ?_⟩
  cases fits.symm.trans bad

theorem remapAnyPointer_checks (mapping : IndexMap) :
    Checks (remapAnyPointer mapping) asAnyPointerValue := by
  intro value e failed
  have bad := Fallible.map_eq_error.1 failed
  refine ⟨asAnyPointerValue_error bad, fun ⟨pointer, fits⟩ => ?_⟩
  cases fits.symm.trans bad

theorem resolveInterface_checks (mapping : IndexMap) :
    Checks (resolveInterface mapping) capabilityIndexFrom := by
  intro value e failed
  unfold resolveInterface at failed
  split at failed
  · cases failed
  · cases failed
  · split at failed <;> cases failed

section Rewrite

variable {onInterface onAnyPointer : Rewrite} {rewrite rewrite' : ι → Value → Except Thrown Value}
  {field : FieldDescriptor ι} {fieldValue : Value}

theorem rewriteField_congr (path : String) (same : ∀ call ∈ nestedCalls field fieldValue path,
    rewrite call.1 call.2.1 = rewrite' call.1 call.2.1) :
    rewriteField onInterface onAnyPointer rewrite field fieldValue =
      rewriteField onInterface onAnyPointer rewrite' field fieldValue := by
  cases field with
  | group name get d => exact congrArg (some <$> ·) (same _ (List.mem_singleton_self _))
  | slot name offset type mask d =>
    cases type with
    | struct get => exact congrArg (some <$> ·) (same _ (List.mem_singleton_self _))
    | list element =>
      cases element with
      | struct get =>
        refine congrArg ((fun items => some (Value.array items)) <$> ·)
          (Fallible.mapM_congr fun item mem => ?_)
        obtain ⟨i, low, rfl⟩ := List.getElem_of_mem mem
        exact same _ (List.mem_map.2 ⟨(_, i), List.mk_mem_zipIdx_iff_getElem?.2
          (List.getElem?_eq_getElem low), rfl⟩)
      | _ => rfl
    | _ => rfl

theorem rewriteField_eq_ok {path : String} {value : Option Value}
    (done : rewriteField onInterface onAnyPointer rewrite field fieldValue = .ok value) :
    ∀ call ∈ nestedCalls field fieldValue path, ∃ value', rewrite call.1 call.2.1 = .ok value' := by
  intro call mem
  cases field with
  | group name get d =>
    rw [List.mem_singleton.1 mem]
    obtain ⟨value', rewritten, -⟩ := Fallible.map_eq_ok.1 done
    exact ⟨value', rewritten⟩
  | slot name offset type mask d =>
    cases type with
    | struct get =>
      rw [List.mem_singleton.1 mem]
      obtain ⟨value', rewritten, -⟩ := Fallible.map_eq_ok.1 done
      exact ⟨value', rewritten⟩
    | list element =>
      cases element with
      | struct get =>
        obtain ⟨item, inside, rfl⟩ := List.mem_map.1 mem
        obtain ⟨all, rewritten, -⟩ := Fallible.map_eq_ok.1 done
        exact Fallible.ok_of_mapM rewritten (List.fst_mem_of_mem_zipIdx inside)
      | _ => cases mem
    | _ => cases mem

theorem rewriteField_eq_error {path : String} {e : Thrown}
    (interfaces : Checks onInterface capabilityIndexFrom)
    (anyPointers : Checks onAnyPointer asAnyPointerValue)
    (failed : rewriteField onInterface onAnyPointer rewrite field fieldValue = .error e) :
    e ≠ stackOverflow ∧ ¬ CapabilityFits field fieldValue ∨
      ∃ call ∈ nestedCalls field fieldValue path, rewrite call.1 call.2.1 = .error e := by
  cases field with
  | group name get d =>
    exact .inr ⟨_, List.mem_singleton_self _, Fallible.map_eq_error.1 failed⟩
  | slot name offset type mask d =>
    cases type with
    | struct get => exact .inr ⟨_, List.mem_singleton_self _, Fallible.map_eq_error.1 failed⟩
    | interface => exact .inl (interfaces _ _ failed)
    | anyPointer => exact .inl (anyPointers _ _ failed)
    | list element =>
      cases element with
      | struct get =>
        obtain ⟨item, mem, bad⟩ := Fallible.mapM_eq_error (Fallible.map_eq_error.1 failed)
        obtain ⟨i, low, rfl⟩ := List.getElem_of_mem mem
        exact .inr ⟨_, List.mem_map.2 ⟨(_, i), List.mk_mem_zipIdx_iff_getElem?.2
          (List.getElem?_eq_getElem low), rfl⟩, bad⟩
      | interface =>
        obtain ⟨item, mem, bad⟩ := Fallible.mapM_eq_error (Fallible.map_eq_error.1 failed)
        obtain ⟨fine, misfit⟩ := interfaces _ _ (Fallible.map_eq_error.1 bad)
        exact .inl ⟨fine, fun fits => misfit (fits item mem)⟩
      | anyPointer =>
        obtain ⟨item, mem, bad⟩ := Fallible.mapM_eq_error (Fallible.map_eq_error.1 failed)
        obtain ⟨fine, misfit⟩ := anyPointers _ _ (Fallible.map_eq_error.1 bad)
        exact .inl ⟨fine, fun fits => misfit (fits item mem)⟩
      | _ => cases failed
    | _ => cases failed

end Rewrite

theorem mem_entered {call nested : ι × Value} : nested ∈ entered schema call ↔
    ∃ field ∈ (schema call.1).fields,
      ¬ isInactive field (resolveActiveDiscriminant (schema call.1) (asRecord call.2)) ∧
      ∃ nested' ∈ nestedCalls field (getProp (asRecord call.2) field.name) (fieldPathOf "" field),
        (nested'.1, nested'.2.1) = nested := by
  unfold entered
  rw [List.mem_map]
  constructor
  · rintro ⟨nested', mem, same⟩
    obtain ⟨field, member, inactive, inside⟩ := mem_pathCalls.1 mem
    exact ⟨field, member, inactive, nested', inside, same⟩
  · rintro ⟨field, member, inactive, nested', inside, same⟩
    exact ⟨nested', mem_pathCalls.2 ⟨field, member, inactive, inside⟩, same⟩

theorem rewrite_limited {onInterface onAnyPointer : Rewrite} (schema : Schema ι)
    (interfaces : Checks onInterface capabilityIndexFrom)
    (anyPointers : Checks onAnyPointer asAnyPointerValue) :
    StackLimited (fun stack (call : ι × Value) =>
      rewriteCapabilities schema onInterface onAnyPointer stack call.1 call.2) stackOverflow
      (entered schema) (fun call => ¬ FitsAt schema call) where
  exhausted _ := rfl
  determined m n call same := by
    refine congrArg (Value.object <$> ·) (Fallible.foldlM_congr (fun out field mem => ?_) _)
    split_ifs with inactive
    · rfl
    · refine congrArg (assign out field.name <$> ·) (rewriteField_congr (fieldPathOf "" field)
        fun nested inside => ?_)
      exact same _ (mem_entered.2 ⟨field, mem, inactive, nested, inside, rfl⟩)
  returns n call value done nested inside := by
    obtain ⟨field, mem, inactive, nested', member, rfl⟩ := mem_entered.1 inside
    obtain ⟨out, folded, -⟩ := Fallible.map_eq_ok.1 done
    obtain ⟨before, after, rewritten⟩ := Fallible.ok_of_foldlM folded mem
    rw [if_neg inactive] at rewritten
    obtain ⟨value', rewritten, -⟩ := Fallible.map_eq_ok.1 rewritten
    exact rewriteField_eq_ok rewritten nested' member
  fails n call e failed := by
    obtain ⟨out, field, mem, failed⟩ := Fallible.foldlM_eq_error (Fallible.map_eq_error.1 failed)
    by_cases inactive : isInactive field
        (resolveActiveDiscriminant (schema call.1) (asRecord call.2)) = true
    · rw [if_pos inactive] at failed
      cases failed
    rw [if_neg inactive] at failed
    obtain ⟨fine, misfit⟩ | ⟨nested, inside, failed⟩ :=
      rewriteField_eq_error interfaces anyPointers (Fallible.map_eq_error.1 failed)
    · exact .inl ⟨fine, fun fits => misfit (fits field mem inactive)⟩
    · exact .inr ⟨_, mem_entered.2 ⟨field, mem, inactive, nested, inside, rfl⟩, failed⟩

/-! ## Settling -/

/-- The three walks come to an end. -/
structure WalksSettle (schema : Schema ι) (get : ι) (value : Value) (path : String)
    (mapping : IndexMap) : Prop where
  collect : Settles (fun stack (call : ι × Value × String) =>
    collectCapabilityPointersFromStruct schema stack call.1 call.2.1 call.2.2) stackOverflow
    (get, value, path)
  remap : Settles (fun stack (call : ι × Value) =>
    remapCapabilityIndices schema mapping stack call.1 call.2) stackOverflow (get, value)
  resolve : Settles (fun stack (call : ι × Value) =>
    resolveDecodedCapabilities schema mapping stack call.1 call.2) stackOverflow (get, value)

/-- **Where the capability walks end.**  They come to an end when no endless sequence of group and
struct fields starts where the walk is left with an empty record; and where all capability values
are valid, they do not come to an end otherwise. -/
theorem walks_settle (schema : Schema ι) (get : ι) (value : Value) (path : String)
    (mapping : IndexMap) :
    (Grounded schema get value → WalksSettle schema get value path mapping) ∧
      (ValidCapabilities schema get value →
        (WalksSettle schema get value path mapping ↔ Grounded schema get value)) := by
  have remap := rewrite_limited schema (remapInterface_checks mapping)
    (remapAnyPointer_checks mapping)
  have resolve := rewrite_limited schema (resolveInterface_checks mapping)
    (remapAnyPointer_checks mapping)
  have settle : Grounded schema get value → WalksSettle schema get value path mapping := by
    intro grounded
    have acc := grounded_iff_acc.1 grounded
    exact ⟨(collect_limited schema).settles_of_acc
      ((acc_map_iff _ (pathCalls_entered schema)).2 acc),
      remap.settles_of_acc acc, resolve.settles_of_acc acc⟩
  refine ⟨settle, fun valid => ⟨fun settles => ?_, settle⟩⟩
  rw [grounded_iff_acc, ← remap.settles_iff_acc fun call visits => not_not.2 (valid call visits)]
  exact settles.remap

/-- A struct with a capability and a nested struct that has one, too. -/
def pairSchema : Schema Bool
  | true =>
    ⟨0, 2, [.slot "inner" 0 (.struct false) 0 none, .slot "cap" 1 .interface 0 none],
      .const [], none⟩
  | false => ⟨0, 1, [.slot "cap" 0 .interface 0 none], .const [], none⟩

theorem pairSchema_settles :
    WalksSettle pairSchema true (.object [("cap", capabilityPointer 3)]) "" [(3, 0)] := by
  have leaf : Acc (fun b a => Eager pairSchema a b) false := ⟨_, fun get' eager => nomatch eager⟩
  have root : Acc (fun b a => Eager pairSchema a b) true := by
    refine ⟨_, fun get' eager => ?_⟩
    cases get' with
    | false => exact leaf
    | true => cases List.mem_singleton.1 eager
  refine (walks_settle pairSchema true _ "" _).1 fun get' _ => ?_
  cases get' with
  | false => exact leaf
  | true => exact root

/-- A linked list of capabilities. -/
def listSchema : Schema Unit := fun _ =>
  ⟨0, 2, [.slot "next" 0 (.struct ()) 0 none, .slot "cap" 1 .interface 0 none], .const [], none⟩

/-- The walks over a list of one element, whose link is absent, overflow every stack. -/
theorem listSchema_overflows :
    (∀ stack, collectCapabilityPointersFromStruct listSchema stack ()
      (.object [("cap", capabilityPointer 3)]) "" =
        .error stackOverflow) ∧
      (∀ stack, remapCapabilityIndices listSchema [(3, 0)] stack ()
        (.object [("cap", capabilityPointer 3)]) =
        .error stackOverflow) ∧
      ∀ stack, resolveDecodedCapabilities listSchema [(0, 3)] stack ()
      (.object [("cap", capabilityPointer 0)]) =
        .error stackOverflow := by
  have collect : ∀ stack value path,
      collectCapabilityPointersFromStruct listSchema stack () value path =
      .error stackOverflow := by
    intro stack
    induction stack with
    | zero => intros; rfl
    | succ stack ih =>
      intro value path
      rw [collectCapabilityPointersFromStruct, Fallible.map_eq_error, listSchema, List.mapM_cons,
        Fallible.bind_eq_error]
      exact .inl (ih _ _)
  have rewrite : ∀ (onInterface onAnyPointer : Rewrite) stack value,
      rewriteCapabilities listSchema onInterface onAnyPointer stack () value =
        .error stackOverflow := by
    intro onInterface onAnyPointer stack
    induction stack with
    | zero => intros; rfl
    | succ stack ih =>
      intro value
      rw [rewriteCapabilities, Fallible.map_eq_error, listSchema, List.foldlM_cons,
        Fallible.bind_eq_error]
      exact .inl (Fallible.map_eq_error.2 (Fallible.map_eq_error.2 (ih _)))
  exact ⟨fun stack => collect stack _ _, fun stack => rewrite _ _ stack _, fun stack =>
    rewrite _ _ stack _⟩

end CapnpDeno
