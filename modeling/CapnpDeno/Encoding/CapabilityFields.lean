import CapnpDeno.Encoding.EncodeFrame
import CapnpDeno.Encoding.RuntimeCaps
import CapnpDeno.Encoding.ValueLemmas

/-!
# Capability fields

The active fields of interface type of a struct and of its groups, and what the walks of the
capability table do to them.
-/

namespace CapnpDeno

variable {ι : Type} {schema : Schema ι}

/-! ## Schemas -/

/-- Two fields that can be active at once. -/
def Together (field other : FieldDescriptor ι) : Prop :=
  ∃ active : ℕ, isInactive field (some active) = false ∧ isInactive other (some active) = false

/-- What the schema compiler sees to: names are unique, pointers lie inside the section, groups
share the sections of their struct, fields that can be active at once have no bit in common, and no
field has one with the discriminant, whose values are those of the members. -/
structure Schema.WellFormed (schema : Schema ι) : Prop where
  names : ∀ get, ((schema get).fields.map FieldDescriptor.name).Nodup
  sizes : ∀ get, (schema get).dataWordCount < 2 ^ 16 ∧ (schema get).pointerCount < 2 ^ 16
  pointers : ∀ get name offset type mask d,
    .slot name offset type mask d ∈ (schema get).fields → isPointerType type = true →
      offset < (schema get).pointerCount
  groups : ∀ get name get' d, .group name get' d ∈ (schema get).fields →
    (schema get').dataWordCount = (schema get).dataWordCount ∧
      (schema get').pointerCount = (schema get).pointerCount
  apart : ∀ get, ∀ field ∈ (schema get).fields, ∀ other ∈ (schema get).fields, field ≠ other →
    Together field other → ∀ k, Occupies schema get field k → ¬ Occupies schema get other k
  tagged : ∀ get, ∀ field ∈ (schema get).fields, ∀ k ∈ discriminantBits (schema get),
    ¬ Occupies schema get field k
  unions : ∀ get union, (schema get).union = some union →
    2 * union.discriminantOffset + 2 ≤ 8 * (schema get).dataWordCount ∧
      ∀ field ∈ (schema get).fields, field.name ≠ "which"
  members : ∀ get, ∀ field ∈ (schema get).fields, ∀ d, field.discriminantValue = some d →
    d < 2 ^ 16 ∧ ∃ union tag, (schema get).union = some union ∧
      union.byDiscriminant.lookup d = some tag ∧ union.byName.lookup tag = some d

namespace Schema.WellFormed

variable {get : ι} {field other : FieldDescriptor ι}

theorem name_ne (wf : schema.WellFormed) (mem : field ∈ (schema get).fields)
    (mem' : other ∈ (schema get).fields) (different : other ≠ field) : other.name ≠ field.name :=
  fun same => different (List.inj_on_of_nodup_map (wf.names get) mem' mem same)

theorem together (wf : schema.WellFormed) (mem : field ∈ (schema get).fields)
    (mem' : other ∈ (schema get).fields) {active : Option ℕ}
    (live : isInactive field active = false) (live' : isInactive other active = false)
    (union : active = none → (schema get).union = none) : Together field other := by
  cases active with
  | some active => exact ⟨active, live, live'⟩
  | none =>
    -- without a union there are no members
    have always {f : FieldDescriptor ι} (inside : f ∈ (schema get).fields) :
        isInactive f (some 0) = false := by
      unfold isInactive
      cases value : f.discriminantValue with
      | none => rfl
      | some d =>
        obtain ⟨-, u, tag, present, -⟩ := wf.members get f inside d value
        cases (union rfl).symm.trans present
    exact ⟨0, always mem, always mem'⟩

end Schema.WellFormed

/-! ## Interface fields -/

/-- In the record, the active field of interface type at a pointer index has a value; the path leads
to it through groups that are active. -/
inductive InterfaceAt (schema : Schema ι) : ι → Record → List (FieldDescriptor ι) → ℕ → Value → Prop
  | slot {get record name n mask d}
      (mem : .slot name n .interface mask d ∈ (schema get).fields)
      (active : isInactive (.slot name n .interface mask d : FieldDescriptor ι)
        (resolveActiveDiscriminant (schema get) record) = false) :
      InterfaceAt schema get record [.slot name n .interface mask d] n (getProp record name)
  | group {get record name get' d path n value}
      (mem : .group name get' d ∈ (schema get).fields)
      (active : isInactive (.group name get' d)
        (resolveActiveDiscriminant (schema get) record) = false)
      (inner : InterfaceAt schema get' (asRecord (getProp record name)) path n value) :
      InterfaceAt schema get record (.group name get' d :: path) n value

/-! ## Collecting -/

/-- What an active field yields is part of what is collected. -/
theorem collected_of_field {get : ι} {value : Value} {stack : ℕ} {place : String}
    {found : List CollectedCapability} {field : FieldDescriptor ι}
    (mem : field ∈ (schema get).fields)
    (active : isInactive field (resolveActiveDiscriminant (schema get) (asRecord value)) = false)
    (done : collectCapabilityPointersFromStruct schema (stack + 1) get value place = .ok found) :
    ∃ part ⊆ found, collectField (collectCapabilityPointersFromStruct schema stack) field
      (getProp (asRecord value) field.name) (fieldPathOf place field) = .ok part := by
  obtain ⟨parts, collected, rfl⟩ := Fallible.map_eq_ok.1 done
  obtain ⟨part, inside, done⟩ := Fallible.mem_of_mapM collected mem
  rw [if_neg (Bool.eq_false_iff.1 active)] at done
  exact ⟨part, fun entry member => List.mem_flatten.2 ⟨part, inside, member⟩, done⟩

/-- A capability in an interface field is collected. -/
theorem collected_of_interfaceAt {get : ι} {value fieldValue : Value}
    {path : List (FieldDescriptor ι)} {n index stack : ℕ} {place : String}
    {found : List CollectedCapability}
    (held : InterfaceAt schema get (asRecord value) path n fieldValue)
    (denotes : capabilityIndexFrom fieldValue = .ok (some index))
    (done : collectCapabilityPointersFromStruct schema stack get value place = .ok found) :
    index ∈ found.map (·.capabilityIndex) := by
  induction stack generalizing get value path place found with
  | zero => cases done
  | succ stack ih =>
    cases held with
    | slot mem active =>
      obtain ⟨part, sub, done⟩ := collected_of_field mem active done
      obtain ⟨index', denotes', rfl⟩ := Fallible.map_eq_ok.1 done
      cases denotes.symm.trans denotes'
      exact List.mem_map.2 ⟨_, sub (List.mem_singleton_self _), rfl⟩
    | group mem active inner =>
      obtain ⟨part, sub, done⟩ := collected_of_field mem active done
      have entered : InterfaceAt schema _ (asRecord (.object (asRecord (getProp _ _)))) _ n
          fieldValue :=
        inner
      exact List.map_subset _ sub (ih entered done)

/-! ## Rewriting -/

section Rewriting

variable {onInterface onAnyPointer : Rewrite}

/-- A rewrite puts something where it puts anything. -/
def Rewrite.Present (rewrite : Rewrite) : Prop :=
  ∀ value value', rewrite value = .ok (some value') → value' ≠ .undefined

theorem rewriteField_present (interfaces : onInterface.Present) (anyPointers : onAnyPointer.Present)
    {rewrite : ι → Value → Except Thrown Value} {field : FieldDescriptor ι} {value value' : Value}
    (records : ∀ get value value', rewrite get value = .ok value' → value' ≠ .undefined)
    (done : rewriteField onInterface onAnyPointer rewrite field value = .ok (some value')) :
    value' ≠ .undefined := by
  have mapped {α : Type} {x : Except Thrown α} {f : α → Value}
      (done : (fun a => some (f a)) <$> x = .ok (some value')) : ∃ a, x = .ok a ∧ f a = value' := by
    obtain ⟨a, same, found⟩ := Fallible.map_eq_ok.1 done
    exact ⟨a, same, Option.some.inj found⟩
  cases field with
  | group name get d =>
    obtain ⟨out, rewritten, rfl⟩ := mapped done
    exact records get _ _ rewritten
  | slot name offset type mask d =>
    cases type with
    | interface => exact interfaces _ _ done
    | anyPointer => exact anyPointers _ _ done
    | struct get =>
      obtain ⟨out, rewritten, rfl⟩ := mapped done
      exact records get _ _ rewritten
    | list element =>
      cases element with
      | interface | anyPointer | struct get =>
        obtain ⟨items, -, rfl⟩ := mapped done
        exact Value.noConfusion
      | _ => cases done
    | _ => cases done

theorem rewriteCapabilities_object {stack : ℕ} {get : ι} {value value' : Value}
    (done : rewriteCapabilities schema onInterface onAnyPointer stack get value = .ok value') :
    ∃ out, value' = .object out := by
  cases stack with
  | zero => cases done
  | succ stack =>
    obtain ⟨out, -, rfl⟩ := Fallible.map_eq_ok.1 done
    exact ⟨out, rfl⟩

/-- What the loop over the fields has changed so far: values of active fields, none of them to
nothing. -/
structure Rewritten (descriptor : StructDescriptor ι) (record out : Record) : Prop where
  others : ∀ name, (∀ field ∈ descriptor.fields,
    isInactive field (resolveActiveDiscriminant descriptor record) = false → name ≠ field.name) →
      getProp out name = getProp record name
  present : ∀ field ∈ descriptor.fields, isPresentField record field.name = true →
    isPresentField out field.name = true

theorem Rewritten.active (wf : schema.WellFormed) {get : ι} {record out : Record}
    (h : Rewritten (schema get) record out) :
    resolveActiveDiscriminant (schema get) out = resolveActiveDiscriminant (schema get) record := by
  refine resolveActiveDiscriminant_congr (fun union => ?_) (fun field mem inactive => ?_) h.present
  · obtain ⟨u, present⟩ := Option.ne_none_iff_exists'.1 union
    exact h.others "which" fun other mem _ => ((wf.unions get u present).2 other mem).symm
  · refine h.others field.name fun other mem' active => wf.name_ne mem' mem ?_
    rintro rfl
    cases inactive.symm.trans active

/-- The loop body. -/
def rewriteStep (onInterface onAnyPointer : Rewrite) (rewrite : ι → Value → Except Thrown Value)
    (descriptor : StructDescriptor ι) (record out : Record) (field : FieldDescriptor ι) :
    Except Thrown Record :=
  if isInactive field (resolveActiveDiscriminant descriptor record) then pure out
  else assign out field.name <$> rewriteField onInterface onAnyPointer rewrite field
    (getProp record field.name)

theorem Rewritten.step (interfaces : onInterface.Present) (anyPointers : onAnyPointer.Present)
    {stack : ℕ} {get : ι} {record out out' : Record} {field : FieldDescriptor ι}
    (h : Rewritten (schema get) record out) (mem : field ∈ (schema get).fields)
    (done : rewriteStep onInterface onAnyPointer
      (rewriteCapabilities schema onInterface onAnyPointer stack) (schema get) record out field =
        .ok out') : Rewritten (schema get) record out' := by
  unfold rewriteStep at done
  split_ifs at done with inactive
  · cases done
    exact h
  obtain ⟨value, rewritten, rfl⟩ := Fallible.map_eq_ok.1 done
  refine ⟨fun name free => ?_, fun other mem' there => ?_⟩
  · rw [getProp_assign_other (free field mem (Bool.eq_false_iff.2 inactive)), h.others name free]
  · refine isPresentField_assign (h.present other mem' there) ?_
    rintro v rfl
    refine rewriteField_present interfaces anyPointers (fun get value value' done => ?_) rewritten
    obtain ⟨record', rfl⟩ := rewriteCapabilities_object done
    exact Value.noConfusion

/-- The step for a field gives it the value that its rewrite puts there, also when it comes
again. -/
theorem rewriteStep_self {rewrite : ι → Value → Except Thrown Value}
    {descriptor : StructDescriptor ι} {record out out' : Record} {field : FieldDescriptor ι}
    {Q : Value → Prop}
    (active : isInactive field (resolveActiveDiscriminant descriptor record) = false)
    (before : getProp out field.name = getProp record field.name ∨ Q (getProp out field.name))
    (done : rewriteStep onInterface onAnyPointer rewrite descriptor record out field = .ok out')
    (meets : ∀ value, rewriteField onInterface onAnyPointer rewrite field
      (getProp record field.name) =
      .ok value → Q (value.getD (getProp record field.name))) : Q (getProp out' field.name) := by
  unfold rewriteStep at done
  rw [if_neg (Bool.eq_false_iff.1 active)] at done
  obtain ⟨value, rewritten, rfl⟩ := Fallible.map_eq_ok.1 done
  have met := meets value rewritten
  rw [getProp_assign_self]
  cases value with
  | some value => exact met
  | none =>
    obtain same | already := before
    · exact same ▸ met
    · exact already

theorem rewriteStep_other {rewrite : ι → Value → Except Thrown Value}
    {descriptor : StructDescriptor ι} {record out out' : Record} {field : FieldDescriptor ι}
    {name : String} (other : name ≠ field.name)
    (done : rewriteStep onInterface onAnyPointer rewrite descriptor record out field = .ok out') :
    getProp out' name = getProp out name := by
  unfold rewriteStep at done
  split_ifs at done with inactive
  · cases done
    rfl
  · obtain ⟨value, -, rfl⟩ := Fallible.map_eq_ok.1 done
    exact getProp_assign_other other value

/-- What the loop over the fields does to the record: an active field gets what its rewrite puts
there, and the active member stays. -/
theorem rewriteCapabilities_field (wf : schema.WellFormed) (interfaces : onInterface.Present)
    (anyPointers : onAnyPointer.Present) {Q : Value → Prop} {stack : ℕ} {get : ι}
    {record out : Record} {field : FieldDescriptor ι} (mem : field ∈ (schema get).fields)
    (active : isInactive field (resolveActiveDiscriminant (schema get) record) = false)
    (done : rewriteCapabilities schema onInterface onAnyPointer (stack + 1) get (.object record) =
      .ok (.object out))
    (meets : ∀ value, rewriteField onInterface onAnyPointer
      (rewriteCapabilities schema onInterface onAnyPointer stack) field
        (getProp record field.name) = .ok value → Q (value.getD (getProp record field.name))) :
    isInactive field (resolveActiveDiscriminant (schema get) out) = false ∧
      Q (getProp out field.name) := by
  obtain ⟨out', run, same⟩ := Fallible.map_eq_ok.1 done
  cases same
  have reached := Fallible.foldlM_reaches
    (f := rewriteStep onInterface onAnyPointer
      (rewriteCapabilities schema onInterface onAnyPointer stack)
      (schema get) record)
    (fun t => Rewritten (schema get) record t ∧
      (getProp t field.name = getProp record field.name ∨ Q (getProp t field.name)))
    (fun t => Q (getProp t field.name)) mem ⟨⟨fun _ _ => rfl, fun _ _ there => there⟩, .inl rfl⟩ run
    (fun t other mem' t' inv next => ?_)
    (fun t t' inv next => rewriteStep_self active inv.2 next meets)
    (fun t other mem' t' different _ met next => ?_)
  · rw [reached.1.1.active wf]
    exact ⟨active, reached.2⟩
  · refine ⟨inv.1.step interfaces anyPointers mem' next, ?_⟩
    by_cases same : other = field
    · subst same
      exact .inr (rewriteStep_self active inv.2 next meets)
    · rw [rewriteStep_other (wf.name_ne mem' mem (Ne.symm same)) next]
      exact inv.2
  · rw [rewriteStep_other (wf.name_ne mem' mem different.symm) next]
    exact met

/-- The walk replaces the value of an interface field, and it stays an active field. -/
theorem rewritten_interfaceAt (wf : schema.WellFormed) (interfaces : onInterface.Present)
    (anyPointers : onAnyPointer.Present) {stack : ℕ} {get : ι} {record out : Record}
    {path : List (FieldDescriptor ι)} {n : ℕ} {value : Value}
    (held : InterfaceAt schema get record path n value)
    (done : rewriteCapabilities schema onInterface onAnyPointer stack get (.object record) =
      .ok (.object out)) :
    ∃ value', onInterface value = .ok value' ∧
    InterfaceAt schema get out path n (value'.getD value) := by
  induction stack generalizing get record out path with
  | zero => cases done
  | succ stack ih =>
    cases held with
    | @slot _ _ name n mask d mem active =>
      obtain ⟨active', value', rewritten, same⟩ := rewriteCapabilities_field
        (Q := fun v => ∃ value', onInterface (getProp record name) = .ok value' ∧
          v = value'.getD (getProp record name))
        wf interfaces anyPointers mem active done fun value' rewritten => ⟨value', rewritten, rfl⟩
      refine ⟨value', rewritten, ?_⟩
      rw [← same]
      exact .slot mem active'
    | @group _ _ name get' d path n value mem active inner =>
      obtain ⟨active', value', rewritten, inner'⟩ := rewriteCapabilities_field
        (Q := fun v => ∃ value', onInterface value = .ok value' ∧
          InterfaceAt schema get' (asRecord v) path n (value'.getD value))
        wf interfaces anyPointers mem active done fun nested rewritten => by
          obtain ⟨nested, entered, rfl⟩ := Fallible.map_eq_ok.1 rewritten
          obtain ⟨record', rfl⟩ := rewriteCapabilities_object entered
          exact ih inner entered
      exact ⟨value', rewritten, .group mem active' inner'⟩

end Rewriting

/-! ### The two walks -/

theorem remapInterface_present (mapping : IndexMap) : (remapInterface mapping).Present := by
  intro value value' done
  obtain ⟨index, -, same⟩ := Fallible.map_eq_ok.1 done
  obtain ⟨mapped, -, rfl⟩ := Option.map_eq_some_iff.1 same
  exact Value.noConfusion

theorem remapAnyPointer_present (mapping : IndexMap) : (remapAnyPointer mapping).Present := by
  intro value value' done
  obtain ⟨pointer, -, same⟩ := Fallible.map_eq_ok.1 done
  obtain ⟨mapped, -, rfl⟩ := Option.map_eq_some_iff.1 same
  exact Value.noConfusion

theorem resolveInterface_present (mapping : IndexMap) : (resolveInterface mapping).Present := by
  intro value value' done
  unfold resolveInterface at done
  split at done
  · cases done
  · cases done
  · split at done
    · have same := Except.ok.inj done
      split_ifs at same
      obtain ⟨mapped, -, rfl⟩ := Option.map_eq_some_iff.1 same
      exact Value.noConfusion
    · cases done

variable {mapping : IndexMap} {index mapped : ℕ}

theorem remapInterface_eq {value : Value} (denotes : capabilityIndexFrom value = .ok (some index))
    (found : mapping.get index = some mapped) :
    remapInterface mapping value = .ok (some (capabilityPointer mapped)) := by
  rw [remapInterface, denotes]
  show Except.ok ((mapping.get index).map capabilityPointer) = _
  rw [found]
  rfl

theorem resolveInterface_eq (small : index < 2 ^ 53) (found : mapping.get index = some mapped) :
    resolveInterface mapping (capabilityPointer index) = .ok (some (capabilityPointer mapped)) := by
  obtain ⟨integer, value⟩ := JsNumber.ofNat_value small
  show Except.ok (if _ then _ else _) = _
  rw [if_pos ⟨integer, by rw [value]; exact Int.natCast_nonneg index⟩, value,
    Int.toNat_natCast, found]
  rfl

/-! ## Cap tables -/

/-- The map and the table for a list of capabilities. -/
def tablesOf (ids : List ℕ) : IndexMap × List PreambleCapDescriptor :=
  (ids.zipIdx, ids.map fun id => ⟨CAP_DESCRIPTOR_TAG_SENDER_HOSTED, id⟩)

theorem lookup_zipIdx {ids : List ℕ} {id : ℕ} (mem : id ∈ ids) :
    ∃ k, IndexMap.get ids.zipIdx id = some k ∧ ids[k]? = some id := by
  cases found : IndexMap.get ids.zipIdx id with
  | some k =>
    obtain ⟨before, after, split, -⟩ := List.lookup_eq_some_iff.1 found
    have inside : (id, k) ∈ ids.zipIdx := split ▸ List.mem_append_right _ List.mem_cons_self
    exact ⟨k, rfl, List.mk_mem_zipIdx_iff_getElem?.1 inside⟩
  | none =>
    obtain ⟨k, low, rfl⟩ := List.getElem_of_mem mem
    have absent := List.lookup_eq_none_iff.1 found (ids[k], k)
      (List.mk_mem_zipIdx_iff_getElem?.2 (List.getElem?_eq_getElem low))
    simp at absent

theorem get_zipIdx_isSome {ids : List ℕ} {id : ℕ} : (IndexMap.get ids.zipIdx id).isSome ↔
    id ∈ ids := by
  constructor
  · intro there
    obtain ⟨k, found⟩ := Option.isSome_iff_exists.1 there
    obtain ⟨before, after, split, -⟩ := List.lookup_eq_some_iff.1 found
    have inside : (id, k) ∈ ids.zipIdx := split ▸ List.mem_append_right _ List.mem_cons_self
    exact List.mem_of_getElem? (List.mk_mem_zipIdx_iff_getElem?.1 inside)
  · intro mem
    obtain ⟨k, found, -⟩ := lookup_zipIdx mem
    rw [found]
    rfl

/-- The table lists the collected capabilities in order, each where it is met first. -/
theorem capTables_eq (collected : List CollectedCapability) :
    capTables collected = tablesOf (collected.map (·.capabilityIndex)).eraseDups := by
  induction collected using List.reverseRecOn with
  | nil => rfl
  | append_singleton collected entry ih =>
    have step : capTables (collected ++ [entry]) = addCapability (capTables collected) entry :=
      List.foldl_append
    have isKnown : (IndexMap.get (tablesOf (collected.map (·.capabilityIndex)).eraseDups).1
        entry.capabilityIndex).isSome ↔ entry.capabilityIndex ∈ collected.map (·.capabilityIndex) :=
      get_zipIdx_isSome.trans List.mem_eraseDups
    rw [step, ih, List.map_append, List.map_singleton, List.eraseDups_append]
    unfold addCapability
    by_cases known : entry.capabilityIndex ∈ collected.map (·.capabilityIndex)
    · have nothing : [entry.capabilityIndex].removeAll (collected.map (·.capabilityIndex)) =
          [] := by
        simpa [List.removeAll] using known
      rw [if_pos (isKnown.2 known), nothing, List.eraseDups_nil, List.append_nil]
    · have itself : [entry.capabilityIndex].removeAll (collected.map (·.capabilityIndex)) =
          [entry.capabilityIndex] := by
        simpa [List.removeAll] using known
      have once : [entry.capabilityIndex].eraseDups = [entry.capabilityIndex] := rfl
      rw [if_neg (known ∘ isKnown.1), itself, once]
      generalize (collected.map (·.capabilityIndex)).eraseDups = ids
      simp [tablesOf, List.zipIdx_append]

end CapnpDeno
