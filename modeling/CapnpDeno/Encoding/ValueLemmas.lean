import CapnpDeno.Encoding.RuntimeModel
import CapnpDeno.Lib.Fallible

/-!
# Numbers, records and unions

What the codec's values rest on: an index survives as a Number, a property is what was last assigned
to it, and the active member of a union depends on its own fields and its `which` only.
-/

namespace CapnpDeno

/-! ## Indices as Numbers -/

namespace JsNumber

theorem ofNat_fields {n : ℕ} (positive : n ≠ 0) (small : n < 2 ^ 53) :
    (ofNat n).negative = false ∧ (ofNat n).exponent = n.log2 + 1023 ∧
      (ofNat n).significand = n * 2 ^ (52 - n.log2) := by
  have top : n.log2 ≤ 52 := Nat.lt_succ_iff.1 ((Nat.log2_lt positive).2 small)
  have low : 2 ^ n.log2 ≤ n := Nat.log2_self_le positive
  have high : n < 2 ^ (n.log2 + 1) := Nat.lt_log2_self
  have scaled : n * 2 ^ 52 / 2 ^ n.log2 = n * 2 ^ (52 - n.log2) := by
    rw [← Nat.pow_sub_mul_pow 2 top, ← Nat.mul_assoc]
    exact Nat.mul_div_cancel _ (Nat.two_pow_pos _)
  have least : 2 ^ 52 ≤ n * 2 ^ (52 - n.log2) := by
    calc 2 ^ 52 = 2 ^ n.log2 * 2 ^ (52 - n.log2) := by rw [← Nat.pow_add, Nat.add_sub_cancel' top]
      _ ≤ _ := Nat.mul_le_mul_right _ low
  have most : n * 2 ^ (52 - n.log2) < 2 ^ 53 := by
    calc n * 2 ^ (52 - n.log2) < 2 ^ (n.log2 + 1) * 2 ^ (52 - n.log2) :=
          Nat.mul_lt_mul_of_pos_right high (Nat.two_pow_pos _)
      _ = 2 ^ 53 := by
          rw [← Nat.pow_add]
          congr 1
          omega
  have word : (ofNat n).bits.toNat = (n.log2 + 1023) * 2 ^ 52 +
      (n * 2 ^ (52 - n.log2) - 2 ^ 52) := by
    rw [ofNat, if_neg positive, scaled, UInt64.toNat_ofNat']
    generalize n * 2 ^ (52 - n.log2) = m at least most
    omega
  unfold negative exponent significand fraction
  unfold exponent
  rw [word]
  generalize n * 2 ^ (52 - n.log2) = m at least most
  refine ⟨by simp; omega, by omega, ?_⟩
  rw [if_neg (by omega)]
  omega

theorem ofNat_finite {n : ℕ} (small : n < 2 ^ 53) :
    (ofNat n).negative = false ∧ (ofNat n).isFinite = true ∧
      (ofNat n).significand * 2 ^ (ofNat n).scale = n * 2 ^ 1075 := by
  by_cases zero : n = 0
  · subst zero
    exact ⟨by decide, by decide, (Nat.zero_mul _).trans (Nat.zero_mul _).symm⟩
  obtain ⟨sign, exponent, significand⟩ := ofNat_fields zero small
  have top : n.log2 ≤ 52 := Nat.lt_succ_iff.1 ((Nat.log2_lt zero).2 small)
  refine ⟨sign, ?_, ?_⟩
  · rw [isFinite, exponent]
    exact decide_eq_true (by omega)
  · have total : 52 - n.log2 + (n.log2 + 1023) = 1075 := by omega
    have power := (Nat.pow_add 2 _ _).symm.trans (congrArg (2 ^ ·) total)
    rw [significand, scale, exponent, max_eq_left (by omega), Nat.mul_assoc]
    exact congrArg (n * ·) power

/-- The double of a small natural has no fraction and its value. -/
theorem ofNat_value {n : ℕ} (small : n < 2 ^ 53) :
    (ofNat n).isInteger = true ∧ (ofNat n).trunc = n := by
  obtain ⟨sign, finite, exact⟩ := ofNat_finite small
  have unit := Nat.two_pow_pos 1075
  unfold isInteger trunc magnitude
  rw [sign, finite, exact]
  refine ⟨?_, ?_⟩
  · rw [Nat.mul_mod_left]
    rfl
  · rw [Nat.mul_div_cancel _ unit]
    rfl

end JsNumber

theorem capabilityIndexFrom_capabilityPointer {index : ℕ} (small : index < 2 ^ 53) :
    capabilityIndexFrom (capabilityPointer index) = .ok (some index) := by
  obtain ⟨integer, value⟩ := JsNumber.ofNat_value small
  show indexOfNumber (.ofNat index) = _
  rw [indexOfNumber, if_pos ⟨integer, by rw [value]; exact Int.natCast_nonneg index⟩, value]
  rfl

/-! ## Properties -/

theorem lookup_setProp (record : Record) (name name' : String) (value : Value) :
    (setProp record name value).lookup name' =
      if name' = name then some value else record.lookup name' := by
  induction record with
  | nil =>
    rw [setProp, List.lookup_cons]
    by_cases same : name' = name
    · simp [same]
    · simp [same, beq_false_of_ne same]
  | cons prop record ih =>
    obtain ⟨key, old⟩ := prop
    unfold setProp
    by_cases here : key = name
    · subst here
      rw [if_pos rfl, List.lookup_cons, List.lookup_cons]
      by_cases same : name' = key
      · simp [same]
      · simp [same, beq_false_of_ne same]
    · rw [if_neg here, List.lookup_cons, List.lookup_cons, ih]
      by_cases found : name' = key
      · simp [found, here]
      · simp [beq_false_of_ne found]

@[simp] theorem getProp_setProp_self (record : Record) (name : String) (value : Value) :
    getProp (setProp record name value) name = value := by
  rw [getProp, lookup_setProp, if_pos rfl, Option.getD_some]

theorem getProp_setProp_other {record : Record} {name name' : String} (other : name' ≠ name)
    (value : Value) : getProp (setProp record name value) name' = getProp record name' := by
  rw [getProp, lookup_setProp, if_neg other, getProp]

theorem getProp_assign_other {record : Record} {name name' : String} (other : name' ≠ name)
    (value : Option Value) : getProp (assign record name value) name' = getProp record name' := by
  cases value with
  | none => rfl
  | some value => exact getProp_setProp_other other value

theorem getProp_assign_self (record : Record) (name : String) (value : Option Value) :
    getProp (assign record name value) name = value.getD (getProp record name) := by
  cases value with
  | none => rfl
  | some value => exact getProp_setProp_self record name value

theorem isPresentField_iff {record : Record} {name : String} :
    isPresentField record name = true ↔ getProp record name ≠ .undefined := by
  unfold isPresentField
  cases getProp record name with
  | undefined => simp
  | _ => simp

/-- A property that is there stays there when a present value is assigned. -/
theorem isPresentField_assign {record : Record} {name name' : String} {value : Option Value}
    (there : isPresentField record name' = true) (present : ∀ v, value = some v → v ≠ .undefined) :
    isPresentField (assign record name value) name' = true := by
  rw [isPresentField_iff] at there ⊢
  by_cases same : name' = name
  · subst same
    rw [getProp_assign_self]
    cases value with
    | none => exact there
    | some v => exact present v rfl
  · rwa [getProp_assign_other same]

/-! ## The active member of a union -/

/-- A search whose first hit is `a` still hits `a` when more places do. -/
theorem findSome?_getD_congr {α : Type} {f g : α → Option ℕ} {l : List α} {fallback a : ℕ}
    (hit : (l.findSome? f).getD fallback = a) (same : ∀ x ∈ l, g x = f x ∨ g x = some a) :
    (l.findSome? g).getD fallback = a := by
  induction l with
  | nil => exact hit
  | cons x l ih =>
    rw [List.findSome?_cons] at hit ⊢
    obtain here | here := same x List.mem_cons_self
    · rw [here]
      cases found : f x with
      | some d =>
        rw [found] at hit
        exact hit
      | none =>
        rw [found] at hit
        exact ih hit fun y mem => same y (List.mem_cons_of_mem x mem)
    · rw [here]
      rfl

/-- The member that a record names. -/
def namedMember (union : StructUnionDescriptor) (record : Record) : Option ℕ :=
  match getProp record "which" with
  | .string which => union.byName.lookup which
  | _ => none

section Union

variable {ι : Type} {descriptor : StructDescriptor ι} {record record' : Record}

/-- The discriminant of a field that is there. -/
def presentMember (record : Record) (field : FieldDescriptor ι) : Option ℕ :=
  match field.discriminantValue with
  | none => none
  | some d => if isPresentField record field.name then some d else none

theorem resolveActiveDiscriminant_eq (descriptor : StructDescriptor ι) (record : Record) :
    resolveActiveDiscriminant descriptor record = descriptor.union.map fun union =>
      ((namedMember union record).or (descriptor.fields.findSome? (presentMember record))).getD
        union.defaultDiscriminant := rfl

/-- A record that names a member has it. -/
theorem resolveActiveDiscriminant_which {union : StructUnionDescriptor} {tag : String} {d : ℕ}
    (union_eq : descriptor.union = some union) (which : getProp record "which" = .string tag)
    (known : union.byName.lookup tag = some d) :
    resolveActiveDiscriminant descriptor record = some d := by
  rw [resolveActiveDiscriminant_eq, union_eq, Option.map_some, namedMember, which]
  simp only [known, Option.some_or, Option.getD_some]

theorem presentMember_congr {field : FieldDescriptor ι} {active : ℕ}
    (inactive : isInactive field (some active) = true →
      getProp record' field.name = getProp record field.name)
    (present : isPresentField record field.name = true → isPresentField record' field.name = true) :
    presentMember record' field = presentMember record field ∨
      presentMember record' field = some active := by
  unfold presentMember
  cases value : field.discriminantValue with
  | none => exact .inl rfl
  | some d =>
    dsimp only
    by_cases other : d = active
    · subst other
      by_cases there : isPresentField record' field.name = true
      · exact .inr (if_pos there)
      · rw [if_neg there, if_neg fun before => there (present before)]
        exact .inl rfl
    · have passed : isInactive field (some active) = true := by
        unfold isInactive
        rw [value]
        exact decide_eq_true other
      rw [isPresentField, isPresentField, inactive passed]
      exact .inl rfl

/-- New values for present or active fields leave the active member what it is. -/
theorem resolveActiveDiscriminant_congr
    (which : descriptor.union ≠ none → getProp record' "which" = getProp record "which")
    (inactive : ∀ field ∈ descriptor.fields,
      isInactive field (resolveActiveDiscriminant descriptor record) = true →
        getProp record' field.name = getProp record field.name)
    (present : ∀ field ∈ descriptor.fields, isPresentField record field.name = true →
      isPresentField record' field.name = true) :
    resolveActiveDiscriminant descriptor record' = resolveActiveDiscriminant descriptor record := by
  rw [resolveActiveDiscriminant_eq] at inactive
  rw [resolveActiveDiscriminant_eq, resolveActiveDiscriminant_eq]
  cases union : descriptor.union with
  | none => rfl
  | some u =>
    have named : namedMember u record' = namedMember u record := by
      rw [namedMember, namedMember, which (by rw [union]; exact Option.some_ne_none u)]
    rw [union, Option.map_some] at inactive
    rw [Option.map_some, Option.map_some, named]
    cases member : namedMember u record with
    | some active => rfl
    | none =>
      rw [member, Option.none_or] at inactive
      rw [Option.none_or, Option.none_or, Option.some.injEq]
      exact findSome?_getD_congr rfl fun field mem =>
        presentMember_congr (inactive field mem) (present field mem)

end Union

end CapnpDeno
