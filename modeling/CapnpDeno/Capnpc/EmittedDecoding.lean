import CapnpDeno.Capnpc.DefaultTermination
import CapnpDeno.Encoding.DecodeDepth

/-!
# Messages of an emitted schema

`decodeStructAt` calls the default of every struct that it decodes.  A message leads to the structs
that its descriptors name, so that every finite message of a request is decoded exactly where all
defaults of the request end.
-/

namespace CapnpDeno

open CallScript Filter

variable {ι : Type}

/-! ## The structs that a place leads to -/

/-- The descriptor of a struct or of a default. -/
def Nested.get : Nested ι → ι
  | .inl place => place.1
  | .inr get => get

section Named

variable {r : MessageReader} {c : Nested ι}

theorem named_structsInList {structsAt : ℕ → ℕ → CallScript (Nested ι) Thrown}
    {segmentId pointerWord : ℕ} {elementType : TypeDescriptor ι}
    (elements : ∀ segmentId pointerWord, c ∈ (structsAt segmentId pointerWord).calls →
      c.get ∈ elementType.named)
    (mem : c ∈ (structsInList r structsAt segmentId pointerWord elementType).calls) :
    c.get ∈ elementType.named := by
  obtain ⟨found, -, mem⟩ := mem_calls_after mem
  cases found with
  | none => cases mem
  | some list =>
    dsimp only at mem
    split at mem
    · split at mem
      · obtain ⟨i, -, mem⟩ := mem_calls_all mem
        cases List.mem_singleton.mp mem
        exact List.mem_singleton_self _
      · cases mem
    · by_cases pointers : isPointerType elementType = true
      · rw [if_pos pointers] at mem
        split at mem
        · obtain ⟨i, -, mem⟩ := mem_calls_all mem
          exact elements _ _ mem
        · cases mem
      · rw [if_neg pointers] at mem
        split at mem
        · split_ifs at mem
          · cases mem
          · cases mem
          · obtain ⟨i, -, mem⟩ := mem_calls_all mem
            cases mem
        · cases mem

theorem named_structsAt {segmentId pointerWord : ℕ} {type : TypeDescriptor ι}
    (mem : c ∈ (structsAt r segmentId pointerWord type).calls) : c.get ∈ type.named := by
  induction type generalizing segmentId pointerWord with
  | struct get =>
    obtain ⟨found, -, mem⟩ := mem_calls_after mem
    cases found with
    | none | some =>
      cases List.mem_singleton.mp mem
      exact List.mem_singleton_self _
  | list element ih =>
    unfold structsAt at mem
    show c.get ∈ element.named
    exact named_structsInList (fun _ _ mem => ih mem) mem
  | interface =>
    obtain ⟨word, -, mem⟩ := mem_calls_after mem
    split_ifs at mem <;> cases mem
  | anyPointer =>
    obtain ⟨resolved, -, mem⟩ := mem_calls_after mem
    split_ifs at mem <;> cases mem
  | primitive | enum | text | data => cases mem

theorem named_structsInField {structRef : StructRef} {field : FieldDescriptor ι}
    (mem : c ∈ (structsInField r structRef field).calls) : c.get ∈ field.named := by
  cases field with
  | group name get discriminantValue =>
    cases List.mem_singleton.mp mem
    exact List.mem_singleton_self _
  | slot name offset type defaultMask discriminantValue =>
    dsimp only [structsInField] at mem
    split_ifs at mem
    · cases mem
    · cases mem
    · cases mem
    · obtain ⟨pointerWord, -, mem⟩ := mem_calls_after mem
      obtain ⟨word, -, mem⟩ := mem_calls_after mem
      split_ifs at mem
      · cases mem
      · exact named_structsAt mem

/-- A struct leads to itself, by its default, and to the structs that its descriptor names. -/
theorem named_structsIn {schema : Schema ι} {place : StructPlace ι}
    (mem : c ∈ (structsIn r schema place).calls) :
    c = .inr place.1 ∨ c.get ∈ (schema place.1).fields.flatMap FieldDescriptor.named := by
  obtain default | mem := mem_calls_andThen mem
  · exact .inl (List.mem_singleton.mp default)
  · obtain ⟨active, -, mem⟩ := mem_calls_after mem
    obtain ⟨field, inside, mem⟩ := mem_calls_all mem
    split_ifs at mem
    · cases mem
    · exact .inr (List.mem_flatMap.mpr ⟨field, inside, named_structsInField mem⟩)

end Named

/-! ## Finite messages -/

section Messages

variable (schema : Schema ι)

/-- The structs of the message, each nested in another, come to an end. -/
def FiniteMessage (get : ι) (bytes : Bytes) : Prop :=
  ∀ r root, MessageReader.ofBytes bytes = .ok r → r.readStructPointer 0 0 = .ok (some root) →
    Acc (fun b a => .inl b ∈ (structsIn r schema a).calls) (get, root)

/-- All of a struct can be read, and so can the structs that are nested in it, which come to an
end. -/
inductive Readable (r : MessageReader) : StructPlace ι → Prop
  | intro {place : StructPlace ι} (fine : (structsIn r schema place).failure = none)
      (nested : ∀ place', .inl place' ∈ (structsIn r schema place).calls → Readable r place') :
      Readable r place

def ReadableMessage (get : ι) (bytes : Bytes) : Prop :=
  ∃ r root, MessageReader.ofBytes bytes = .ok r ∧ r.readStructPointer 0 0 = .ok root ∧
    ∀ ref, root = some ref → Readable schema r (get, ref)

/-- On every stack that is deep enough the message is decoded with the same result, which is a
record if all of the message can be read. -/
def Decodes (get : ι) (bytes : Bytes) : Prop :=
  Settles (fun stack => decodeStructMessage schema stack get) stackOverflow bytes ∧
    (ReadableMessage schema get bytes → ∃ record, ∀ᶠ stack in atTop,
      decodeStructMessage schema stack get bytes = .ok record)

variable {schema} {p : ι → Prop}

theorem Readable.finite {r : MessageReader} {place : StructPlace ι}
    (readable : Readable schema r place) :
    Acc (fun b a => .inl b ∈ (structsIn r schema a).calls) place := by
  induction readable with
  | intro fine nested ih => exact ⟨_, ih⟩

theorem ReadableMessage.finite {get : ι} {bytes : Bytes}
    (readable : ReadableMessage schema get bytes) :
    FiniteMessage schema get bytes := by
  obtain ⟨r, found, opened, rooted, readable⟩ := readable
  intro r' root opened' rooted'
  cases opened.symm.trans opened'
  cases rooted.symm.trans rooted'
  exact (readable root rfl).finite

/-- A schema whose descriptors have defaults, and name others that have. -/
structure Defaulted (schema : Schema ι) (p : ι → Prop) : Prop where
  returns : ∀ get, p get → ∃ stack record, schema.createDefault stack get = .ok record
  named : ∀ get, p get → ∀ get' ∈ (schema get).fields.flatMap FieldDescriptor.named, p get'

theorem Defaulted.of_call (h : Defaulted schema p) {r : MessageReader} {place : StructPlace ι}
    (start : p place.1) {c : Nested ι} (mem : c ∈ (structsIn r schema place).calls) : p c.get := by
  obtain rfl | named := named_structsIn mem
  · exact start
  · exact h.named place.1 start c.get named

theorem Defaulted.bounded (h : Defaulted schema p) {r : MessageReader} {place : StructPlace ι}
    (start : p place.1) (finite : Acc (fun b a => .inl b ∈ (structsIn r schema a).calls) place) :
    ∀ᶠ stack in atTop, (decodePlace schema r place).call stack ≠ .error stackOverflow :=
  (decodePlace_scripted schema r).bounded_of_acc (p := fun place => p place.1)
    (fun _ start _ mem => h.of_call start mem)
    (fun _ start get mem => h.returns get (h.of_call start mem)) finite start

theorem Defaulted.clean (h : Defaulted schema p) {r : MessageReader} {place : StructPlace ι}
    (start : p place.1) (readable : Readable schema r place) :
    Clean schema.defaults (structsIn r schema) (.inl place) := by
  induction readable with
  | @intro place fine nested ih =>
    refine .inside fine fun c mem => ?_
    cases c with
    | inl place' => exact ih place' mem (h.of_call start mem)
    | inr get =>
      obtain ⟨stack, record, returned⟩ := h.returns get (h.of_call start mem)
      exact .outside returned

/-- What is decoded for the root. -/
theorem decodeStructMessage_eq {r : MessageReader} {root : Option StructRef} {get : ι}
    {bytes : Bytes} (opened : MessageReader.ofBytes bytes = .ok r)
    (rooted : r.readStructPointer 0 0 = .ok root) (stack : ℕ) :
    decodeStructMessage schema stack get bytes =
      (root.elim (schema.defaults get) fun ref => decodePlace schema r (get, ref)).call stack := by
  unfold decodeStructMessage
  rw [opened, Fallible.ok_bind]
  show r.readStructPointer 0 (0 : ℕ) >>= _ = _
  rw [show r.readStructPointer 0 (0 : ℕ) = .ok root from rooted, Fallible.ok_bind]
  cases root <;> rfl

theorem Defaulted.decodes (h : Defaulted schema p) {get : ι} (start : p get) {bytes : Bytes}
    (finite : FiniteMessage schema get bytes) : Decodes schema get bytes := by
  constructor
  · cases opened : MessageReader.ofBytes bytes with
    | error e =>
      have unread : ∀ stack, decodeStructMessage schema stack get bytes = .error e := by
        intro stack
        rw [decodeStructMessage, opened, Fallible.error_bind]
      have fine : e ≠ stackOverflow := by
        rintro rfl
        exact shallow_ofBytes bytes opened
      exact ⟨.error e, fun same => fine (Except.error.inj same), .of_forall unread⟩
    | ok r =>
      cases rooted : r.readStructPointer 0 0 with
      | error e =>
        have unread : ∀ stack, decodeStructMessage schema stack get bytes = .error e := by
          intro stack
          rw [decodeStructMessage, opened, Fallible.ok_bind, rooted, Fallible.error_bind]
        have fine : e ≠ stackOverflow := by
          rintro rfl
          exact r.shallow_readStructPointer 0 0 rooted
        exact ⟨.error e, fun same => fine (Except.error.inj same), .of_forall unread⟩
      | ok root =>
        have same (stack) : decodeStructMessage schema stack get bytes = _ :=
          decodeStructMessage_eq opened rooted stack
        cases root with
        | none =>
          obtain ⟨stack, record, returned⟩ := h.returns get start
          refine ⟨.ok record, by simp, ?_⟩
          filter_upwards [(schema.defaults get).eventually_ok returned] with n done
          rw [same]
          exact done
        | some ref =>
          have bounded : ∀ᶠ stack in atTop, (decodePlace schema r (get, ref)).call stack ≠
              .error stackOverflow :=
            h.bounded start (finite r ref opened rooted)
          obtain ⟨stack, fine⟩ := bounded.exists
          refine ⟨_, fine, ?_⟩
          filter_upwards [(decodePlace schema r (get, ref)).eventually_eq fine] with n done
          rw [same]
          exact done
  · rintro ⟨r, root, opened, rooted, readable⟩
    have same (stack) : decodeStructMessage schema stack get bytes = _ :=
      decodeStructMessage_eq opened rooted stack
    have returns : ∃ stack record, (root.elim (schema.defaults get) fun ref =>
        decodePlace schema r (get, ref)).call stack =
        .ok record := by
      cases root with
      | none => exact h.returns get start
      | some ref =>
        have clean : Clean schema.defaults (structsIn r schema) (.inl (get, ref)) :=
          h.clean start (readable ref rfl)
        obtain ⟨stack, fine⟩ := ((decodePlace_scripted schema r).returns_of_clean clean).exists
        obtain ⟨record, done⟩ := errorOf_eq_none.mp fine
        exact ⟨stack, record, done⟩
    obtain ⟨stack, record, done⟩ := returns
    refine ⟨record, ?_⟩
    filter_upwards [StackFunction.eventually_ok _ done] with n done
    rw [same, done]

end Messages

/-! ## Requests -/

/-- A message with a null root. -/
def nullMessage : Bytes := [0, 0, 0, 0, 1, 0, 0, 0, 0, 0, 0, 0, 0, 0, 0, 0]

theorem nullMessage_root :
    MessageReader.ofBytes nullMessage = .ok ⟨[nullMessage.drop 8]⟩ ∧
      (⟨[nullMessage.drop 8]⟩ : MessageReader).readStructPointer 0 0 = .ok none := by
  constructor
  · rfl
  · rfl

theorem nullMessage_finite (schema : Schema ι) (get : ι) :
    FiniteMessage schema get nullMessage := by
  intro r root opened rooted
  cases nullMessage_root.1.symm.trans opened
  cases nullMessage_root.2.symm.trans rooted

section Generated

variable {localeCompare : String → String → ℤ} {request : CodeGeneratorRequestModel}
  {modules : Modules}

theorem createDefault_emittedSchema (modules : Modules) (stack : ℕ) (ref : ModuleRef) :
    (emittedSchema modules).createDefault stack ref = createDefault modules stack ref := by
  unfold Schema.createDefault emittedSchema
  cases modules.lookup ref <;> rfl

/-- Where no struct holds itself, all defaults of the request end. -/
theorem defaulted_of_acyclic (generated : generateTypescriptFiles localeCompare request =
      .ok modules)
    (linked : Linked modules)
    (acyclic : ∀ ref, Requested localeCompare request ref →
      ¬ Relation.TransGen (Holds localeCompare request) ref ref) :
    Defaulted (emittedSchema modules) (Requested localeCompare request) where
  returns ref requested := by
    have settles := (createDefault_settles_iff generated linked requested).mpr fun target leads =>
      acyclic target (requested_of_holds generated linked requested leads)
    obtain ⟨record, settled⟩ := settles
    obtain ⟨stack, done⟩ := settled.exists
    exact ⟨stack, record, by rw [createDefault_emittedSchema, done]⟩
  named ref requested target named := by
    obtain ⟨ctx, info, descriptor, -, -, found⟩ := emitted_of_requested generated requested
    rw [emittedSchema, found] at named
    exact (lookup_isSome_iff generated).mp
      (linked.named_known found (List.mem_append_right _ named))

/-- The default of a struct is made exactly where neither this struct nor one that it holds,
directly or through others, holds itself; and every finite message of the request is decoded exactly
where no struct does. -/
theorem createDefault_terminates (generated : generateTypescriptFiles localeCompare request =
      .ok modules)
    (linked : Linked modules) :
    (∀ ref, Requested localeCompare request ref →
      ((∃ record, ∀ᶠ stack in atTop, createDefault modules stack ref = .ok record) ↔
        ∀ target, Relation.ReflTransGen (Holds localeCompare request) ref target →
          ¬ Relation.TransGen (Holds localeCompare request) target target)) ∧
    ((∀ ref, Requested localeCompare request ref →
      ∀ bytes, FiniteMessage (emittedSchema modules) ref bytes →
        Decodes (emittedSchema modules) ref bytes) ↔
      ∀ ref, Requested localeCompare request ref →
        ¬ Relation.TransGen (Holds localeCompare request) ref ref) := by
  refine ⟨fun ref requested => createDefault_settles_iff generated linked requested,
    fun decodes ref requested cycle => ?_,
    fun acyclic ref requested bytes finite =>
      (defaulted_of_acyclic generated linked acyclic).decodes requested finite⟩
  obtain ⟨⟨result, fine, settled⟩, -⟩ := decodes ref requested nullMessage (nullMessage_finite _ _)
  obtain ⟨stack, same⟩ := settled.exists
  have default : decodeStructMessage (emittedSchema modules) stack ref nullMessage =
      createDefault modules stack ref := by
    rw [decodeStructMessage_eq nullMessage_root.1 nullMessage_root.2]
    exact createDefault_emittedSchema modules stack ref
  have overflows :=
    createDefault_overflows linked ((lookup_isSome_iff generated).mpr requested) .refl
    ((onCycle_iff generated linked requested).mpr cycle) stack
  exact fine (same.symm.trans (default.trans overflows))

end Generated

/-! ## Two structs -/

/-- A file with the structs `Outer { inner @0 :Inner; rest @1 :List(Outer); }` and `Inner { flag @0
:Bool; }`. -/
def nestedRequest : CodeGeneratorRequestModel :=
  { nodes :=
      [⟨1, "a.capnp", 0, [2, 3], .file, none, none, none⟩,
        ⟨2, "a.capnp:Outer", 8, [], .struct,
          some ⟨0, 2, 0, 0,
            [⟨"inner", 0, FIELD_NO_DISCRIMINANT, some ⟨0, .struct 3, none⟩, none⟩,
              ⟨"rest", 1, FIELD_NO_DISCRIMINANT, some ⟨1, .list (.struct 2), none⟩, none⟩]⟩,
                none, none⟩,
        ⟨3, "a.capnp:Inner", 8, [], .struct,
          some
            ⟨1, 0, 0, 0,
              [⟨"flag", 0, FIELD_NO_DISCRIMINANT, some ⟨0, .primitive .bool, none⟩, none⟩]⟩,
                none, none⟩]
    requestedFiles := [⟨1, "a.capnp"⟩] }

def nestedModules : Modules :=
  [(⟨1, 2⟩,
      ⟨0, 2, [("inner", .createDefault ⟨1, 3⟩), ("rest", .value (.array []))], none,
        [.slot "inner" 0 (.struct ⟨1, 3⟩) 0 none, .slot "rest" 1 (.list (.struct ⟨1, 2⟩)) 0 none]⟩),
    (⟨1, 3⟩, ⟨1, 0, [("flag", .value (.bool false))], none,
      [.slot "flag" 0 (.primitive .bool) 0 none]⟩)]

/-- An `Outer` with its `Inner` and a list of one `Outer` of nulls. -/
def outerMessage : Bytes :=
  [0, 0, 0, 0, 7, 0, 0, 0,
    0, 0, 0, 0, 0, 0, 2, 0,
    4, 0, 0, 0, 1, 0, 0, 0,
    5, 0, 0, 0, 0x17, 0, 0, 0,
    1, 0, 0, 0, 0, 0, 0, 0,
    4, 0, 0, 0, 0, 0, 2, 0,
    0, 0, 0, 0, 0, 0, 0, 0,
    0, 0, 0, 0, 0, 0, 0, 0]

theorem nested_generated : generateTypescriptFiles (fun _ _ => 0) nestedRequest =
    .ok nestedModules := by rfl

theorem nested_calls (ref : ModuleRef) : callsOf nestedModules ref = if ref = ⟨1, 2⟩ then [⟨1, 3⟩]
    else [] := by
  unfold callsOf nestedModules
  rw [lookup_pair, lookup_pair]
  split_ifs <;> rfl

def outerReader : MessageReader := ⟨[outerMessage.drop 8]⟩

theorem outer_structs :
    structsIn outerReader (emittedSchema nestedModules) (⟨1, 2⟩, ⟨0, 1, 0, 2⟩) =
        ⟨[.inr ⟨1, 2⟩, .inl (⟨1, 3⟩, ⟨0, 3, 1, 0⟩), .inl (⟨1, 2⟩, ⟨0, 5, 0, 2⟩)], none⟩ ∧
      structsIn outerReader (emittedSchema nestedModules) (⟨1, 3⟩, ⟨0, 3, 1, 0⟩) =
        ⟨[.inr ⟨1, 3⟩], none⟩ ∧
      structsIn outerReader (emittedSchema nestedModules) (⟨1, 2⟩, ⟨0, 5, 0, 2⟩) =
        ⟨[.inr ⟨1, 2⟩], none⟩ := by
  refine ⟨rfl, rfl, rfl⟩

theorem outer_readable : ReadableMessage (emittedSchema nestedModules) ⟨1, 2⟩ outerMessage := by
  obtain ⟨root, inner, element⟩ := outer_structs
  refine ⟨outerReader, some ⟨0, 1, 0, 2⟩, rfl, rfl, ?_⟩
  rintro ref ⟨⟩
  refine .intro (by rw [root]) fun place mem => ?_
  rw [root] at mem
  simp only [List.mem_cons, reduceCtorEq, Sum.inl.injEq, false_or, List.not_mem_nil,
    or_false] at mem
  obtain rfl | rfl := mem
  · exact .intro (by rw [inner]) fun place mem => by simp [inner] at mem
  · exact .intro (by rw [element]) fun place mem => by simp [element] at mem

theorem nested_terminates :
    generateTypescriptFiles (fun _ _ => 0) nestedRequest = .ok nestedModules ∧
      (∃ record, ∀ᶠ stack in atTop, createDefault nestedModules stack ⟨1, 2⟩ = .ok record) ∧
      ∃ record, ∀ᶠ stack in atTop,
        decodeStructMessage (emittedSchema nestedModules) stack ⟨1, 2⟩ outerMessage =
          .ok record := by
  have linked : Linked nestedModules := by decide
  have known : Requested (fun _ _ => 0) nestedRequest ⟨1, 2⟩ := ⟨by decide, rfl⟩
  obtain ⟨defaults, messages⟩ := createDefault_terminates nested_generated linked
  have acyclic : ∀ ref, Requested (fun _ _ => 0) nestedRequest ref →
      ¬ Relation.TransGen (Holds (fun _ _ => 0) nestedRequest) ref ref := by
    intro ref requested
    rw [← onCycle_iff nested_generated linked requested]
    have leaf : ∀ ref, ref ≠ ⟨1, 2⟩ → Acc (CalledBy (callsOf nestedModules)) ref := by
      intro ref other
      refine ⟨ref, fun target called => ?_⟩
      rw [CalledBy, nested_calls, if_neg other] at called
      cases called
    apply not_onCycle_of_acc
    by_cases outer : ref = ⟨1, 2⟩
    · refine ⟨ref, fun target called => ?_⟩
      rw [CalledBy, nested_calls, if_pos outer, List.mem_singleton] at called
      exact leaf target (by rw [called]; decide)
    · exact leaf ref outer
  refine ⟨nested_generated, (defaults ⟨1, 2⟩ known).mpr fun target leads => ?_, ?_⟩
  · exact acyclic target (requested_of_holds nested_generated linked known leads)
  · exact (messages.mpr acyclic ⟨1, 2⟩ known outerMessage outer_readable.finite).2 outer_readable

/-- A file with the struct `Recursive { next @0 :Recursive; }`. -/
def recursiveRequest : CodeGeneratorRequestModel :=
  { nodes :=
      [⟨1, "a.capnp", 0, [2], .file, none, none, none⟩,
        ⟨2, "a.capnp:Recursive", 8, [], .struct,
          some ⟨0, 1, 0, 0, [⟨"next", 0, FIELD_NO_DISCRIMINANT, some ⟨0, .struct 2, none⟩, none⟩]⟩,
            none, none⟩]
    requestedFiles := [⟨1, "a.capnp"⟩] }

def recursiveModules : Modules :=
  [(⟨1, 2⟩, ⟨0, 1, [("next", .createDefault ⟨1, 2⟩)], none,
    [.slot "next" 0 (.struct ⟨1, 2⟩) 0 none]⟩)]

/-- The default of the struct has no end, and no message of the struct is decoded. -/
theorem recursive_overflows :
    generateTypescriptFiles (fun _ _ => 0) recursiveRequest = .ok recursiveModules ∧
      Linked recursiveModules ∧
      (∀ stack, createDefault recursiveModules stack ⟨1, 2⟩ = .error stackOverflow) ∧
      ∀ stack r root bytes, MessageReader.ofBytes bytes = .ok r → r.readStructPointer 0 0 =
        .ok root →
        decodeStructMessage (emittedSchema recursiveModules) stack ⟨1, 2⟩ bytes =
          .error stackOverflow := by
  have linked : Linked recursiveModules := by decide
  have itself : (⟨1, 2⟩ : ModuleRef) ∈ callsOf recursiveModules ⟨1, 2⟩ := by decide
  have overflows := createDefault_overflows linked (linked.known itself) .refl (.single itself)
  refine ⟨rfl, linked, overflows, fun stack r root bytes opened rooted => ?_⟩
  rw [decodeStructMessage_eq opened rooted]
  cases root with
  | none => exact overflows stack
  | some ref =>
    cases stack with
    | zero => rfl
    | succ stack =>
      have default : (emittedSchema recursiveModules).createDefault stack ⟨1, 2⟩ =
          .error stackOverflow := overflows stack
      show decodeStructAt _ _ _ _ _ = _
      rw [decodeStructAt, default, Fallible.error_bind]

end CapnpDeno
