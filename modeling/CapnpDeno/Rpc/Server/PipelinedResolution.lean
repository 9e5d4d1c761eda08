import CapnpDeno.Encoding.CapabilityRoundTrip
import CapnpDeno.Rpc.Server.BridgeStep

/-!
# Pipelined resolution and result decoding

A handler answers with an encoded result and its cap table.  The caller of a pipelined call selects
a capability of the result by a pointer index, which the bridge takes for a place in the cap table;
the decoder of the result finds the capability of a field through the index in the field's pointer.
The two meet where the field's capability is the one that the walk over the result met at that
place.
-/

namespace CapnpDeno

variable {ι : Type} {schema : Schema ι}

/-- The result as the answer of a handler. -/
def EncodeWithCapsResult.toResponse (result : EncodeWithCapsResult)
    (releaseParamCaps noFinishNeeded : Option Bool) : RpcCallResponse :=
  ⟨some result.content, some (result.capTable.map fun descriptor =>
    ⟨descriptor.tag, descriptor.id⟩), releaseParamCaps, noFinishNeeded⟩

/-- The transform with the single operation `getPointerField(n)`. -/
def getPointerField (n : ℕ) : Option (List RpcPromisedAnswerOp) :=
  some [⟨RPC_PROMISED_ANSWER_OP_TAG_GET_POINTER_FIELD, some n⟩]

/-- The reason of a call to a place that the cap table does not have. -/
def outOfRange (n entries : ℕ) : String :=
  s!"promisedAnswer transform getPointerField({n}) is out of range; cap table has {entries} entries"

/-- The operation selects an entry of the cap table. -/
theorem resolve_getPointerField (response : RpcCallResponse) (n : ℕ) :
    resolvePromisedAnswerCapability (.results response) (getPointerField n) =
      match (response.capTable.getD [])[n]? with
      | some descriptor => .ok descriptor.id
      | none => .error (protocolError (outOfRange n (response.capTable.getD []).length)) := rfl

/-- The capability that a pipelined call gets: the one at the place, among the distinct ones of the
result. -/
theorem resolve_toResponse {stack : ℕ} {get : ι} {value : Value} {result : EncodeWithCapsResult}
    (encoded : encodeStructMessageWithCaps schema stack get value = .ok result)
    (releaseParamCaps noFinishNeeded : Option Bool) :
    ∃ collected, collectCapabilityPointersFromStruct schema stack get value "" = .ok collected ∧
      ∀ n, resolvePromisedAnswerCapability
          (.results (result.toResponse releaseParamCaps noFinishNeeded)) (getPointerField n) =
        match (capabilitiesOf collected)[n]? with
        | some capabilityIndex => .ok capabilityIndex
        | none => .error (protocolError (outOfRange n (capabilitiesOf collected).length)) := by
  obtain ⟨collected, walked, -, table, -⟩ := encodeStructMessageWithCaps_eq_ok encoded
  refine ⟨collected, walked, fun n => ?_⟩
  rw [resolve_getPointerField, EncodeWithCapsResult.toResponse, table, tablesOf, Option.getD_some,
    List.map_map, List.getElem?_map, List.length_map]
  cases (capabilitiesOf collected)[n]? <;> rfl

/-- The stage of a call whose target has an outcome: that of a call to the capability selected, or
the exception. -/
theorem dispatchToAnswer_stage (b : RpcServerBridge) (call : RpcCallRequest) (parent : EntryId)
    (outcome : RpcDispatchOutcome) (transform : Option (List RpcPromisedAnswerOp)) :
    (b.dispatchToAnswer call parent outcome transform).2 =
      match resolvePromisedAnswerCapability outcome transform with
      | .error error => .dispatched (.exception error.message none)
      | .ok capabilityIndex => b.dispatchToCapability capabilityIndex call (some parent) := by
  unfold RpcServerBridge.dispatchToAnswer
  cases resolvePromisedAnswerCapability outcome transform with
  | error error => rfl
  | ok capabilityIndex =>
    dsimp only
    split
    · rename_i same
      exact same.symm
    · rfl

/-- **Pipelined resolution.**  A call pipelined on an encoded result with `getPointerField(n)` goes
to the capability that the walk over the result meets at place `n` among the distinct ones, and gets
an exception exactly when there are no more than `n`.  Decoding the result yields every interface
field's own capability: the call goes to that of the field at pointer index `n` exactly when the
walk meets it at place `n`. -/
theorem pipelined_getPointerField (wf : schema.WellFormed) {stack : ℕ} {get : ι} {value : Value}
    {result : EncodeWithCapsResult} (encoded : encodeStructMessageWithCaps schema stack get value =
      .ok result)
    (releaseParamCaps noFinishNeeded : Option Bool) :
    ∃ collected, collectCapabilityPointersFromStruct schema stack get value "" = .ok collected ∧
      (∀ n (b : RpcServerBridge) call parent,
        (b.dispatchToAnswer call parent
          (.results (result.toResponse releaseParamCaps noFinishNeeded))
            (getPointerField n)).2 =
          match (capabilitiesOf collected)[n]? with
          | some capabilityIndex => b.dispatchToCapability capabilityIndex call (some parent)
          | none =>
            .dispatched (.exception (outOfRange n (capabilitiesOf collected).length) none)) ∧
      ∀ path n fieldValue index, InterfaceAt schema get (asRecord value) path n fieldValue →
        capabilityIndexFrom fieldValue = .ok (some index) →
          (∀ stack' decoded, decodeStructMessageWithCaps schema stack' get result.content
            result.capTable =
            .ok decoded → InterfaceAt schema get (asRecord decoded) path n
              (capabilityPointer index)) ∧
          (resolvePromisedAnswerCapability
            (.results (result.toResponse releaseParamCaps noFinishNeeded))
            (getPointerField n) = .ok index ↔ (capabilitiesOf collected)[n]? = some index) := by
  obtain ⟨collected, walked, resolves⟩ := resolve_toResponse encoded releaseParamCaps noFinishNeeded
  refine ⟨collected, walked, fun n b call parent => ?_, fun path n fieldValue index held denotes =>
    ⟨fun stack' decoded read => interfaceAt_decodeStructMessageWithCaps wf held denotes encoded
      read, ?_⟩⟩
  · rw [dispatchToAnswer_stage, resolves]
    cases (capabilitiesOf collected)[n]? <;> rfl
  · rw [resolves]
    cases (capabilitiesOf collected)[n]? with
    | none => exact ⟨nofun, nofun⟩
    | some capabilityIndex => rw [Except.ok.injEq, Option.some.injEq]

/-! ## A null field before the capability -/

/-- A struct of two capabilities. -/
def twoCapabilities : Schema Unit := fun _ =>
  ⟨0, 2, [.slot "first" 0 .interface 0 none, .slot "second" 1 .interface 0 none],
    .const [("first", .null), ("second", .null)], none⟩

/-- A field is at the pointer index that its name stands for. -/
theorem twoCapabilities_mem {field : FieldDescriptor Unit}
    (mem : field ∈ (twoCapabilities ()).fields) :
    field = .slot "first" 0 .interface 0 none ∨ field = .slot "second" 1 .interface 0 none := by
  simpa [twoCapabilities] using mem

theorem twoCapabilities_occupies {name : String} {n k : ℕ}
    (bit : Occupies twoCapabilities () (.slot name n .interface 0 none) k) : k / 64 = n := by
  cases bit with
  | slot bit =>
    have range : k ∈ Set.Ico (64 * (0 + n)) (64 * (0 + n) + 64) := bit
    rw [Set.mem_Ico] at range
    omega

theorem twoCapabilities_wellFormed : twoCapabilities.WellFormed where
  names := fun () => by decide
  sizes := fun () => by decide
  pointers := fun () name offset type mask d mem _ => by
    obtain same | same := twoCapabilities_mem mem <;> cases same <;> decide
  groups _ name get' d mem := by
    obtain same | same := twoCapabilities_mem mem <;> cases same
  apart _ field mem other mem' different _ k bit bit' := by
    obtain rfl | rfl := twoCapabilities_mem mem <;> obtain rfl | rfl := twoCapabilities_mem mem'
    · exact different rfl
    · exact absurd ((twoCapabilities_occupies bit).symm.trans (twoCapabilities_occupies bit'))
        (by decide)
    · exact absurd ((twoCapabilities_occupies bit).symm.trans (twoCapabilities_occupies bit'))
        (by decide)
    · exact different rfl
  tagged _ _ _ k bit := bit.elim
  unions _ _ present := nomatch present
  members _ field mem d value := by
    obtain rfl | rfl := twoCapabilities_mem mem <;> cases value

/-- The result with a null first field, encoded. -/
def secondOnly : EncodeWithCapsResult :=
  ⟨[0, 0, 0, 0, 3, 0, 0, 0, 0, 0, 0, 0, 0, 0, 2, 0, 0, 0, 0, 0, 0, 0, 0, 0, 3, 0, 0, 0, 0, 0, 0, 0],
    [⟨1, 7⟩]⟩

theorem encode_secondOnly :
    encodeStructMessageWithCaps twoCapabilities 2 () (.object [("second", capabilityPointer 7)]) =
      .ok secondOnly := by
  decide +kernel

theorem collect_secondOnly :
    collectCapabilityPointersFromStruct twoCapabilities 2 ()
    (.object [("second", capabilityPointer 7)]) "" =
      .ok [⟨"second", 7⟩] := by
  decide +kernel

/-- The call that selects the null field goes to the capability, the one that selects the capability
gets an exception. -/
theorem pipelined_getPointerField_secondOnly :
    (∀ (b : RpcServerBridge) call parent,
      (b.dispatchToAnswer call parent (.results (secondOnly.toResponse none none))
        (getPointerField 0)).2 = b.dispatchToCapability 7 call (some parent)) ∧
      (∀ (b : RpcServerBridge) call parent,
        (b.dispatchToAnswer call parent (.results (secondOnly.toResponse none none))
          (getPointerField 1)).2 = .dispatched (.exception (outOfRange 1 1) none)) ∧
      ∀ stack decoded, decodeStructMessageWithCaps twoCapabilities stack () secondOnly.content
        secondOnly.capTable = .ok decoded →
          InterfaceAt twoCapabilities () (asRecord decoded) [.slot "second" 1 .interface 0 none] 1
            (capabilityPointer 7) := by
  obtain ⟨collected, walked, routed, fields⟩ :=
    pipelined_getPointerField twoCapabilities_wellFormed encode_secondOnly none none
  cases collect_secondOnly.symm.trans walked
  refine ⟨routed 0, routed 1, fun stack decoded read => ?_⟩
  have held : InterfaceAt twoCapabilities () (asRecord (.object [("second", capabilityPointer 7)]))
      [.slot "second" 1 .interface 0 none] 1 (capabilityPointer 7) :=
    .slot (List.mem_cons_of_mem _ (List.mem_singleton_self _)) rfl
  exact (fields _ 1 _ 7 held (by decide +kernel)).1 stack decoded read

/-- The field that decodes to the capability is not the one that a pipelined call reaches it by. -/
theorem decoded_unlike_pipelined :
    encodeStructMessageWithCaps twoCapabilities 2 () (.object [("second", capabilityPointer 7)]) =
        .ok secondOnly ∧
      (do let decoded
        ← decodeStructMessageWithCaps twoCapabilities 2 () secondOnly.content secondOnly.capTable
          return (← capabilityIndexFrom (getProp (asRecord decoded) "first"),
            ← capabilityIndexFrom (getProp (asRecord decoded) "second"))) = .ok (none, some 7) ∧
      resolvePromisedAnswerCapability (.results (secondOnly.toResponse none none))
      (getPointerField 1) =
        .error (protocolError (outOfRange 1 1)) ∧
      resolvePromisedAnswerCapability (.results (secondOnly.toResponse none none))
      (getPointerField 0) =
        .ok 7 :=
  ⟨encode_secondOnly, by decide +kernel, rfl, rfl⟩

end CapnpDeno
