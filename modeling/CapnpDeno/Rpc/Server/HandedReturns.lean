import CapnpDeno.Rpc.Server.AnswerHolds

/-!
# The Returns handed over

What the peer has been told to hold for each question that it has not finished, from the Returns
alone, and what the entries of the answer table hold.  The two agree for the entries in the table;
the peer also keeps what it got from an entry that was evicted.
-/

namespace CapnpDeno

/-- The capabilities a Return names as its sender's. -/
def senderHosted (capTable : List RpcCapDescriptor) : List ℕ :=
  (capTable.filter (·.tag = CAP_DESCRIPTOR_TAG_SENDER_HOSTED)).map (·.id)

/-- What the Returns for each unfinished question name, each capability with the entry that
answered. -/
abbrev HandedReturns := ℕ → List (EntryId × ℕ)

namespace HandedReturns

/-- A Return is handed over for the entry. -/
def handOver (answers : HandedReturns) (i : EntryId) (frame : RpcReturnMessage) : HandedReturns :=
  Function.update answers frame.answerId
    (answers frame.answerId ++ (senderHosted frame.capTable).map (i, ·))

/-- The peer has finished the question. -/
def finish (answers : HandedReturns) (questionId : ℕ) : HandedReturns :=
  Function.update answers questionId []

/-- What named the index before was another capability. -/
def exported (answers : HandedReturns) (c : ℕ) : HandedReturns :=
  fun questionId => (answers questionId).filter (·.2 ≠ c)

/-- The entry is answered without these capabilities after all. -/
def withdraw (answers : HandedReturns) (i : EntryId) (capabilities : List ℕ) : HandedReturns :=
  fun questionId => (answers questionId).filter fun answer =>
    ¬ (answer.1 = i ∧ answer.2 ∈ capabilities)

/-- The capabilities that the Returns for the question name. -/
def named (answers : HandedReturns) (questionId : ℕ) : List ℕ := (answers questionId).map Prod.snd

variable {answers : HandedReturns} {i : EntryId} {frame : RpcReturnMessage} {c questionId : ℕ}

theorem handOver_self :
    answers.handOver i frame frame.answerId =
      answers frame.answerId ++ (senderHosted frame.capTable).map (i, ·) :=
  Function.update_self _ _ _

theorem handOver_other (other : questionId ≠ frame.answerId) :
    answers.handOver i frame questionId = answers questionId :=
  Function.update_of_ne other _ _

@[simp] theorem handOver_nothing (nothing : frame.capTable = []) :
    answers.handOver i frame = answers := by
  unfold handOver senderHosted
  rw [nothing, List.filter_nil, List.map_nil, List.map_nil, List.append_nil]
  exact Function.update_eq_self _ _

end HandedReturns

namespace RpcServerBridge

variable {registry : Registry} {capTable : List RpcCapDescriptor} {bootstrap : Bool} {c : ℕ}

theorem mem_senderHosted : c ∈ senderHosted capTable ↔
    ∃ descriptor ∈ capTable, descriptor.tag = CAP_DESCRIPTOR_TAG_SENDER_HOSTED ∧
    descriptor.id = c := by
  unfold senderHosted
  simp only [List.mem_map, List.mem_filter, decide_eq_true_eq, and_assoc]

theorem senderHosted_cons (descriptor : RpcCapDescriptor) :
    senderHosted (descriptor :: capTable) =
      if descriptor.tag = CAP_DESCRIPTOR_TAG_SENDER_HOSTED then descriptor.id ::
        senderHosted capTable
      else senderHosted capTable := by
  unfold senderHosted
  rw [List.filter_cons]
  simp only [decide_eq_true_eq]
  split_ifs <;> rfl

/-- A Return that names nothing registered changes nothing. -/
theorem trackDescriptor_unregistered {held : List ℕ}
    (unknown : ∀ c ∈ senderHosted capTable, registry.lookup c = none) :
    capTable.foldl (trackDescriptor bootstrap) (registry, held) = (registry, held) := by
  induction capTable with
  | nil => rfl
  | cons descriptor capTable ih =>
    have same : trackDescriptor bootstrap (registry, held) descriptor = (registry, held) := by
      rcases trackDescriptor_cases bootstrap (registry, held) descriptor with
        ⟨same, -⟩ | ⟨registered, hosted, found, -⟩
      · exact same
      · have absent :=
          unknown descriptor.id (mem_senderHosted.2 ⟨_, List.mem_cons_self, hosted, rfl⟩)
        cases absent.symm.trans found
    rw [List.foldl_cons, same]
    refine ih fun c mem => unknown c ?_
    rw [senderHosted_cons]
    split_ifs
    · exact List.mem_cons_of_mem _ mem
    · exact mem

/-- What is held of a Return is what it names, of what is registered. -/
theorem count_tracked (capTable : List RpcCapDescriptor)
    (known : (registry.lookup c).isSome = true) :
    (tracked registry capTable bootstrap).2.count c = (senderHosted capTable).count c := by
  suffices grown : ∀ held, (capTable.foldl (trackDescriptor bootstrap) (registry, held)).2.count c =
      held.count c + (senderHosted capTable).count c by
    rw [tracked, grown, List.count_nil, zero_add]
  induction capTable generalizing registry with
  | nil => exact fun held => rfl
  | cons descriptor capTable ih =>
    intro held
    have stays : ((trackDescriptor bootstrap (registry, held) descriptor).1.lookup c).isSome =
        true :=
      trackDescriptor_registers.trans known
    have rest := ih stays (trackDescriptor bootstrap (registry, held) descriptor).2
    rw [List.foldl_cons, rest, senderHosted_cons]
    rcases trackDescriptor_cases bootstrap (registry, held) descriptor with
      ⟨same, unknown⟩ | ⟨registered, hosted, found, same⟩
    · rw [same]
      rcases unknown with foreign | absent
      · rw [if_neg foreign]
      · split_ifs
        · have other : descriptor.id ≠ c := by
            rintro rfl
            rw [absent] at known
            cases known
          rw [List.count_cons_of_ne other]
        · rfl
    · rw [same, if_pos hosted]
      dsimp only
      rw [List.count_append, List.count_cons, List.count_cons, List.count_nil]
      omega

end RpcServerBridge

/-- The answers in the table hold what the Returns that came from them name, of what is
registered. -/
structure Books.Handed (k : Books) (answers : HandedReturns) : Prop where
  held : ∀ questionId i c, k.answers.lookup questionId = some i →
    (k.registry.lookup c).isSome = true →
    (answers questionId).count (i, c) = (k.heldAt i).count c
  made : ∀ questionId, ∀ answer ∈ answers questionId, answer.1 < k.held.length

namespace Books

variable {k k' : Books} {answers : HandedReturns} {i : EntryId} {frame : RpcReturnMessage}
  {c questionId : ℕ} {bootstrap : Bool}

/-- Registrations and answers go; what stays is as it was. -/
theorem Handed.fewer (handed : k.Handed answers)
    (inherits : RpcServerBridge.Inherits k.registry k'.registry)
    (there : ∀ questionId i, k'.answers.lookup questionId = some i →
      k.answers.lookup questionId = some i ∧ k'.heldAt i = k.heldAt i)
    (made : k'.held.length = k.held.length) : k'.Handed answers := by
  refine ⟨fun questionId i c found registered => ?_, fun questionId answer mem => ?_⟩
  · obtain ⟨found', same⟩ := there questionId i found
    obtain ⟨after, kept⟩ := Option.isSome_iff_exists.1 registered
    obtain ⟨before, known, -⟩ := inherits c after kept
    rw [same]
    exact handed.held questionId i c found' (known ▸ rfl)
  · rw [made]
    exact handed.made questionId answer mem

/-- An answer leaves the table with its holds ended. -/
theorem Handed.leave (handed : k.Handed answers) (apart : k.Apart)
    (found : k.answers.lookup questionId = some i) (releaseWireRefs : Bool) :
    ((k.endHolds i releaseWireRefs).forget questionId).Handed answers := by
  refine handed.fewer (RpcServerBridge.inherits_releaseHolds _) (fun other j there => ?_)
    (List.length_modify _ _ _)
  change (k.answers.erase questionId).lookup other = some j at there
  rw [Table.lookup_erase] at there
  split_ifs at there with here
  have apart' : j ≠ i := by
    rintro rfl
    exact here (apart _ _ _ there found)
  have same : (k.endHolds i releaseWireRefs).heldAt j = k.heldAt j := heldAt_endHolds apart'
  exact ⟨there, same⟩

/-- A new entry has handed nothing over. -/
theorem Handed.accept (handed : k.Handed answers) (questionId : ℕ) :
    (k.accept questionId).Handed answers := by
  refine ⟨fun other i c found registered => ?_, fun other answer mem => ?_⟩
  · rw [heldAt_accept]
    change (k.answers.insert questionId k.held.length).lookup other = some i at found
    rw [Table.lookup_insert] at found
    split_ifs at found with here
    · cases found
      have nothing : k.heldAt k.held.length = [] := by
        unfold heldAt
        rw [List.getElem?_eq_none le_rfl]
        rfl
      rw [nothing, List.count_nil, List.count_eq_zero]
      intro mem
      exact (handed.made other _ mem).false
    · exact handed.held other i c found registered
  · have grown : (k.accept questionId).held.length = k.held.length + 1 := by
      unfold Books.accept
      simp
    rw [grown]
    exact Nat.lt_succ_of_lt (handed.made other answer mem)

/-- The capability was not registered, so that no answer in the table holds it. -/
theorem Handed.exported (handed : k.Handed answers) {registered : RegisteredDispatch}
    (unheld : ∀ questionId i, k.answers.lookup questionId = some i → c ∉ k.heldAt i) :
    Handed { k with registry := k.registry.insert c registered } (answers.exported c) := by
  refine ⟨fun questionId i other found known => ?_, fun questionId answer mem => ?_⟩
  · change ((answers questionId).filter _).count (i, other) = _
    by_cases here : other = c
    · have gone : (i, other) ∉ (answers questionId).filter (·.2 ≠ c) := by simp [here]
      rw [List.count_eq_zero.2 gone, here]
      exact (List.count_eq_zero.2 (unheld questionId i found)).symm
    · rw [List.count_filter (by simpa using here)]
      refine handed.held questionId i other found ?_
      change ((k.registry.insert c registered).lookup other).isSome = true at known
      rwa [Table.lookup_insert, if_neg here] at known
  · exact handed.made questionId answer (List.mem_of_mem_filter mem)

/-- A Return is tracked and handed over. -/
theorem Handed.handOver (handed : k.Handed answers) (apart : k.Apart)
    (retained : k.answers.lookup frame.answerId = some i) (within : i < k.held.length)
    (fresh : k.heldAt i = []) :
    (k.track i frame.capTable bootstrap).Handed (answers.handOver i frame) := by
  refine ⟨fun questionId j c found registered => ?_, fun questionId answer mem => ?_⟩
  · have known : (k.registry.lookup c).isSome = true :=
      (RpcServerBridge.tracked_registers frame.capTable).symm.trans registered
    have before := handed.held questionId j c found known
    by_cases here : questionId = frame.answerId
    · subst here
      cases retained.symm.trans found
      rw [fresh, List.count_nil] at before
      have named : ((senderHosted frame.capTable).map (i, ·)).count (i, c) =
          (senderHosted frame.capTable).count c :=
        List.count_map_of_injective _ _ (Prod.mk_right_injective i) _
      rw [HandedReturns.handOver_self, List.count_append, before, zero_add, named,
        heldAt_track_self within fresh]
      exact (RpcServerBridge.count_tracked _ known).symm
    · have other : j ≠ i := by
        rintro rfl
        exact here (apart _ _ _ found retained)
      rw [HandedReturns.handOver_other here, heldAt_track other]
      exact before
  · have length : (k.track i frame.capTable bootstrap).held.length = k.held.length :=
      List.length_modify _ _ _
    rw [length]
    by_cases here : questionId = frame.answerId
    · subst here
      rw [HandedReturns.handOver_self, List.mem_append] at mem
      rcases mem with old | new
      · exact handed.made _ answer old
      · obtain ⟨c, -, rfl⟩ := List.mem_map.1 new
        exact within
    · rw [HandedReturns.handOver_other here] at mem
      exact handed.made questionId answer mem

/-- A Return that names nothing registered is handed over late. -/
theorem Handed.unknown (handed : k.Handed answers) (within : i < k.held.length)
    (unknown : ∀ c ∈ senderHosted frame.capTable, k.registry.lookup c = none) :
    k.Handed (answers.handOver i frame) := by
  refine ⟨fun questionId j c found registered => ?_, fun questionId answer mem => ?_⟩
  · have before := handed.held questionId j c found registered
    by_cases here : questionId = frame.answerId
    · subst here
      have unnamed : (j, c) ∉ (senderHosted frame.capTable).map (i, ·) := by
        intro mem
        obtain ⟨c', named, same⟩ := List.mem_map.1 mem
        cases same
        rw [unknown c named] at registered
        cases registered
      rw [HandedReturns.handOver_self, List.count_append, List.count_eq_zero.2 unnamed]
      exact before
    · rw [HandedReturns.handOver_other here]
      exact before
  · by_cases here : questionId = frame.answerId
    · subst here
      rw [HandedReturns.handOver_self, List.mem_append] at mem
      rcases mem with old | new
      · exact handed.made _ answer old
      · obtain ⟨c, -, rfl⟩ := List.mem_map.1 new
        exact within
    · rw [HandedReturns.handOver_other here] at mem
      exact handed.made questionId answer mem

theorem Handed.finish (handed : k.Handed answers) (gone : k.answers.lookup questionId = none) :
    k.Handed (answers.finish questionId) := by
  refine ⟨fun other i c found registered => ?_, fun other answer mem => ?_⟩
  · have here : other ≠ questionId := by
      rintro rfl
      cases gone.symm.trans found
    unfold HandedReturns.finish
    rw [Function.update_of_ne here]
    exact handed.held other i c found registered
  · unfold HandedReturns.finish at mem
    by_cases here : other = questionId
    · rw [here, Function.update_self] at mem
      cases mem
    · rw [Function.update_of_ne here] at mem
      exact handed.made other answer mem

theorem Handed.withdraw (handed : k.Handed answers) {capabilities : List ℕ}
    (unknown : ∀ c ∈ capabilities, k.registry.lookup c = none) :
    k.Handed (answers.withdraw i capabilities) := by
  refine ⟨fun questionId j c found registered => ?_, fun questionId answer mem => ?_⟩
  · refine (List.count_filter ?_).trans (handed.held questionId j c found registered)
    have unnamed : c ∉ capabilities := by
      intro mem
      rw [unknown c mem] at registered
      cases registered
    simp [unnamed]
  · exact handed.made questionId answer (List.mem_of_mem_filter mem)

/-- With every answer that named something registered in the table, the Returns for the question
name what its entry holds. -/
theorem Handed.count_named (handed : k.Handed answers)
    (found : k.answers.lookup questionId = some i)
    (registered : (k.registry.lookup c).isSome = true)
    (there : ∀ answer ∈ answers questionId, answer.1 = i ∨ k.registry.lookup answer.2 = none) :
    (answers.named questionId).count c = (k.heldAt i).count c := by
  rw [← handed.held questionId i c found registered]
  unfold HandedReturns.named
  generalize answers questionId = given at there
  induction given with
  | nil => rfl
  | cons answer rest ih =>
    rw [List.forall_mem_cons] at there
    rw [List.map_cons, List.count_cons, List.count_cons, ih there.2]
    have same : answer.2 = c ↔ answer = (i, c) := by
      constructor
      · intro names
        rcases there.1 with from' | absent
        · exact Prod.ext from' names
        · rw [names] at absent
          rw [absent] at registered
          cases registered
      · rintro rfl
        rfl
    simp only [beq_iff_eq, same]

end Books

end CapnpDeno
