import CapnpDeno.Rpc.Server.Books
import CapnpDeno.Rpc.Server.RegistryLemmas

/-!
# The holds of the answers

`answerHoldCount` counts what the entries in the answer table hold.  An entry leaves the table with
its holds ended, but for one way out: a bootstrap that fails deletes whatever entry its question id
leads to by then.
-/

namespace CapnpDeno

namespace Books

variable {k k' : Books} {questionId c : ℕ} {i : EntryId} {capTable : List RpcCapDescriptor}
  {bootstrap : Bool}

/-- How often the capability is held by the entries in the answer table. -/
def holders (k : Books) (c : ℕ) : ℤ := Table.total (fun _ i => ((k.heldAt i).count c : ℤ)) k.answers

/-- The hold counts are those of the entries in the table. -/
def HoldsExact (k : Books) : Prop := ∀ c, RpcServerBridge.holdCount k.registry c = k.holders c

/-- No entry is in the table twice. -/
def Apart (k : Books) : Prop :=
  ∀ questionId other i, k.answers.lookup questionId = some i → k.answers.lookup other = some i →
    questionId = other

@[simp] theorem heldAt_accept : (k.accept questionId).heldAt i = k.heldAt i := by
  unfold heldAt accept
  dsimp only
  by_cases old : i < k.held.length
  · rw [List.getElem?_append_left old]
  · have gone : k.held[i]? = none := List.getElem?_eq_none (Nat.le_of_not_lt old)
    rw [List.getElem?_append_right (Nat.le_of_not_lt old), gone]
    rcases Nat.eq_zero_or_pos (i - k.held.length) with first | later
    · rw [first]
      rfl
    · rw [List.getElem?_eq_none]
      exact later

theorem heldAt_endHolds {releaseWireRefs : Bool} {j : EntryId} (other : j ≠ i) :
    (k.endHolds i releaseWireRefs).heldAt j = k.heldAt j := by
  unfold heldAt endHolds
  dsimp only
  rw [List.getElem?_modify_ne _ _ (Ne.symm other)]

theorem heldAt_track {j : EntryId} (other : j ≠ i) :
    (k.track i capTable bootstrap).heldAt j = k.heldAt j := by
  unfold heldAt track
  dsimp only
  rw [List.getElem?_modify_ne _ _ (Ne.symm other)]

/-- A fresh answer holds what its Return was tracked for. -/
theorem heldAt_track_self (within : i < k.held.length) (fresh : k.heldAt i = []) :
    (k.track i capTable bootstrap).heldAt i =
      (RpcServerBridge.tracked k.registry capTable bootstrap).2 := by
  have there := List.getElem?_eq_getElem within
  unfold heldAt at fresh ⊢
  rw [there, Option.getD_some] at fresh
  unfold track
  dsimp only
  rw [List.getElem?_modify_eq, there, fresh]
  change (if _ = [] then [] else _) = _
  split_ifs with none
  · exact none.symm
  · rfl

/-- The holders of a capability, with one entry apart. -/
theorem holders_split (found : k.answers.lookup questionId = some i) :
    k.holders c = (k.forget questionId).holders c + (k.heldAt i).count c := by
  have erased : (k.forget questionId).holders c = k.holders c - (k.heldAt i).count c :=
    Table.total_erase found
  omega

/-- The other entries hold what they held. -/
theorem holders_forget_congr (apart : k.Apart) (found : k.answers.lookup questionId = some i)
    (same : k'.answers = k.answers) (kept : ∀ j, j ≠ i → k'.heldAt j = k.heldAt j) :
    (k'.forget questionId).holders c = (k.forget questionId).holders c := by
  unfold holders forget
  dsimp only
  rw [same]
  refine Table.total_congr fun key j there => ?_
  rw [Table.lookup_erase] at there
  split_ifs at there with here
  have other : j ≠ i := by
    rintro rfl
    exact here (apart _ _ _ there found)
  change (((k'.heldAt j).count c : ℕ) : ℤ) = _
  rw [kept j other]
  rfl

theorem holders_nonneg (k : Books) (c : ℕ) : 0 ≤ k.holders c := by
  apply List.sum_nonneg
  intro count mem
  obtain ⟨entry, -, rfl⟩ := List.mem_map.1 mem
  exact Int.natCast_nonneg _

theorem count_le_holders (found : k.answers.lookup questionId = some i) (c : ℕ) :
    ((k.heldAt i).count c : ℤ) ≤ k.holders c := by
  rw [holders_split found]
  exact le_add_of_nonneg_left ((k.forget questionId).holders_nonneg c)

/-! ## Postings and holds -/

/-- How many more holds of the capability are counted than there are. -/
def slack (k : Books) (c : ℕ) : ℤ := RpcServerBridge.holdCount k.registry c - k.holders c

theorem holdsExact_iff : k.HoldsExact ↔ ∀ c, k.slack c = 0 := by
  unfold HoldsExact slack
  simp only [sub_eq_zero]

theorem slack_accept (fresh : k.answers.lookup questionId = none) :
    (k.accept questionId).slack c = k.slack c := by
  have grown : (k.accept questionId).holders c = ((k.heldAt k.held.length).count c : ℤ) +
      k.holders c := by
    unfold holders
    simp only [heldAt_accept]
    exact Table.total_insert fresh
  have nothing : k.heldAt k.held.length = [] := by
    unfold heldAt
    rw [List.getElem?_eq_none le_rfl]
    rfl
  unfold slack
  rw [grown, nothing, List.count_nil, Nat.cast_zero, zero_add]
  rfl

theorem slack_track (apart : k.Apart) (found : k.answers.lookup questionId = some i)
    (within : i < k.held.length) (fresh : k.heldAt i = []) :
    (k.track i capTable bootstrap).slack c = k.slack c := by
  have found' : (k.track i capTable bootstrap).answers.lookup questionId = some i := found
  have others : ((k.track i capTable bootstrap).forget questionId).holders c =
      (k.forget questionId).holders c :=
    holders_forget_congr apart found rfl fun j other => heldAt_track other
  have counted : RpcServerBridge.holdCount (k.track i capTable bootstrap).registry c =
      RpcServerBridge.holdCount k.registry c +
      (RpcServerBridge.tracked k.registry capTable bootstrap).2.count c :=
    RpcServerBridge.holdCount_tracked capTable c
  unfold slack
  rw [counted, holders_split found, holders_split found', others,
    heldAt_track_self within fresh, fresh,
    List.count_nil, Nat.cast_zero, add_zero, add_sub_add_right_eq_sub]

/-- An entry leaves the table with its holds ended, where they are counted. -/
theorem slack_leave (counted : ∀ c, 0 ≤ k.slack c) (apart : k.Apart)
    (found : k.answers.lookup questionId = some i) (releaseWireRefs : Bool) :
    ((k.endHolds i releaseWireRefs).forget questionId).slack c = k.slack c := by
  have others : ((k.endHolds i releaseWireRefs).forget questionId).holders c =
      (k.forget questionId).holders c :=
    holders_forget_congr apart found rfl fun j other => heldAt_endHolds other
  have enough : ∀ c, ((k.heldAt i).count c : ℤ) ≤ RpcServerBridge.holdCount k.registry c := by
    intro c
    exact (count_le_holders found c).trans (sub_nonneg.1 (counted c))
  have ended : RpcServerBridge.holdCount ((k.endHolds i releaseWireRefs).forget questionId).registry
      c = RpcServerBridge.holdCount k.registry c - (k.heldAt i).count c :=
    RpcServerBridge.holdCount_releaseHolds _ enough c
  unfold slack
  rw [ended, others, holders_split found]
  omega

/-- An entry that just leaves takes its holds along. -/
theorem slack_forget (found : k.answers.lookup questionId = some i) :
    (k.forget questionId).slack c = k.slack c + (k.heldAt i).count c := by
  have same : RpcServerBridge.holdCount (k.forget questionId).registry c =
      RpcServerBridge.holdCount k.registry c :=
    rfl
  unfold slack
  rw [same, holders_split found]
  omega

/-- The registration of one capability changes, and its hold count stays. -/
theorem slack_insert {index : ℕ} {registered : RegisteredDispatch}
    (same : registered.answerHoldCount = RpcServerBridge.holdCount k.registry index) :
    slack { k with registry := k.registry.insert index registered } c = k.slack c := by
  have counted : RpcServerBridge.holdCount (k.registry.insert index registered) c =
      RpcServerBridge.holdCount k.registry c := by
    rw [RpcServerBridge.holdCount_insert]
    split_ifs with here
    · rw [same, here]
    · rfl
  exact congrArg (· - k.holders c) counted

theorem slack_settle {index : ℕ} {registered : RegisteredDispatch}
    (same : registered.answerHoldCount = RpcServerBridge.holdCount k.registry index)
    (held : 0 ≤ registered.answerHoldCount) :
    slack { k with registry := RpcServerBridge.settleRegistration k.registry index registered } c =
      k.slack c := by
  have counted : RpcServerBridge.holdCount
      (RpcServerBridge.settleRegistration k.registry index registered) c =
      RpcServerBridge.holdCount k.registry c := by
    rw [RpcServerBridge.holdCount_settle held]
    split_ifs with here
    · rw [same, here]
    · rfl
  exact congrArg (· - k.holders c) counted

end Books

namespace RpcServerBridge

variable {b b' : RpcServerBridge} {i : EntryId} {q : Question} {event : Event}
  {effects : List Effect} {frameError : RpcReturnMessage → Option Thrown} {c : ℕ}

/-- A bootstrap that fails finds no entry under its question id, or one that holds nothing. -/
def sparesHolders (b : RpcServerBridge) : Event → Bool
  | .bootstrapSettles i result =>
    match b.questions[i]? with
    | some question =>
      match question.stage, result >>= encodeBootstrapResponseFrame question.questionId with
      | .bootstrapping, .error _ =>
        (b.answerTable.lookup question.questionId).all fun j => (b.heldAt j).isEmpty
      | _, _ => true
    | none => true
  | _ => true

/-- Every hold is counted. -/
structure Covered (b : RpcServerBridge) : Prop where
  placed : b.Placed
  sound : b.AllSound
  counted : ∀ c, 0 ≤ b.books.slack c

/-- The hold counts are exact and the reference counts not negative. -/
structure Held (b : RpcServerBridge) : Prop where
  placed : b.Placed
  sound : b.AllSound
  exact : b.books.HoldsExact
  counted : Counted b.dispatchByCapability

theorem Held.covered (held : b.Held) : b.Covered :=
  ⟨held.placed, held.sound, fun c => (Books.holdsExact_iff.1 held.exact c).ge⟩

theorem Placed.apart (placed : b.Placed) : b.books.Apart := by
  intro questionId other i found found'
  obtain ⟨q, there, named⟩ := placed questionId i found
  obtain ⟨q', there', named'⟩ := placed other i found'
  cases there.symm.trans there'
  exact named.symm.trans named'

/-- An entry that its own question id does not lead to is not in the table. -/
theorem Placed.absent (placed : b.Placed) (found : b.questions[i]? = some q)
    (gone : ¬ b.retains q.questionId i) (other : ℕ) : b.answerTable.lookup other ≠ some i := by
  intro there
  obtain ⟨q', found', named⟩ := placed other i there
  cases found.symm.trans found'
  exact gone (named ▸ there)

/-- An answer that has not come to its end holds nothing. -/
theorem heldAt_pending (sound : b.AllSound) (found : b.questions[i]? = some q)
    (pending : q.stage.ended = false) :
    b.heldAt i = [] := by
  have nothing := (sound i q found).held pending
  unfold heldAt AnswerTableEntry.held
  rw [found, Option.map_some, Option.getD_some, nothing]
  rfl

theorem Covered.track (covered : b.Covered) {capTable : List RpcCapDescriptor} {bootstrap : Bool}
    (found : b.questions[i]? = some q) (retained : b.retains q.questionId i)
    (pending : q.stage.ended = false) :
    (b.books.track i capTable bootstrap).slack c = b.books.slack c := by
  refine Books.slack_track covered.placed.apart retained ?_ ?_
  · rw [books_length]
    exact (List.getElem?_eq_some_iff.1 found).1
  · rw [books_heldAt]
    exact heldAt_pending covered.sound found pending

/-- The entry just accepted is tracked at once. -/
theorem Covered.observed (covered : b.Covered) {capTable : List RpcCapDescriptor} {questionId : ℕ}
    (fresh : b.answerTable.lookup questionId = none) :
    ((b.books.accept questionId).track b.questions.length capTable true).slack c =
      b.books.slack c := by
  have placed := covered.placed.acceptQuestion questionId 0 .observed
  have apart := placed.apart
  rw [books_acceptQuestion] at apart
  have there : (b.books.accept questionId).answers.lookup questionId = some b.questions.length := by
    unfold Books.accept
    rw [books_length]
    exact AList.lookup_insert _
  rw [Books.slack_track apart there]
  · exact Books.slack_accept fresh
  · unfold Books.accept
    rw [List.length_append, books_length]
    exact Nat.lt_succ_self _
  · rw [Books.heldAt_accept, books_heldAt]
    unfold heldAt
    rw [List.getElem?_eq_none le_rfl]
    rfl

theorem Covered.nonneg (covered : b.Covered) {registered : RegisteredDispatch}
    (found : b.dispatchByCapability.lookup c = some registered) :
    0 ≤ registered.answerHoldCount := by
  rw [← holdCount_eq found]
  exact (b.books.holders_nonneg c).trans (sub_nonneg.1 (covered.counted c))

/-- What an answer in the table holds is registered. -/
theorem Covered.registered (covered : b.Covered) {questionId : ℕ}
    (found : b.answerTable.lookup questionId = some i) (mem : c ∈ b.heldAt i) :
    (b.dispatchByCapability.lookup c).isSome = true := by
  by_contra absent
  have none : b.dispatchByCapability.lookup c = none := by simpa using absent
  have counted : b.books.holders c ≤ holdCount b.dispatchByCapability c :=
    sub_nonneg.1 (covered.counted c)
  have enough := Books.count_le_holders (k := b.books) found c
  rw [holdCount_absent none] at counted
  rw [books_heldAt] at enough
  have present : 0 < (b.heldAt i).count c := List.count_pos_iff.2 mem
  omega

/-- A step leaves the slack as it is, but for a failing bootstrap, which may add to it, and for
`close`. -/
theorem Covered.slack {k : Books} (covered : b.Covered) (posts : Posts frameError b event k effects)
    (c : ℕ) :
    k.slack c = b.books.slack c ∨ k.slack c = 0 ∨
      b.sparesHolders event = false ∧ b.books.slack c ≤ k.slack c := by
  cases posts with
  | none | releasedUnknown | finishedUnknown | bootstrapLate | responded
  | answerFinished => exact .inl rfl
  | exported dispatch capabilityIndex referenceCount index fresh =>
    exact .inl (Books.slack_insert (k := b.books) (holdCount_absent fresh).symm)
  | retained index referenceCount registered found =>
    exact .inl (Books.slack_insert (k := b.books) (holdCount_eq found).symm)
  | released event index referenceCount registered releases found =>
    have nonneg := covered.nonneg found
    exact .inl (Books.slack_settle (k := b.books) (holdCount_eq found).symm nonneg)
  | finished event finish i arrives found =>
    exact .inl (Books.slack_leave covered.counted covered.placed.apart found _)
  | accepted event questionId inputFrameBytes effects accepts =>
    exact .inl (Books.slack_accept (accepts_iff.1 accepts).2.1)
  | observed response accepts => exact .inl (covered.observed (accepts_iff.1 accepts).2.1)
  | bootstrapReturned i result q response found stands encoded retained =>
    exact .inl (covered.track found retained (by rw [stands]; rfl))
  | bootstrapFailed i result q error found stands failed =>
    cases there : b.answerTable.lookup q.questionId with
    | none =>
      have same : b.books.forget q.questionId = b.books := by
        unfold Books.forget
        rw [books_answers, Table.erase_of_absent there]
        rfl
      exact .inl (congrArg (Books.slack · c) same)
    | some j =>
      have more := Books.slack_forget (k := b.books) (c := c) there
      rw [books_heldAt] at more
      cases bare : (b.heldAt j).isEmpty with
      | true =>
        rw [List.isEmpty_iff.1 bare, List.count_nil, Nat.cast_zero, add_zero] at more
        exact .inl more
      | false =>
        refine .inr (.inr ⟨?_, by omega⟩)
        simp [sparesHolders, found, stands, failed, there, bare]
  | completed i q call path response frame found owned stands retained =>
    exact .inl (covered.track found retained (by rw [stands]; rfl))
  | evicted i q found retained =>
    exact .inl (Books.slack_leave covered.counted covered.placed.apart retained _)
  | closed => exact .inr (.inl rfl)

theorem Covered.steps (covered : b.Covered) (steps : Steps frameError b event b' effects) :
    b'.Covered := by
  refine ⟨covered.placed.shape steps.shape, covered.sound.steps steps, fun c => ?_⟩
  have before := covered.counted c
  rcases covered.slack steps.posts c with same | none | ⟨-, more⟩ <;> omega

theorem covered_initial (options : RpcServerBridgeOptions) : (initial options).Covered := by
  refine ⟨?_, all_initial options, fun c => le_rfl⟩
  intro questionId i found
  cases found

theorem Posts.counted {k : Books} (posts : Posts frameError b event k effects)
    (counted : Counted b.dispatchByCapability) : Counted k.registry := by
  cases posts with
  | none => exact counted
  | exported dispatch capabilityIndex referenceCount index fresh nonneg =>
    exact counted.insert nonneg
  | retained index referenceCount registered found more =>
    have before := counted index registered found
    exact counted.insert (by change 0 ≤ registered.refCount + referenceCount; omega)
  | releasedUnknown => exact counted
  | released event index referenceCount registered releases found more enough =>
    exact counted.settle (by change 0 ≤ registered.refCount - referenceCount; omega)
  | finishedUnknown => exact counted
  | finished event finish i => exact counted.releaseHolds _
  | accepted => exact counted
  | observed response => exact counted.tracked _
  | bootstrapReturned i result q response => exact counted.tracked _
  | bootstrapLate => exact counted
  | bootstrapFailed => exact counted
  | completed i q call path response frame => exact counted.tracked _
  | responded => exact counted
  | evicted => exact counted.releaseHolds _
  | answerFinished => exact counted
  | closed =>
    intro c registered found
    cases found

theorem Held.steps (held : b.Held) (steps : Steps frameError b event b' effects)
    (spares : b.sparesHolders event = true) : b'.Held := by
  have covered := held.covered.steps steps
  refine ⟨covered.placed, covered.sound, Books.holdsExact_iff.2 fun c =>
    ?_, steps.posts.counted held.counted⟩
  have before := Books.holdsExact_iff.1 held.exact c
  rcases held.covered.slack steps.posts c with same | none | ⟨spoils, -⟩
  · exact same.trans before
  · exact none
  · rw [spares] at spoils
    cases spoils

theorem held_initial (options : RpcServerBridgeOptions) : (initial options).Held := by
  have covered := covered_initial options
  refine ⟨covered.placed, covered.sound, fun c => rfl, ?_⟩
  intro c registered found
  cases found

/-! ## What is left of a capability -/

/-- A capability with neither a reference nor a hold was so before the Return was tracked. -/
theorem Held.dormant_tracked {capTable : List RpcCapDescriptor} {bootstrap : Bool}
    {registered : RegisteredDispatch} (held : b.Held)
    (found : (tracked b.dispatchByCapability capTable bootstrap).1.lookup c = some registered)
    (unheld : registered.answerHoldCount = 0) :
    b.dispatchByCapability.lookup c = some registered := by
  have counted : holdCount (tracked b.dispatchByCapability capTable bootstrap).1 c = _ :=
    holdCount_tracked capTable c
  have before : holdCount b.dispatchByCapability c = b.books.holders c := held.exact c
  rw [holdCount_eq found, unheld, before] at counted
  have nonneg := b.books.holders_nonneg c
  have absent : c ∉ (tracked b.dispatchByCapability capTable bootstrap).2 := by
    rw [← List.count_eq_zero]
    omega
  rw [lookup_tracked_other capTable absent] at found
  exact found

/-- A registration with neither a reference nor a hold is as it was, or it was just made. -/
theorem Held.dormant {k : Books} {registered : RegisteredDispatch} (held : b.Held)
    (posts : Posts frameError b event k effects) (found : k.registry.lookup c = some registered)
    (unreferenced : registered.refCount = 0) (unheld : registered.answerHoldCount = 0) :
    b.dispatchByCapability.lookup c = some registered ∨
      ∃ dispatch capabilityIndex, event = .exportCapability dispatch capabilityIndex 0 := by
  have dormant : ¬ registered.Kept := by
    unfold RegisteredDispatch.Kept
    omega
  cases posts with
  | none => exact .inl found
  | exported dispatch capabilityIndex referenceCount index fresh =>
    rw [Table.lookup_insert] at found
    split_ifs at found
    · cases found
      exact .inr ⟨dispatch, capabilityIndex, by rw [← unreferenced]⟩
    · exact .inl found
  | retained index referenceCount before there more =>
    rw [Table.lookup_insert] at found
    split_ifs at found
    · cases found
      have counted := held.counted index before there
      change before.refCount + referenceCount = 0 at unreferenced
      omega
    · exact .inl found
  | releasedUnknown => exact .inl found
  | released event index referenceCount before =>
    rcases lookup_settle found with ⟨-, there⟩ | ⟨-, rfl, kept⟩
    · exact .inl there
    · exact absurd kept dormant
  | finishedUnknown => exact .inl found
  | finished => exact .inl ((lookup_releaseHolds _ found).resolve_right dormant)
  | accepted => exact .inl found
  | observed => exact .inl (held.dormant_tracked found unheld)
  | bootstrapReturned => exact .inl (held.dormant_tracked found unheld)
  | bootstrapLate => exact .inl found
  | bootstrapFailed => exact .inl found
  | completed => exact .inl (held.dormant_tracked found unheld)
  | responded => exact .inl found
  | evicted => exact .inl ((lookup_releaseHolds _ found).resolve_right dormant)
  | answerFinished => exact .inl found
  | closed => cases found

/-- In a run in which no failing bootstrap deletes an entry that holds capabilities: every hold
count is the number of holders in the answer table; what an answer there holds is registered; and a
step leaves a capability without reference and hold only where it found it so, or exports it so. -/
theorem answer_holds_exact (frameError : RpcReturnMessage → Option Thrown)
    (options : RpcServerBridgeOptions) (events : List Event)
    (spares : Machine.Always (step frameError) (fun b event => b.sparesHolders event = true)
      (initial options) events) :
    let b := Machine.final (step frameError) (initial options) events
    (∀ c registered, b.dispatchByCapability.lookup c = some registered →
      registered.answerHoldCount = b.books.holders c) ∧
    (∀ questionId i c, b.answerTable.lookup questionId = some i → c ∈ b.heldAt i →
      (b.dispatchByCapability.lookup c).isSome = true) ∧
    ∀ event, b.sparesHolders event = true → ∀ c registered,
      (b.step frameError event).1.dispatchByCapability.lookup c = some registered →
      registered.refCount = 0 → (b.step frameError event).1.books.holders c = 0 →
      b.dispatchByCapability.lookup c = some registered ∨
        ∃ dispatch capabilityIndex, event = .exportCapability dispatch capabilityIndex 0 := by
  intro b
  have held : b.Held := spares.invariant
    (fun b event spares held => held.steps (b.steps_of_step event) spares) (held_initial options)
  refine ⟨fun c registered found => ?_, fun questionId i c found mem => ?_, ?_⟩
  · rw [← held.exact c]
    exact (holdCount_eq found).symm
  · exact held.covered.registered found mem
  · intro event spares c registered found unreferenced unheld
    have steps : Steps frameError b event _ _ := b.steps_of_step event
    have held' := held.steps steps spares
    refine held.dormant steps.posts found unreferenced ?_
    rw [← holdCount_eq found, ← unheld]
    exact held'.exact c

/-! ## A question id used again -/

/-- A bridge that answers bootstraps. -/
def bootstrapOptions : RpcServerBridgeOptions :=
  { RpcServerBridgeOptions.default with onBootstrap := true }

/-- A bootstrap is finished while `onBootstrap` runs, and its question id is used again for a call,
whose answer holds capability 0. -/
def reusedQuestion : List Event :=
  [.exportCapability ⟨7, none⟩ none 1, .handleFrame (.bootstrap 5),
    .handleFrame (.finish ⟨5, false⟩), .handleFrame (.call ⟨5, 7, .importedCap 0⟩ 8),
    .handlerSettles 1 (.results ⟨none, some [⟨CAP_DESCRIPTOR_TAG_SENDER_HOSTED, 0⟩], none, none⟩),
    .completeCall 1]

/-- Then `onBootstrap` resolves, and the hold is accounted for. -/
theorem answer_holds_exact_reused :
    let b := Machine.final (step fun _ => none) (initial bootstrapOptions)
      (reusedQuestion ++ [.bootstrapSettles 0 (.ok 0)])
    (∃ registered, b.dispatchByCapability.lookup 0 = some registered ∧
      registered.answerHoldCount = 1) ∧
      b.books.holders 0 = 1 := by
  intro b
  have spares : Machine.Always (step fun _ => none) (fun b event => b.sparesHolders event = true)
      (initial bootstrapOptions) (reusedQuestion ++ [.bootstrapSettles 0 (.ok 0)]) := by decide
  have exact := (answer_holds_exact (fun _ => none) bootstrapOptions _ spares).1
  have found : ∃ registered, b.dispatchByCapability.lookup 0 = some registered ∧
      registered.answerHoldCount = 1 := ⟨_, rfl, rfl⟩
  obtain ⟨registered, there, one⟩ := found
  exact ⟨⟨registered, there, one⟩, (exact 0 registered there).symm.trans one⟩

/-- Or it rejects: the newer entry is deleted, and its hold stays though no answer is left. -/
theorem failed_bootstrap_leaks_hold :
    let b := Machine.final (step fun _ => none) (initial bootstrapOptions)
      (reusedQuestion ++ [.bootstrapSettles 0 (.error (protocolError "bootstrap failed"))])
    (∃ registered, b.dispatchByCapability.lookup 0 = some registered ∧
      registered.answerHoldCount = 1) ∧
      b.books.holders 0 = 0 := by
  refine ⟨⟨_, rfl, ?_⟩, ?_⟩
  · decide
  · decide

end RpcServerBridge

end CapnpDeno
