import CapnpDeno.Rpc.Server.WireReferences

/-!
# Wire-managed exports

A capability that is exported without a reference lives by the references that Returns grant.  The
bridge deregisters when a reference or a hold ends, so what deregisters such a capability is the end
of its last reference or hold: one that no Return ever granted has none to end, and stays.
-/

namespace CapnpDeno

/-- Which capabilities were exported without a reference and have been granted none since, by the
effects. -/
def noteUngranted (ungranted : ℕ → Bool) : Effect → ℕ → Bool
  | .exported c referenceCount => Function.update ungranted c (referenceCount = 0)
  | .retained c _ => Function.update ungranted c false
  | .returned _ frame | .built _ frame | .bootstrapReturned _ frame | .bootstrapObserved _ frame =>
    fun c => ungranted c && !(senderHosted frame.capTable).contains c
  | .closed => fun _ => false
  | _ => ungranted

theorem noteUngranted_neutral {ungranted : ℕ → Bool} {effects : List Effect}
    (neutral : ∀ effect ∈ effects, effect.neutral = true) :
    effects.foldl noteUngranted ungranted = ungranted := by
  induction effects with
  | nil => rfl
  | cons effect effects ih =>
    rw [List.forall_mem_cons] at neutral
    have same : noteUngranted ungranted effect = ungranted := by
      cases effect with
      | returned i frame | built i frame =>
        have nothing : frame.capTable = [] :=
          List.isEmpty_iff.1 (Bool.and_eq_true_iff.1 neutral.1).1
        simp [noteUngranted, nothing, senderHosted]
      | threw | refused | hostRefused | invoked | returnedNothing | rejected => rfl
      | _ => cases neutral.1
    rw [List.foldl_cons, same]
    exact ih neutral.2

/-- Answers that are handed to the WASM peer grant nothing: what they carry was noted when it was
built. -/
theorem noteUngranted_hostEffects {ungranted : ℕ → Bool} (i : EntryId) (failure : HostFailure)
    (attempts : List HostReturn) :
    (RpcServerBridge.hostEffects i failure attempts).foldl noteUngranted ungranted = ungranted := by
  induction attempts with
  | nil => rfl
  | cons attempt attempts ih => exact ih

namespace RpcServerBridge

/-- Registered, with neither a reference nor a hold. -/
def Dormant (registry : Registry) (c : ℕ) : Prop :=
  ∃ registered, registry.lookup c = some registered ∧ registered.refCount = 0 ∧
    registered.answerHoldCount = 0

/-- The dormant capabilities are those without a grant since their export. -/
def MarksDormant (registry : Registry) (ungranted : ℕ → Bool) : Prop :=
  ∀ c, ungranted c = true ↔ Dormant registry c

variable {registry registry' : Registry} {ungranted : ℕ → Bool} {index c : ℕ}
  {capTable : List RpcCapDescriptor} {bootstrap : Bool}

theorem Dormant.congr (same : registry'.lookup c = registry.lookup c) :
    Dormant registry' c ↔ Dormant registry c := by
  unfold Dormant
  rw [same]

theorem Dormant.holdCount (dormant : Dormant registry c) : holdCount registry c = 0 := by
  obtain ⟨registered, found, -, unheld⟩ := dormant
  rw [holdCount_eq found, unheld]

/-- An update of one capability, beside what is noted of it. -/
theorem MarksDormant.update (marks : MarksDormant registry ungranted) {granted : Bool}
    (others : ∀ c, c ≠ index → registry'.lookup c = registry.lookup c)
    (here : granted = true ↔ Dormant registry' index) :
    MarksDormant registry' (Function.update ungranted index granted) := by
  intro c
  by_cases same : c = index
  · rw [same, Function.update_self]
    exact here
  · rw [Function.update_of_ne same, marks c, Dormant.congr (others c same)]

theorem MarksDormant.insert (marks : MarksDormant registry ungranted)
    {registered : RegisteredDispatch} {granted : Bool}
    (here : granted = true ↔ registered.refCount = 0 ∧ registered.answerHoldCount = 0) :
    MarksDormant (registry.insert index registered) (Function.update ungranted index granted) := by
  refine marks.update (fun c other => ?_) (here.trans ?_)
  · rw [Table.lookup_insert, if_neg other]
  · unfold Dormant
    rw [Table.lookup_insert, if_pos rfl]
    refine ⟨fun none => ⟨registered, rfl, none⟩, ?_⟩
    rintro ⟨_, found, none⟩
    cases found
    exact none

/-- What is held of a Return is named in it. -/
theorem tracked_named : (tracked registry capTable bootstrap).2 ⊆ senderHosted capTable := by
  refine tracked_induction (P := fun tracked => tracked.2 ⊆ senderHosted capTable) capTable
    (List.nil_subset _) fun before descriptor mem sub => ?_
  rcases trackDescriptor_cases bootstrap before descriptor with ⟨same, -⟩ | ⟨_, hosted, -, same⟩
  · rw [same]
    exact sub
  · rw [same]
    have named : descriptor.id ∈ senderHosted capTable :=
      List.mem_map.2 ⟨descriptor, List.mem_filter.2 ⟨mem, decide_eq_true hosted⟩, rfl⟩
    refine List.append_subset.2 ⟨sub, fun c there => ?_⟩
    rwa [List.mem_singleton.1 there]

/-- A Return that is tracked wakes what it names. -/
theorem MarksDormant.track (marks : MarksDormant registry ungranted)
    (held : ∀ c, 0 ≤ RpcServerBridge.holdCount registry c) :
    MarksDormant (tracked registry capTable bootstrap).1
      fun c => ungranted c && !(senderHosted capTable).contains c := by
  intro c
  rw [Bool.and_eq_true_iff, Bool.not_eq_true', List.contains_eq_mem,
    decide_eq_false_iff_not, marks c]
  constructor
  · rintro ⟨dormant, unnamed⟩
    exact (Dormant.congr (lookup_tracked_other capTable fun held => unnamed (tracked_named held))).2
      dormant
  · intro dormant
    have counted : RpcServerBridge.holdCount (tracked registry capTable bootstrap).1 c = _ :=
      holdCount_tracked capTable c
    have unheld : c ∉ (tracked registry capTable bootstrap).2 := by
      rw [dormant.holdCount] at counted
      have nonneg := held c
      rw [← List.count_eq_zero]
      omega
    refine ⟨(Dormant.congr (lookup_tracked_other capTable unheld)).1 dormant, fun named =>
      unheld ?_⟩
    obtain ⟨descriptor, mem, rfl⟩ := List.mem_map.1 named
    rw [List.mem_filter, decide_eq_true_iff] at mem
    refine mem_tracked mem.1 mem.2 ?_
    obtain ⟨registered, found, -⟩ := dormant
    have known : ((tracked registry capTable bootstrap).1.lookup descriptor.id).isSome = _ :=
      tracked_registers capTable
    rw [← known, found]
    rfl

/-- A Return that names nothing registered wakes nothing. -/
theorem MarksDormant.unknown (marks : MarksDormant registry ungranted)
    (unknown : ∀ c ∈ senderHosted capTable, registry.lookup c = none) :
    MarksDormant registry fun c => ungranted c && !(senderHosted capTable).contains c := by
  intro c
  rw [Bool.and_eq_true_iff, Bool.not_eq_true', List.contains_eq_mem,
    decide_eq_false_iff_not, marks c]
  refine ⟨And.left, fun dormant => ⟨dormant, fun named => ?_⟩⟩
  obtain ⟨registered, found, -⟩ := dormant
  cases (unknown c named).symm.trans found

theorem not_dormant_of_kept {registered : RegisteredDispatch} (kept : registered.Kept) :
    ¬ (registered.refCount = 0 ∧ registered.answerHoldCount = 0) := by
  unfold RegisteredDispatch.Kept at kept
  omega

/-- A settled registration is dormant neither before, as there was something to settle, nor
afterwards. -/
theorem MarksDormant.settle (marks : MarksDormant registry ungranted)
    {registered : RegisteredDispatch} (awake : ¬ Dormant registry index) :
    MarksDormant (settleRegistration registry index registered) ungranted := by
  intro c
  rw [marks c]
  by_cases same : c = index
  · subst same
    refine ⟨fun dormant => absurd dormant awake, ?_⟩
    rintro ⟨other, found, none⟩
    rcases lookup_settle found with ⟨ne, -⟩ | ⟨-, rfl, kept⟩
    · exact absurd rfl ne
    · exact absurd none (not_dormant_of_kept kept)
  · exact (Dormant.congr (lookup_settle_other same)).symm

theorem lookup_releaseHolds_other {releaseWireRefs : Bool} {held : List ℕ} (other : c ∉ held) :
    (held.foldl (releaseHeld releaseWireRefs) registry).lookup c = registry.lookup c := by
  induction held generalizing registry with
  | nil => rfl
  | cons index held ih =>
    rw [List.mem_cons, not_or] at other
    rw [List.foldl_cons, ih other.2, lookup_releaseHeld_other other.1]

/-- The end of the holds of an answer: what was held is either kept or gone. -/
theorem MarksDormant.releaseHolds (marks : MarksDormant registry ungranted) {releaseWireRefs : Bool}
    {held : List ℕ} (counted : ∀ c ∈ held, 0 < RpcServerBridge.holdCount registry c) :
    MarksDormant (held.foldl (releaseHeld releaseWireRefs) registry) ungranted := by
  intro c
  rw [marks c]
  by_cases mem : c ∈ held
  · have awake : ¬ Dormant registry c := fun dormant => (counted c mem).ne' dormant.holdCount
    refine ⟨fun dormant => absurd dormant awake, ?_⟩
    rintro ⟨registered, found, none⟩
    rcases lookup_releaseHolds held found with there | kept
    · exact absurd ⟨registered, there, none⟩ awake
    · exact absurd none (not_dormant_of_kept kept)
  · exact (Dormant.congr (lookup_releaseHolds_other mem)).symm

/-! ## Steps -/

variable {frameError : RpcReturnMessage → Option Thrown} {b b' : RpcServerBridge} {ledger : Ledger}
  {event : Event} {effects : List Effect} {i : EntryId}

/-- What an answer in the table holds is held. -/
theorem Held.holds (held : b.Held) {questionId : ℕ}
    (found : b.answerTable.lookup questionId = some i) :
    ∀ c ∈ b.heldAt i, 0 < holdCount b.dispatchByCapability c := by
  intro c mem
  have enough := Books.count_le_holders (k := b.books) found c
  have exact : holdCount b.dispatchByCapability c = b.books.holders c := held.exact c
  have present : 0 < (b.heldAt i).count c := List.count_pos_iff.2 mem
  rw [books_heldAt] at enough
  omega

theorem Held.nonneg (held : b.Held) (c : ℕ) : 0 ≤ holdCount b.dispatchByCapability c :=
  (b.books.holders_nonneg c).trans (held.exact c).ge

theorem noteUngranted_respond {abi : RpcServerWasmHostAbi} {failure : HostFailure} {q : Question}
    {result : Except Thrown (Option RpcReturnMessage)} :
    (b.respond abi failure i q result).foldl noteUngranted ungranted = ungranted := by
  unfold respond
  cases result with
  | error error => rfl
  | ok result =>
    dsimp only
    by_cases closed : b.closed = true
    · rw [if_pos closed]
      rfl
    · rw [if_neg closed]
      cases result with
      | some frame => exact noteUngranted_hostEffects _ _ _
      | none =>
        dsimp only
        split_ifs
        · exact noteUngranted_hostEffects _ _ _
        · rfl

/-- A step that the ledger accounts for wakes the capabilities that it grants, and no others. -/
theorem MarksDormant.posts {k : Books} (marks : MarksDormant b.dispatchByCapability ungranted)
    (held : b.Held) (posts : Posts frameError b event k effects)
    (accounted : accountsFor frameError (b, ledger) event = true) :
    MarksDormant k.registry (effects.foldl noteUngranted ungranted) := by
  cases posts with
  | none event effects neutral =>
    rw [noteUngranted_neutral neutral]
    exact marks
  | exported dispatch capabilityIndex referenceCount index =>
    exact marks.insert (decide_eq_true_iff.trans (and_iff_left rfl).symm)
  | retained index referenceCount registered found =>
    have counted := held.counted index registered found
    refine marks.insert ⟨by simp, fun none => ?_⟩
    have none : registered.refCount + referenceCount = 0 := none.1
    omega
  | releasedUnknown => exact marks
  | released event index referenceCount registered releases found =>
    refine marks.settle ?_
    rintro ⟨other, there, none, -⟩
    cases found.symm.trans there
    omega
  | finishedUnknown => exact marks
  | finished event finish i arrives found =>
    refine marks.releaseHolds ?_
    rw [books_heldAt]
    exact held.holds found
  | accepted event questionId inputFrameBytes effects accepts neutral =>
    rw [List.foldl_cons, noteUngranted_neutral neutral]
    exact marks
  | observed response => exact marks.track held.nonneg
  | bootstrapReturned => exact marks.track held.nonneg
  | bootstrapLate i result q response found stands encoded late =>
    simp only [accountsFor, found, stands, encoded, if_pos late] at accounted
    exact marks.unknown (unregistered_iff.1 accounted)
  | bootstrapFailed => exact marks
  | completed i q call path response frame found owned stands retained unfinished encoded =>
    cases failed : frameError frame with
    | none =>
      have noted : (shownReturn i frame none path).foldl noteUngranted ungranted =
          fun c => ungranted c && !(senderHosted frame.capTable).contains c := by
        cases path <;> rfl
      rw [noted]
      exact marks.track held.nonneg
    | some error =>
      have noted : (shownReturn i frame (some error) path).foldl noteUngranted ungranted =
          ungranted := by
        cases path <;> rfl
      have unknown : b.unregistered (senderHosted frame.capTable) = true := by
        simpa [accountsFor, found, stands, ← encoded, failed, retained, unfinished] using accounted
      change MarksDormant (tracked b.dispatchByCapability frame.capTable false).1 _
      unfold tracked
      rw [noted, trackDescriptor_unregistered (unregistered_iff.1 unknown)]
      exact marks
  | responded i failure q call abi result =>
    rw [noteUngranted_respond]
    exact marks
  | evicted i q found retained =>
    refine marks.releaseHolds ?_
    rw [books_heldAt]
    exact held.holds retained
  | answerFinished => exact marks
  | closed =>
    intro c
    constructor
    · intro marked
      cases marked
    · rintro ⟨registered, found, -⟩
      cases found

/-! ## Runs -/

/-- The steps that the ledger accounts for and that end no hold uncounted. -/
def settlesExports (frameError : RpcReturnMessage → Option Thrown) (s : RpcServerBridge × Ledger)
    (event : Event) :
    Bool :=
  accountsFor frameError s event && s.1.sparesHolders event

/-- Exported without a reference in the run, and granted none since. -/
def ungrantedIn (frameError : RpcReturnMessage → Option Thrown) (options : RpcServerBridgeOptions)
    (events : List Event) : ℕ → Bool :=
  (Machine.shown (step frameError) (initial options) events).foldl noteUngranted fun _ => false

/-- What a run keeps: the counts are those of the ledger and of the table, and what is dormant is
ungranted. -/
structure Managed (s : RpcServerBridge × Ledger) (ungranted : ℕ → Bool) : Prop where
  held : s.1.Held
  follows : Follows s.2 s.1.books
  marks : MarksDormant s.1.dispatchByCapability ungranted

theorem managed_run (options : RpcServerBridgeOptions) (events : List Event)
    (settles : Machine.Always (Machine.watched Ledger.note (step frameError))
      (fun s event => settlesExports frameError s event = true)
        (initial options, Ledger.empty) events) :
    Managed (Machine.final (step frameError) (initial options) events,
      ledgerOf frameError options events) (ungrantedIn frameError options events) := by
  have run := settles.history
    (P := fun past s => Managed s (past.foldl noteUngranted fun _ => false))
    (fun past s event settles managed => ?_)
    ⟨held_initial options, follows_initial options, fun c => ⟨nofun, fun dormant => ?_⟩⟩
  · rw [Machine.final_watched, Machine.shown_watched] at run
    exact run
  · have ⟨accounted, spares⟩ := Bool.and_eq_true_iff.1 settles
    have steps : Steps frameError s.1 event _ _ := s.1.steps_of_step event
    rw [List.foldl_append]
    exact ⟨managed.held.steps steps spares,
      managed.follows.posts managed.held.covered steps.posts accounted,
      managed.marks.posts managed.held steps.posts accounted⟩
  · obtain ⟨registered, found, -⟩ := dormant
    cases found

/-- Once no answer is retained and the peer has given back every reference it was granted, a
capability that was exported without a reference is deregistered exactly if it has been granted one
since. -/
theorem wire_managed_deregistered (frameError : RpcReturnMessage → Option Thrown)
    (options : RpcServerBridgeOptions) (events : List Event)
    (settles : Machine.Always (Machine.watched Ledger.note (step frameError))
      (fun s event => settlesExports frameError s event = true)
        (initial options, Ledger.empty) events) :
    let b := Machine.final (step frameError) (initial options) events
    b.answerTable = ∅ → ∀ c, ((ledgerOf frameError options events).accounts c).balance = 0 →
      (b.dispatchByCapability.lookup c = none ↔ ungrantedIn frameError options events c =
        false) := by
  intro b unretained c released
  have managed := managed_run options events settles
  rw [← Bool.not_eq_true, managed.marks c]
  refine ⟨?_, fun awake => ?_⟩
  · rintro gone ⟨registered, found, -⟩
    cases gone.symm.trans found
  · cases found : b.dispatchByCapability.lookup c with
    | none => rfl
    | some registered =>
      have unheld : registered.answerHoldCount = 0 := by
        rw [← holdCount_eq found]
        refine (managed.held.exact c).trans ?_
        unfold Books.holders
        rw [books_answers, unretained, Table.total_empty]
      refine absurd ⟨registered, found, ?_, unheld⟩ awake
      rw [(managed.follows.tallied c registered found).1]
      exact released

/-! ## A handler that throws after it exported -/

/-- Call 3 to the root capability exports capability 1, and its caller finishes it in the end. -/
def exportingCall (outcome : RpcDispatchOutcome) : List Event :=
  [.exportCapability ⟨7, none⟩ none 1, .handleFrame (.call ⟨3, 7, .importedCap 0⟩ 8),
    .exportCapability ⟨8, none⟩ none 0, .handlerSettles 0 outcome, .completeCall 0,
    .handleFrame (.finish ⟨3, true⟩)]

/-- In the results the export gets a reference, and goes when the Finish takes it back. -/
theorem wire_managed_deregistered_returned :
    let b := Machine.final (step fun _ => none) (initial .default)
      (exportingCall (.results ⟨none, some [⟨CAP_DESCRIPTOR_TAG_SENDER_HOSTED, 1⟩], none, none⟩))
    b.dispatchByCapability.lookup 1 = none := by
  have settles : Machine.Always (Machine.watched Ledger.note (step fun _ => none))
      (fun s event => settlesExports (fun _ => none) s event = true)
      (initial .default, Ledger.empty)
      (exportingCall
        (.results ⟨none, some [⟨CAP_DESCRIPTOR_TAG_SENDER_HOSTED, 1⟩], none, none⟩)) := by
    decide
  exact (wire_managed_deregistered (fun _ => none) .default _ settles rfl 1 (by decide)).2
    (by decide)

/-- The handler throws after the export: nothing is granted, no answer is left, and the export
stays. -/
theorem ungranted_export_stays :
    let events := exportingCall (.exception "failed after the export" none)
    let b := Machine.final (step fun _ => none) (initial .default) events
    b.answerTable = ∅ ∧ (b.questions.all fun q => q.entry.outcome.isSome) = true ∧
      ((ledgerOf (fun _ => none) .default events).accounts 1).balance = 0 ∧
      ∃ registered, b.dispatchByCapability.lookup 1 = some registered ∧ registered.refCount = 0 ∧
        registered.answerHoldCount = 0 := by
  refine ⟨rfl, by decide, by decide, _, rfl, by decide, by decide⟩

end RpcServerBridge

end CapnpDeno
