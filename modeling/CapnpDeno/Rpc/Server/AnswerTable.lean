import CapnpDeno.Rpc.Server.RetainedInput
import CapnpDeno.Rpc.Server.WireReferences

/-!
# The answer table

Which questions are in the answer table, told from the effects of a run: those accepted, less those
the caller has finished or need not finish, those evicted, and the bootstraps that failed.  The
bridge departs from it in three ways: an answer that needs no Finish stays, so does one whose Finish
the WASM peer reports, and a failing bootstrap takes a newer entry of its question id along.
-/

namespace CapnpDeno

/-- The accepted questions for which something is still to come, each with its entry. -/
abbrev OpenQuestions := List (EntryId × ℕ)

namespace OpenQuestions

def withoutEntry (questions : OpenQuestions) (i : EntryId) : OpenQuestions :=
  questions.filter (·.1 ≠ i)

def withoutId (questions : OpenQuestions) (questionId : ℕ) : OpenQuestions :=
  questions.filter (·.2 ≠ questionId)

/-- The entry is answered with the Return; the caller finishes it, unless it need not. -/
def answer (questions : OpenQuestions) (i : EntryId) (frame : RpcReturnMessage) : OpenQuestions :=
  if frame.noFinishNeeded then questions.withoutEntry i else questions

def note (questions : OpenQuestions) : Effect → OpenQuestions
  | .accepted i questionId => (i, questionId) :: questions
  | .callerFinished questionId _ => questions.withoutId questionId
  | .evicted i | .bootstrapFailed i _ => questions.withoutEntry i
  | .returned i frame | .bootstrapReturned i frame | .bootstrapObserved i frame
  | .hostReturned i (.returnFrame frame) none => questions.answer i frame
  | .closed => []
  | _ => questions

end OpenQuestions

namespace RpcServerBridge

/-- The Return that the responder of a host call hands over, or tries to. -/
def responderFrame (question : Question) (result : Option RpcReturnMessage) :
    Option RpcReturnMessage :=
  match result with
  | some frame => some frame
  | none =>
    if question.entry.finished then some (canceledReturn question.questionId question.entry.outcome)
      else none

/-- No Return that needs no Finish is handed over for an entry in the table; no Finish that the WASM
peer reports is for one; and the question id of a failing bootstrap leads to no other entry. -/
def leavesCleanly (frameError : RpcReturnMessage → Option Thrown) (b : RpcServerBridge) :
    Event → Bool
  | .completeCall i =>
    match b.questions[i]? with
    | some question =>
      match question.stage, question.owner with
      | .dispatched (.results response), .call _ .frame =>
        let frame := encodeReturnResultsFrame question.questionId response
        !frame.noFinishNeeded || (frameError frame).isSome || ¬ b.retains question.questionId i ||
          question.entry.finished
      | _, _ => true
    | none => true
  | .respond i failure =>
    match b.questions[i]? with
    | some question =>
      match question.stage, question.owner with
      | .responding (.ok result), .call _ (.host abi) =>
        (responderFrame question result).all fun frame =>
          !(handsOver abi failure frame && frame.noFinishNeeded) ||
            ¬ b.retains question.questionId i
      | _, _ => true
    | none => true
  | .observeBootstrapResponse response =>
    (b.refusal response.answerId 0).isSome || !response.noFinishNeeded
  | .bootstrapSettles i result =>
    match b.questions[i]? with
    | some question =>
      match question.stage, result >>= encodeBootstrapResponseFrame question.questionId with
      | .bootstrapping, .error _ => (b.answerTable.lookup question.questionId).all (· = i)
      | _, _ => true
    | none => true
  | .answerFinished answerId _ =>
    (b.answerTable.lookup answerId).all fun i => (b.questions[i]?).all (·.entry.finished)
  | _ => true

/-! ## The table and the list -/

/-- The table leads from a question id to an entry if and only if the question is open. -/
def Listed (answers : Table ℕ EntryId) (questions : OpenQuestions) : Prop :=
  ∀ questionId i, answers.lookup questionId = some i ↔ (i, questionId) ∈ questions

variable {answers : Table ℕ EntryId} {questions : OpenQuestions} {questionId : ℕ} {i : EntryId}

theorem Listed.accept (listed : Listed answers questions)
    (fresh : answers.lookup questionId = none) :
    Listed (answers.insert questionId i) ((i, questionId) :: questions) := by
  intro other j
  rw [Table.lookup_insert, List.mem_cons, Prod.mk.injEq]
  by_cases same : other = questionId
  · rw [if_pos same, same, ← listed questionId j, fresh]
    simp [eq_comm]
  · rw [if_neg same, listed other j]
    simp [same]

theorem Listed.erase (listed : Listed answers questions) (questionId : ℕ) :
    Listed (answers.erase questionId) (questions.withoutId questionId) := by
  intro other j
  unfold OpenQuestions.withoutId
  rw [Table.lookup_erase, List.mem_filter, decide_eq_true_iff, ← listed other j]
  by_cases same : other = questionId
  · simp [same]
  · simp [same]

theorem withoutId_absent (listed : Listed answers questions)
    (absent : answers.lookup questionId = none) :
    questions.withoutId questionId = questions := by
  refine List.filter_eq_self.2 fun entry mem => ?_
  rw [decide_eq_true_iff]
  rintro rfl
  rw [(listed entry.2 entry.1).2 mem] at absent
  cases absent

/-- An entry that is not in the table is not open. -/
theorem withoutEntry_absent (listed : Listed answers questions)
    (absent : ∀ questionId, answers.lookup questionId ≠ some i) :
    questions.withoutEntry i = questions := by
  refine List.filter_eq_self.2 fun entry mem => ?_
  rw [decide_eq_true_iff]
  rintro rfl
  exact absent entry.2 ((listed entry.2 entry.1).2 mem)

/-- To take out the entry of a question is to take out the question. -/
theorem withoutEntry_found (listed : Listed answers questions)
    (found : answers.lookup questionId = some i)
    (apart : ∀ other, answers.lookup other = some i → other = questionId) :
    questions.withoutEntry i = questions.withoutId questionId := by
  refine List.filter_congr fun entry mem => ?_
  have there := (listed entry.2 entry.1).2 mem
  have same : entry.1 = i ↔ entry.2 = questionId := by
    constructor
    · rintro rfl
      exact apart entry.2 there
    · rintro rfl
      exact Option.some.inj (there.symm.trans found)
  rw [decide_eq_decide, ne_eq, ne_eq, same]

/-! ## Steps -/

theorem note_neutral {effect : Effect} (neutral : effect.neutral = true)
    (questions : OpenQuestions) :
    questions.note effect = questions := by
  cases effect with
  | returned i frame =>
    have finish : frame.noFinishNeeded = false := by simpa using (Bool.and_eq_true_iff.1 neutral).2
    simp [OpenQuestions.note, OpenQuestions.answer, finish]
  | threw | refused | hostRefused | invoked | built | returnedNothing | rejected => rfl
  | _ => cases neutral

theorem notes_neutral {effects : List Effect} (neutral : ∀ effect ∈ effects, effect.neutral = true)
    (questions : OpenQuestions) : effects.foldl OpenQuestions.note questions = questions := by
  induction effects with
  | nil => rfl
  | cons effect effects ih =>
    rw [List.forall_mem_cons] at neutral
    rw [List.foldl_cons, note_neutral neutral.1, ih neutral.2]

/-- Of the calls of the WASM peer's interface only a Return that it takes counts. -/
theorem notes_respond (abi : RpcServerWasmHostAbi) (failure : HostFailure)
    (frame : RpcReturnMessage) (questions : OpenQuestions) :
    (hostEffects i failure (respondWasmHostCallFrame abi failure frame)).foldl OpenQuestions.note
      questions = if handsOver abi failure frame then questions.answer i frame else questions := by
  by_cases hands : handsOver abi failure frame = true
  · have taken : failure (.returnFrame frame) = none := by
      unfold handsOver at hands
      exact Option.isNone_iff_eq_none.1 (Bool.and_eq_true_iff.1 hands).2
    rw [if_pos hands, respond_handsOver hands]
    simp [hostEffects, taken, OpenQuestions.note]
  · rw [if_neg hands]
    unfold respondWasmHostCallFrame
    by_cases supported :
      (abi.respondHostCallReturnFrame && abi.supportsHostCallReturnFrame.getD true) = true
    · rw [if_pos supported]
      split_ifs with retention
      · rfl
      · cases failed : failure (.returnFrame frame) with
        | none =>
          refine absurd ?_ hands
          unfold handsOver
          rw [Bool.and_eq_true_iff, Bool.and_eq_true_iff, failed]
          refine ⟨⟨supported, ?_⟩, rfl⟩
          simpa [imp_iff_not_or] using retention
        | some message => simp [hostEffects, failed, OpenQuestions.note]
    · rw [if_neg supported]
      split
      · rfl
      · rfl
      · split_ifs <;> rfl

variable {frameError : RpcReturnMessage → Option Thrown} {b : RpcServerBridge} {event : Event}
  {effects : List Effect} {q : Question}

theorem Listed.leave (listed : Listed b.answerTable questions) (placed : b.Placed)
    (retained : b.retains questionId i) :
    Listed (b.answerTable.erase questionId) (questions.withoutEntry i) := by
  rw [withoutEntry_found listed retained fun other there =>
    placed.apart other questionId i there retained]
  exact listed.erase questionId

theorem listed_respond {failure : HostFailure} {call : RpcCallRequest} {abi : RpcServerWasmHostAbi}
    {result : Except Thrown (Option RpcReturnMessage)} (listed : Listed b.answerTable questions)
    (placed : b.Placed) (found : b.questions[i]? = some q)
    (owned : q.owner = .call call (.host abi)) (stands : q.stage = .responding result)
    (clean : b.leavesCleanly frameError (.respond i failure) = true) :
    Listed b.answerTable ((b.respond abi failure i q result).foldl OpenQuestions.note
      questions) := by
  have answered {frame : RpcReturnMessage}
      (clean : (!(handsOver abi failure frame && frame.noFinishNeeded) || ¬ b.retains q.questionId
        i) = true) :
      Listed b.answerTable ((hostEffects i failure
        (respondWasmHostCallFrame abi failure frame)).foldl OpenQuestions.note questions) := by
    rw [notes_respond]
    by_cases retained : b.retains q.questionId i
    · have finish : (handsOver abi failure frame && frame.noFinishNeeded) = false := by
        simpa [retained, imp_iff_not_or] using clean
      unfold OpenQuestions.answer
      cases hands : handsOver abi failure frame with
      | false => exact listed
      | true =>
        rw [hands, Bool.true_and] at finish
        rw [if_pos rfl, finish]
        exact listed
    · unfold OpenQuestions.answer
      rw [withoutEntry_absent listed (placed.absent found retained)]
      split_ifs <;> exact listed
  simp only [leavesCleanly, found, stands, owned] at clean
  unfold respond
  cases result with
  | error error => exact listed
  | ok result =>
    dsimp only at clean ⊢
    by_cases closed : b.closed = true
    · rw [if_pos closed]
      exact listed
    · rw [if_neg closed]
      cases result with
      | some frame => exact answered clean
      | none =>
        dsimp only
        unfold responderFrame at clean
        split_ifs at clean ⊢
        · exact answered clean
        · exact listed

theorem listed_posts {k : Books} (listed : Listed b.answerTable questions) (placed : b.Placed)
    (posts : Posts frameError b event k effects) (clean : b.leavesCleanly frameError event = true) :
    Listed k.answers (effects.foldl OpenQuestions.note questions) := by
  cases posts with
  | none event effects neutral =>
    rw [notes_neutral neutral]
    exact listed
  | exported | retained | releasedUnknown | released => exact listed
  | finishedUnknown event finish arrives absent =>
    rw [List.foldl_cons, List.foldl_nil, OpenQuestions.note, withoutId_absent listed absent]
    exact listed
  | finished event finish i => exact listed.erase finish.questionId
  | accepted event questionId inputFrameBytes effects accepts neutral =>
    rw [List.foldl_cons, notes_neutral neutral]
    unfold Books.accept
    rw [books_length]
    exact listed.accept (accepts_iff.1 accepts).2.1
  | observed response accepts =>
    have refusal : b.refusal response.answerId 0 = none := accepts
    have finish : response.noFinishNeeded = false := by simpa [leavesCleanly, refusal] using clean
    unfold Books.track Books.accept
    rw [books_length]
    simp only [List.foldl_cons, List.foldl_nil, OpenQuestions.note, OpenQuestions.answer, finish]
    exact listed.accept (accepts_iff.1 accepts).2.1
  | bootstrapReturned i result q response found stands encoded
  | bootstrapLate i result q response found stands encoded =>
    obtain ⟨capabilityIndex, -, rfl⟩ := encodeBootstrap_eq encoded
    exact listed
  | bootstrapFailed i result q error found stands failed =>
    simp only [leavesCleanly, found, stands, failed] at clean
    change Listed (b.answerTable.erase q.questionId) (questions.withoutEntry i)
    by_cases retained : b.retains q.questionId i
    · exact listed.leave placed retained
    · have absent : b.answerTable.lookup q.questionId = none := by
        cases there : b.answerTable.lookup q.questionId with
        | none => rfl
        | some j =>
          rw [there, Option.all_some, decide_eq_true_iff] at clean
          exact absurd (clean ▸ there) retained
      rw [withoutEntry_absent listed (placed.absent found retained), Table.erase_of_absent absent]
      exact listed
  | completed i q call path response frame found owned stands retained unfinished encoded =>
    cases failed : frameError frame with
    | some error => cases path <;> exact listed
    | none =>
      cases path with
      | host abi => exact listed
      | frame =>
        have finish : frame.noFinishNeeded = false := by
          simpa [leavesCleanly, found, stands, owned, ← encoded, failed, retained, unfinished]
            using clean
        simp only [shownReturn, List.foldl_cons, List.foldl_nil, OpenQuestions.note,
          OpenQuestions.answer, finish]
        exact listed
  | responded i failure q call abi result found owned stands =>
    exact listed_respond listed placed found owned stands clean
  | evicted i q found retained => exact listed.leave placed retained
  | answerFinished answerId failure i q found there unfinished =>
    simp [leavesCleanly, found, there, unfinished] at clean
  | closed =>
    intro questionId i
    simp [Books.close, OpenQuestions.note]

/-! ## The size of the table -/

/-- The table is within a positive finite limit. -/
structure Fits (options : RpcServerBridgeOptions) (b : RpcServerBridge) : Prop where
  fixed : b.options = options
  size : ∀ limit, options.maxAnswerTableSize = some limit → 0 < limit → b.answerTable.size ≤ limit

theorem Fits.accept {options : RpcServerBridgeOptions} {inputFrameBytes : ℕ} (fits : Fits options b)
    (accepts : b.Accepts questionId inputFrameBytes) (owner : Owner) :
    Fits options (b.acceptQuestion questionId inputFrameBytes owner) := by
  refine ⟨fits.fixed, fun limit limited positive => ?_⟩
  obtain ⟨-, fresh, room, -⟩ := accepts_iff.1 accepts
  have below : b.answerTable.size < limit := by
    simpa [tableFull, fits.fixed, limited, positive] using room
  have grown : (b.acceptQuestion questionId inputFrameBytes owner).answerTable.size =
      b.answerTable.size + 1 :=
    Table.size_insert fresh
  omega

theorem Fits.congr {options : RpcServerBridgeOptions} {b' : RpcServerBridge} (fits : Fits options b)
    (fixed : b'.options = b.options) (less : b'.answerTable.size ≤ b.answerTable.size) :
    Fits options b' :=
  ⟨fixed.trans fits.fixed, fun limit limited positive =>
    less.trans (fits.size limit limited positive)⟩

theorem Fits.quiet {options : RpcServerBridgeOptions} {b' : RpcServerBridge} (fits : Fits options b)
    (quiet : Quiet b b') : Fits options b' := fits.congr quiet.options (by rw [quiet.table])

theorem Fits.shape {options : RpcServerBridgeOptions} {b' : RpcServerBridge} (fits : Fits options b)
    (shape : Shape b event b') : Fits options b' := by
  cases shape with
  | quiet quiet => exact fits.quiet quiet
  | counted => exact fits.congr rfl le_rfl
  | removed quiet questionId => exact (fits.quiet quiet).congr rfl (Table.size_erase_le _ _)
  | moved i q stage quiet => exact (fits.quiet quiet).congr rfl le_rfl
  | settled i q stage quiet => exact (fits.quiet quiet).congr rfl le_rfl
  | failed i q quiet =>
    have removed : Fits options (b.deleteAnswer q.questionId) :=
      fits.congr rfl (Table.size_erase_le _ _)
    exact (removed.quiet quiet).congr rfl le_rfl
  | accepted questionId byteLength owner stage accepts quiet =>
    exact ((fits.accept accepts owner).quiet quiet).congr rfl le_rfl
  | observed questionId accepts quiet => exact (fits.accept accepts .observed).quiet quiet
  | closed => exact fits.congr (quiet_closeEntries b _).options (Nat.zero_le _)

/-! ## Runs -/

theorem run_fits (frameError : RpcReturnMessage → Option Thrown) (options : RpcServerBridgeOptions)
    (events : List Event) :
    Fits options (Machine.final (step frameError) (initial options) events) := by
  refine Machine.invariant (fun b event fits => ?_) events ⟨rfl, fun limit _ _ => Nat.zero_le limit⟩
  have steps : Steps frameError b event _ _ := b.steps_of_step event
  exact fits.shape steps.shape

/-- A call whose question id is in the table leaves the table and every entry as they are. -/
theorem step_duplicate (frameError : RpcReturnMessage → Option Thrown) {call : RpcCallRequest}
    {path : CallPath} {byteLength : ℕ} (calls : event.calls call path byteLength)
    (duplicate : (b.answerTable.lookup call.questionId).isSome = true) :
    (b.step frameError event).1.answerTable = b.answerTable ∧
      (b.step frameError event).1.questions = b.questions := by
  have refused : ¬ b.Accepts call.questionId byteLength := by
    intro accepts
    rw [(accepts_iff.1 accepts).2.1] at duplicate
    cases duplicate
  obtain ⟨rejected, same⟩ := step_refused frameError calls refused
  rw [same]
  exact ⟨rfl, rfl⟩

/-- The open questions of a run that starts with the bridge. -/
def openQuestions (frameError : RpcReturnMessage → Option Thrown) (options : RpcServerBridgeOptions)
    (events : List Event) : OpenQuestions :=
  (Machine.shown (step frameError) (initial options) events).foldl OpenQuestions.note []

/-- In a run whose every step leaves cleanly, the question ids in the answer table are those of the
open questions; the table keeps its limit; and a duplicate changes nothing there. -/
theorem answer_table_exact (frameError : RpcReturnMessage → Option Thrown)
    (options : RpcServerBridgeOptions) (events : List Event)
    (clean : Machine.Always (step frameError)
      (fun b event => b.leavesCleanly frameError event = true) (initial options) events) :
    let b := Machine.final (step frameError) (initial options) events
    (∀ questionId, (b.answerTable.lookup questionId).isSome = true ↔
      ∃ i, (i, questionId) ∈ openQuestions frameError options events) ∧
    (∀ limit, options.maxAnswerTableSize = some limit → 0 < limit → b.answerTable.size ≤ limit) ∧
    ∀ event call path byteLength, event.calls call path byteLength →
      (b.answerTable.lookup call.questionId).isSome = true →
        (b.step frameError event).1.answerTable = b.answerTable ∧
          (b.step frameError event).1.questions = b.questions := by
  intro b
  have listed : b.Placed ∧ Listed b.answerTable (openQuestions frameError options events) := by
    refine clean.history
      (P := fun past b => b.Placed ∧ Listed b.answerTable (past.foldl OpenQuestions.note [])) ?_ ?_
    · rintro past b event clean ⟨placed, listed⟩
      have steps : Steps frameError b event _ _ := b.steps_of_step event
      rw [List.foldl_append]
      exact ⟨placed.shape steps.shape, listed_posts listed placed steps.posts clean⟩
    · refine ⟨nofun, fun questionId i => ?_⟩
      simp [initial]
  refine ⟨fun questionId => ?_, (run_fits frameError options events).size, ?_⟩
  · rw [Option.isSome_iff_exists]
    exact exists_congr fun i => listed.2 questionId i
  · intro event call path byteLength calls duplicate
    exact step_duplicate frameError calls duplicate

/-- A call whose handler answers that no Finish is needed, or that one is. -/
def answeredCall (noFinishNeeded : Bool) : List Event :=
  [.exportCapability ⟨7, none⟩ none 1, .handleFrame (.call ⟨3, 7, .importedCap 0⟩ 8),
    .handlerSettles 0 (.results ⟨none, none, none, some noFinishNeeded⟩), .completeCall 0]

/-- The question stays open for its Finish. -/
theorem answer_table_exact_answered :
    ∃ i, (i, 3) ∈ openQuestions (fun _ => none) .default (answeredCall false) := by
  have clean : Machine.Always (step fun _ => none)
      (fun b event => b.leavesCleanly (fun _ => none) event = true)
      (initial .default) (answeredCall false) := by decide
  exact ((answer_table_exact (fun _ => none) .default (answeredCall false) clean).1 3).1 (by decide)

/-- No Finish will come, and yet the question id stays taken. -/
theorem unfinished_answer_stays :
    ((Machine.final (step fun _ => none) (initial .default) (answeredCall true)).answerTable.lookup
      3).isSome =
        true ∧
      openQuestions (fun _ => none) .default (answeredCall true) = [] := by
  refine ⟨?_, ?_⟩
  · decide
  · decide

end RpcServerBridge

end CapnpDeno
