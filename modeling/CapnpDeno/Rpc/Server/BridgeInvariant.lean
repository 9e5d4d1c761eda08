import CapnpDeno.Rpc.Server.BridgeLemmas

/-!
# RpcServerBridge: what every state satisfies

The answer table leads to entries of the ids it is asked for (`Placed`), and an entry has what
belongs to the stage of its computation (`Sound`): no outcome, no holds and no timer before the end,
a resolved promise after it.
-/

namespace CapnpDeno

/-- The computation that owns the entry has resolved its promise. -/
def Stage.ended : Stage → Bool
  | .idle => true
  | .responding _ => true
  | _ => false

/-- The entry belongs to the stage. -/
structure Question.Sound (q : Question) : Prop where
  ended : q.stage.ended = true → q.entry.promise.isSome = true
  promise : q.stage.ended = false → q.entry.promise = none
  outcome : q.stage.ended = false → q.entry.outcome = none
  held : q.stage.ended = false → q.entry.heldCapabilityIndexes = none
  timer : q.stage.ended = false → q.entry.evictionTimer = false
  same : ∀ outcome, q.entry.outcome = some outcome → q.entry.promise = some outcome

/-- An update that only takes away. -/
def Mild (f : AnswerTableEntry → AnswerTableEntry) : Prop :=
  ∀ entry, (f entry).promise = entry.promise ∧ (f entry).outcome = entry.outcome ∧
    ((f entry).heldCapabilityIndexes = entry.heldCapabilityIndexes ∨
      (f entry).heldCapabilityIndexes = none) ∧
    ((f entry).evictionTimer = entry.evictionTimer ∨ (f entry).evictionTimer = false) ∧
    (entry.finished = true → (f entry).finished = true) ∧
    (entry.aborted = true → (f entry).aborted = true)

theorem Question.Sound.mild {q : Question} (sound : q.Sound)
    {f : AnswerTableEntry → AnswerTableEntry} (mild : Mild f) :
    Question.Sound { q with entry := f q.entry } := by
  obtain ⟨promise, outcome, held, timer, -⟩ := mild q.entry
  refine ⟨fun ended => ?_, fun before => ?_, fun before => ?_, fun before =>
    ?_, fun before => ?_, ?_⟩
  · rw [promise]
    exact sound.ended ended
  · rw [promise]
    exact sound.promise before
  · rw [outcome]
    exact sound.outcome before
  · rcases held with same | gone
    · rw [same]
      exact sound.held before
    · exact gone
  · rcases timer with same | gone
    · rw [same]
      exact sound.timer before
    · exact gone
  · rw [outcome, promise]
    exact sound.same

/-- A change of stage before the end. -/
theorem Question.Sound.pending {q : Question} (sound : q.Sound) {stage : Stage}
    (before : q.stage.ended = false) (after : stage.ended = false) :
    Question.Sound { q with stage := stage } := by
  refine ⟨fun ended => ?_, fun _ => sound.promise before, fun _ => sound.outcome before,
    fun _ => sound.held before, fun _ => sound.timer before, sound.same⟩
  rw [after] at ended
  cases ended

/-- At the end the promise is resolved, with the outcome if there is one. -/
theorem Question.sound_ended {q : Question} (ended : q.stage.ended = true)
    (resolved : q.entry.promise.isSome = true)
    (same : ∀ outcome, q.entry.outcome = some outcome → q.entry.promise = some outcome) :
    q.Sound := by
  have impossible {P : Prop} (before : q.stage.ended = false) : P := by
    rw [ended] at before
    cases before
  exact ⟨fun _ => resolved, impossible, impossible, impossible, impossible, same⟩

namespace RpcServerBridge

variable {b b' c : RpcServerBridge} {i : EntryId} {q : Question}

/-! ## The answer table -/

/-- The table leads from a question id to an entry made for that id. -/
def Placed (b : RpcServerBridge) : Prop :=
  ∀ questionId i, b.answerTable.lookup questionId = some i →
    ∃ q, b.questions[i]? = some q ∧ q.questionId = questionId

theorem Placed.quiet (placed : b.Placed) (quiet : Quiet b c) : c.Placed := by
  intro questionId i found
  rw [quiet.table] at found
  obtain ⟨q, there, named⟩ := placed questionId i found
  obtain ⟨q', there', task⟩ := quiet.question there
  exact ⟨q', there', (congrArg Task.questionId task).trans named⟩

theorem Placed.setStage (placed : b.Placed) (i : EntryId) (stage : Stage) :
    (b.setStage i stage).Placed := by
  intro questionId j found
  obtain ⟨q, there, named⟩ := placed questionId j found
  rw [question_setStage, there]
  by_cases same : i = j
  · rw [if_pos same]
    exact ⟨_, rfl, named⟩
  · rw [if_neg same]
    exact ⟨q, rfl, named⟩

theorem Placed.deleteAnswer (placed : b.Placed) (questionId : ℕ) :
    (b.deleteAnswer questionId).Placed := by
  intro other i found
  have kept : AList.lookup other (b.answerTable.erase questionId) = some i := found
  rw [Table.lookup_erase] at kept
  split_ifs at kept with same
  exact placed other i kept

theorem Placed.acceptQuestion (placed : b.Placed) (questionId byteLength : ℕ) (owner : Owner) :
    (b.acceptQuestion questionId byteLength owner).Placed := by
  intro other i found
  have inserted : (b.answerTable.insert questionId b.questions.length).lookup other = some i :=
    found
  rw [Table.lookup_insert] at inserted
  split_ifs at inserted with same
  · cases inserted
    exact ⟨_, b.question_acceptQuestion questionId byteLength owner, same.symm⟩
  · obtain ⟨q, there, named⟩ := placed other i inserted
    have old := (List.getElem?_eq_some_iff.1 there).1
    refine ⟨q, ?_, named⟩
    exact (List.getElem?_append_left old).trans there

theorem Placed.shape {event : Event} (placed : b.Placed) (shape : Shape b event b') :
    b'.Placed := by
  cases shape with
  | quiet quiet => exact placed.quiet quiet
  | counted => exact placed
  | removed quiet questionId => exact (placed.quiet quiet).deleteAnswer questionId
  | moved i q stage quiet => exact (placed.quiet quiet).setStage i stage
  | @settled c i q stage quiet =>
    have kept : c.Placed := placed.quiet quiet
    exact Placed.setStage (b := c.refund q.entry.inputFrameBytes) kept i stage
  | failed i q quiet => exact ((placed.deleteAnswer q.questionId).quiet quiet).setStage i .idle
  | accepted questionId byteLength owner stage accepts quiet =>
    exact ((placed.acceptQuestion questionId byteLength owner).quiet quiet).setStage _ stage
  | observed questionId accepts quiet =>
    exact (placed.acceptQuestion questionId 0 .observed).quiet quiet
  | closed =>
    intro questionId i found
    cases found

/-! ## The tasks -/

/-- A property of every task at its place. -/
def AllTasks (R : EntryId → Task → Prop) (b : RpcServerBridge) : Prop :=
  b.All fun i q => R i (taskOf q)

section

variable {R : EntryId → Task → Prop}

theorem AllTasks.quiet (all : b.AllTasks R) (quiet : Quiet b c) : c.AllTasks R := by
  intro i q found
  have old := (List.getElem?_eq_some_iff.1 found).1
  rw [quiet.length] at old
  obtain ⟨q', there, task⟩ := quiet.question (List.getElem?_eq_getElem old)
  cases there.symm.trans found
  rw [task]
  exact all i _ (List.getElem?_eq_getElem old)

theorem AllTasks.setStage {stage : Stage} (all : b.AllTasks R)
    (kept : ∀ q, b.questions[i]? = some q → R i (taskOf q) → R i { taskOf q with stage := stage }) :
    (b.setStage i stage).AllTasks R := All.setStage all kept

/-- The entered stage replaces the one before the update. -/
theorem AllTasks.moved {stage : Stage} (all : b.AllTasks R) (quiet : Quiet b c)
    (found : b.questions[i]? = some q) (kept : R i (taskOf q) →
      R i { taskOf q with stage := stage }) :
    (c.setStage i stage).AllTasks R := by
  refine (all.quiet quiet).setStage fun q' there holds => ?_
  obtain ⟨q'', there', task⟩ := quiet.question found
  cases there'.symm.trans there
  rw [task] at holds ⊢
  exact kept holds

theorem AllTasks.accepted {questionId byteLength : ℕ} {owner : Owner} {stage : Stage}
    (all : b.AllTasks R) (quiet : Quiet (b.acceptQuestion questionId byteLength owner) c)
    (new : R b.questions.length ⟨questionId, owner, stage, byteLength⟩) :
    (c.setStage b.questions.length stage).AllTasks R := by
  intro i q found
  rw [question_setStage] at found
  by_cases last : b.questions.length = i
  · rw [if_pos last] at found
    obtain ⟨q', there, rfl⟩ := Option.map_eq_some_iff.1 found
    obtain ⟨q'', there', task⟩ :=
      quiet.question (b.question_acceptQuestion questionId byteLength owner)
    subst last
    cases there'.symm.trans there
    have entered : taskOf { q' with stage := stage } = { taskOf q' with stage := stage } := rfl
    rw [entered, task]
    exact new
  · rw [if_neg last] at found
    have within := (List.getElem?_eq_some_iff.1 found).1
    rw [quiet.length] at within
    have old : i < b.questions.length := by
      have size : (b.acceptQuestion questionId byteLength owner).questions.length =
          b.questions.length + 1 :=
        List.length_append
      rw [size] at within
      exact Nat.lt_of_le_of_ne (Nat.lt_succ_iff.1 within) (Ne.symm last)
    have place : (b.acceptQuestion questionId byteLength owner).questions[i]? =
        some b.questions[i] :=
      (List.getElem?_append_left old).trans (List.getElem?_eq_getElem old)
    obtain ⟨q', there, task⟩ := quiet.question place
    cases there.symm.trans found
    rw [task]
    exact all i _ (List.getElem?_eq_getElem old)

theorem AllTasks.observed {questionId : ℕ} (all : b.AllTasks R)
    (quiet : Quiet (b.acceptQuestion questionId 0 .observed) c)
    (new : R b.questions.length ⟨questionId, .observed, .idle, 0⟩) : c.AllTasks R := by
  have accepted : (b.acceptQuestion questionId 0 .observed).AllTasks R := All.push all rfl new
  exact accepted.quiet quiet

end

/-! ## The entries -/

theorem updateEntry_updateEntry (b : RpcServerBridge) (i : EntryId)
    (f g : AnswerTableEntry → AnswerTableEntry) :
    (b.updateEntry i f).updateEntry i g = b.updateEntry i fun entry => g (f entry) := by
  unfold updateEntry updateQuestion
  rw [List.modify_modify_eq]
  rfl

theorem mild_releasePipelineRef : Mild fun entry =>
    { entry with pipelineRefCount := entry.pipelineRefCount - 1 } :=
  fun _ => ⟨rfl, rfl, .inl rfl, .inl rfl, id, id⟩

theorem mild_takePipelineRef : Mild fun entry =>
    { entry with pipelineRefCount := entry.pipelineRefCount + 1 } :=
  fun _ => ⟨rfl, rfl, .inl rfl, .inl rfl, id, id⟩

theorem mild_finishEntry : Mild finishEntry :=
  fun _ => ⟨rfl, rfl, .inl rfl, .inr rfl, fun _ => rfl, fun aborted =>
    Bool.or_eq_true_iff.2 (.inl aborted)⟩

theorem mild_unhold : Mild unhold := fun _ => ⟨rfl, rfl, .inr rfl, .inl rfl, id, id⟩

theorem mild_cancelEntry : Mild cancelEntry :=
  fun _ => ⟨rfl, rfl, .inl rfl, .inl rfl, fun _ => rfl, fun _ => rfl⟩

theorem mild_closeEntry : Mild closeEntry :=
  fun _ => ⟨rfl, rfl, .inl rfl, .inr rfl, fun _ => rfl, fun _ => rfl⟩

theorem mild_disarmTimer : Mild disarmTimer := fun _ => ⟨rfl, rfl, .inl rfl, .inr rfl, id, id⟩

theorem mild_countAttempt : Mild countAttempt := fun _ => ⟨rfl, rfl, .inl rfl, .inl rfl, id, id⟩

/-- A property of questions that no mild update ends. -/
def MildClosed (P : EntryId → Question → Prop) : Prop :=
  ∀ i q f, Mild f → P i q → P i { q with entry := f q.entry }

variable {P : EntryId → Question → Prop}

theorem All.mild {f : AnswerTableEntry → AnswerTableEntry} (all : b.All P) (closed : MildClosed P)
    (mild : Mild f) : (b.updateEntry i f).All P :=
  all.updateEntry fun q _ => closed i q f mild

theorem All.dispatchToAnswer (all : b.All P) (closed : MildClosed P) (call : RpcCallRequest)
    (parent : EntryId) (outcome : RpcDispatchOutcome)
    (transform : Option (List RpcPromisedAnswerOp)) :
    (b.dispatchToAnswer call parent outcome transform).1.All P := by
  unfold RpcServerBridge.dispatchToAnswer
  split
  · exact all.mild closed mild_releasePipelineRef
  · split
    · exact all
    · exact all.mild closed mild_releasePipelineRef

theorem All.dispatchCall (all : b.All P) (closed : MildClosed P) (call : RpcCallRequest) :
    (b.dispatchCall call).1.All P := by
  unfold RpcServerBridge.dispatchCall
  split
  · exact all
  · unfold dispatchPipelinedCall
    split
    · exact all
    · rename_i parent there
      have taken : (b.takePipelineRef parent).All P := all.mild closed mild_takePipelineRef
      dsimp only
      split
      · exact taken
      · exact taken.dispatchToAnswer closed _ _ _ _

theorem All.releaseAnswerHeldCapabilities (all : b.All P) (closed : MildClosed P) (i : EntryId)
    (releaseWireRefs : Bool) : (b.releaseAnswerHeldCapabilities i releaseWireRefs).All P :=
  (all.mild (i := i) closed mild_unhold).congr rfl

theorem All.closeEntries (all : b.All P) (closed : MildClosed P) (places : List EntryId) :
    (b.closeEntries places).All P := by
  induction places generalizing b with
  | nil => exact all
  | cons i places ih => exact ih (all.mild closed mild_closeEntry)

/-- The question accepted last is exempt until its computation has entered its first stage. -/
def Exempt (n : EntryId) (P : EntryId → Question → Prop) (i : EntryId) (q : Question) : Prop :=
  i ≠ n → P i q

theorem MildClosed.exempt (closed : MildClosed P) (n : EntryId) : MildClosed (Exempt n P) :=
  fun i q f mild held other => closed i q f mild (held other)

theorem All.acceptQuestion (all : b.All P) (questionId byteLength : ℕ) (owner : Owner) :
    (b.acceptQuestion questionId byteLength owner).All (Exempt b.questions.length P) := by
  have before : b.All (Exempt b.questions.length P) := fun i q found _ => all i q found
  exact before.push rfl fun other => absurd rfl other

theorem All.enter {n : EntryId} {stage : Stage} (all : b.All (Exempt n P))
    (new : ∀ q, b.questions[n]? = some q → P n { q with stage := stage }) :
    (b.setStage n stage).All P := by
  intro i q found
  rw [question_setStage] at found
  by_cases same : n = i
  · rw [if_pos same] at found
    obtain ⟨old, there, rfl⟩ := Option.map_eq_some_iff.1 found
    subst same
    exact new old there
  · rw [if_neg same] at found
    exact all i q found (Ne.symm same)

/-- One question changes, and the others keep what they have. -/
theorem All.changed {Q : EntryId → Question → Prop} {f : Question → Question} (all : b.All P)
    (same : c.questions = (b.updateQuestion i f).questions) (others : ∀ j q, j ≠ i → P j q → Q j q)
    (here : ∀ q, b.questions[i]? = some q → P i q → Q i (f q)) : c.All Q := by
  intro j q found
  rw [same, question_updateQuestion] at found
  by_cases there : i = j
  · rw [if_pos there] at found
    obtain ⟨before, old, rfl⟩ := Option.map_eq_some_iff.1 found
    subst there
    exact here before old (all i before old)
  · rw [if_neg there] at found
    exact others j q (Ne.symm there) (all j q found)

/-- One entry is updated and its computation goes on. -/
theorem All.goesOn {Q : EntryId → Question → Prop} {stage : Stage}
    {f : AnswerTableEntry → AnswerTableEntry} (all : b.All P)
    (same : c.questions = (b.updateEntry i f).questions) (others : ∀ j q, j ≠ i → P j q → Q j q)
    (here : ∀ q, b.questions[i]? = some q → P i q →
      Q i { q with entry := f q.entry, stage := stage }) :
    (c.setStage i stage).All Q := by
  refine all.changed (f := fun q => { q with entry := f q.entry, stage := stage }) ?_ others here
  change c.questions.modify i _ = _
  rw [same]
  exact List.modify_modify_eq _ _ i b.questions

/-- Every question is sound. -/
abbrev AllSound (b : RpcServerBridge) : Prop := b.All fun _ q => q.Sound

theorem mildClosed_sound : MildClosed fun _ q => q.Sound := fun _ _ _ mild sound => sound.mild mild

/-- The last question has just been accepted, and every other one is sound. -/
def SoundBut (n i : EntryId) (q : Question) : Prop :=
  if i = n then Question.Sound { q with stage := .bootstrapping } else q.Sound

theorem mildClosed_soundBut (n : EntryId) : MildClosed (SoundBut n) := by
  intro i q f mild sound
  unfold SoundBut at sound ⊢
  split_ifs at sound ⊢
  · exact Question.Sound.mild sound mild
  · exact sound.mild mild

theorem AllSound.acceptQuestion (sound : b.AllSound) (questionId byteLength : ℕ) (owner : Owner) :
    (b.acceptQuestion questionId byteLength owner).All (SoundBut b.questions.length) := by
  have before : b.All (SoundBut b.questions.length) := by
    intro i q found
    have old := (List.getElem?_eq_some_iff.1 found).1
    unfold SoundBut
    rw [if_neg (Nat.ne_of_lt old)]
    exact sound i q found
  refine before.push rfl ?_
  unfold SoundBut
  rw [if_pos rfl]
  exact ⟨nofun, fun _ => rfl, fun _ => rfl, fun _ => rfl, fun _ => rfl, nofun⟩

/-- The accepted question enters its first stage. -/
theorem AllSound.enter {n : EntryId} {stage : Stage} (sound : b.All (SoundBut n))
    (before : stage.ended = false) : (b.setStage n stage).AllSound := by
  intro i q found
  rw [question_setStage] at found
  by_cases same : n = i
  · rw [if_pos same] at found
    obtain ⟨old, there, rfl⟩ := Option.map_eq_some_iff.1 found
    have fresh := sound i old there
    unfold SoundBut at fresh
    rw [if_pos same.symm] at fresh
    exact Question.Sound.pending fresh rfl before
  · rw [if_neg same] at found
    have other := sound i q found
    unfold SoundBut at other
    rwa [if_neg (Ne.symm same)] at other

/-- An update that stores the outcome and resolves the promise with it. -/
def Settles (outcome : RpcDispatchOutcome) (f : AnswerTableEntry → AnswerTableEntry) : Prop :=
  ∀ entry, (f entry).promise = some outcome ∧ (f entry).outcome = some outcome ∧
    (f entry).finished = entry.finished ∧ (f entry).aborted = entry.aborted

theorem settles_armTimer {outcome : RpcDispatchOutcome} {f : AnswerTableEntry → AnswerTableEntry}
    (settles : Settles outcome f) (options : RpcServerBridgeOptions) :
    Settles outcome fun entry => armTimer options (f entry) := by
  intro entry
  unfold armTimer
  split
  · split_ifs
    · exact settles entry
    · exact settles entry
  · exact settles entry

theorem settles_hold {outcome : RpcDispatchOutcome} {f : AnswerTableEntry → AnswerTableEntry}
    (settles : Settles outcome f) (indexes : List ℕ) :
    Settles outcome fun entry => hold indexes (f entry) := by
  intro entry
  unfold hold
  split_ifs
  · exact settles entry
  · exact settles entry

theorem settles_settleEntry (outcome : RpcDispatchOutcome) :
    Settles outcome (settleEntry outcome) :=
  fun _ => ⟨rfl, rfl, rfl, rfl⟩

/-- Completing a call settles its entry, and changes no other entry. -/
theorem completeCall_entries (frameError : RpcReturnMessage → Option Thrown) (b : RpcServerBridge)
    (i : EntryId) (q : Question) (outcome : RpcDispatchOutcome) :
    ∃ f, Settles outcome f ∧
      (completeCall frameError b i q outcome).1.questions = (b.updateEntry i f).questions := by
  have settled := settles_settleEntry outcome
  unfold completeCall
  dsimp only
  split_ifs
  · exact ⟨_, settled, rfl⟩
  · have armed := settles_armTimer settled b.options
    cases outcome with
    | exception reason releaseParamCaps =>
      refine ⟨_, armed, ?_⟩
      rw [← updateEntry_updateEntry b i _ (armTimer b.options)]
      rfl
    | results response =>
      refine ⟨_,
        settles_hold armed (tracked b.dispatchByCapability (response.capTable.getD []) false).2, ?_⟩
      rw [← updateEntry_updateEntry b i _ (hold _),
        ← updateEntry_updateEntry b i _ (armTimer b.options)]
      rfl

theorem completeBootstrapAnswer_entries (b : RpcServerBridge) (i : EntryId)
    (response : RpcReturnMessage) :
    ∃ f, Settles (outcomeOf response) f ∧
      (b.completeBootstrapAnswer i response).questions = (b.updateEntry i f).questions := by
  have settled := settles_settleEntry (outcomeOf response)
  unfold completeBootstrapAnswer
  dsimp only
  split
  · exact ⟨_, settled, rfl⟩
  · split_ifs
    · exact ⟨_, settled, rfl⟩
    · refine ⟨_, settles_armTimer (settles_hold settled
        (tracked b.dispatchByCapability response.capTable true).2) b.options, ?_⟩
      rw [← updateEntry_updateEntry b i _ (armTimer b.options),
        ← updateEntry_updateEntry b i _ (hold _)]
      rfl

theorem AllSound.settle (sound : b.AllSound) {outcome : RpcDispatchOutcome}
    {f : AnswerTableEntry → AnswerTableEntry} {stage : Stage} (settles : Settles outcome f)
    (same : c.questions = (b.updateEntry i f).questions) (ended : stage.ended = true) :
    (c.setStage i stage).AllSound := by
  have updated :
      (b.updateQuestion i fun q => { q with stage := stage, entry := f q.entry }).AllSound := by
    refine All.updateQuestion sound fun q _ _ => ?_
    have settled := settles q.entry
    refine Question.sound_ended ended ?_ ?_
    · rw [settled.1]
      rfl
    · intro outcome' stored
      rw [settled.2.1] at stored
      rw [settled.1, stored]
  refine updated.congr ?_
  change c.questions.modify i _ = _
  rw [same]
  exact List.modify_modify_eq _ _ i b.questions

theorem AllSound.pending (sound : b.AllSound) {stage : Stage}
    (before : ∀ q, b.questions[i]? = some q → q.stage.ended = false) (after : stage.ended = false) :
    (b.setStage i stage).AllSound :=
  All.setStage sound fun q there held => Question.Sound.pending held (before q there) after

/-- The timer of an answer is set after its end. -/
theorem AllSound.scheduleEviction (sound : b.AllSound)
    (after : ∀ q, b.questions[i]? = some q → q.stage.ended = true) :
    (b.scheduleEviction i).AllSound := by
  refine All.updateEntry sound fun q there before => ?_
  have kept : (armTimer b.options q.entry).promise = q.entry.promise ∧
      (armTimer b.options q.entry).outcome = q.entry.outcome := by
    unfold armTimer
    split
    · split_ifs <;> exact ⟨rfl, rfl⟩
    · exact ⟨rfl, rfl⟩
  refine Question.sound_ended (after q there) ?_ ?_
  · rw [kept.1]
    exact before.ended (after q there)
  · rw [kept.1, kept.2]
    exact before.same

/-- The stage of a question is the same after an update of entries. -/
theorem Quiet.stage (quiet : Quiet b c) {q' : Question} (found : b.questions[i]? = some q)
    (found' : c.questions[i]? = some q') : q'.stage = q.stage := by
  obtain ⟨q'', there, task⟩ := quiet.question found
  cases there.symm.trans found'
  exact congrArg Task.stage task

theorem ended_of_unsettled {stage : Stage} (unsettled : stage.unsettled = true) :
    stage.ended = false := by
  cases stage <;> first | rfl | cases unsettled

/-- A bootstrap that has failed has its promise resolved. -/
theorem AllSound.failed (sound : b.AllSound) (found : b.questions[i]? = some q)
    (stands : q.stage = .bootstrapping) (error : Thrown) :
    ((b.updateEntry i (failEntry error)).setStage i .idle).AllSound := by
  have updated : (b.updateQuestion i fun q =>
      { q with stage := .idle, entry := failEntry error q.entry }).AllSound := by
    refine All.updateQuestion sound fun q' there before => ?_
    cases found.symm.trans there
    refine Question.sound_ended rfl rfl ?_
    intro outcome stored
    have absent := Question.Sound.outcome before (by rw [stands]; rfl)
    rw [show q.entry.outcome = some outcome from stored] at absent
    cases absent
  exact updated.congr (List.modify_modify_eq _ _ i b.questions)

variable {frameError : RpcReturnMessage → Option Thrown} {event : Event} {effects : List Effect}

theorem AllSound.steps (sound : b.AllSound) (steps : Steps frameError b event b' effects) :
    b'.AllSound := by
  have closed := mildClosed_sound
  have evicted {c : RpcServerBridge} (sound : c.AllSound) (i : EntryId) (questionId : ℕ)
      (releaseWireRefs : Bool) : ((c.releaseAnswerHeldCapabilities i releaseWireRefs).deleteAnswer
        questionId).AllSound :=
    (All.releaseAnswerHeldCapabilities sound closed i releaseWireRefs).congr rfl
  cases steps with
  | unchanged => exact All.congr sound rfl
  | exported => exact All.congr sound rfl
  | retained => exact All.congr sound rfl
  | releasedUnknown => exact sound
  | released => exact All.congr sound rfl
  | finishedUnknown => exact sound
  | finished event finish i => exact evicted (All.mild sound closed mild_finishEntry) i _ _
  | called event call path byteLength =>
    have accepted := AllSound.acceptQuestion sound call.questionId byteLength (.call call path)
    have dispatched := accepted.dispatchCall (mildClosed_soundBut _) call
    exact AllSound.enter dispatched (ended_of_unsettled (quiet_dispatchCall _ call).2)
  | bootstrapped event questionId =>
    exact AllSound.enter (AllSound.acceptQuestion sound questionId 0 .bootstrap) rfl
  | observed response =>
    obtain ⟨f, settles, same⟩ := completeBootstrapAnswer_entries
      (b.acceptQuestion response.answerId 0 .observed) b.questions.length response
    refine All.congr ?_ same
    intro i q found
    rw [question_updateEntry] at found
    by_cases last : b.questions.length = i
    · subst last
      rw [if_pos rfl, b.question_acceptQuestion response.answerId 0 .observed] at found
      cases found
      have settled := settles (AnswerTableEntry.new 0)
      refine Question.sound_ended rfl ?_ ?_
      · rw [settled.1]
        rfl
      · intro outcome stored
        rw [settled.2.1] at stored
        rw [settled.1, stored]
    · rw [if_neg last] at found
      have other := AllSound.acceptQuestion sound response.answerId 0 .observed i q found
      unfold SoundBut at other
      rwa [if_neg (Ne.symm last)] at other
  | bootstrapReturned i result q response found stands =>
    obtain ⟨f, settles, same⟩ := completeBootstrapAnswer_entries b i response
    exact AllSound.settle sound settles same rfl
  | bootstrapFailed i result q error found stands =>
    exact AllSound.failed (b := b.deleteAnswer q.questionId) sound found stands error
  | handlerSettled i outcome q capabilityIndex parent found stands =>
    have released : (parent.elim b b.releasePipelineRef).AllSound := by
      cases parent with
      | none => exact sound
      | some parent => exact All.mild sound closed mild_releasePipelineRef
    have quiet : Quiet b (parent.elim b b.releasePipelineRef) := by
      cases parent with
      | none => exact Quiet.refl b
      | some parent => exact quiet_releasePipelineRef b parent
    exact AllSound.pending released
      (fun q' there => by rw [quiet.stage found there, stands]; rfl) rfl
  | canceled i q call path parent transform found owned stands =>
    have quiet := quiet_releasePipelineRef b parent
    have released : (b.releasePipelineRef parent).AllSound :=
      All.mild sound closed mild_releasePipelineRef
    exact AllSound.pending released
      (fun q' there => by rw [quiet.stage found there, stands]; rfl) rfl
  | resumed i q call path parent transform target outcome found owned stands =>
    have quiet := quiet_dispatchToAnswer b call parent outcome transform
    have dispatched : (b.dispatchToAnswer call parent outcome transform).1.AllSound :=
      All.dispatchToAnswer sound closed call parent outcome transform
    exact AllSound.pending dispatched
      (fun q' there => by rw [quiet.1.stage found there, stands]; rfl)
      (ended_of_unsettled quiet.2)
  | completed i q call path outcome =>
    obtain ⟨f, settles, same⟩ := completeCall_entries frameError b i q outcome
    cases path with
    | frame => exact AllSound.settle sound settles same rfl
    | host abi => exact AllSound.settle sound settles same rfl
  | responded i failure q call abi result found owned stands =>
    refine All.setStage sound fun q' there before => ?_
    cases found.symm.trans there
    exact Question.sound_ended rfl (before.ended (by rw [stands]; rfl)) before.same
  | timerStale => exact All.mild sound closed mild_disarmTimer
  | timerDeferred i q found armed =>
    have counted : ((b.updateEntry i disarmTimer).updateEntry i countAttempt).AllSound :=
      All.mild (All.mild sound closed mild_disarmTimer) closed mild_countAttempt
    have quiet := quiet_countAttempt b i
    have ended : q.stage.ended = true := by
      by_contra pending
      have off := (sound i q found).timer (Bool.eq_false_iff.2 pending)
      rw [armed] at off
      cases off
    exact AllSound.scheduleEviction counted fun q' there => by rw [quiet.stage found there, ended]
  | timerForced i =>
    exact evicted (All.mild (All.mild sound closed mild_disarmTimer) closed mild_countAttempt) i _ _
  | timerEvicted i => exact evicted (All.mild sound closed mild_disarmTimer) i _ _
  | answerFinished => exact All.mild sound closed mild_cancelEntry
  | closed => exact (All.closeEntries sound closed _).congr rfl

/-! ## Properties that last -/

/-- A property of questions that no step ends. -/
structure Lasting (P : EntryId → Question → Prop) : Prop where
  mild : MildClosed P
  armed : ∀ i q options, P i q → P i { q with entry := armTimer options q.entry }
  pending : ∀ i (q : Question) (stage : Stage), q.stage.ended = false →
    stage.ended = false → P i q →
    P i { q with stage := stage }
  settles : ∀ i (q : Question) f outcome (stage : Stage), Settles outcome f →
    q.stage.ended = false →
    stage.ended = true → P i q → P i { q with entry := f q.entry, stage := stage }
  fails : ∀ i (q : Question) error, q.stage.ended = false → P i q →
    P i { q with entry := failEntry error q.entry, stage := .idle }
  responds : ∀ i (q : Question), q.stage.ended = true → P i q → P i { q with stage := .idle }

theorem All.lasting (all : b.All P) (lasting : Lasting P) (new : ∀ q, P b.questions.length q)
    (steps : Steps frameError b event b' effects) : b'.All P := by
  have closed := lasting.mild
  have left {c : RpcServerBridge} (all : c.All P) (i : EntryId) (releaseWireRefs : Bool)
      (questionId : ℕ) :
      ((c.releaseAnswerHeldCapabilities i releaseWireRefs).deleteAnswer questionId).All P :=
    (all.releaseAnswerHeldCapabilities closed i releaseWireRefs).congr rfl
  have goesOn {c : RpcServerBridge} {i : EntryId} {q : Question} {stage : Stage} (quiet : Quiet b c)
      (all : c.All P) (found : b.questions[i]? = some q) (before : q.stage.ended = false)
      (after : stage.ended = false) : (c.setStage i stage).All P := by
    refine all.setStage fun q' there holds => lasting.pending i q' stage ?_ after holds
    rw [quiet.stage found there, before]
  have settled {c : RpcServerBridge} {i : EntryId} {q : Question} {stage : Stage}
      {outcome : RpcDispatchOutcome}
      {f : AnswerTableEntry → AnswerTableEntry} (settles : Settles outcome f)
      (same : c.questions = (b.updateEntry i f).questions) (found : b.questions[i]? = some q)
      (before : q.stage.ended = false) (after : stage.ended = true) :
      (c.setStage i stage).All P := by
    refine All.goesOn all same (fun _ _ _ holds => holds) fun q' there holds => ?_
    cases found.symm.trans there
    exact lasting.settles i _ f outcome stage settles before after holds
  cases steps with
  | unchanged | exported | retained | releasedUnknown | released
  | finishedUnknown => exact all.congr rfl
  | finished event finish i =>
    have finished := all.mild (i := i) closed mild_finishEntry
    exact left finished i _ _
  | called event call path byteLength =>
    have accepted := all.acceptQuestion call.questionId byteLength (.call call path)
    have dispatched := accepted.dispatchCall (closed.exempt _) call
    exact All.enter dispatched fun q _ => new _
  | bootstrapped event questionId =>
    exact All.enter (all.acceptQuestion questionId 0 .bootstrap) fun q _ => new _
  | observed response =>
    obtain ⟨f, settles, same⟩ := completeBootstrapAnswer_entries
      (b.acceptQuestion response.answerId 0 .observed) b.questions.length response
    have accepted : (b.acceptQuestion response.answerId 0 .observed).All P := all.push rfl (new _)
    exact accepted.changed same (fun _ _ _ holds => holds) fun q _ _ => new _
  | bootstrapReturned i result q response found stands =>
    obtain ⟨f, settles, same⟩ := completeBootstrapAnswer_entries b i response
    exact settled settles same found (by rw [stands]; rfl) rfl
  | bootstrapFailed i result q error found stands =>
    refine All.goesOn (b := b.deleteAnswer q.questionId) all rfl (fun _ _ _ holds => holds) fun q'
      there holds => ?_
    cases found.symm.trans there
    exact lasting.fails i _ error (by rw [stands]; rfl) holds
  | handlerSettled i outcome q capabilityIndex parent found stands =>
    have released : Quiet b (parent.elim b b.releasePipelineRef) ∧
        (parent.elim b b.releasePipelineRef).All P := by
      cases parent with
      | none => exact ⟨Quiet.refl b, all⟩
      | some parent =>
        exact ⟨quiet_releasePipelineRef b parent, all.mild closed mild_releasePipelineRef⟩
    exact goesOn released.1 released.2 found (by rw [stands]; rfl) rfl
  | canceled i q call path parent transform found owned stands =>
    exact goesOn (quiet_releasePipelineRef b parent) (all.mild closed mild_releasePipelineRef) found
      (by rw [stands]; rfl) rfl
  | resumed i q call path parent transform target outcome found owned stands =>
    have quiet := quiet_dispatchToAnswer b call parent outcome transform
    exact goesOn quiet.1 (all.dispatchToAnswer closed call parent outcome transform) found
      (by rw [stands]; rfl) (ended_of_unsettled quiet.2)
  | completed i q call path outcome found owned stands =>
    obtain ⟨f, settles, same⟩ := completeCall_entries frameError b i q outcome
    cases path with
    | frame => exact settled settles same found (by rw [stands]; rfl) rfl
    | host abi => exact settled settles same found (by rw [stands]; rfl) rfl
  | responded i failure q call abi result found owned stands =>
    refine all.setStage fun q' there holds => ?_
    cases found.symm.trans there
    exact lasting.responds i _ (by rw [stands]; rfl) holds
  | timerStale => exact all.mild closed mild_disarmTimer
  | timerDeferred i =>
    have counted :=
      (all.mild (i := i) closed mild_disarmTimer).mild (i := i) closed mild_countAttempt
    exact counted.updateEntry fun q _ holds => lasting.armed i q _ holds
  | timerForced i =>
    have counted :=
      (all.mild (i := i) closed mild_disarmTimer).mild (i := i) closed mild_countAttempt
    exact left counted i _ _
  | timerEvicted i => exact left (all.mild closed mild_disarmTimer) i _ _
  | answerFinished => exact all.mild closed mild_cancelEntry
  | closed => exact (all.closeEntries closed _).congr rfl

end RpcServerBridge

end CapnpDeno
