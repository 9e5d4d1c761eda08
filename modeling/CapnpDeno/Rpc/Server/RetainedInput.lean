import CapnpDeno.Rpc.Server.BridgeLemmas

/-!
# The input bytes a bridge retains

`retainedInputFrameBytes` is the sum of the frame lengths of the calls whose `#completeCall` has not
ended: a call is charged in the step that accepts it and refunded in the step that completes it, and
no other step moves a call across these two.
-/

namespace CapnpDeno

/-- The bytes a question is charged for. -/
def Question.charge (q : Question) : ℤ := if q.stage.unsettled then q.entry.inputFrameBytes else 0

namespace RpcServerBridge

/-- The frame lengths of the unsettled calls, summed. -/
def charges (b : RpcServerBridge) : ℤ := (b.questions.map Question.charge).sum

variable {b b' : RpcServerBridge} {i : EntryId} {q : Question}

theorem charge_congr {q' : Question} (same : taskOf q' = taskOf q) : q'.charge = q.charge := by
  simp only [taskOf, Task.mk.injEq] at same
  simp only [Question.charge, same]

theorem Quiet.charges (quiet : Quiet b b') : b'.charges = b.charges := by
  have factors (l : List Question) : l.map Question.charge =
      (l.map taskOf).map fun task => if task.stage.unsettled then (task.inputFrameBytes : ℤ)
      else 0 := by
    rw [List.map_map]
    rfl
  unfold RpcServerBridge.charges
  rw [factors, factors, quiet.tasks]

theorem charges_setStage {stage : Stage} (found : b.questions[i]? = some q) :
    (b.setStage i stage).charges = b.charges +
      (Question.charge { q with stage := stage } - q.charge) :=
  Heap.sum_modify Question.charge found

/-- A change of stage on one side of the settlement. -/
theorem charges_setStage_same {stage : Stage} (found : b.questions[i]? = some q)
    (same : stage.unsettled = q.stage.unsettled) : (b.setStage i stage).charges = b.charges := by
  have kept : Question.charge { q with stage := stage } = q.charge := by
    simp only [Question.charge, same]
  rw [charges_setStage found, kept, sub_self, add_zero]

/-! ## The account of a step -/

/-- The options stay, the counter moves with the charges, and it grows within the budget only. -/
structure Balanced (b b' : RpcServerBridge) : Prop where
  options : b'.options = b.options
  balance : b'.retainedInputFrameBytes - b'.charges = b.retainedInputFrameBytes - b.charges
  bounded : b'.retainedInputFrameBytes ≤ b.retainedInputFrameBytes ∨
    ∀ limit, b.options.maxRetainedInputFrameBytes = some limit → b'.retainedInputFrameBytes ≤ limit

theorem Quiet.balanced (quiet : Quiet b b') : Balanced b b' := by
  refine ⟨quiet.options, ?_, .inl quiet.retained.le⟩
  rw [quiet.retained, quiet.charges]

theorem Balanced.congr (balanced : Balanced b b') {c : RpcServerBridge}
    (options : c.options = b'.options) (retained : c.retainedInputFrameBytes =
      b'.retainedInputFrameBytes)
    (charges : c.charges = b'.charges) : Balanced b c := by
  obtain ⟨kept, balance, bounded⟩ := balanced
  refine ⟨options.trans kept, ?_, ?_⟩
  · rw [retained, charges, balance]
  · rw [retained]
    exact bounded

/-- A quiet operation, and a change of stage on one side of the settlement. -/
theorem balanced_setStage {stage : Stage} (quiet : Quiet b b') (found : b.questions[i]? = some q)
    (same : stage.unsettled = q.stage.unsettled) : Balanced b (b'.setStage i stage) := by
  obtain ⟨q', there, task⟩ := quiet.question found
  have stage' : q'.stage = q.stage := congrArg Task.stage task
  refine quiet.balanced.congr rfl rfl (charges_setStage_same there ?_)
  rw [same, stage']

/-- An unsettled call ends, and its bytes are given back. -/
theorem balanced_settle {stage : Stage} (quiet : Quiet b b') (found : b.questions[i]? = some q)
    (before : q.stage.unsettled = true) (after : stage.unsettled = false) :
    Balanced b ((b'.refund q.entry.inputFrameBytes).setStage i stage) := by
  obtain ⟨q', there, task⟩ := quiet.question found
  have charged : q'.charge = q.entry.inputFrameBytes := by
    rw [charge_congr task, Question.charge, before, if_pos rfl]
  have free : Question.charge { q' with stage := stage } = 0 := by
    simp only [Question.charge, after, Bool.false_eq_true, if_false]
  have charges : ((b'.refund q.entry.inputFrameBytes).setStage i stage).charges =
      b'.charges - q.entry.inputFrameBytes := by
    rw [charges_setStage (b := b'.refund q.entry.inputFrameBytes) there, charged, free]
    change b'.charges + _ = _
    omega
  have retained : ((b'.refund q.entry.inputFrameBytes).setStage i stage).retainedInputFrameBytes =
      b.retainedInputFrameBytes - q.entry.inputFrameBytes := by
    rw [← quiet.retained]
    rfl
  refine ⟨quiet.options, ?_, .inl ?_⟩
  · rw [charges, retained, quiet.charges]
    omega
  · rw [retained]
    omega

theorem charges_acceptQuestion (b : RpcServerBridge) (questionId inputFrameBytes : ℕ)
    (owner : Owner) :
    (b.acceptQuestion questionId inputFrameBytes owner).charges = b.charges := by
  unfold charges acceptQuestion
  rw [List.map_append, List.sum_append]
  exact add_zero _

/-- A question is charged when its computation is entered. -/
theorem balanced_accept {questionId inputFrameBytes : ℕ} {owner : Owner} {stage : Stage}
    (accepts : b.Accepts questionId inputFrameBytes)
    (quiet : Quiet (b.acceptQuestion questionId inputFrameBytes owner) b')
    (charged : (if stage.unsettled then (inputFrameBytes : ℤ) else 0) = inputFrameBytes) :
    Balanced b (b'.setStage b.questions.length stage) := by
  obtain ⟨q', there, task⟩ :=
    quiet.question (b.question_acceptQuestion questionId inputFrameBytes owner)
  have bytes : q'.entry.inputFrameBytes = inputFrameBytes := congrArg Task.inputFrameBytes task
  have before : q'.charge = 0 := charge_congr task
  have after : Question.charge { q' with stage := stage } = inputFrameBytes := by
    simp only [Question.charge, bytes, charged]
  have charges : (b'.setStage b.questions.length stage).charges = b.charges + inputFrameBytes := by
    rw [charges_setStage there, before, after, quiet.charges, charges_acceptQuestion, sub_zero]
  have retained : (b'.setStage b.questions.length stage).retainedInputFrameBytes =
      b.retainedInputFrameBytes + inputFrameBytes := quiet.retained
  refine ⟨quiet.options, ?_, .inr fun limit limited => ?_⟩
  · rw [charges, retained]
    omega
  · have within := (accepts_iff.1 accepts).2.2.2
    simp only [overBudget, limited, decide_eq_false_iff_not] at within
    rw [retained]
    omega

/-- A mirrored bootstrap answer has no frame to charge for. -/
theorem balanced_observe (b : RpcServerBridge) (questionId : ℕ) :
    Balanced b (b.acceptQuestion questionId 0 .observed) := by
  have free : (b.acceptQuestion questionId 0 .observed).retainedInputFrameBytes =
      b.retainedInputFrameBytes := add_zero _
  refine ⟨rfl, ?_, .inl free.le⟩
  rw [charges_acceptQuestion, free]

theorem steps_balanced {frameError : RpcReturnMessage → Option Thrown} {event : Event}
    {effects : List Effect} (steps : Steps frameError b event b' effects) : Balanced b b' := by
  cases steps.shape with
  | quiet quiet => exact quiet.balanced
  | counted => exact (Quiet.refl b).balanced.congr rfl rfl rfl
  | removed quiet questionId => exact quiet.balanced.congr rfl rfl rfl
  | moved i q stage quiet found same => exact balanced_setStage quiet found same
  | settled i q stage quiet found before after =>
    refine balanced_settle quiet found before ?_
    rcases after with rfl | ⟨result, call, abi, rfl, -⟩ <;> rfl
  | failed i q quiet found same =>
    have moved := balanced_setStage quiet found same
    exact ⟨moved.options, moved.balance, moved.bounded⟩
  | accepted questionId byteLength owner stage accepts quiet owned =>
    refine balanced_accept accepts quiet ?_
    rcases owned with ⟨unsettled, -⟩ | ⟨rfl, rfl⟩
    · rw [unsettled, if_pos rfl]
    · rfl
  | observed questionId accepts quiet =>
    exact (balanced_observe b questionId).congr quiet.options quiet.retained quiet.charges
  | closed => exact (quiet_closeEntries b _).balanced.congr rfl rfl rfl

/-! ## The budget over a run -/

theorem charge_nonneg (q : Question) : 0 ≤ q.charge := by
  unfold Question.charge
  split_ifs <;> omega

theorem charges_nonneg (b : RpcServerBridge) : 0 ≤ b.charges := by
  apply List.sum_nonneg
  intro charge mem
  obtain ⟨q, -, rfl⟩ := List.mem_map.1 mem
  exact charge_nonneg q

/-- The counter is the sum of the charges, and stays within the budget. -/
structure Budgeted (options : RpcServerBridgeOptions) (b : RpcServerBridge) : Prop where
  fixed : b.options = options
  exact : b.retainedInputFrameBytes = b.charges
  within : ∀ limit : ℕ, options.maxRetainedInputFrameBytes = some limit →
    b.retainedInputFrameBytes ≤ limit

theorem Balanced.budgeted {options : RpcServerBridgeOptions} (balanced : Balanced b b')
    (budgeted : Budgeted options b) : Budgeted options b' := by
  refine ⟨balanced.options.trans budgeted.fixed, ?_, fun limit limited => ?_⟩
  · have moved := balanced.balance
    have before := budgeted.exact
    omega
  · rcases balanced.bounded with less | within
    · exact less.trans (budgeted.within limit limited)
    · exact within limit (budgeted.fixed ▸ limited)

/-- The counter is exact after every run, whatever the frames, the handlers and the encoder do. -/
theorem run_budgeted (frameError : RpcReturnMessage → Option Thrown)
    (options : RpcServerBridgeOptions) (events : List Event) :
    Budgeted options (Machine.final (step frameError) (initial options) events) := by
  apply Machine.invariant
  · intro b event budgeted
    exact (steps_balanced (b.steps_of_step event)).budgeted budgeted
  · exact ⟨rfl, rfl, fun limit _ => Int.natCast_nonneg limit⟩

/-- A question that is refused changes no more than the count of the refused. -/
theorem registerAnswerEntry_refused {questionId inputFrameBytes : ℕ} (owner : Owner)
    (refused : ¬ b.Accepts questionId inputFrameBytes) :
    ∃ rejected frame, b.registerAnswerEntry questionId inputFrameBytes owner =
      ({ b with rejectedInputFrames := rejected }, .error frame) := by
  rcases b.registerAnswerEntry_cases questionId inputFrameBytes owner with same | ⟨accepts, -⟩
  · exact same
  · exact absurd accepts refused

/-- So does the step of a call that is refused, on either path. -/
theorem step_refused (frameError : RpcReturnMessage → Option Thrown) {event : Event}
    {call : RpcCallRequest} {path : CallPath} {byteLength : ℕ}
    (calls : event.calls call path byteLength) (refused : ¬ b.Accepts call.questionId byteLength) :
    ∃ rejected, (b.step frameError event).1 = { b with rejectedInputFrames := rejected } := by
  have handled : ∃ rejected, (b.handleCall call byteLength).1 =
      { b with rejectedInputFrames := rejected } := by
    obtain ⟨rejected, frame, same⟩ := registerAnswerEntry_refused (.call call .frame) refused
    refine ⟨rejected, ?_⟩
    unfold handleCall
    rw [same]
  rcases calls with ⟨arrives, -⟩ | ⟨abi, record, failure, rfl, -, decoded, rfl⟩
  · cases event with
    | handleFrame frame =>
      cases arrives
      simp only [step]
      split_ifs
      · exact ⟨b.rejectedInputFrames, rfl⟩
      · exact handled
    | resumeFrame frame =>
      cases arrives
      exact handled
    | _ => cases arrives
  · simp only [step, handleWasmHostCall, decoded]
    split_ifs
    · exact ⟨b.rejectedInputFrames, rfl⟩
    · obtain ⟨rejected, frame, same⟩ := registerAnswerEntry_refused (.call call (.host abi)) refused
      refine ⟨rejected, ?_⟩
      rw [same]

/-- After every run the retained bytes are those of the calls that have not completed, within the
budget, and a call that is refused changes neither them nor the answer table nor any capability. -/
theorem retained_input_exact (frameError : RpcReturnMessage → Option Thrown)
    (options : RpcServerBridgeOptions) (events : List Event) :
    let b := Machine.final (step frameError) (initial options) events
    b.retainedInputFrameBytes = b.charges ∧ 0 ≤ b.retainedInputFrameBytes ∧
      (∀ limit : ℕ, options.maxRetainedInputFrameBytes = some limit →
        b.retainedInputFrameBytes ≤ limit) ∧
      ∀ event call path byteLength, event.calls call path byteLength →
        ¬ b.Accepts call.questionId byteLength →
          (b.step frameError event).1.retainedInputFrameBytes = b.retainedInputFrameBytes ∧
          (b.step frameError event).1.charges = b.charges ∧
          (b.step frameError event).1.answerTable = b.answerTable ∧
          (b.step frameError event).1.dispatchByCapability = b.dispatchByCapability := by
  intro b
  have budgeted := run_budgeted frameError options events
  refine ⟨budgeted.exact, ?_, budgeted.within, ?_⟩
  · exact budgeted.exact ▸ charges_nonneg b
  · intro event call path byteLength calls refused
    obtain ⟨rejected, same⟩ := step_refused frameError calls refused
    rw [same]
    exact ⟨rfl, rfl, rfl, rfl⟩

end RpcServerBridge

end CapnpDeno
