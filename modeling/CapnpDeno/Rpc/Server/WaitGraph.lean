import CapnpDeno.Rpc.Server.BridgeInvariant
import CapnpDeno.Rpc.Server.RetainedInput
import Mathlib.Logic.Relation

/-!
# Who waits for whom

A pipelined call waits on the promise of the entry that its target names.  The call's own entry is
in the table by then, so a call that targets its own question waits on itself; any other target is
an older entry.  Where no call targets its own question the waits are well founded, and a bridge
whose handlers have settled settles every call.
-/

namespace CapnpDeno

/-- How many continuations a computation has ahead of it. -/
def Stage.ahead : Stage → ℤ
  | .idle => 0
  | .waiting _ _ => 4
  | .dispatching _ _ => 3
  | .dispatched _ => 2
  | .responding _ => 1
  | .bootstrapping => 1

/-- The event continues a computation inside the bridge; the world has no part in when it comes. -/
def Event.continues : Event → Bool
  | .resumePipelined _ => true
  | .completeCall _ => true
  | .respond _ _ => true
  | _ => false

/-- The call targets the answer of its own question. -/
def RpcCallRequest.aimsAtSelf (call : RpcCallRequest) : Bool :=
  match call.target with
  | .promisedAnswer questionId _ => questionId = call.questionId
  | .importedCap _ => false

/-- The event brings a call on its own answer. -/
def Event.aimsAtSelf : Event → Bool
  | .handleFrame (.call call _) | .resumeFrame (.call call _) => call.aimsAtSelf
  | .hostCall _ record _ => record.call.toOption.any RpcCallRequest.aimsAtSelf
  | _ => false

namespace RpcServerBridge

variable {b b' c : RpcServerBridge} {i j : EntryId} {q : Question} {event : Event}

/-- The dispatch of the entry waits on the promise of the other. -/
def WaitsOn (b : RpcServerBridge) (i parent : EntryId) : Prop :=
  ∃ q transform, b.questions[i]? = some q ∧ q.stage = .waiting parent transform

/-- No entry waits on itself, directly or through others. -/
def Acyclic (b : RpcServerBridge) : Prop := ∀ i, ¬ Relation.TransGen b.WaitsOn i i

/-- Every handler that was called has settled, `onBootstrap` among them. -/
def HandlersSettled (b : RpcServerBridge) : Prop :=
  ∀ (i : EntryId) (q : Question), b.questions[i]? = some q →
    q.stage ≠ .bootstrapping ∧ ∀ capabilityIndex parent, q.stage ≠
    .dispatching capabilityIndex parent

/-- Every computation is over, and its bytes have been given back. -/
def Settled (b : RpcServerBridge) : Prop :=
  (∀ (i : EntryId) (q : Question), b.questions[i]? = some q → q.stage = .idle) ∧
    b.retainedInputFrameBytes = 0

/-- No call that is accepted targets its own question. -/
def AimsElsewhere (b : RpcServerBridge) (event : Event) : Prop :=
  ∀ call path byteLength, event.calls call path byteLength → b.Accepts call.questionId byteLength →
    ∀ transform, call.target ≠ .promisedAnswer call.questionId transform

/-! ## Owners -/

/-- A call that has not ended has a request, and a responder a WASM peer. -/
def Task.Owned (task : Task) : Prop :=
  (task.stage.unsettled = true → ∃ call path, task.owner = .call call path) ∧
    ∀ result, task.stage = .responding result → ∃ call abi, task.owner = .call call (.host abi)

theorem Task.Owned.entered {task : Task} {stage : Stage} (owned : task.Owned)
    (entered : stage.entered = true) (same : stage.unsettled = task.stage.unsettled) :
    Task.Owned { task with stage := stage } := by
  refine ⟨fun unsettled => owned.1 (same ▸ unsettled), ?_⟩
  rintro result rfl
  cases entered

theorem allTasks_owned (shape : Shape b event b') (all : b.AllTasks fun _ => Task.Owned) :
    b'.AllTasks fun _ => Task.Owned := by
  cases shape with
  | quiet quiet => exact all.quiet quiet
  | counted => exact all
  | removed quiet => exact All.congr (all.quiet quiet) rfl
  | moved i q stage quiet found same entered =>
    exact all.moved quiet found fun owned => owned.entered entered same
  | settled i q stage quiet found before after =>
    refine All.congr (all.moved quiet found fun _ => ?_) rfl
    rcases after with rfl | ⟨result, call, abi, rfl, host⟩
    · exact ⟨nofun, nofun⟩
    · exact ⟨nofun, fun _ _ => ⟨call, abi, host⟩⟩
  | failed i q quiet found =>
    exact AllTasks.moved (b := b.deleteAnswer q.questionId) all quiet found fun _ => ⟨nofun, nofun⟩
  | accepted questionId byteLength owner stage accepts quiet owned =>
    refine all.accepted quiet ?_
    rcases owned with ⟨unsettled, call, path, rfl⟩ | ⟨rfl, -⟩
    · refine ⟨fun _ => ⟨call, path, rfl⟩, ?_⟩
      rintro result rfl
      cases unsettled
    · exact ⟨nofun, nofun⟩
  | observed questionId accepts quiet => exact all.observed quiet ⟨nofun, nofun⟩
  | closed => exact All.congr (all.quiet (quiet_closeEntries b _)) rfl

/-! ## Waits lead to older entries -/

/-- The task waits on an older entry, if it waits. -/
def Task.Older (i : EntryId) (task : Task) : Prop :=
  ∀ parent transform, task.stage = .waiting parent transform → parent < i

theorem Task.Older.entered {task : Task} {stage : Stage} (entered : stage.entered = true) :
    Task.Older i { task with stage := stage } := by
  rintro parent transform rfl
  cases entered

/-- An accepted call that aims at another question finds an entry that is older than its own. -/
theorem older_target {questionId target byteLength : ℕ} {owner : Owner} {parent : EntryId}
    (placed : b.Placed) (other : target ≠ questionId)
    (found : (b.acceptQuestion questionId byteLength owner).answerTable.lookup target =
      some parent) :
    parent < b.questions.length := by
  have inserted : (b.answerTable.insert questionId b.questions.length).lookup target =
      some parent := found
  rw [Table.lookup_insert, if_neg other] at inserted
  obtain ⟨q, there, -⟩ := placed target parent inserted
  exact (List.getElem?_eq_some_iff.1 there).1

theorem allTasks_older (shape : Shape b event b') (placed : b.Placed) (aims : b.AimsElsewhere event)
    (all : b.AllTasks Task.Older) : b'.AllTasks Task.Older := by
  cases shape with
  | quiet quiet => exact all.quiet quiet
  | counted => exact all
  | removed quiet => exact All.congr (all.quiet quiet) rfl
  | moved i q stage quiet found same entered =>
    exact all.moved quiet found fun _ => Task.Older.entered entered
  | settled i q stage quiet found before after =>
    refine All.congr (all.moved quiet found fun _ => ?_) rfl
    rcases after with rfl | ⟨result, call, abi, rfl, host⟩ <;> exact nofun
  | failed i q quiet found =>
    exact AllTasks.moved (b := b.deleteAnswer q.questionId) all quiet found fun _ => nofun
  | accepted questionId byteLength owner stage accepts quiet owned waits =>
    refine all.accepted quiet fun parent transform stands => ?_
    obtain ⟨call, path, target, calls, rfl, aimed, found, -⟩ := waits parent transform stands
    refine older_target placed ?_ found
    rintro rfl
    exact aims call path byteLength calls accepts transform aimed
  | observed questionId accepts quiet => exact all.observed quiet nofun
  | closed => exact All.congr (all.quiet (quiet_closeEntries b _)) rfl

theorem acyclic_of_older (older : b.AllTasks Task.Older) : b.Acyclic := by
  have descends {i j : EntryId} (chain : Relation.TransGen b.WaitsOn i j) : j < i := by
    induction chain with
    | single waits =>
      obtain ⟨q, transform, found, stands⟩ := waits
      exact older i q found _ transform stands
    | tail _ waits ih =>
      obtain ⟨q, transform, found, stands⟩ := waits
      exact Nat.lt_trans (older _ q found _ transform stands) ih
  exact fun i chain => Nat.lt_irrefl i (descends chain)

theorem aimsElsewhere_of_not_aimsAtSelf (other : event.aimsAtSelf = false) :
    b.AimsElsewhere event := by
  intro call path byteLength calls _ transform aimed
  have self : call.aimsAtSelf = true := by simp [RpcCallRequest.aimsAtSelf, aimed]
  have same : event.aimsAtSelf = call.aimsAtSelf := by
    rcases calls with ⟨arrives, -⟩ | ⟨abi, record, failure, rfl, -, decoded, -⟩
    · unfold Event.frame at arrives
      split at arrives
      · cases arrives
        rfl
      · cases arrives
        rfl
      · cases arrives
    · unfold Event.aimsAtSelf
      dsimp only
      rw [decoded]
      rfl
  rw [same, self] at other
  cases other

/-- A continuation brings no call. -/
theorem aimsElsewhere_of_continues (continues : event.continues = true) :
    b.AimsElsewhere event := by
  intro call path byteLength calls
  cases event with
  | resumePipelined | completeCall
  | respond => rcases calls with ⟨arrives, -⟩ | ⟨_, _, _, arrives, -⟩ <;> cases arrives
  | _ => cases continues

/-! ## What holds in every state -/

/-- The invariant of the runs in which no call targets its own question. -/
structure WellFounded (b : RpcServerBridge) : Prop where
  placed : b.Placed
  sound : b.AllSound
  owned : b.AllTasks fun _ => Task.Owned
  older : b.AllTasks Task.Older

theorem wellFounded_initial (options : RpcServerBridgeOptions) : (initial options).WellFounded := by
  refine ⟨?_, all_initial options, all_initial options, all_initial options⟩
  intro questionId i found
  cases found

theorem WellFounded.step {frameError : RpcReturnMessage → Option Thrown} (holds : b.WellFounded)
    (aims : b.AimsElsewhere event) : (b.step frameError event).1.WellFounded := by
  have steps : Steps frameError b event _ _ := b.steps_of_step event
  have shape := steps.shape
  exact ⟨holds.placed.shape shape, holds.sound.steps steps, allTasks_owned shape holds.owned,
    allTasks_older shape holds.placed aims holds.older⟩

/-- By induction on the entry: the one a call waits on is older, so it is idle and its promise
resolved. -/
theorem WellFounded.idle (holds : b.WellFounded) (handlers : b.HandlersSettled)
    (drained : b.questions.any b.ready = false) :
    ∀ (i : EntryId) (q : Question), b.questions[i]? = some q → q.stage = .idle := by
  intro i
  induction i using Nat.strong_induction_on with
  | _ i ih =>
    intro q found
    have unready : b.ready q = false := 
      Bool.eq_false_iff.2 (List.any_eq_false.1 drained q (List.mem_of_getElem? found))
    cases stands : q.stage with
    | idle => rfl
    | waiting parent transform =>
      have older : parent < i := holds.older i q found parent transform stands
      have within : parent < b.questions.length :=
        Nat.lt_trans older (List.getElem?_eq_some_iff.1 found).1
      have there := List.getElem?_eq_getElem within
      have idle := ih parent older _ there
      have resolved := (holds.sound parent _ there).ended (by rw [idle]; rfl)
      simp [ready, stands, within, resolved] at unready
    | dispatching capabilityIndex parent => exact absurd stands ((handlers i q found).2 _ _)
    | dispatched outcome => simp [ready, stands] at unready
    | responding result => simp [ready, stands] at unready
    | bootstrapping => exact absurd stands (handlers i q found).1

theorem charges_of_idle
    (idle : ∀ (i : EntryId) (q : Question), b.questions[i]? = some q → q.stage = .idle) :
    b.charges = 0 := by
  unfold charges
  apply List.sum_eq_zero
  intro charge mem
  obtain ⟨q, member, rfl⟩ := List.mem_map.1 mem
  obtain ⟨i, found⟩ := List.mem_iff_getElem?.1 member
  unfold Question.charge
  rw [idle i q found]
  rfl

/-! ## Continuations come to an end -/

/-- The continuations all computations have ahead of them. -/
def work (b : RpcServerBridge) : ℤ := (b.questions.map fun q => q.stage.ahead).sum

theorem work_nonneg (b : RpcServerBridge) : 0 ≤ b.work := by
  apply List.sum_nonneg
  intro ahead mem
  obtain ⟨q, -, rfl⟩ := List.mem_map.1 mem
  cases q.stage <;> exact Int.natCast_nonneg _

theorem Quiet.work (quiet : Quiet b c) : c.work = b.work := by
  have factors (l : List Question) :
      (l.map fun q => q.stage.ahead) = (l.map taskOf).map fun task => task.stage.ahead := by
    rw [List.map_map]
    rfl
  unfold RpcServerBridge.work
  rw [factors, factors, quiet.tasks]

/-- A stage with less ahead leaves less work. -/
theorem work_setStage {stage : Stage} (quiet : Quiet b c) (found : b.questions[i]? = some q)
    (less : stage.ahead < q.stage.ahead) : (c.setStage i stage).work < b.work := by
  obtain ⟨q', there, task⟩ := quiet.question found
  have stage' : q'.stage = q.stage := congrArg Task.stage task
  have moved : (c.setStage i stage).work = c.work + (stage.ahead - q'.stage.ahead) :=
    Heap.sum_modify (fun q : Question => q.stage.ahead) there
  rw [moved, quiet.work, stage']
  omega

theorem ahead_entered {stage : Stage} (entered : stage.entered = true) : stage.ahead < 4 := by
  cases stage <;> simp_all [Stage.ahead, Stage.entered]

variable (frameError : RpcReturnMessage → Option Thrown)

/-- A computation that is ready has a continuation, which leaves less work. -/
theorem continues (owned : b.AllTasks fun _ => Task.Owned) (found : b.questions[i]? = some q)
    (ready : b.ready q = true) :
    ∃ event, event.continues = true ∧ (b.step frameError event).1.work < b.work := by
  have owner : Task.Owned (taskOf q) := owned i q found
  cases stands : q.stage with
  | waiting parent transform =>
    have unsettled : q.stage.unsettled = true := by rw [stands]; rfl
    obtain ⟨call, path, called⟩ : ∃ call path, q.owner = .call call path := owner.1 unsettled
    refine ⟨.resumePipelined i, rfl, ?_⟩
    simp only [step, atStage, found, stands, called]
    by_cases aborted : q.entry.aborted = true
    · rw [if_pos aborted]
      refine work_setStage (quiet_releasePipelineRef b parent) found ?_
      simp [stands, Stage.ahead]
    · rw [if_neg aborted]
      cases resolved : b.questions[parent]?.bind (·.entry.promise) with
      | none => simp [RpcServerBridge.ready, stands, aborted, resolved] at ready
      | some outcome =>
        have entered := dispatchToAnswer_entered b call parent outcome transform
        refine work_setStage (quiet_dispatchToAnswer b call parent outcome transform).1 found ?_
        rw [stands]
        exact ahead_entered entered
  | dispatched outcome =>
    have unsettled : q.stage.unsettled = true := by rw [stands]; rfl
    obtain ⟨call, path, called⟩ : ∃ call path, q.owner = .call call path := owner.1 unsettled
    obtain ⟨c, quiet, same⟩ := quiet_completeCall frameError b i q outcome
    refine ⟨.completeCall i, rfl, ?_⟩
    simp only [step, atStage, found, stands, called]
    cases path with
    | frame =>
      simp only [completeStage, same]
      change (c.setStage i _).work < b.work
      refine work_setStage quiet found ?_
      simp [stands, Stage.ahead]
    | host abi =>
      simp only [completeStage, same]
      change (c.setStage i _).work < b.work
      refine work_setStage quiet found ?_
      simp [stands, Stage.ahead]
  | responding result =>
    obtain ⟨call, abi, called⟩ : ∃ call abi, q.owner = .call call (.host abi) :=
      owner.2 result stands
    refine ⟨.respond i fun _ => none, rfl, ?_⟩
    simp only [step, atStage, found, stands, called]
    refine work_setStage (Quiet.refl b) found ?_
    simp [stands, Stage.ahead]
  | idle => simp [RpcServerBridge.ready, stands] at ready
  | dispatching capabilityIndex parent => simp [RpcServerBridge.ready, stands] at ready
  | bootstrapping => simp [RpcServerBridge.ready, stands] at ready

/-- So continuations alone reach a state in which none is ready; the induction is on the work. -/
theorem drains (owned : b.AllTasks fun _ => Task.Owned) :
    ∃ more, (∀ event ∈ more, event.continues = true) ∧
      (Machine.final (step frameError) b more).questions.any
        (Machine.final (step frameError) b more).ready = false := by
  obtain ⟨n, bound⟩ : ∃ n : ℕ, b.work ≤ n := ⟨b.work.toNat, Int.self_le_toNat _⟩
  induction n generalizing b with
  | zero =>
    refine ⟨[], nofun, ?_⟩
    by_contra busy
    obtain ⟨q, mem, ready⟩ := List.any_eq_true.1 (eq_true_of_ne_false busy)
    obtain ⟨i, found⟩ := List.mem_iff_getElem?.1 mem
    obtain ⟨event, -, less⟩ := continues frameError owned found ready
    have enough := work_nonneg (b.step frameError event).1
    change b.work ≤ 0 at bound
    omega
  | succ n ih =>
    by_cases busy : b.questions.any b.ready = true
    · obtain ⟨q, mem, ready⟩ := List.any_eq_true.1 busy
      obtain ⟨i, found⟩ := List.mem_iff_getElem?.1 mem
      obtain ⟨event, kind, less⟩ := continues frameError owned found ready
      have steps : Steps frameError b event _ _ := b.steps_of_step event
      have owned' := allTasks_owned steps.shape owned
      push_cast at bound
      obtain ⟨more, kinds, drained⟩ := ih owned' (by omega)
      refine ⟨event :: more, ?_, drained⟩
      intro event' mem
      rcases List.mem_cons.1 mem with rfl | mem
      · exact kind
      · exact kinds event' mem
    · exact ⟨[], nofun, Bool.eq_false_iff.2 busy⟩

/-! ## Runs -/

/-- In a run in which no accepted call targets its own question, nobody waits in a circle; once the
handlers have settled and no continuation is due, every call has settled and every byte has been
given back; and continuations alone get there. -/
theorem waits_acyclic (options : RpcServerBridgeOptions) (events : List Event)
    (aims : Machine.Always (step frameError) AimsElsewhere (initial options) events) :
    let b := Machine.final (step frameError) (initial options) events
    b.Acyclic ∧
      (b.HandlersSettled → b.questions.any b.ready = false → b.Settled) ∧
      ∃ more, (∀ event ∈ more, event.continues = true) ∧
        let b' := Machine.final (step frameError) b more
        b'.questions.any b'.ready = false ∧ (b'.HandlersSettled → b'.Settled) := by
  intro b
  have holds : b.WellFounded :=
    aims.invariant (fun _ _ aims holds => holds.step aims) (wellFounded_initial options)
  have settles (more : List Event) (holds : (Machine.final (step frameError) b more).WellFounded)
      (handlers : (Machine.final (step frameError) b more).HandlersSettled)
      (drained : (Machine.final (step frameError) b more).questions.any
        (Machine.final (step frameError) b more).ready = false) :
      (Machine.final (step frameError) b more).Settled := by
    have idle := holds.idle handlers drained
    have exact := (run_budgeted frameError options (events ++ more)).exact
    rw [Machine.final_append] at exact
    exact ⟨idle, exact.trans (charges_of_idle idle)⟩
  refine ⟨acyclic_of_older holds.older, settles [] holds, ?_⟩
  obtain ⟨more, kinds, drained⟩ := drains frameError holds.owned
  have always : Machine.Always (step frameError) AimsElsewhere b more := by
    refine Machine.always_of_mem fun event mem s => ?_
    exact aimsElsewhere_of_continues (kinds event mem)
  have holds' : (Machine.final (step frameError) b more).WellFounded :=
    always.invariant (fun _ _ aims holds => holds.step aims) holds
  exact ⟨more, kinds, drained, fun handlers => settles more holds' handlers drained⟩

/-- A call to a capability and one pipelined on its answer. -/
def pipelinedRun : List Event :=
  [.exportCapability ⟨7, none⟩ none 1, .handleFrame (.call ⟨0, 7, .importedCap 0⟩ 8),
    .handleFrame (.call ⟨1, 7, .promisedAnswer 0 none⟩ 8)]

/-- Both handlers settle, and both calls end. -/
def pipelinedEnd : List Event :=
  [.handlerSettles 0
      (.results ⟨none, some [⟨CAP_DESCRIPTOR_TAG_SENDER_HOSTED, 0⟩], none, none⟩),
    .completeCall 0, .resumePipelined 1, .handlerSettles 1 (.results ⟨none, none, none, none⟩),
    .completeCall 1]

/-- Nobody waits in a circle, and once the handlers have settled both calls have. -/
theorem waits_acyclic_pipelined :
    let b := Machine.final (step fun _ => none) (initial .default) pipelinedRun
    b.Acyclic ∧
      (Machine.final (step fun _ => none) (initial .default)
        (pipelinedRun ++ pipelinedEnd)).Settled ∧
      ∃ more, (∀ event ∈ more, event.continues = true) ∧
        let b' := Machine.final (step fun _ => none) b more
        b'.questions.any b'.ready = false ∧ (b'.HandlersSettled → b'.Settled) := by
  intro b
  have aims {events : List Event} (others : Machine.Always (step fun _ => none)
      (fun _ event => event.aimsAtSelf = false) (initial .default) events) :
      Machine.Always (step fun _ => none) AimsElsewhere (initial .default) events :=
    others.mono fun _ _ other => aimsElsewhere_of_not_aimsAtSelf other
  have both := waits_acyclic (fun _ => none) .default pipelinedRun (aims (by decide))
  have ended :=
    waits_acyclic (fun _ => none) .default (pipelinedRun ++ pipelinedEnd) (aims (by decide))
  refine ⟨both.1, ended.2.1 (fun i q found => ?_) (by decide), both.2.2⟩
  have idle : (Machine.final (step fun _ => none) (initial .default)
      (pipelinedRun ++ pipelinedEnd)).questions.map Question.stage = [.idle, .idle] := by rfl
  have stands : q.stage ∈ [Stage.idle, Stage.idle] := by
    rw [← idle]
    exact List.mem_map_of_mem (List.mem_of_getElem? found)
  obtain same | same := List.mem_pair.1 stands <;> rw [same] <;> simp

/-- A call on the answer of its own question. -/
def selfTargetingRun : List Event := [.handleFrame (.call ⟨0, 7, .promisedAnswer 0 none⟩ 8)]

/-- It waits on itself: no handler runs and no continuation is due, and its eight bytes stay
retained. -/
theorem self_target_waits_forever :
    let b := Machine.final (step fun _ => none) (initial .default) selfTargetingRun
    ¬ b.Acyclic ∧ b.HandlersSettled ∧ b.questions.any b.ready = false ∧
      b.retainedInputFrameBytes = 8 := by
  intro b
  have waits : b.WaitsOn 0 0 := ⟨_, none, rfl, rfl⟩
  refine ⟨fun acyclic => acyclic 0 (.single waits), ?_, by decide, by decide⟩
  intro i q found
  have only : b.questions = [_] := rfl
  rw [only, List.getElem?_singleton] at found
  split_ifs at found
  cases found
  exact ⟨nofun, nofun⟩

end RpcServerBridge

end CapnpDeno
