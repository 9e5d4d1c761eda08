import CapnpDeno.Rpc.Client.ParamCapGrants
import CapnpDeno.Rpc.Session.Waiters

/-!
# Grants of SessionRpcClientTransport

The record of the session client is the stages that hold, as that of the wire client is; a question
of a call that is at the middleware has nothing recorded yet.
-/

namespace CapnpDeno

namespace SessionEffect

def grants : GrantReading SessionEffect where
  note
    | .recorded questionId grants => some (.recorded questionId grants)
    | .arrived message localBridge _ => some (.returned message localBridge)
    | .unsent questionId => some (.unsent questionId)
    | .closed => some .closed
    | _ => none
  release
    | .released questionId grants => some (questionId, grants)
    | _ => none
  allocation
    | .allocated _ questionId => some questionId
    | _ => none
  frame
    | .emitted _ frame => some frame
    | _ => none

end SessionEffect

namespace SessionRpcClientTransport

variable {s s' : SessionRpcClientTransport} {event : SessionEvent}
  {past effects : List SessionEffect} {i : OperationId} {call : SessionCall} {questionId : ℕ}

/-- The grants of the questions, and the ids they have got. -/
abbrev GrantsOf (past : List SessionEffect) (s : SessionRpcClientTransport) : Prop :=
  GrantHistory SessionEffect.grants past s.questionParamCapGrants s.nextQuestionId

/-- Where the effects leave the grants of a question. -/
def grantStage (questionId : ℕ) (past : List SessionEffect) : GrantStage :=
  GrantStage.after questionId (past.filterMap SessionEffect.grants.note)

/-- A call at the middleware has not recorded its grants. -/
structure Granted (past : List SessionEffect) (s : SessionRpcClientTransport) : Prop where
  history : GrantsOf past s
  hooked : ∀ i questionId, Hooked s.calls i questionId → grantStage questionId past = .ungranted

theorem GrantsOf.quiet (history : GrantsOf past s) (keeps : Keeps s s')
    (silent : ∀ e ∈ effects, SessionEffect.grants.Silent e) : GrantsOf (past ++ effects) s' := by
  unfold GrantsOf
  rw [keeps.grants, keeps.next]
  exact GrantHistory.quiet history silent

theorem GrantsOf.keep (history : GrantsOf past s) (keeps : Keeps s s') : GrantsOf past s' := by
  unfold GrantsOf
  rw [keeps.grants, keeps.next]
  exact history

/-- A question gets an id. -/
theorem GrantsOf.allocate (history : GrantsOf past s) (i : OperationId) :
    GrantsOf (past ++ [.allocated i s.nextQuestionId]) (s.allocate i) :=
  GrantHistory.allocate history ⟨rfl, rfl, rfl⟩

/-- A call records what it grants, if it grants anything. -/
theorem GrantsOf.ask (history : GrantsOf past s)
    (ungranted : grantStage questionId past = .ungranted) (below : questionId < s.nextQuestionId)
    (call : SessionCall) (frame : ClientFrame) (i : OperationId) :
    GrantsOf (past ++ grantEffects call questionId)
      (((s.recordGrants call questionId).markReturnExpected questionId).goTo i
        (.starting frame)) := by
  unfold recordGrants grantEffects
  split_ifs
  · refine GrantHistory.change history rfl ?_
    change GrantsTold (_ ++ [.recorded questionId _]) (_ ++ []) _ _
    rw [List.append_nil]
    exact history.told.record ungranted below _
  · exact history.quiet ⟨rfl, rfl, rfl, rfl⟩ nofun

/-- A Return comes in, and retires the grants of its question. -/
theorem GrantsOf.retire (history : GrantsOf past s) (message : RpcReturnMessage) (expected : Bool) :
    GrantsOf (past ++ .arrived message s.localBridge expected :: (s.retireParamCapGrants message).2)
      (s.retireParamCapGrants message).1 := by
  have told := history.told.arrive message s.localBridge
  unfold retireParamCapGrants
  cases recorded : s.questionParamCapGrants.lookup message.answerId with
  | none =>
    rw [recorded, Table.erase_of_absent recorded] at told
    refine GrantHistory.change history rfl ?_
    have none : (if message.releaseParamCaps && s.localBridge then
        ((none : Option ParamCapGrants).map (message.answerId, ·)).toList else []) = [] := by
      split_ifs <;> rfl
    rw [none] at told
    exact told
  | some grants =>
    rw [recorded] at told
    dsimp only
    split_ifs at told ⊢
    · exact GrantHistory.change history rfl told
    · exact GrantHistory.change history rfl told

/-- The frame of a question is not handed over. -/
theorem GrantsOf.unsend (history : GrantsOf past s) (questionId : ℕ) :
    GrantsOf (past ++ [.unsent questionId])
      (markReturnObserved { s with questionParamCapGrants :=
        s.questionParamCapGrants.erase questionId } questionId) := by
  refine GrantHistory.change history rfl ?_
  change GrantsTold (_ ++ [.unsent questionId]) (_ ++ []) _ _
  rw [List.append_nil]
  exact history.told.unsend questionId

/-- The effects of coming to a stage say nothing of grants. -/
theorem enter_silent {stage : SessionStage} :
    ∀ e ∈ (s.enter i stage).2, SessionEffect.grants.Silent e := by
  unfold enter
  split <;> simp [GrantReading.Silent, SessionEffect.grants]

theorem awaited_silent (awaited : Awaited s i call questionId s' effects) :
    ∀ e ∈ effects, SessionEffect.grants.Silent e := by
  cases awaited <;> simp [GrantReading.Silent, SessionEffect.grants]

theorem GrantsOf.enter (history : GrantsOf past s) (i : OperationId) (stage : SessionStage) :
    GrantsOf (past ++ (s.enter i stage).2) (s.enter i stage).1 :=
  history.quiet (.enter s i stage) enter_silent

/-- The grants along a step. -/
theorem GrantsOf.moves (history : GrantsOf past s) (waiting : Waiting s)
    (hooked : ∀ i questionId, Hooked s.calls i questionId → grantStage questionId past = .ungranted)
    (moves : Moves s event s' effects) : GrantsOf (past ++ effects) s' := by
  have silent {e : SessionEffect} (quiet : SessionEffect.grants.Silent e) :
      ∀ other ∈ [e], SessionEffect.grants.Silent other := by
    intro other mem
    rw [List.mem_singleton.1 mem]
    exact quiet
  cases moves with
  | nothing | serves | idles | serveFails | harness | finishTurn | finishHandedOver | flagged =>
    exact history.quiet ⟨rfl, rfl, rfl, rfl⟩ (by simp)
  | threw | emitted | handedOver | finishEmitted =>
    exact history.quiet ⟨rfl, rfl, rfl, rfl⟩ (silent ⟨rfl, rfl, rfl⟩)
  | begun operation options =>
    refine history.quiet (.start s operation options) ?_
    unfold start
    split_ifs <;> simp [GrantReading.Silent, SessionEffect.grants]
  | refused i frameError call error | unasked i failure frameError call error
  | concludes i failure frameError call
    | finishClosed i frameError call finish | finished i call finish =>
    exact history.enter i _
  | hooked i => exact (history.allocate i).keep ⟨rfl, rfl, rfl, rfl⟩
  | unencoded i call error =>
    have entered := (history.allocate i).enter i (concluded call (.error error))
    rw [List.append_assoc] at entered
    exact entered
  | asked i call =>
    have fresh : grantStage s.nextQuestionId (past ++ [.allocated i s.nextQuestionId]) =
        .ungranted := by
      unfold grantStage
      rw [List.filterMap_append]
      change GrantStage.after _ (_ ++ []) = _
      rw [List.append_nil]
      exact history.told.fresh _ le_rfl
    have asked := (history.allocate i).ask fresh (Nat.lt_succ_self _) call
      (s.askingFrame call s.nextQuestionId) i
    rw [List.append_assoc] at asked
    exact asked
  | askedAfterHook i call questionId found stands identified =>
    have ungranted := hooked i questionId ⟨call, found, stands, identified⟩
    exact history.ask ungranted (waiting.used i call found questionId identified) call _ i
  | unsent i call frame questionId error =>
    have entered := (history.unsend questionId).enter i (s.afterFailure call questionId false error)
    rw [List.append_assoc] at entered
    exact entered
  | emitFailed i call questionId error | flushFailed i call questionId error =>
    have observed : GrantsOf past (s.markReturnObserved questionId) := history
    exact observed.enter i _
  | flushed i call questionId =>
    exact history.quiet ((Keeps.toWaiting s i call).trans (.awaitReturn _ i call questionId))
      (awaited_silent (awaitReturn_cases _ i call questionId))
  | answered i frameError call questionId outcome =>
    exact (history.keep (.observe s call questionId outcome)).enter i _
  | returned i frameError call result =>
    refine history.quiet (.afterCallRaw s i call result) ?_
    unfold afterCallRaw
    split
    · exact enter_silent
    · dsimp only
      split
      · split_ifs
        · exact enter_silent
        · simp
        · exact enter_silent
      · simp
  | finishUnstarted i call finish error | finishUnemitted i call finish error
  | finishUnflushed i call finish error =>
    exact history.enter i _
  | timedOut i call error => exact history.quiet (.rejectAndRemove s i call error) (by simp)
  | aborted i call error =>
    have flagged :
        Keeps s (s.updateCall i fun call => { call with aborted := call.options.signal }) :=
      ⟨rfl, rfl, rfl, rfl⟩
    exact history.quiet (flagged.trans (.rejectAndRemove _ i call error)) (by simp)
  | received message aborted read =>
    have serving : GrantsOf past { s with responsePump := .serving } := history
    have retired := serving.retire message (s.expectedReturns.lookup message.answerId).isSome
    have kept :=
      (keeps_handleReturn { s with responsePump := .serving } message).trans (.pumpResponses _)
    unfold handleReturn at kept ⊢
    dsimp only at kept ⊢
    split_ifs at kept ⊢ with expected
    · cases resolved :
        (retireParamCapGrants { s with responsePump := .serving } message).1.resolvePendingReturn
          message with
      | mk next waiter =>
        rw [resolved] at kept
        cases waiter with
        | some j =>
          have delivered := retired.quiet kept (silent (e := .delivered j message) ⟨rfl, rfl, rfl⟩)
          rw [List.append_assoc] at delivered
          exact delivered
        | none => exact retired.keep kept
    · exact retired.keep kept
  | stops error =>
    have stopped : Keeps s { s with responsePump := .exiting, responsePumpStopped := true } :=
      ⟨rfl, rfl, rfl, rfl⟩
    exact history.quiet (stopped.trans (.rejectAllPendingReturns _ error)) (by simp)
  | exits =>
    refine history.quiet ?_ (by simp)
    split_ifs
    · have off : Keeps s { s with responsePump := .off } := ⟨rfl, rfl, rfl, rfl⟩
      exact off.trans (.ensureResponsePump _)
    · exact ⟨rfl, rfl, rfl, rfl⟩
  | pumpsOn => exact history.quiet (.pumpResponses s) (by simp)
  | exported hasHostCallBridge =>
    have kept := Keeps.ensureResponsePump { s with localBridge := true }
    refine GrantHistory.quiet ?_ (by simp)
    rw [kept.grants, kept.next]
    exact history
  | closed free =>
    unfold close
    obtain ⟨pump, rejected⟩ := rejectAllPendingReturns_only
      { s with closed := true, responsePumpStopped := true, localBridge := false } clientClosed
    rw [rejected]
    dsimp only
    obtain ⟨pump, same⟩ := abortResponsePumpRead_only _
    rw [same]
    refine GrantHistory.change history rfl ?_
    change GrantsTold (_ ++ [.closed]) (_ ++ []) ∅ _
    rw [List.append_nil]
    exact history.told.close

/-- What brings a note about: a call that records its grants goes on its way to the harness, and
grants are given up where the session fails to start for its call. -/
inductive Noted (event : SessionEvent) (s s' : SessionRpcClientTransport) : GrantNote → Prop
  | recorded (i : OperationId) (call : SessionCall) (frame : ClientFrame) (questionId : ℕ)
    (grants : ParamCapGrants)
      (found : s'.calls[i]? = some call) (identified : call.questionId = some questionId)
      (stands : call.stage = .starting frame) : Noted event s s' (.recorded questionId grants)
  | returned (pumps : event = .pump) (message : RpcReturnMessage) (localBridge : Bool) :
      Noted event s s' (.returned message localBridge)
  | unsent (i : OperationId) (error : Thrown) (call : SessionCall) (frame : ClientFrame)
    (questionId : ℕ)
      (failed : event = .startSettles i (some error)) (found : s.calls[i]? = some call)
      (stands : call.stage = .starting frame) (identified : call.questionId = some questionId) :
      Noted event s s' (.unsent questionId)
  | closed (closes : event = .close) : Noted event s s' .closed

theorem note_handleReturn {message : RpcReturnMessage} {e : SessionEffect} {note : GrantNote}
    (mem : e ∈ (s.handleReturn message).2) (reads : SessionEffect.grants.note e = some note) :
    note = .returned message s.localBridge := by
  have released : ∀ e ∈ (s.retireParamCapGrants message).2, SessionEffect.grants.note e = none := by
    unfold retireParamCapGrants
    split
    · exact nofun
    · dsimp only
      split_ifs <;> simp [SessionEffect.grants]
  have first {effects : List SessionEffect} {expected : Bool}
      (silent : ∀ e ∈ effects, SessionEffect.grants.note e = none)
      (mem : e ∈ SessionEffect.arrived message s.localBridge expected :: effects) :
      note = .returned message s.localBridge := by
    rcases List.mem_cons.1 mem with rfl | later
    · exact (Option.some.inj reads).symm
    · cases (silent e later).symm.trans reads
  unfold handleReturn at mem
  dsimp only at mem
  split_ifs at mem
  · cases resolved : (s.retireParamCapGrants message).1.resolvePendingReturn message with
    | mk next waiter =>
      rw [resolved] at mem
      cases waiter with
      | none => exact first released mem
      | some j =>
        refine first (List.forall_mem_append.2 ⟨released, ?_⟩) mem
        simp [SessionEffect.grants]
  · exact first released mem

theorem noted_moves {e : SessionEffect} {note : GrantNote} (moves : Moves s event s' effects)
    (mem : e ∈ effects) (reads : SessionEffect.grants.note e = some note) :
    Noted event s s' note := by
  have loud {effects : List SessionEffect} (silent : ∀ e ∈ effects, SessionEffect.grants.Silent e) :
      e ∉ effects :=
    fun mem => nomatch reads.symm.trans (silent e mem).1
  have quiet {effect : SessionEffect} (silent : SessionEffect.grants.note effect = none) :
      e ≠ effect := by
    rintro rfl
    cases silent.symm.trans reads
  have recorded (s : SessionRpcClientTransport) (call : SessionCall) (id : ℕ) :
      ((s.recordGrants call id).markReturnExpected id).calls = s.calls := by
    unfold recordGrants
    split_ifs <;> rfl
  have granted {call : SessionCall} {id : ℕ} (mem : e ∈ grantEffects call id) :
      note = .recorded id (paramCapGrants (call.options.paramsCapTable.getD [])) := by
    unfold grantEffects at mem
    split_ifs at mem
    · rw [List.mem_singleton.1 mem] at reads
      exact (Option.some.inj reads).symm
    · cases mem
  cases moves with
  | asked i call found =>
    rcases List.mem_cons.1 mem with same | later
    · exact absurd same (quiet rfl)
    · rw [granted later]
      refine .recorded i { call with
        questionId := some s.nextQuestionId, stage :=
          .starting (s.askingFrame call s.nextQuestionId) }
        (s.askingFrame call s.nextQuestionId) _ _ ?_ rfl rfl
      change (List.modify _ i _)[i]? = _
      rw [recorded]
      exact Heap.modify_self (Heap.modify_self found)
  | askedAfterHook i call id found stands identified =>
    rw [granted mem]
    refine .recorded i { call with stage := .starting (s.askingFrame call id) }
      (s.askingFrame call id) _ _ ?_ identified
      rfl
    change (List.modify _ i _)[i]? = _
    rw [recorded]
    exact Heap.modify_self found
  | unsent i call frame id error found stands identified =>
    rcases List.mem_cons.1 mem with rfl | later
    · obtain rfl := Option.some.inj reads
      exact .unsent i error call frame id rfl found stands identified
    · exact absurd later (loud enter_silent)
  | received message =>
    rw [note_handleReturn mem reads]
    exact .returned rfl message _
  | closed =>
    unfold close at mem
    rw [List.mem_singleton.1 mem] at reads
    obtain rfl := Option.some.inj reads
    exact .closed rfl
  | nothing | serves | idles | serveFails | harness | finishTurn | finishHandedOver | flagged
  | timedOut | aborted
    | stops | exits | pumpsOn | exported => cases mem
  | threw | emitted | handedOver | finishEmitted
  | hooked => exact absurd (List.mem_singleton.1 mem) (quiet rfl)
  | begun operation options =>
    unfold start at mem
    split_ifs at mem
    · exact absurd (List.mem_singleton.1 mem) (quiet rfl)
    · cases mem
  | refused i frameError call error | unasked i failure frameError call error
  | concludes i failure frameError call
    | finishClosed i frameError call finish | finished i call finish
    | emitFailed i call questionId error
    | flushFailed i call questionId error | answered i frameError call questionId outcome
    | finishUnstarted i call finish error | finishUnemitted i call finish error
    | finishUnflushed i call finish error =>
    exact absurd mem (loud enter_silent)
  | unencoded i call error =>
    rcases List.mem_cons.1 mem with same | later
    · exact absurd same (quiet rfl)
    · exact absurd later (loud enter_silent)
  | flushed i call id => exact absurd mem (loud (awaited_silent (awaitReturn_cases _ i call id)))
  | returned i frameError call result =>
    unfold afterCallRaw at mem
    split at mem
    · exact absurd mem (loud enter_silent)
    · dsimp only at mem
      split at mem
      · split_ifs at mem
        · exact absurd mem (loud enter_silent)
        · cases mem
        · exact absurd mem (loud enter_silent)
      · cases mem

/-- Nothing is recorded for the question, so it has no grants yet. -/
theorem grantStage_append (ungranted : grantStage questionId past = .ungranted)
    (none : ∀ grants, .recorded questionId grants ∉ effects) :
    grantStage questionId (past ++ effects) = .ungranted := by
  have still (notes : List GrantNote) (none : ∀ grants, .recorded questionId grants ∉ notes) :
      notes.foldl (GrantStage.note questionId) .ungranted = .ungranted := by
    induction notes with
    | nil => rfl
    | cons note notes ih =>
      have step : GrantStage.note questionId .ungranted note = .ungranted := by
        cases note with
        | recorded id grants =>
          refine if_neg ?_
          rintro rfl
          exact none grants List.mem_cons_self
        | returned | unsent | closed => rfl
      rw [List.foldl_cons, step]
      exact ih fun grants mem => none grants (List.mem_cons_of_mem _ mem)
  unfold grantStage at ungranted ⊢
  rw [List.filterMap_append, GrantStage.after_append, ungranted]
  refine still _ fun grants mem => ?_
  obtain ⟨effect, shown, reads⟩ := List.mem_filterMap.1 mem
  cases effect <;> cases reads
  exact none grants shown

theorem Granted.moves (granted : Granted past s) (waiting : Waiting s)
    (moves : Moves s event s' effects) :
    Granted (past ++ effects) s' := by
  refine ⟨granted.history.moves waiting granted.hooked moves, fun i questionId hooked => ?_⟩
  obtain before | ⟨rfl, rfl⟩ := hooked_moves moves hooked
  · refine grantStage_append (granted.hooked i questionId before) fun grants mem => ?_
    cases noted_moves moves mem rfl with
    | recorded j starting frame _ _ there same stage =>
      obtain ⟨call, found, stands, identified⟩ := hooked
      obtain rfl :=
        (waiting.moves moves).distinct i j call starting questionId found there identified same
      cases found.symm.trans there
      cases stands.symm.trans stage
  · exact grantStage_append (granted.history.told.fresh _ le_rfl) (by simp)

/-- What holds of every run. -/
theorem run_granted (options : SessionRpcClientTransportOptions) (events : List SessionEvent) :
    Waiting (Machine.final step (initial options) events) ∧
      Granted (Machine.shown step (initial options) events)
      (Machine.final step (initial options) events) := by
  have always : Machine.Always step (fun _ _ => True) (initial options) events :=
    Machine.always_of_forall (fun _ _ => trivial) events
  refine always.history (P := fun past s => Waiting s ∧ Granted past s)
    (fun past s event _ ⟨waiting, granted⟩ => ?_) ⟨Numbered.nil _, GrantHistory.nil _, ?_⟩
  · have moves := moves_step s event
    exact ⟨waiting.moves moves, granted.moves waiting moves⟩
  · rintro i questionId ⟨call, found, -⟩
    cases (List.getElem?_nil (i := i)).symm.trans found

end SessionRpcClientTransport

end CapnpDeno
