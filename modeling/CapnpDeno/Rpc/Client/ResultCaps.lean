import CapnpDeno.Rpc.Client.GeneratedCalls

/-!
# Result capabilities

Who owns the capabilities of a Return.  Where the caller says nothing about it, the Finish of a
question whose Return carried capabilities is to keep them.  The wire client records such questions
until their first Finish, the session client looks at the Return it has at hand, and the server's
client releases in any case.
-/

namespace CapnpDeno

/-! ## RpcWireClient -/

namespace WireEffect

/-- The result capabilities of a question are held from the delivery of its Return to its first
Finish. -/
def holds (questionId : ℕ) (held : Bool) : WireEffect → Bool
  | .delivered _ message => if message.answerId = questionId then held || !message.capTable.isEmpty
      else held
  | .sentFinish _ _ frame => if frame.isFinishOf questionId then false else held
  | .closed => false
  | _ => held

/-- An effect that says nothing of result capabilities. -/
def capless : WireEffect → Bool
  | .delivered _ _ | .sentFinish _ _ _ | .closed => false
  | _ => true

theorem holds_capless {e : WireEffect} (capless : e.capless = true) (questionId : ℕ) (held : Bool) :
    e.holds questionId held = held := by
  cases e with
  | delivered | sentFinish | closed => cases capless
  | allocated | recorded | sent | handedOver | arrived | released | settled | threw => rfl

end WireEffect

namespace RpcWireClient

variable {s s' : RpcWireClient} {event : WireEvent} {past effects : List WireEffect}
  {i : OperationId} {questionId : ℕ} {message : RpcReturnMessage}

def holdsResultCaps (questionId : ℕ) (past : List WireEffect) : Bool :=
  past.foldl (fun held e => e.holds questionId held) false

/-- How an effect stands to those before it: no question gets two Returns, and a Finish keeps the
capabilities that are held, unless its options say otherwise. -/
def Ordered (before : List WireEffect) : WireEffect → Prop
  | .delivered _ message =>
    ∀ j other, .delivered j other ∈ before → other.answerId ≠ message.answerId
  | .sentFinish _ options frame =>
    .closed ∉ before ∧ (options.releaseResultCaps = none →
      ∀ questionId releaseResultCaps requireEarlyCancellation,
        frame = .finish questionId releaseResultCaps requireEarlyCancellation →
          releaseResultCaps = !holdsResultCaps questionId before)
  | _ => True

/-- The client records the questions whose result capabilities are held. -/
structure Owned (past : List WireEffect) (s : RpcWireClient) : Prop where
  caps : ∀ questionId, (s.questionsWithResultCaps.lookup questionId).isSome =
    holdsResultCaps questionId past
  delivered : ∀ j message, .delivered j message ∈ past →
    message.answerId < s.nextQuestionId ∧ s.pendingReturns.lookup message.answerId = none
  closed : .closed ∈ past → s.closed = true
  ordered : Machine.Follows Ordered past

theorem holdsResultCaps_capless (capless : ∀ e ∈ effects, e.capless = true) (questionId : ℕ)
    (past : List WireEffect) : holdsResultCaps questionId (past ++ effects) =
      holdsResultCaps questionId past := by
  unfold holdsResultCaps
  rw [List.foldl_append]
  induction effects with
  | nil => rfl
  | cons e effects ih =>
    rw [List.forall_mem_cons] at capless
    rw [List.foldl_cons, WireEffect.holds_capless capless.1]
    exact ih capless.2

/-- A step that delivers no Return and sends no Finish. -/
theorem Owned.quiet (owned : Owned past s)
    (caps : s'.questionsWithResultCaps = s.questionsWithResultCaps) (closed : s'.closed = s.closed)
    (next : s.nextQuestionId ≤ s'.nextQuestionId)
    (pending : ∀ questionId < s.nextQuestionId, s.pendingReturns.lookup questionId = none →
      s'.pendingReturns.lookup questionId = none)
    (capless : ∀ e ∈ effects, e.capless = true) : Owned (past ++ effects) s' := by
  refine ⟨fun questionId => ?_, fun j message mem => ?_, fun mem => ?_, owned.ordered.append ?_⟩
  · rw [caps, holdsResultCaps_capless capless]
    exact owned.caps questionId
  · rcases List.mem_append.1 mem with old | new
    · obtain ⟨used, settled⟩ := owned.delivered j message old
      exact ⟨used.trans_le next, pending _ used settled⟩
    · cases capless _ new
  · rcases List.mem_append.1 mem with old | new
    · exact closed.trans (owned.closed old)
    · cases capless _ new
  · intro before effect after same
    have quiet := capless effect (same ▸ List.mem_append_right _ List.mem_cons_self)
    cases effect with
    | delivered | sentFinish | closed => cases quiet
    | allocated | recorded | sent | handedOver | arrived | released | settled | threw => trivial

theorem of_singleton {first effect : WireEffect} {before after : List WireEffect}
    (same : [first] = before ++ effect :: after) : before = [] ∧ effect = first ∧ after = [] := by
  cases before with
  | nil =>
    cases same
    exact ⟨rfl, rfl, rfl⟩
  | cons other before =>
    have rest : [] = before ++ effect :: after := (List.cons.inj same).2
    simp at rest

/-- A Return comes to its waiter. -/
theorem Owned.deliver (owned : Owned past s) (waits : Waiting s)
    (pending : s.pendingReturns.lookup message.answerId = some i) :
    Owned (past ++ [.delivered i message]) (s.deliver message).1 := by
  obtain ⟨call, found, identified, -⟩ := Waits.of_pending waits pending
  have used := waits.used i call found _ identified
  have unanswered (j : OperationId) (other : RpcReturnMessage) (mem : .delivered j other ∈ past) :
      other.answerId ≠ message.answerId := by
    intro same
    have settled := (owned.delivered j other mem).2
    rw [same, pending] at settled
    cases settled
  have table : (s.deliver message).1.questionsWithResultCaps =
      if 0 < message.capTable.length then s.questionsWithResultCaps.insert message.answerId ()
      else s.questionsWithResultCaps := by
    unfold RpcWireClient.deliver
    rw [pending]
    dsimp only
    split_ifs <;> rfl
  have rest : (s.deliver message).1.nextQuestionId = s.nextQuestionId ∧
      (s.deliver message).1.closed = s.closed ∧
      (s.deliver message).1.pendingReturns = s.pendingReturns.erase message.answerId := by
    unfold RpcWireClient.deliver
    rw [pending]
    dsimp only
    split_ifs <;> exact ⟨rfl, rfl, rfl⟩
  obtain ⟨next, closed, erased⟩ := rest
  refine ⟨fun questionId => ?_, fun j other mem => ?_, fun mem => ?_, owned.ordered.append ?_⟩
  · rw [table]
    unfold holdsResultCaps
    rw [List.foldl_append]
    change _ = if message.answerId = questionId then holdsResultCaps questionId past ||
      !message.capTable.isEmpty else holdsResultCaps questionId past
    rw [← owned.caps]
    by_cases same : message.answerId = questionId
    · subst same
      rw [if_pos rfl]
      cases message.capTable with
      | nil => simp
      | cons => simp
    · rw [if_neg same]
      split_ifs
      · rw [Table.lookup_insert, if_neg (Ne.symm same)]
      · rfl
  · rw [next, erased, Table.lookup_erase]
    rcases List.mem_append.1 mem with old | new
    · obtain ⟨below, settled⟩ := owned.delivered j other old
      rw [if_neg (unanswered j other old)]
      exact ⟨below, settled⟩
    · cases List.mem_singleton.1 new
      exact ⟨used, if_pos rfl⟩
  · rw [closed]
    rcases List.mem_append.1 mem with old | new
    · exact owned.closed old
    · cases List.mem_singleton.1 new
  · intro before effect after same
    obtain ⟨rfl, rfl, rfl⟩ := of_singleton same
    rw [List.append_nil]
    exact unanswered

/-- A Finish is sent. -/
theorem Owned.sendFinish (owned : Owned past s) (i : OperationId) (finish : PendingFinish)
    (free : s.unready = none) :
    Owned (past ++ (s.sendFinish i finish).2) (s.sendFinish i finish).1 := by
  have opened : .closed ∉ past := fun closed => by
    cases (unready_open free).symm.trans (owned.closed closed)
  unfold RpcWireClient.sendFinish
  rw [free]
  refine ⟨fun questionId => ?_, fun j other mem => ?_, fun mem => ?_, owned.ordered.append ?_⟩
  · unfold holdsResultCaps
    rw [List.foldl_append]
    change (AList.lookup questionId (s.questionsWithResultCaps.erase finish.questionId)).isSome =
      if decide (finish.questionId = questionId) then false else holdsResultCaps questionId past
    rw [Table.lookup_erase, ← owned.caps]
    by_cases same : questionId = finish.questionId
    · rw [if_pos same, if_pos (decide_eq_true same.symm)]
      rfl
    · rw [if_neg same, if_neg fun other => same (of_decide_eq_true other).symm]
  · rcases List.mem_append.1 mem with old | new
    · exact owned.delivered j other old
    · cases List.mem_singleton.1 new
  · rcases List.mem_append.1 mem with old | new
    · exact absurd old opened
    · cases List.mem_singleton.1 new
  · intro before effect after same
    obtain ⟨rfl, rfl, rfl⟩ := of_singleton same
    rw [List.append_nil]
    refine ⟨opened, fun implicit questionId releaseResultCaps requireEarlyCancellation frame => ?_⟩
    unfold finishFrame at frame
    cases frame
    rw [implicit, ← owned.caps]
    rfl

theorem Owned.close (owned : Owned past s) : Owned (past ++ s.close.2) s.close.1 := by
  have lost : ∀ e ∈ (s.calls.mapIdx lostRace).flatten, e.capless = true := fun e mem => by
    obtain ⟨i, result, rfl⟩ := lostRaces_settled mem
    rfl
  have closed : Owned (past ++ [.closed]) s.close.1 := by
    refine ⟨fun questionId => ?_, fun j other mem => ?_, fun _ => rfl, owned.ordered.append ?_⟩
    · unfold holdsResultCaps
      rw [List.foldl_append]
      rfl
    · rcases List.mem_append.1 mem with old | new
      · exact ⟨(owned.delivered j other old).1, rfl⟩
      · cases List.mem_singleton.1 new
    · intro before effect after same
      obtain ⟨rfl, rfl, rfl⟩ := of_singleton same
      trivial
  have quiet := closed.quiet rfl rfl le_rfl (fun _ _ absent => absent) lost
  rw [List.append_assoc] at quiet
  exact quiet

theorem grantEffects_capless (call : WireCall) (questionId : ℕ) :
    ∀ e ∈ grantEffects call questionId, e.capless = true := by
  intro e mem
  unfold grantEffects at mem
  split_ifs at mem
  · rw [List.mem_singleton.1 mem]
    rfl
  · cases mem

theorem Owned.reject (owned : Owned past s) (i : OperationId) (call : WireCall) (error : Thrown)
    (capless : ∀ e ∈ effects, e.capless = true) :
    Owned (past ++ effects) (s.reject i call error) := by
  have same : Owned (past ++ effects) s :=
    owned.quiet rfl rfl le_rfl (fun _ _ absent => absent) capless
  unfold RpcWireClient.reject
  cases call.questionId with
  | none => exact same
  | some questionId =>
    cases call.promise with
    | some outcome => exact same
    | none =>
      refine owned.quiet rfl rfl le_rfl (fun other _ absent => ?_) capless
      change AList.lookup other (s.pendingReturns.erase questionId) = none
      rw [Table.lookup_erase]
      split_ifs
      · rfl
      · exact absent

theorem Owned.asked (owned : Owned past s) (i : OperationId) (call : WireCall)
    (frame : ClientFrame) :
    Owned (past ++ .allocated i s.nextQuestionId :: grantEffects call s.nextQuestionId)
      (((((s.allocate i s.nextQuestionId).recordGrants call s.nextQuestionId).waitForReturn
        s.nextQuestionId i call)).goTo i (.handing frame)) := by
  have capless : ∀ e ∈ WireEffect.allocated i s.nextQuestionId ::
      grantEffects call s.nextQuestionId,
      e.capless = true := List.forall_mem_cons.2 ⟨rfl, grantEffects_capless call _⟩
  obtain ⟨grants, same⟩ := recordGrants_only (s.allocate i s.nextQuestionId) call s.nextQuestionId
  rw [same]
  unfold waitForReturn
  split_ifs
  · exact owned.quiet rfl rfl (Nat.le_succ _) (fun _ _ absent => absent) capless
  · refine owned.quiet rfl rfl (Nat.le_succ _) (fun questionId below absent => ?_) capless
    change (s.pendingReturns.insert s.nextQuestionId i).lookup questionId = none
    rw [Table.lookup_insert, if_neg below.ne]
    exact absent

theorem Owned.returned (owned : Owned past s) (waits : Waiting s) (message : RpcReturnMessage) :
    Owned (past ++ (s.onFrame (.ret message)).2) (s.onFrame (.ret message)).1 := by
  obtain ⟨grants, same⟩ := settleParamCapGrants_only s message.answerId message.releaseParamCaps
  have capless : ∀ e ∈ WireEffect.arrived message s.localBridge ::
      (s.settleParamCapGrants message.answerId message.releaseParamCaps).2, e.capless = true := by
    refine List.forall_mem_cons.2 ⟨rfl, fun e mem => ?_⟩
    unfold settleParamCapGrants at mem
    split at mem
    · cases mem
    · dsimp only at mem
      split_ifs at mem
      · rw [List.mem_singleton.1 mem]
        rfl
      · cases mem
  change Owned (past ++ (.arrived message s.localBridge ::
    (s.settleParamCapGrants message.answerId message.releaseParamCaps).2 ++
      ((s.settleParamCapGrants message.answerId message.releaseParamCaps).1.deliver message).2))
    ((s.settleParamCapGrants message.answerId message.releaseParamCaps).1.deliver message).1
  rw [← List.append_assoc, same]
  have arrived : Owned (past ++ WireEffect.arrived message s.localBridge ::
      (s.settleParamCapGrants message.answerId message.releaseParamCaps).2)
      { s with questionParamCapGrants := grants } :=
    owned.quiet rfl rfl le_rfl (fun _ _ absent => absent) capless
  cases pending : s.pendingReturns.lookup message.answerId with
  | none =>
    have none : RpcWireClient.deliver { s with questionParamCapGrants := grants } message =
        ({ s with questionParamCapGrants := grants }, []) := by
      unfold RpcWireClient.deliver
      rw [pending]
    rw [none, List.append_nil]
    exact arrived
  | some i =>
    have one : (RpcWireClient.deliver { s with questionParamCapGrants := grants } message).2 =
        [.delivered i message] := by
      unfold RpcWireClient.deliver
      rw [pending]
    rw [one]
    exact arrived.deliver waits pending

/-- What a step leaves of the result capabilities. -/
theorem Owned.moves (owned : Owned past s) (waits : Waiting s) (moves : Moves s event s' effects) :
    Owned (past ++ effects) s' := by
  cases moves with
  | nothing | opened | flagged
  | exported => exact owned.quiet rfl rfl le_rfl (fun _ _ absent => absent) nofun
  | startFailed | broken => exact owned.quiet rfl rfl le_rfl (fun _ _ _ => rfl) nofun
  | begun operation options =>
    unfold start
    dsimp only
    split_ifs
    · exact owned.quiet rfl rfl le_rfl (fun _ _ absent => absent) (by simp [WireEffect.capless])
    · exact owned.quiet rfl rfl le_rfl (fun _ _ absent => absent) nofun
  | refused | handedOff | handedOver | finishFailed | finished | threw =>
    exact owned.quiet rfl rfl le_rfl (fun _ _ absent => absent) (by simp [WireEffect.capless])
  | unencoded i call questionId frame error found stands free prepared =>
    rw [prepare_ok prepared]
    exact owned.quiet rfl rfl (Nat.le_succ _) (fun _ _ absent => absent)
      (by simp [WireEffect.capless])
  | asked i call questionId frame found stands free prepared =>
    rw [prepare_ok prepared]
    exact owned.asked i call frame
  | sendFailed i call error error' =>
    have rejected : Owned (past ++ []) (s.reject i call error) := owned.reject i call error nofun
    rw [List.append_nil] at rejected
    exact rejected.quiet rfl rfl le_rfl (fun _ _ absent => absent) (by simp [WireEffect.capless])
  | answered i frameError call questionId outcome =>
    refine owned.quiet rfl rfl le_rfl (fun _ _ absent => absent) ?_
    unfold enter
    cases afterWait call questionId outcome <;> simp [WireEffect.capless]
  | finishSent i frameError call finish found stands free => exact owned.sendFinish i finish free
  | timedOut i call error => exact owned.reject i call error nofun
  | aborted i call error =>
    have flagged : Owned (past ++ [])
        (s.updateCall i fun call => { call with aborted := call.options.signal }) :=
      owned.quiet rfl rfl le_rfl (fun _ _ absent => absent) nofun
    rw [List.append_nil] at flagged
    exact flagged.reject i call error nofun
  | returned message => exact owned.returned waits message
  | closed => exact owned.close

theorem run_owned (options : RpcWireClientOptions) (events : List WireEvent) :
    Owned (Machine.shown step (initial options) events)
    (Machine.final step (initial options) events) := by
  have always : Machine.Always step (fun _ _ => True) (initial options) events :=
    Machine.always_of_forall (fun _ _ => trivial) events
  suffices run : Waiting (Machine.final step (initial options) events) ∧
      Owned (Machine.shown step (initial options) events)
      (Machine.final step (initial options) events) from run.2
  refine always.history (P := fun past s => Waiting s ∧ Owned past s)
    (fun past s event _ ⟨waits, owned⟩ => ?_)
    ⟨Numbered.nil _, fun _ => rfl, nofun, nofun, Machine.follows_nil⟩
  have moves : Moves s event _ _ := moves_step s event
  exact ⟨Waits.moves waits moves, owned.moves waits moves⟩

/-- A question that has got no Return holds no capabilities. -/
theorem holdsResultCaps_undelivered (apart : ∀ j other, .delivered j other ∈ past →
      other.answerId ≠ questionId) :
    holdsResultCaps questionId past = false := by
  induction past using List.reverseRecOn with
  | nil => rfl
  | append_singleton past e ih =>
    have old := ih fun j other mem => apart j other (List.mem_append_left _ mem)
    unfold holdsResultCaps at old ⊢
    rw [List.foldl_append, old]
    cases e with
    | delivered j other => exact if_neg (apart j other List.mem_concat_self)
    | sentFinish => exact ite_self _
    | closed | allocated | recorded | sent | handedOver | arrived | released | settled
    | threw => rfl

/-- Without a Return or a Finish of the question, and while the client is open, what is held stays
so. -/
theorem foldl_holds {between : List WireEffect}
    (unfinished : ∀ j options frame, .sentFinish j options frame ∈ between →
      frame.isFinishOf questionId = false)
    (apart : ∀ j other, .delivered j other ∈ between → other.answerId ≠ questionId)
    (opened : .closed ∉ between) (held : Bool) :
    between.foldl (fun held e => e.holds questionId held) held = held := by
  induction between generalizing held with
  | nil => rfl
  | cons e between ih =>
    rw [List.foldl_cons, ih (fun j options frame mem =>
      unfinished j options frame (List.mem_cons_of_mem _ mem))
      (fun j other mem => apart j other (List.mem_cons_of_mem _ mem)) fun mem =>
        opened (List.mem_cons_of_mem _ mem)]
    cases e with
    | delivered j other => exact if_neg (apart j other List.mem_cons_self)
    | sentFinish j options frame =>
      refine if_neg ?_
      rw [unfinished j options frame List.mem_cons_self]
      exact Bool.false_ne_true
    | closed => exact absurd List.mem_cons_self opened
    | allocated | recorded | sent | handedOver | arrived | released | settled | threw => rfl

/-- The first Finish after the Return of its question, whoever sends it. -/
theorem finish_after_return {options : RpcWireClientOptions} {events : List WireEvent}
    {before between after : List WireEffect} {j : OperationId} {finishOptions : RpcFinishOptions}
    {releaseResultCaps requireEarlyCancellation : Bool}
    (shown : Machine.shown step (initial options) events = before ++ .delivered j message ::
      (between ++ .sentFinish i finishOptions
        (.finish message.answerId releaseResultCaps requireEarlyCancellation) :: after))
    (implicit : finishOptions.releaseResultCaps = none)
    (first : ∀ k other frame, .sentFinish k other frame ∈ between →
      frame.isFinishOf message.answerId = false) :
    releaseResultCaps = message.capTable.isEmpty := by
  have ordered := (run_owned options events).ordered
  have once : ∀ j other, .delivered j other ∈ before → other.answerId ≠ message.answerId :=
    ordered before _ _ shown
  obtain ⟨opened, keeps⟩ := ordered (before ++ .delivered j message :: between) _ after (by
    rw [shown, List.append_assoc]
    rfl)
  have apart : ∀ k other, .delivered k other ∈ between → other.answerId ≠ message.answerId := by
    intro k other mem
    obtain ⟨early, late, rfl⟩ := List.append_of_mem mem
    have latter := ordered (before ++ .delivered j message :: early) (.delivered k other) _ (by
      rw [shown, List.append_assoc, List.append_assoc]
      rfl)
    exact Ne.symm (latter j message (List.mem_append_right _ List.mem_cons_self))
  have unclosed : .closed ∉ between :=
    fun mem => opened (List.mem_append_right _ (List.mem_cons_of_mem _ mem))
  have held : holdsResultCaps message.answerId (before ++ .delivered j message :: between) =
      !message.capTable.isEmpty := by
    have none := holdsResultCaps_undelivered once
    unfold holdsResultCaps at none ⊢
    rw [List.foldl_append, List.foldl_cons, none, foldl_holds first apart unclosed]
    exact if_pos rfl
  have kept := keeps implicit message.answerId releaseResultCaps requireEarlyCancellation rfl
  rw [held, Bool.not_not] at kept
  exact kept

end RpcWireClient

/-! ## SessionRpcClientTransport -/

namespace SessionCall

variable {starts smooth : Prop} {call : SessionCall} {history : CallHistory}
  {message : RpcReturnMessage}

/-- An operation of the transport itself sends no Finish but its own. -/
theorem Told.auto (told : call.Told starts smooth history) (method : call.isMethod = false)
    (asks : call.isFinish = false) {frame : ClientFrame} (sent : frame ∈ history.finishes) :
    frame ∈ call.autoFinish := by
  have silent {handedOver : Bool} (asking : call.Asking history handedOver) :
      frame ∈ call.autoFinish := by
    rw [asking.finishes] at sent
    cases sent
  have unreturned : call.returned = false := Bool.eq_false_iff.2 fun returned => by
    cases method.symm.trans (told.method returned)
  have owes {finish : PendingFinish} {before : List ClientFrame}
      (owing : call.Owing starts history finish before) :
      call.autoFinish = [finishFrame finish.questionId finish.options] ∧ before = [] := by
    have sends := owing.1
    unfold Sends at sends
    split at sends
    · next operation =>
      unfold isFinish at asks
      rw [operation] at asks
      cases asks
    · rw [unreturned] at sends
      exact ⟨sends.1, sends.2.1⟩
  have ended {result : Except Thrown ClientAnswer} (ended : call.Ended starts history result) :
      frame ∈ call.autoFinish := by
    unfold Ended at ended
    split at ended
    · next operation =>
      unfold isFinish at asks
      rw [operation] at asks
      cases asks
    · obtain ⟨-, none, -⟩ | ⟨-, within, -⟩ := ended
      · rw [none] at sent
        cases sent
      · exact within.subset sent
  have stands := told.stands
  cases stage : call.stage <;> rw [stage] at stands
  case queued | onCall | starting | emitting | flushing | waiting => exact silent stands
  case finishQueued =>
    rw [(owes stands.1).2] at sent
    cases sent
  case finishStarting =>
    rw [(owes stands).2] at sent
    cases sent
  case finishEmitting | finishFlushing =>
    obtain ⟨before, owing, same⟩ := stands
    obtain ⟨auto, rfl⟩ := owes owing
    rw [same, List.nil_append] at sent
    rw [auto]
    exact sent
  case hooks => exact ended stands.2.1
  case called => cases method.symm.trans stands.2.1
  case settled =>
    change if call.returned then _ else _ at stands
    rw [unreturned] at stands
    exact ended stands.1

/-- The Finish of an operation that has got its Return. -/
theorem autoFinish_answered (promise : call.promise = some (.ok message)) {frame : ClientFrame}
    (sent : frame ∈ call.autoFinish) :
    ∃ questionId, frame = finishFrame questionId
      (finishOptionsForReturn message (call.options.finish.getD .default)) := by
  unfold autoFinish at sent
  rw [promise] at sent
  split at sent
  · split_ifs at sent
    · exact ⟨_, List.mem_singleton.1 sent⟩
    · cases sent
  · cases sent

end SessionCall

/-! ## The three clients -/

/-- Where the caller says nothing, the Finish after a Return keeps its capabilities: the first one
for a question of the wire client, and the one that the session client sends by itself.  That of the
server's client does so just if the Return carries none. -/
theorem result_caps_kept (message : RpcReturnMessage) (i : ℕ)
    (releaseResultCaps requireEarlyCancellation : Bool) :
    (∀ options events before j between finishOptions after,
      Machine.shown RpcWireClient.step (.initial options) events = before ++ .delivered j message ::
          (between ++ .sentFinish i finishOptions
            (.finish message.answerId releaseResultCaps requireEarlyCancellation) :: after) →
        finishOptions.releaseResultCaps = none →
        (∀ k other frame, .sentFinish k other frame ∈ between →
          frame.isFinishOf message.answerId = false) →
        releaseResultCaps = message.capTable.isEmpty) ∧
    (∀ options events call questionId,
      (Machine.final SessionRpcClientTransport.step (.initial options) events).calls[i]? =
        some call →
        call.isMethod = false → call.isFinish = false →
        (call.options.finish.getD .default).releaseResultCaps = none →
        let history := SessionRpcClientTransport.historyOf i
          (Machine.shown SessionRpcClientTransport.step (.initial options) events)
        history.delivered = [message] →
        .finish questionId releaseResultCaps requireEarlyCancellation ∈ history.finishes →
        releaseResultCaps = message.capTable.isEmpty) ∧
    ∀ start events call questionId,
      (Machine.final RpcServerOutboundClient.step (.initial start) events).calls[i]? = some call →
        (call.options.finish.getD .default).releaseResultCaps = none →
        let history := RpcServerOutboundClient.historyOf i
          (Machine.shown RpcServerOutboundClient.step (.initial start) events)
        history.delivered = [message] →
        .finish questionId releaseResultCaps requireEarlyCancellation ∈ history.finishes →
        (releaseResultCaps = message.capTable.isEmpty ↔ message.capTable = []) := by
  refine ⟨?_, ?_, ?_⟩
  · intro options events before j between finishOptions after shown implicit first
    exact RpcWireClient.finish_after_return shown implicit first
  · intro options events call questionId found method asks implicit history delivered sent
    have told : call.Told False False history :=
      (SessionRpcClientTransport.run_told False False options events False.elim False.elim).2.1 i
        call found
    have promise := SessionCall.promise_of_answers (told.delivered.symm.trans delivered)
    obtain ⟨_, frame⟩ := SessionCall.autoFinish_answered promise (told.auto method asks sent)
    rw [← releaseResultCaps_finishOptionsForReturn implicit]
    exact (ClientFrame.finish.inj frame).2.1
  · intro start events call questionId found implicit history delivered sent
    have told : call.Finishes False False history :=
      (RpcServerOutboundClient.run_finishing False False start events False.elim False.elim).2.1 i
        call found
    have frame := told.frame sent
    have released : releaseResultCaps = true := by
      have given := (ClientFrame.finish.inj frame).2.1
      rw [implicit] at given
      exact given
    rw [released, eq_comm, List.isEmpty_iff]

/-- Results that carry a capability. -/
def capReturn : RpcReturnMessage := ⟨1, .results (some []) [⟨1, 5⟩], false, false⟩

/-- A call over the wire client, and the Finish of its caller. -/
def wireCapCall : List WireEvent :=
  [.start (.callRaw 0) generatedOptions, .startSettles none, .resume 0 none, .handOff 0,
    .sendSettles 0 none,
    .inbound (.ret capReturn), .resume 0 none, .start (.finish 1 .default) .default, .resume 1 none]

def sessionCapCall : List SessionEvent :=
  [.start (.callRaw 0) generatedOptions, .resume 0 none, .startSettles 0 none, .emitSettles 0 none,
    .flushSettles 0 none, .frame (.ret capReturn), .pump, .resume 0 none, .startSettles 0 none]

def outboundCapCall (message : RpcReturnMessage) : List OutboundEvent :=
  [.callRaw 0 generatedOptions none, .sendSettles 0 none, .inbound (.ret message)
    (some 0), .resume 0, .finishSettles 0]

theorem result_caps_kept_once :
    (false = capReturn.capTable.isEmpty ∧ false = capReturn.capTable.isEmpty) ∧
      (true = (resultsReturn false).capTable.isEmpty ↔ (resultsReturn false).capTable = []) := by
  obtain ⟨wire, -, -⟩ := result_caps_kept capReturn 1 false false
  obtain ⟨-, session, -⟩ := result_caps_kept capReturn 0 false false
  obtain ⟨-, -, outbound⟩ := result_caps_kept (resultsReturn false) 0 true false
  refine ⟨⟨?_, ?_⟩, ?_⟩
  · have shown : Machine.shown RpcWireClient.step (.initial .default) wireCapCall =
        [.allocated 0 1, .sent 0 (.call 1 7 (.importedCap 0) []), .handedOver 0,
          .arrived capReturn false] ++
          .delivered 0 capReturn ::
          ([.settled 0 (.ok (.result (toRpcCallResult capReturn (some []))))] ++
            .sentFinish 1 .default (.finish 1 false false) :: []) := rfl
    exact wire _ _ _ 0 _ .default [] shown rfl (by simp)
  · exact session sessionOptions sessionCapCall
      ⟨.callRaw 0, generatedOptions, some 1, false, false, false, some (.ok capReturn), false,
        .finishEmitting ⟨1, ⟨some false, none⟩, .ok (.result (toRpcCallResult capReturn (some []))),
          false⟩⟩
      1 rfl rfl rfl rfl (by decide) (by decide)
  · exact outbound 1 (outboundCapCall (resultsReturn false))
      ⟨1, generatedOptions, false, some (.ok (resultsReturn false)),
        .settled (.ok (toRpcCallResult (resultsReturn false) (some [])))⟩
      1 rfl rfl (by decide) (by decide)

/-- The server's client gives up the capability that it has just handed to its caller. -/
theorem outbound_releases_result_caps :
    let history := RpcServerOutboundClient.historyOf 0
      (Machine.shown RpcServerOutboundClient.step (.initial 1) (outboundCapCall capReturn))
    generatedOptions.finish = none ∧ history.delivered = [capReturn] ∧ capReturn.capTable ≠ [] ∧
      history.finishes = [.finish 1 true false] := by
  decide

end CapnpDeno
