import CapnpDeno.Lib.Fallible
import CapnpDeno.Rpc.Client.WireMoves

/-!
# Parameter-capability grants

What becomes of the references that the call of a question grants: they are held until the first
Return for the question, which has them released or not, or until the frame fails to be sent or the
client closes. `GrantStage` tells it from the notes of a run; the record of a client is the stages
that hold, and what it releases on its local bridge is what they say.
-/

namespace CapnpDeno

/-- What happens to the grants of questions. -/
inductive GrantNote
  | recorded (questionId : ℕ) (grants : ParamCapGrants)
  /-- A Return comes in; `localBridge` says that there is a local bridge. -/
  | returned (message : RpcReturnMessage) (localBridge : Bool)
  /-- The frame of the question is not handed over. -/
  | unsent (questionId : ℕ)
  | closed

/-- Where the grants of one question stand. -/
inductive GrantStage
  | ungranted
  | held (grants : ParamCapGrants)
  | released (grants : ParamCapGrants)
  | dropped

namespace GrantStage

/-- The first Return ends the grants, and so does a frame that is not sent, and the close. -/
def note (questionId : ℕ) : GrantStage → GrantNote → GrantStage
  | .ungranted, .recorded id grants => if id = questionId then .held grants else .ungranted
  | .held grants, .returned message localBridge =>
    if message.answerId = questionId then
      if message.releaseParamCaps && localBridge then .released grants else .dropped
    else .held grants
  | .held grants, .unsent id => if id = questionId then .dropped else .held grants
  | .held _, .closed => .dropped
  | stage, _ => stage

def heldGrants : GrantStage → Option ParamCapGrants
  | .held grants => some grants
  | _ => none

def releasedGrants : GrantStage → List ParamCapGrants
  | .released grants => [grants]
  | _ => []

/-- Where the notes leave the grants of a question. -/
def after (questionId : ℕ) (notes : List GrantNote) : GrantStage :=
  notes.foldl (note questionId) .ungranted

theorem after_append (questionId : ℕ) (notes more : List GrantNote) :
    after questionId (notes ++ more) = more.foldl (note questionId) (after questionId notes) :=
  List.foldl_append

end GrantStage

/-- The record of a client, and what its bridge has released, are as the stages say; and the ids of
new questions are above those in use. -/
structure GrantsTold (notes : List GrantNote) (released : List (ℕ × ParamCapGrants))
    (recorded : Table ℕ ParamCapGrants) (nextQuestionId : ℕ) : Prop where
  held : ∀ questionId, recorded.lookup questionId = (GrantStage.after questionId notes).heldGrants
  released : ∀ questionId, (released.filter (·.1 = questionId)).map Prod.snd =
    (GrantStage.after questionId notes).releasedGrants
  fresh : ∀ questionId, nextQuestionId ≤ questionId → GrantStage.after questionId notes = .ungranted

namespace GrantsTold

variable {notes : List GrantNote} {released : List (ℕ × ParamCapGrants)}
  {recorded : Table ℕ ParamCapGrants} {nextQuestionId questionId : ℕ} {grants : ParamCapGrants}

theorem initial (nextQuestionId : ℕ) : GrantsTold [] [] ∅ nextQuestionId :=
  ⟨fun _ => rfl, fun _ => rfl, fun _ _ => rfl⟩

theorem allocate (told : GrantsTold notes released recorded nextQuestionId) {next : ℕ}
    (later : nextQuestionId ≤ next) : GrantsTold notes released recorded next :=
  ⟨told.held, told.released, fun questionId above => told.fresh questionId (later.trans above)⟩

/-- The grants of a question are recorded. -/
theorem record (told : GrantsTold notes released recorded nextQuestionId)
    (ungranted : GrantStage.after questionId notes = .ungranted)
    (below : questionId < nextQuestionId) (grants : ParamCapGrants) :
    GrantsTold (notes ++ [.recorded questionId grants]) released (recorded.insert questionId grants)
      nextQuestionId := by
  have stage (other : ℕ) : GrantStage.after other (notes ++ [.recorded questionId grants]) =
      if other = questionId then .held grants else GrantStage.after other notes := by
    rw [GrantStage.after_append]
    by_cases same : other = questionId
    · rw [if_pos same, same, ungranted]
      exact if_pos rfl
    · rw [if_neg same]
      have apart : questionId ≠ other := Ne.symm same
      cases before : GrantStage.after other notes <;> simp [GrantStage.note, apart]
  refine ⟨fun other => ?_, fun other => ?_, fun other above => ?_⟩
  · rw [Table.lookup_insert, stage]
    split_ifs
    · rfl
    · exact told.held other
  · rw [stage, told.released]
    split_ifs with same
    · rw [same, ungranted]
      rfl
    · rfl
  · rw [stage, if_neg (by omega)]
    exact told.fresh other above

/-- A note that ends the grants of a question, whether they are released or not. -/
theorem retire (told : GrantsTold notes released recorded nextQuestionId) {note : GrantNote}
    {release : Bool} (ends : ∀ grants, GrantStage.note questionId (.held grants) note =
      if release then .released grants else .dropped)
    (idle : ∀ stage, stage.heldGrants = none → GrantStage.note questionId stage note = stage)
    (apart : ∀ other ≠ questionId, ∀ stage, GrantStage.note other stage note = stage) :
    GrantsTold (notes ++ [note])
      (released ++ if release then ((recorded.lookup questionId).map (questionId, ·)).toList
        else [])
      (recorded.erase questionId) nextQuestionId := by
  have same (other : ℕ) (differs : other ≠ questionId) :
      GrantStage.after other (notes ++ [note]) = GrantStage.after other notes := by
    rw [GrantStage.after_append]
    exact apart other differs _
  refine ⟨fun other => ?_, fun other => ?_, fun other above => ?_⟩
  · rw [Table.lookup_erase]
    split_ifs with here
    · rw [here, GrantStage.after_append]
      change none = (GrantStage.note questionId (GrantStage.after questionId notes) note).heldGrants
      cases stage : GrantStage.after questionId notes with
      | held grants =>
        rw [ends]
        split_ifs <;> rfl
      | ungranted | released | dropped =>
        rw [idle _ rfl]
        rfl
    · rw [same other here]
      exact told.held other
  · rw [List.filter_append, List.map_append, told.released]
    by_cases here : other = questionId
    · rw [here, GrantStage.after_append, told.held]
      change _ =
        (GrantStage.note questionId (GrantStage.after questionId notes) note).releasedGrants
      cases stage : GrantStage.after questionId notes with
      | held grants =>
        rw [ends]
        cases release
        · rfl
        · simp [GrantStage.releasedGrants, GrantStage.heldGrants]
      | ungranted | released | dropped =>
        rw [idle _ rfl]
        cases release <;> simp [GrantStage.heldGrants]
    · rw [same other here]
      have none :
          ((if release then ((recorded.lookup questionId).map (questionId, ·)).toList
            else []).filter
          (·.1 = other)) = [] := by
        refine List.filter_eq_nil_iff.2 fun entry mem => ?_
        have place : entry.1 = questionId := by
          split_ifs at mem
          · obtain ⟨grants, -, rfl⟩ := Option.map_eq_some_iff.1 (Option.mem_toList.1 mem)
            rfl
          · cases mem
        rw [place]
        simpa using Ne.symm here
      rw [none, List.map_nil, List.append_nil]
  · by_cases here : other = questionId
    · rw [here, GrantStage.after_append]
      change GrantStage.note questionId (GrantStage.after questionId notes) note = .ungranted
      rw [told.fresh questionId (here ▸ above)]
      exact idle _ rfl
    · rw [same other here]
      exact told.fresh other above

/-- The close ends the grants of every question. -/
theorem close (told : GrantsTold notes released recorded nextQuestionId) :
    GrantsTold (notes ++ [.closed]) released ∅ nextQuestionId := by
  refine ⟨fun questionId => ?_, fun questionId => ?_, fun questionId above => ?_⟩
  · rw [GrantStage.after_append]
    cases GrantStage.after questionId notes <;> rfl
  · rw [GrantStage.after_append, told.released]
    cases GrantStage.after questionId notes <;> rfl
  · rw [GrantStage.after_append, told.fresh questionId above]
    rfl

/-- A Return comes in. -/
theorem arrive (told : GrantsTold notes released recorded nextQuestionId)
    (message : RpcReturnMessage) (localBridge : Bool) :
    GrantsTold (notes ++ [.returned message localBridge])
      (released ++ if message.releaseParamCaps && localBridge then
        ((recorded.lookup message.answerId).map (message.answerId, ·)).toList else [])
      (recorded.erase message.answerId) nextQuestionId := by
  refine told.retire (fun grants => if_pos rfl) (fun stage idle => ?_) fun other differs stage => ?_
  · cases stage with
    | held => cases idle
    | ungranted | released | dropped => rfl
  · cases stage with
    | held => exact if_neg (Ne.symm differs)
    | ungranted | released | dropped => rfl

/-- The frame of a question is not handed over. -/
theorem unsend (told : GrantsTold notes released recorded nextQuestionId) (questionId : ℕ) :
    GrantsTold (notes ++ [.unsent questionId]) released (recorded.erase questionId)
      nextQuestionId := by
  have ends (grants : ParamCapGrants) : GrantStage.note questionId (.held grants)
      (.unsent questionId) = if false then .released grants else .dropped := if_pos rfl
  have retired := told.retire ends (fun stage idle => ?_) fun other differs stage => ?_
  · rw [if_neg Bool.false_ne_true, List.append_nil] at retired
    exact retired
  · cases stage with
    | held => cases idle
    | ungranted | released | dropped => rfl
  · cases stage with
    | held => exact if_neg (Ne.symm differs)
    | ungranted | released | dropped => rfl

end GrantsTold

/-- Question ids are given out in rising order. -/
def Rising (ids : List ℕ) (next : ℕ) : Prop := ids.Pairwise (· < ·) ∧ ∀ id ∈ ids, id < next

theorem Rising.allocate {ids : List ℕ} {next : ℕ} (rising : Rising ids next) :
    Rising (ids ++ [next]) (next + 1) := by
  refine ⟨List.pairwise_append.2 ⟨rising.1, List.pairwise_singleton _ _,
    fun id mem other single => ?_⟩, ?_⟩
  · rw [List.mem_singleton.1 single]
    exact rising.2 id mem
  · refine List.forall_mem_append.2 ⟨fun id mem => Nat.lt_succ_of_lt (rising.2 id mem), ?_⟩
    exact List.forall_mem_singleton.2 (Nat.lt_succ_self next)

/-- What the effects of a client say of grants: what happens to them, what the local bridge
releases, the question ids given out, and the frames of questions that are handed over. -/
structure GrantReading (ω : Type) where
  note : ω → Option GrantNote
  release : ω → Option (ℕ × ParamCapGrants)
  allocation : ω → Option ℕ
  frame : ω → Option ClientFrame

/-- The note of grants that are recorded. -/
def GrantNote.recording : GrantNote → Option GrantNote
  | .recorded questionId grants => some (.recorded questionId grants)
  | _ => none

theorem GrantNote.filterMap_recording {notes : List GrantNote}
    (only : ∀ note ∈ notes, note.recording = some note) :
    notes.filterMap GrantNote.recording = notes :=
  (List.filterMap_congr only).trans List.filterMap_some

/-- The effect says nothing of grants. -/
def GrantReading.Silent {ω : Type} (reading : GrantReading ω) (effect : ω) : Prop :=
  reading.note effect = none ∧ reading.release effect = none ∧ reading.allocation effect = none

/-- The grants of the questions, and the ids they have got. -/
structure GrantHistory {ω : Type} (reading : GrantReading ω) (past : List ω)
    (recorded : Table ℕ ParamCapGrants) (nextQuestionId : ℕ) : Prop where
  told : GrantsTold (past.filterMap reading.note)
    (past.filterMap reading.release) recorded nextQuestionId
  rising : Rising (past.filterMap reading.allocation) nextQuestionId

namespace GrantHistory

variable {ω : Type} {reading : GrantReading ω} {past effects : List ω}
  {recorded : Table ℕ ParamCapGrants} {nextQuestionId questionId : ℕ} {effect : ω}

theorem nil (nextQuestionId : ℕ) : GrantHistory reading [] ∅ nextQuestionId :=
  ⟨GrantsTold.initial nextQuestionId, List.Pairwise.nil, nofun⟩

/-- Effects that say nothing of grants. -/
theorem quiet (history : GrantHistory reading past recorded nextQuestionId)
    (silent : ∀ e ∈ effects, reading.Silent e) :
    GrantHistory reading (past ++ effects) recorded nextQuestionId := by
  have notes : effects.filterMap reading.note = [] :=
    List.filterMap_eq_nil_iff.2 fun e mem => (silent e mem).1
  have releases : effects.filterMap reading.release = [] :=
    List.filterMap_eq_nil_iff.2 fun e mem => (silent e mem).2.1
  have allocations : effects.filterMap reading.allocation = [] :=
    List.filterMap_eq_nil_iff.2 fun e mem => (silent e mem).2.2
  refine ⟨?_, ?_⟩
  · rw [List.filterMap_append, List.filterMap_append, notes, releases, List.append_nil,
      List.append_nil]
    exact history.told
  · rw [List.filterMap_append, allocations, List.append_nil]
    exact history.rising

/-- An effect that gives a question its id. -/
theorem allocate (history : GrantHistory reading past recorded nextQuestionId)
    (reads : reading.note effect = none ∧ reading.release effect = none ∧
      reading.allocation effect = some nextQuestionId) :
    GrantHistory reading (past ++ [effect]) recorded (nextQuestionId + 1) := by
  obtain ⟨note, release, allocation⟩ := reads
  refine ⟨?_, ?_⟩
  · rw [List.filterMap_append, List.filterMap_append]
    simp only [List.filterMap_cons, note, release, List.filterMap_nil, List.append_nil]
    exact history.told.allocate (Nat.le_succ _)
  · rw [List.filterMap_append]
    simp only [List.filterMap_cons, allocation, List.filterMap_nil]
    exact history.rising.allocate

/-- An effect with which the record changes. -/
theorem change (history : GrantHistory reading past recorded nextQuestionId)
    {recorded' : Table ℕ ParamCapGrants} (allocation : effects.filterMap reading.allocation = [])
    (told : GrantsTold (past.filterMap reading.note ++ effects.filterMap reading.note)
      (past.filterMap reading.release ++ effects.filterMap reading.release) recorded'
        nextQuestionId) :
    GrantHistory reading (past ++ effects) recorded' nextQuestionId := by
  refine ⟨?_, ?_⟩
  · rw [List.filterMap_append, List.filterMap_append]
    exact told
  · rw [List.filterMap_append, allocation, List.append_nil]
    exact history.rising

end GrantHistory

/-- What the frame grants is recorded before it is handed over. -/
def GrantReading.Granted {ω : Type} (reading : GrantReading ω) (before : List ω) (effect : ω) :
    Prop :=
  ∀ frame questionId grants, reading.frame effect = some frame →
    frame.grants = some (questionId, grants) →
    ∃ earlier ∈ before, reading.note earlier = some (.recorded questionId grants)

/-- The grants of every question go the way that the notes say: the record is what is held, the
local bridge has released what was to be released, no question id is given out twice, and what is
granted is recorded. -/
structure GrantsRetired {ω : Type} (reading : GrantReading ω) (notes : List GrantNote)
    (past : List ω) (recorded : Table ℕ ParamCapGrants) : Prop where
  held : ∀ questionId, recorded.lookup questionId = (GrantStage.after questionId notes).heldGrants
  released : ∀ questionId, ((past.filterMap reading.release).filter (·.1 = questionId)).map
    Prod.snd =
    (GrantStage.after questionId notes).releasedGrants
  allocated : (past.filterMap reading.allocation).Pairwise (· < ·)
  granted : Machine.Follows reading.Granted past

theorem GrantHistory.retired {ω : Type} {reading : GrantReading ω} {past : List ω}
    {recorded : Table ℕ ParamCapGrants} {nextQuestionId : ℕ} {notes : List GrantNote}
    (history : GrantHistory reading past recorded nextQuestionId)
    (same : past.filterMap reading.note = notes) (granted : Machine.Follows reading.Granted past) :
    GrantsRetired reading notes past recorded := by
  subst same
  exact ⟨history.told.held, history.told.released, history.rising.1, granted⟩

/-! ## RpcWireClient -/

namespace WireEffect

def grants : GrantReading WireEffect where
  note
    | .recorded questionId grants => some (.recorded questionId grants)
    | .arrived message localBridge => some (.returned message localBridge)
    | .closed => some .closed
    | _ => none
  release
    | .released questionId grants => some (questionId, grants)
    | _ => none
  allocation
    | .allocated _ questionId => some questionId
    | _ => none
  frame
    | .sent _ frame => some frame
    | _ => none

end WireEffect

namespace RpcWireClient

variable {s s' : RpcWireClient} {event : WireEvent} {past effects : List WireEffect}
  {i : OperationId} {call : WireCall}

abbrev Granted (past : List WireEffect) (s : RpcWireClient) : Prop :=
  GrantHistory WireEffect.grants past s.questionParamCapGrants s.nextQuestionId

/-- A step that neither records nor retires grants. -/
theorem Granted.quiet (granted : Granted past s)
    (grants : s'.questionParamCapGrants = s.questionParamCapGrants)
    (next : s'.nextQuestionId = s.nextQuestionId)
    (silent : ∀ e ∈ effects, WireEffect.grants.Silent e) :
    Granted (past ++ effects) s' := by
  unfold Granted
  rw [grants, next]
  exact GrantHistory.quiet granted silent

theorem Granted.same (granted : Granted past s)
    (grants : s'.questionParamCapGrants = s.questionParamCapGrants)
    (next : s'.nextQuestionId = s.nextQuestionId) : Granted past s' := by
  unfold Granted
  rw [grants, next]
  exact granted

/-- A question gets an id. -/
theorem Granted.allocate (granted : Granted past s) (i : OperationId) :
    Granted (past ++ [.allocated i s.nextQuestionId]) (s.allocate i s.nextQuestionId) :=
  GrantHistory.allocate granted ⟨rfl, rfl, rfl⟩

/-- A question gets an id, and its call records what it grants. -/
theorem Granted.ask (granted : Granted past s) (i : OperationId) (call : WireCall) :
    Granted (past ++ .allocated i s.nextQuestionId :: grantEffects call s.nextQuestionId)
      ((s.allocate i s.nextQuestionId).recordGrants call s.nextQuestionId) := by
  have allocated := granted.allocate i
  have ungranted : GrantStage.after s.nextQuestionId
      ((past ++ [WireEffect.allocated i s.nextQuestionId]).filterMap WireEffect.grants.note) =
      .ungranted := by
    rw [List.filterMap_append]
    change GrantStage.after _ (_ ++ []) = _
    rw [List.append_nil]
    exact granted.told.fresh _ le_rfl
  rw [List.append_cons]
  unfold recordGrants grantEffects
  split_ifs
  · refine GrantHistory.change allocated rfl ?_
    change GrantsTold (_ ++ [.recorded s.nextQuestionId _]) (_ ++ []) _ _
    rw [List.append_nil]
    exact allocated.told.record ungranted (Nat.lt_succ_self _) _
  · exact allocated.quiet rfl rfl nofun

theorem asked_grants (questionId : ℕ) (i : OperationId) (call : WireCall) (frame : ClientFrame) :
    ((s.waitForReturn questionId i call).goTo i (.handing frame)).questionParamCapGrants =
      s.questionParamCapGrants ∧
      ((s.waitForReturn questionId i call).goTo i (.handing frame)).nextQuestionId =
        s.nextQuestionId := by
  unfold waitForReturn
  split_ifs <;> exact ⟨rfl, rfl⟩

theorem reject_grants (i : OperationId) (call : WireCall) (error : Thrown) :
    (s.reject i call error).questionParamCapGrants = s.questionParamCapGrants ∧
      (s.reject i call error).nextQuestionId = s.nextQuestionId := by
  unfold reject
  split <;> exact ⟨rfl, rfl⟩

theorem deliver_grants (message : RpcReturnMessage) :
    (s.deliver message).1.questionParamCapGrants = s.questionParamCapGrants ∧
      (s.deliver message).1.nextQuestionId = s.nextQuestionId ∧
      ∀ e ∈ (s.deliver message).2, WireEffect.grants.Silent e := by
  unfold deliver
  cases s.pendingReturns.lookup message.answerId with
  | none => exact ⟨rfl, rfl, nofun⟩
  | some i =>
    dsimp only
    split_ifs <;> exact ⟨rfl, rfl, by simp [GrantReading.Silent, WireEffect.grants]⟩

/-- A Return comes in, and retires the grants of its question. -/
theorem Granted.retire (granted : Granted past s) (message : RpcReturnMessage) :
    Granted (past ++ .arrived message s.localBridge ::
        (s.settleParamCapGrants message.answerId message.releaseParamCaps).2)
      (s.settleParamCapGrants message.answerId message.releaseParamCaps).1 := by
  have told := granted.told.arrive message s.localBridge
  unfold settleParamCapGrants
  cases recorded : s.questionParamCapGrants.lookup message.answerId with
  | none =>
    rw [recorded, Table.erase_of_absent recorded] at told
    refine GrantHistory.change granted rfl ?_
    have none : (if message.releaseParamCaps && s.localBridge then
        ((none : Option ParamCapGrants).map (message.answerId, ·)).toList else []) = [] := by
      split_ifs <;> rfl
    rw [none] at told
    exact told
  | some grants =>
    rw [recorded] at told
    dsimp only
    split_ifs at told ⊢
    · exact GrantHistory.change granted rfl told
    · exact GrantHistory.change granted rfl told

theorem Granted.moves (granted : Granted past s) (moves : Moves s event s' effects) :
    Granted (past ++ effects) s' := by
  cases moves with
  | nothing | opened | startFailed | flagged | broken
  | exported => exact granted.quiet rfl rfl nofun
  | begun operation options =>
    unfold start
    dsimp only
    split_ifs
    · exact granted.quiet rfl rfl (by simp [GrantReading.Silent, WireEffect.grants])
    · exact granted.quiet rfl rfl nofun
  | refused | finishFailed | finished | handedOff | handedOver | threw =>
    exact granted.quiet rfl rfl (by simp [GrantReading.Silent, WireEffect.grants])
  | unencoded i call questionId frame error found stands free prepared =>
    rw [prepare_ok prepared]
    have allocated := granted.allocate i
    rw [List.append_cons]
    exact allocated.quiet rfl rfl (by simp [GrantReading.Silent, WireEffect.grants])
  | asked i call questionId frame found stands free prepared =>
    rw [prepare_ok prepared]
    have asked := granted.ask i call
    obtain ⟨grants, next⟩ :=
      asked_grants (s := (s.allocate i s.nextQuestionId).recordGrants call s.nextQuestionId)
      s.nextQuestionId i call frame
    exact asked.same grants next
  | sendFailed i call error error' found stands =>
    obtain ⟨grants, next⟩ := reject_grants (s := s) i call error
    exact granted.quiet grants next (by simp [GrantReading.Silent, WireEffect.grants])
  | answered i frameError call questionId outcome =>
    refine granted.quiet rfl rfl ?_
    unfold enter
    cases afterWait call questionId outcome <;>
      simp [GrantReading.Silent, WireEffect.grants]
  | finishSent i frameError call finish found stands free =>
    unfold sendFinish
    rw [free]
    exact granted.quiet rfl rfl (by simp [GrantReading.Silent, WireEffect.grants])
  | timedOut i call error | aborted i call error =>
    obtain ⟨grants, next⟩ := reject_grants i call error
    exact granted.quiet grants next nofun
  | returned message =>
    have retired := granted.retire message
    obtain ⟨grants, next, silent⟩ := deliver_grants
      (s := (s.settleParamCapGrants message.answerId message.releaseParamCaps).1) message
    have delivered := retired.quiet grants next silent
    rw [List.append_assoc] at delivered
    exact delivered
  | closed =>
    have silent : ∀ e ∈ (s.calls.mapIdx lostRace).flatten, WireEffect.grants.Silent e := by
      intro e mem
      obtain ⟨i, result, rfl⟩ := lostRaces_settled mem
      exact ⟨rfl, rfl, rfl⟩
    have closed : Granted (past ++ [.closed]) s.close.1 := by
      refine GrantHistory.change granted rfl ?_
      change GrantsTold (_ ++ [.closed]) (_ ++ []) ∅ _
      rw [List.append_nil]
      exact granted.told.close
    have quiet := closed.quiet rfl rfl silent
    rw [List.append_assoc] at quiet
    exact quiet

/-- What holds of every run. -/
theorem run_granted (options : RpcWireClientOptions) (events : List WireEvent) :
    Granted (Machine.shown step (initial options) events)
    (Machine.final step (initial options) events) := by
  have always : Machine.Always step (fun _ _ => True) (initial options) events :=
    Machine.always_of_forall (fun _ _ => trivial) events
  exact always.history (P := Granted)
    (fun _ s event _ granted => granted.moves (moves_step s event))
    (GrantHistory.nil _)

end RpcWireClient

end CapnpDeno
