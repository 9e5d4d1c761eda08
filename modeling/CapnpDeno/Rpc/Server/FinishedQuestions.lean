import CapnpDeno.Rpc.Server.AnswerTable

/-!
# Questions that their caller finishes

Once a bridge has accepted a question, its entry stays in the answer table until a Finish frame for
it comes in, unless the bridge itself gives the entry up.
-/

namespace CapnpDeno

/-- A Finish frame for the question comes in. -/
def Event.finishes (questionId : ℕ) (event : Event) : Bool :=
  match event.frame with
  | some (.finish finish) => finish.questionId = questionId
  | _ => false

def Effect.accepts (questionId : ℕ) : Effect → Bool
  | .accepted _ id => id = questionId
  | _ => false

/-- The bridge itself gives up entries. -/
def Effect.abandons : Effect → Bool
  | .evicted _ | .bootstrapFailed _ _ | .closed => true
  | _ => false

namespace RpcServerBridge

variable {frameError : RpcReturnMessage → Option Thrown} {b b' : RpcServerBridge} {event : Event}
  {effects : List Effect} {k : Books} {questionId : ℕ}

/-- A step that neither accepts nor finishes the question leaves its entry, if there is one. -/
theorem Posts.entry (posts : Posts frameError b event k effects)
    (unaccepted : ∀ e ∈ effects, e.accepts questionId = false)
    (kept : ∀ e ∈ effects, e.abandons = false) (unfinished : event.finishes questionId = false) :
    k.answers.lookup questionId = b.answerTable.lookup questionId := by
  cases posts with
  | none | exported | retained | releasedUnknown | released | finishedUnknown | bootstrapReturned
  | bootstrapLate
    | completed | responded | answerFinished => rfl
  | finished event finish i arrives =>
    change AList.lookup questionId (b.answerTable.erase finish.questionId) = _
    rw [Table.lookup_erase, if_neg]
    rintro rfl
    unfold Event.finishes at unfinished
    rw [arrives] at unfinished
    exact of_decide_eq_false unfinished rfl
  | accepted event other inputFrameBytes effects accepts =>
    have apart : questionId ≠ other := by
      rintro rfl
      exact of_decide_eq_false (unaccepted _ List.mem_cons_self) rfl
    change (b.answerTable.insert other _).lookup questionId = _
    rw [Table.lookup_insert, if_neg apart]
  | observed response =>
    have apart : questionId ≠ response.answerId := by
      rintro rfl
      exact of_decide_eq_false (unaccepted _ List.mem_cons_self) rfl
    change (b.answerTable.insert response.answerId _).lookup questionId = _
    rw [Table.lookup_insert, if_neg apart]
  | bootstrapFailed | evicted | closed => cases kept _ List.mem_cons_self

/-- A Finish frame ends the entry of its question. -/
theorem finish_ends (opened : b.closed = false) (finishes : event.finishes questionId = true) :
    (b.step frameError event).1.answerTable.lookup questionId = none := by
  have processed (finish : RpcFinishRequest) (same : finish.questionId = questionId) :
      (b.finishQuestion finish).1.answerTable.lookup questionId = none := by
    unfold finishQuestion
    rw [same]
    cases found : b.answerTable.lookup questionId with
    | none => exact found
    | some i =>
      change AList.lookup questionId (AList.erase questionId _) = none
      rw [Table.lookup_erase, if_pos rfl]
  unfold Event.finishes at finishes
  split at finishes
  · next finish arrives =>
    have same : finish.questionId = questionId := of_decide_eq_true finishes
    cases event with
    | handleFrame frame =>
      cases arrives
      have stepped : b.step frameError (.handleFrame (.finish finish)) =
          b.finishQuestion finish := by
        unfold step
        rw [opened]
        rfl
      rw [stepped]
      exact processed finish same
    | resumeFrame frame =>
      cases arrives
      exact processed finish same
    | _ => cases arrives
  · cases finishes

theorem opened_before (events : List Event)
    (opened : (Machine.final (step frameError) b events).closed = false) :
    b.closed = false := by
  induction events generalizing b with
  | nil => exact opened
  | cons event events ih =>
    have steps : Steps frameError b event _ _ := b.steps_of_step event
    exact steps.shape.stillOpen (ih opened)

/-- Without another question of the id, and unless the bridge gives entries up, the entry goes with
the first Finish frame. -/
theorem entry_finished (rest : List Event)
    (opened : (Machine.final (step frameError) b rest).closed = false)
    (once : ∀ e ∈ Machine.shown (step frameError) b rest, e.accepts questionId = false)
    (kept : ∀ e ∈ Machine.shown (step frameError) b rest, e.abandons = false) :
    (Machine.final (step frameError) b rest).answerTable.lookup questionId =
      if rest.any (·.finishes questionId) then none else b.answerTable.lookup questionId := by
  induction rest generalizing b with
  | nil => rfl
  | cons event rest ih =>
    have steps : Steps frameError b event _ _ := b.steps_of_step event
    have before : b.closed = false := opened_before (event :: rest) opened
    have after := ih opened (fun e mem => once e (List.mem_append_right _ mem))
      fun e mem => kept e (List.mem_append_right _ mem)
    rw [List.any_cons]
    cases finishes : event.finishes questionId with
    | true =>
      rw [finish_ends before finishes, ite_self] at after
      exact after
    | false =>
      have same : (step frameError b event).1.answerTable.lookup questionId =
          b.answerTable.lookup questionId :=
        steps.posts.entry (fun e mem => once e (List.mem_append_left _ mem))
          (fun e mem => kept e (List.mem_append_left _ mem)) finishes
      rw [same] at after
      exact after

/-- The bridge accepts the question in the step between the events, and it is the only one of its id
from then on; it is not closed, and does not give up entries by itself. -/
structure Asked (frameError : RpcReturnMessage → Option Thrown) (options : RpcServerBridgeOptions)
    (first : List Event) (asking : Event) (rest : List Event) (questionId : ℕ) : Prop where
  accepted :
    (step frameError (Machine.final (step frameError) (initial options) first) asking).2.any
    (·.accepts questionId) = true
  once : ∀ e ∈ Machine.shown (step frameError)
    (step frameError (Machine.final (step frameError) (initial options) first) asking).1 rest,
      e.accepts questionId = false
  kept : ∀ e ∈ Machine.shown (step frameError)
    (step frameError (Machine.final (step frameError) (initial options) first) asking).1 rest,
    e.abandons = false
  opened : (Machine.final (step frameError) (initial options) (first ++ asking :: rest)).closed =
    false

theorem Posts.accepts (posts : Posts frameError b event k effects)
    (accepted : effects.any (·.accepts questionId) = true) :
    (k.answers.lookup questionId).isSome = true := by
  obtain ⟨e, mem, accepts⟩ := List.any_eq_true.1 accepted
  cases posts with
  | none event effects neutral =>
    have quiet := neutral e mem
    cases e <;> first | cases accepts | cases quiet
  | exported | retained | releasedUnknown | released | finishedUnknown | finished
  | bootstrapReturned | bootstrapLate
    | bootstrapFailed | evicted | closed =>
    rw [List.mem_singleton.1 mem] at accepts
    cases accepts
  | accepted event other inputFrameBytes effects accepts' neutral =>
    rcases List.mem_cons.1 mem with rfl | invoked
    · change ((b.answerTable.insert other _).lookup questionId).isSome = true
      rw [Table.lookup_insert, if_pos (of_decide_eq_true accepts).symm]
      rfl
    · have quiet := neutral e invoked
      cases e <;> first | cases accepts | cases quiet
  | observed response =>
    rcases List.mem_cons.1 mem with rfl | observed
    · change ((b.answerTable.insert response.answerId _).lookup questionId).isSome = true
      rw [Table.lookup_insert, if_pos (of_decide_eq_true accepts).symm]
      rfl
    · rw [List.mem_singleton.1 observed] at accepts
      cases accepts
  | answerFinished =>
    rcases List.mem_cons.1 mem with rfl | canceled
    · cases accepts
    · rw [List.mem_singleton.1 canceled] at accepts
      cases accepts
  | completed i q call path response frame =>
    unfold shownReturn at mem
    split at mem
    · rw [List.mem_singleton.1 mem] at accepts
      cases accepts
    · cases mem
    · rw [List.mem_singleton.1 mem] at accepts
      cases accepts
    · rw [List.mem_singleton.1 mem] at accepts
      cases accepts
  | responded i failure q call abi result =>
    have attempts (attempts : List HostReturn) (mem : e ∈ hostEffects i failure attempts) :
        False := by
      obtain ⟨attempt, -, rfl⟩ := List.mem_map.1 mem
      cases accepts
    unfold respond at mem
    cases result with
    | error error =>
      rw [List.mem_singleton.1 mem] at accepts
      cases accepts
    | ok result =>
      cases result with
      | some frame =>
        dsimp only at mem
        split_ifs at mem
        · cases mem
        · exact (attempts _ mem).elim
      | none =>
        dsimp only at mem
        split_ifs at mem
        · cases mem
        · exact (attempts _ mem).elim
        · cases mem

/-- The entry is in the table until a Finish frame has come in. -/
theorem Asked.entry {options : RpcServerBridgeOptions} {first : List Event} {asking : Event}
    {rest : List Event} (asked : Asked frameError options first asking rest questionId) :
    (Machine.final (step frameError) (initial options) (first ++ asking :: rest)).answerTable.lookup
      questionId =
        none ↔ 0 < rest.countP (·.finishes questionId) := by
  have steps : Steps frameError (Machine.final (step frameError) (initial options) first)
      asking _ _ :=
    steps_of_step _ asking
  have present : ((step frameError (Machine.final (step frameError) (initial options) first)
      asking).1.answerTable.lookup questionId).isSome = true := steps.posts.accepts asked.accepted
  have opened := asked.opened
  rw [Machine.final_append] at opened ⊢
  change AList.lookup questionId (Machine.final (step frameError) _ rest).answerTable = none ↔ _
  rw [entry_finished rest opened asked.once asked.kept, List.countP_pos_iff, ← List.any_eq_true]
  split_ifs with finished
  · exact iff_of_true rfl finished
  · refine iff_of_false (fun none => ?_) finished
    rw [none] at present
    cases present

end RpcServerBridge

end CapnpDeno
