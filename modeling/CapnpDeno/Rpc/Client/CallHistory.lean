import CapnpDeno.Lib.Heap
import CapnpDeno.Rpc.Client.ClientCall

/-!
# Histories of client calls

What an operation of a client has done about its question, whatever the client: the ids it was
given, whether its frame was handed over, the Returns it got and the Finish frames it sent.
-/

namespace CapnpDeno

@[ext]
structure CallHistory where
  asked : List ℕ
  handedOver : Bool
  delivered : List RpcReturnMessage
  finishes : List ClientFrame
deriving DecidableEq

namespace CallHistory

instance : Zero CallHistory := ⟨⟨[], false, [], []⟩⟩

instance : Add CallHistory :=
  ⟨fun a b => ⟨a.asked ++ b.asked, a.handedOver || b.handedOver, a.delivered ++ b.delivered,
    a.finishes ++ b.finishes⟩⟩

/-- Histories follow one another. -/
instance : AddMonoid CallHistory where
  add_assoc a b c := CallHistory.ext (List.append_assoc ..) (Bool.or_assoc ..)
    (List.append_assoc ..) (List.append_assoc ..)
  zero_add _ := CallHistory.ext rfl rfl rfl rfl
  add_zero _ := CallHistory.ext (List.append_nil _) (Bool.or_false _) (List.append_nil _)
    (List.append_nil _)
  nsmul := nsmulRec

variable {ω : Type} (about : ω → Option ℕ) (history : ω → CallHistory)

/-- The history of an operation. -/
def of (i : ℕ) (effects : List ω) : CallHistory := ((Heap.log about i effects).map history).sum

/-- How many Finish frames for the question have been sent. -/
def finishCount (questionId : ℕ) (effects : List ω) : ℕ :=
  (effects.flatMap fun e => (history e).finishes).countP (·.isFinishOf questionId)

variable {about history} {effects : List ω} {i questionId : ℕ}

theorem mem_finishes {e : ω} {frame : ClientFrame} (mem : e ∈ effects) (own : about e = some i)
    (sent : frame ∈ (history e).finishes) : frame ∈ (of about history i effects).finishes := by
  have logged : e ∈ Heap.log about i effects := List.mem_filter.2 ⟨mem, decide_eq_true own⟩
  have within : ∀ l : List ω, e ∈ l → frame ∈ (l.map history).sum.finishes := by
    intro l
    induction l with
    | nil => exact nofun
    | cons first l ih =>
      intro mem
      rw [List.map_cons, List.sum_cons]
      rcases List.mem_cons.1 mem with rfl | later
      · exact List.mem_append_left _ sent
      · exact List.mem_append_right _ (ih later)
  exact within _ logged

/-- The Finish frames for the question of an operation are its own, where no other sends any. -/
theorem finishCount_eq
    (own : ∀ e ∈ effects, ∀ frame ∈ (history e).finishes, frame.isFinishOf questionId = true →
      about e = some i) :
    finishCount history questionId effects =
      (of about history i effects).finishes.countP (·.isFinishOf questionId) := by
  unfold finishCount of Heap.log
  induction effects with
  | nil => rfl
  | cons e effects ih =>
    rw [List.forall_mem_cons] at own
    rw [List.flatMap_cons, List.countP_append, ih own.2, List.filter_cons]
    split_ifs with mine
    · rw [List.map_cons, List.sum_cons]
      exact (List.countP_append ..).symm
    · have none : (history e).finishes.countP (·.isFinishOf questionId) = 0 := by
        refine List.countP_eq_zero.2 fun frame mem sent => mine ?_
        exact decide_eq_true (own.1 frame mem sent)
      rw [none, Nat.zero_add]

theorem isFinishOf_inj {frame : ClientFrame} {id other : ℕ} (first : frame.isFinishOf id = true)
    (second : frame.isFinishOf other = true) : id = other := by
  cases frame with
  | finish questionId releaseResultCaps requireEarlyCancellation =>
    exact (of_decide_eq_true first).symm.trans (of_decide_eq_true second)
  | bootstrap | call | release => cases first

/-! ### Every operation -/

section Logged

variable {α : Type} {Told : CallHistory → α → Prop} {past : List ω} {calls : List α} {call : α}
  {f : α → α}

variable (about history Told) in
/-- Every operation is related to its history. -/
abbrev Logged (past : List ω) (calls : List α) : Prop :=
  Heap.Logged about (fun _ log call => Told (log.map history).sum call) past calls

/-- One operation is changed, and the effects are about it or about none. -/
theorem Logged.change (told : Logged about history Told past calls) {added : CallHistory}
    (found : calls[i]? = some call) (only : ∀ e ∈ effects, ∀ j, about e = some j → j = i)
    (adds : of about history i effects = added)
    (kept : ∀ before, Told before call → Told (before + added) (f call)) :
    Logged about history Told (past ++ effects) (calls.modify i f) := by
  refine Heap.Logged.modify told found only fun own => ?_
  have whole : ((Heap.log about i effects).map history).sum = added := adds
  rw [List.map_append, List.sum_append, whole]
  exact kept _ own

/-- A change that shows nothing of the question. -/
theorem Logged.quiet (told : Logged about history Told past calls) (found : calls[i]? = some call)
    (only : ∀ e ∈ effects, ∀ j, about e = some j → j = i) (silent : ∀ e ∈ effects, history e = 0)
    (kept : ∀ before, Told before call → Told before (f call)) :
    Logged about history Told (past ++ effects) (calls.modify i f) := by
  have adds : of about history i effects = 0 := by
    unfold of
    have none : (Heap.log about i effects).map history =
        (Heap.log about i effects).map fun _ => 0 :=
      List.map_congr_left fun e mem => silent e (List.mem_of_mem_filter mem)
    rw [none]
    simp
  refine told.change found only adds fun before own => ?_
  rw [add_zero]
  exact kept before own

/-- A change that shows one effect of the operation. -/
theorem Logged.one (told : Logged about history Told past calls) {effect : ω}
    (found : calls[i]? = some call) (own : about effect = some i)
    (kept : ∀ before, Told before call → Told (before + history effect) (f call)) :
    Logged about history Told (past ++ [effect]) (calls.modify i f) := by
  refine told.change found (fun e mem j same => ?_) ?_ kept
  · rw [List.mem_singleton.1 mem, own] at same
    exact (Option.some.inj same).symm
  · unfold of
    rw [Heap.log_eq_self (by simpa using own)]
    exact add_zero _

/-- The Finish frames for the question of an operation are those of its history, if no other
operation has the question and nothing else finishes it. -/
theorem Logged.finishCount (told : Logged about history Told past calls) {question : α → Option ℕ}
    (own : ∀ before call, Told before call → ∀ frame ∈ before.finishes, ∃ id, question call =
      some id ∧
      frame.isFinishOf id = true)
    (found : calls[i]? = some call) (asked : question call = some questionId)
    (alone : ∀ j other, calls[j]? = some other → question other = some questionId → j = i)
    (attributed : ∀ e ∈ past, ∀ frame ∈ (history e).finishes, frame.isFinishOf questionId = true →
      (about e).isSome = true) :
    finishCount history questionId past = (of about history i past).finishes.length := by
  rw [finishCount_eq, List.countP_eq_length]
  · intro frame sent
    obtain ⟨id, same, finishes⟩ := own _ _ (told.1 i call found) frame sent
    cases asked.symm.trans same
    exact finishes
  · intro e mem frame sent finishes
    obtain ⟨j, about⟩ := Option.isSome_iff_exists.1 (attributed e mem frame sent finishes)
    have there := List.getElem?_eq_getElem (told.2 e mem j about)
    obtain ⟨id, question, same⟩ := own _ _ (told.1 j _ there) frame (mem_finishes mem about sent)
    rw [isFinishOf_inj finishes same] at alone
    rw [about, alone j _ there question]

end Logged

end CallHistory

/-! ## The Finish of a call that is over -/

/-- The options of the Finish that a call sends by itself. -/
def autoFinishOptions (options : RpcFinishOptions) : Option (Except Thrown RpcReturnMessage) →
    RpcFinishOptions
  | some (.ok message) => finishOptionsForReturn message options
  | _ => finishOptionsAfterFailure options

/-- What is due once a call is over: a Finish, unless the Return that it got needs none. -/
def finishesDue : List RpcReturnMessage → ℕ
  | [] => 1
  | message :: _ => if message.noFinishNeeded then 0 else 1

theorem finishesDue_cons (message : RpcReturnMessage) (messages : List RpcReturnMessage) :
    finishesDue (message :: messages) = if message.noFinishNeeded then 0 else 1 := rfl

theorem isFinishOf_finishFrame (questionId other : ℕ) (options : RpcFinishOptions) :
    (finishFrame other options).isFinishOf questionId = decide (other = questionId) := rfl

end CapnpDeno
