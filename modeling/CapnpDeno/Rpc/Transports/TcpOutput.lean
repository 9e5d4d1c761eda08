import CapnpDeno.Lib.Table
import CapnpDeno.Rpc.Transports.Tcp

/-!
# The output of TcpTransport

The frames that are queued and in flight are those that have not settled.  What is on the wire is a
sequence of whole frames in the order in which they were sent, and then the begin of one at most;
unless another frame is accepted after one has failed.
-/

namespace CapnpDeno

namespace TcpSend

def unsettled (x : TcpSend) : Bool := x.stage = .queued ∨ x.stage = .inflight

def isRejected (x : TcpSend) : Bool :=
  match x.stage with
  | .rejected _ => true
  | .queued | .inflight | .fulfilled => false

def unsettledBytes (x : TcpSend) : ℤ := if x.unsettled then x.frame.length else 0

end TcpSend

/-- The frame that the drain loop has in flight. -/
def TcpDrain.inflight : TcpDrain → Option SendId
  | .writing send _ | .written send | .failed send _ => some send
  | .idle | .ending => none

def TcpEffect.settledSend : TcpEffect → Option SendId
  | .fulfilled send | .rejected send _ => some send
  | .thrown _ | .accepted _ | .onError _ => none

namespace TcpTransport

variable {s t : TcpTransport} {send other : SendId} {x : TcpSend} {past effects : List TcpEffect}
  {next : SendId} {rest : List SendId} {error : Thrown}

/-! ## Acts -/

/-- A frame that was accepted has failed. -/
def hasFailed (s : TcpTransport) : Bool := s.sends.any (·.isRejected)

/-- A frame is accepted after another one has failed. -/
def acceptsAfterFailure (s : TcpTransport) : TcpEvent → Bool
  | .send frame => s.hasFailed && (s.refusal frame).isNone && (s.assertCapacity frame.length).isNone
  | .start | .close | .remoteCloses | .puts _ _ | .writeSettles _ _ | .timesOut
  | .drainGoesOn => false

/-- `lax` says that frames may be accepted after one has failed. -/
inductive Act (lax : Prop) : TcpTransport → TcpTransport → List TcpEffect → Prop
  | flags (s : TcpTransport) (started closed remoteClosed : Bool)
    (stays : s.closed = true → closed = true) :
      Act lax s { s with started := started, closed := closed, remoteClosed := remoteClosed } []
  | throw (s : TcpTransport) (error : Thrown) : Act lax s s [.thrown error]
  | observe (s : TcpTransport) (error : Thrown) : Act lax s s [.onError error]
  | enqueue (s : TcpTransport) (frame : Bytes) (room : s.assertCapacity frame.length = none)
      (free : s.closed = false) (whole : s.hasFailed = false ∨ lax) :
      Act lax s (s.enqueue frame) [.accepted s.sends.length]
  | rejectNext (s : TcpTransport) (next : SendId) (rest : List SendId) (error : Thrown)
      (first : s.queue = next :: rest) (closed : s.closed = true) :
      Act lax s (s.rejectNext next rest error) [.rejected next error]
  | dequeue (s : TcpTransport) (next : SendId) (rest : List SendId) (first : s.queue = next :: rest)
      (free : s.drain.inflight = none) (running : s.closed = false) :
      Act lax s (s.dequeue next rest) []
  | rest (s : TcpTransport) (drain : TcpDrain) (free : s.drain.inflight = none)
    (stays : drain.inflight = none) :
      Act lax s { s with drain := drain } []
  | races (s : TcpTransport) (send : SendId) (outcome : WriteOutcome)
    (here : s.drain = .writing send none)
      (kept : outcome ≠ .written) : Act lax s { s with drain := .writing send (some outcome) } []
  | throws (s : TcpTransport) (send : SendId) (outcome : WriteOutcome) (error : Thrown)
      (here : s.drain = .writing send (some outcome)) :
      Act lax s { s with drain := .failed send error } []
  | again (s : TcpTransport) (send : SendId) (x : TcpSend)
    (here : s.drain = .writing send (some .written))
      (found : s.sends[send]? = some x) (short : x.put < x.frame.length) :
      Act lax s
        { s.setSend send fun x => { x with offset := x.put, writing := true } with
          drain := .writing send none } []
  | wrote (s : TcpTransport) (send : SendId) (x : TcpSend)
    (here : s.drain = .writing send (some .written))
      (found : s.sends[send]? = some x) (full : x.frame.length ≤ x.put) :
      Act lax s { s.setSend send fun x => { x with offset := x.put } with drain := .written send }
      []
  | fulfill (s : TcpTransport) (send : SendId) (x : TcpSend) (here : s.drain = .written send)
      (found : s.sends[send]? = some x) : Act lax s (s.finish send x .fulfilled) [.fulfilled send]
  | fail (s : TcpTransport) (send : SendId) (x : TcpSend) (error thrown : Thrown)
      (here : s.drain = .failed send error) (found : s.sends[send]? = some x) :
      Act lax s ((s.finish send x (.rejected thrown)).rejectQueued thrown).1
        ([.rejected send thrown] ++ ((s.finish send x (.rejected thrown)).rejectQueued thrown).2)
  | puts (s : TcpTransport) (send : SendId) (x : TcpSend) (bytes : ℕ)
    (found : s.sends[send]? = some x)
      (writing : x.writing = true) : Act lax s (s.puts send x bytes) []
  | writeSettles (s : TcpTransport) (send : SendId) (x : TcpSend) (outcome : WriteOutcome)
      (found : s.sends[send]? = some x) (writing : x.writing = true) :
      Act lax s (s.writeSettles send outcome) []

variable {lax : Prop}

theorem acts_rejectFrames (s : TcpTransport) (error : Thrown) (frames : List SendId)
    (here : s.queue = frames) (closed : s.closed = true) :
    Machine.Acts (Act lax) s (rejectFrames error frames s).1 (rejectFrames error frames s).2 := by
  induction frames generalizing s with
  | nil => exact .nil s
  | cons next rest ih =>
    exact .cons (.rejectNext s next rest error here closed)
      (ih (s.rejectNext next rest error) rfl closed)

theorem acts_rejectQueued (s : TcpTransport) (error : Thrown) (closed : s.closed = true) :
    Machine.Acts (Act lax) s (s.rejectQueued error).1 (s.rejectQueued error).2 :=
  acts_rejectFrames s error s.queue rfl closed

theorem acts_drainOutbound (s : TcpTransport) (free : s.drain.inflight = none) :
    Machine.Acts (Act lax) s s.drainOutbound [] := by
  unfold drainOutbound
  split
  · next next rest first =>
    split_ifs with closed
    · exact .one (.rest s .ending free rfl)
    · exact .one (.dequeue s next rest first free (Bool.eq_false_of_not_eq_true closed))
  · exact .one (.rest s .ending free rfl)

theorem acts_ensureDrainLoop (s : TcpTransport) :
    Machine.Acts (Act lax) s s.ensureDrainLoop [] := by
  unfold ensureDrainLoop
  split_ifs with idle
  · exact acts_drainOutbound s (by rw [idle]; rfl)
  · exact .nil s

theorem acts_send (s : TcpTransport) (frame : Bytes) :
    Machine.Acts (Act (s.acceptsAfterFailure (.send frame) = true)) s (s.send frame).1
      (s.send frame).2 := by
  unfold TcpTransport.send
  split
  · next error _ => exact .one (.throw s error)
  · next accepted =>
    split
    · next error _ => exact (Machine.Acts.one (.throw s error)).then_silent (acts_ensureDrainLoop s)
    · next room =>
      have free : s.closed = false := by
        by_contra closed
        simp only [refusal, Bool.eq_true_of_not_eq_false closed, Bool.true_or, if_true] at accepted
        split_ifs at accepted
      refine (Machine.Acts.one (.enqueue s frame room free ?_)).then_silent (acts_ensureDrainLoop _)
      cases failed : s.hasFailed with
      | false => exact .inl rfl
      | true => exact .inr (by simp [acceptsAfterFailure, failed, accepted, room])

theorem acts_afterWrite (s : TcpTransport) {outcome : WriteOutcome}
    (here : s.drain = .writing send (some outcome)) (found : s.sends[send]? = some x) :
    Machine.Acts (Act lax) s (s.afterWrite send x outcome) [] := by
  cases outcome with
  | written =>
    unfold afterWrite
    dsimp only
    split_ifs with none' short
    · exact .one (.throws s send .written _ here)
    · exact .one (.again s send x here found short)
    · exact .one (.wrote s send x here found (Nat.le_of_not_lt short))
  | invalid result => exact .one (.throws s send _ _ here)
  | failed error => exact .one (.throws s send _ error here)

theorem acts_fail (s : TcpTransport) (here : s.drain = .failed send error)
    (found : s.sends[send]? = some x) :
    Machine.Acts (Act lax) s (s.fail send x error).1 (s.fail send x error).2 := by
  unfold fail
  dsimp only
  refine Machine.Acts.trans (.one (.fail s send x error _ here found)) ?_
  split_ifs
  · exact .one (.observe _ _)
  · exact .nil _

theorem acts_drainGoesOn (s : TcpTransport) :
    Machine.Acts (Act lax) s s.drainGoesOn.1 s.drainGoesOn.2 := by
  unfold drainGoesOn
  split
  · next send outcome here =>
    split
    · next x found => exact acts_afterWrite s here found
    · exact .nil s
  · next send here =>
    split
    · next x found =>
        exact (Machine.Acts.one (.fulfill s send x here found)).then_silent
          (acts_drainOutbound _ rfl)
    · exact .nil s
  · next send error here =>
    split
    · next x found => exact acts_fail s here found
    · exact .nil s
  · next here =>
    refine (Machine.Acts.one (.rest s .idle (by rw [here]; rfl) rfl)).silent ?_
    dsimp only
    split_ifs
    · exact acts_ensureDrainLoop _
    · exact .nil _
  · exact .nil s
  · exact .nil s

theorem acts_atWrite (s : TcpTransport) (send : SendId) (act : TcpSend → TcpTransport)
    (acts : ∀ x, s.sends[send]? = some x → x.writing = true → Act lax s (act x) []) :
    Machine.Acts (Act lax) s (s.atWrite send act) [] := by
  unfold atWrite
  split
  · next x found =>
    split_ifs with writing
    · exact .one (acts x found writing)
    · exact .nil s
  · exact .nil s

theorem acts_step (s : TcpTransport) (event : TcpEvent) :
    Machine.Acts (Act (s.acceptsAfterFailure event = true)) s (s.step event).1
      (s.step event).2 := by
  cases event with
  | start =>
    unfold step start
    split_ifs
    · exact .one (.throw s _)
    · exact .one (.throw s _)
    · exact .one (.flags s true s.closed s.remoteClosed id)
  | send frame => exact acts_send s frame
  | close =>
    unfold step close
    split_ifs
    · exact .nil s
    · exact (Machine.Acts.one (.flags s s.started true s.remoteClosed fun _ => rfl)).silent
        (acts_rejectQueued _ _ rfl)
  | remoteCloses =>
    unfold step markRemoteClosed
    split_ifs
    · exact .nil s
    · exact (Machine.Acts.one (.flags s s.started true true fun _ => rfl)).silent
        (acts_rejectQueued _ _ rfl)
  | puts send bytes =>
    exact acts_atWrite s send _ fun x found writing => .puts s send x bytes found writing
  | writeSettles send outcome =>
    exact acts_atWrite s send _ fun x found writing => .writeSettles s send x outcome found writing
  | timesOut =>
    have acts : Machine.Acts (Act (s.acceptsAfterFailure .timesOut = true)) s s.timesOut [] := by
      unfold timesOut
      split
      · next send timeoutMs here _ => exact .one (.races s send _ here nofun)
      · exact .nil s
    exact acts
  | drainGoesOn => exact acts_drainGoesOn s

/-- What holds when the next frame is rejected holds when all that are queued are. -/
theorem rejectFrames_history {P : List TcpEffect → TcpTransport → Prop} (frames : List SendId)
    (kept : ∀ past s next rest, s.queue = next :: rest → P past s →
      P (past ++ [.rejected next error]) (s.rejectNext next rest error))
    (here : s.queue = frames) (holds : P past s) :
    P (past ++ (rejectFrames error frames s).2) (rejectFrames error frames s).1 ∧
      (rejectFrames error frames s).1.queue = [] := by
  induction frames generalizing s past with
  | nil =>
    refine ⟨?_, here⟩
    dsimp only [rejectFrames]
    rwa [List.append_nil]
  | cons next rest ih =>
    dsimp only [rejectFrames]
    rw [← List.append_assoc]
    exact ih rfl (kept past s next rest here holds)

theorem rejectQueued_history {P : List TcpEffect → TcpTransport → Prop}
    (kept : ∀ past s next rest, s.queue = next :: rest → P past s →
      P (past ++ [.rejected next error]) (s.rejectNext next rest error)) (holds : P past s) :
    P (past ++ (s.rejectQueued error).2) (s.rejectQueued error).1 :=
  (rejectFrames_history s.queue kept rfl holds).1

theorem rejectQueued_invariant {P : TcpTransport → Prop}
    (kept : ∀ s next rest, s.queue = next :: rest → P s → P (s.rejectNext next rest error))
    (holds : P s) :
    P (s.rejectQueued error).1 :=
  @rejectQueued_history s [] error (fun _ s => P s)
    (fun _ s next rest first holds => kept s next rest first holds)
    holds

theorem rejectQueued_queue (s : TcpTransport) (error : Thrown) :
    (s.rejectQueued error).1.queue = [] :=
  (@rejectFrames_history s [] error (fun _ _ => True) s.queue (fun _ _ _ _ _ _ => trivial) rfl
    trivial).2

/-! ## Where a frame stands -/

/-- The stage of a frame tells where it is. -/
structure Placed (s : TcpTransport) : Prop where
  queued : ∀ send, send ∈ s.queue ↔ ∃ x, s.sends[send]? = some x ∧ x.stage = .queued
  sorted : s.queue.Pairwise (· < ·)
  inflight : ∀ send, s.drain.inflight = some send ↔ ∃ x, s.sends[send]? = some x ∧
    x.stage = .inflight

/-- A change that moves no frame. -/
theorem Placed.same (placed : Placed s) (queue : t.queue = s.queue)
    (drain : t.drain.inflight = s.drain.inflight)
    (stages : ∀ send : SendId, t.sends[send]?.map TcpSend.stage =
      s.sends[send]?.map TcpSend.stage) : Placed t := by
  have stands (stage : SendStage) (send : SendId) :
      (∃ x, t.sends[send]? = some x ∧ x.stage = stage) ↔ ∃ x, s.sends[send]? = some x ∧
      x.stage = stage := by
    rw [← Option.map_eq_some_iff, ← Option.map_eq_some_iff, stages send]
  constructor
  · intro send
    rw [queue, stands]
    exact placed.queued send
  · rw [queue]
    exact placed.sorted
  · intro send
    rw [drain, stands]
    exact placed.inflight send

theorem stage_modify {f : TcpSend → TcpSend} (sends : t.sends = s.sends.modify send f)
    (kept : ∀ x, (f x).stage = x.stage) (other : SendId) :
    t.sends[other]?.map TcpSend.stage = s.sends[other]?.map TcpSend.stage := by
  rw [sends]
  by_cases here : other = send
  · subst here
    cases found : s.sends[other]? with
    | none => rw [List.getElem?_modify_eq, found]; rfl
    | some x => rw [Heap.modify_self found, Option.map_some, kept, Option.map_some]
  · rw [Heap.modify_other here]

/-- One frame comes to another stage. -/
theorem Placed.move (placed : Placed s) (found : s.sends[send]? = some x) {f : TcpSend → TcpSend}
    (sends : t.sends = s.sends.modify send f) (queue : ∀ other, other ∈ t.queue ↔
      (other = send ∧ (f x).stage = .queued) ∨ other ≠ send ∧ other ∈ s.queue)
    (sorted : t.queue.Pairwise (· < ·))
    (drain : ∀ other, t.drain.inflight = some other ↔
      (other = send ∧ (f x).stage = .inflight) ∨ other ≠ send ∧ s.drain.inflight = some other) :
      Placed t := by
  have stands (stage : SendStage) (other : SendId) :
      (∃ y, t.sends[other]? = some y ∧ y.stage = stage) ↔
      (other = send ∧ (f x).stage = stage) ∨ other ≠ send ∧ ∃ y, s.sends[other]? = some y ∧
      y.stage = stage := by
    rw [sends]
    by_cases here : other = send
    · subst here
      simp [Heap.modify_self found]
    · simp [Heap.modify_other here, here]
  constructor
  · intro other
    rw [stands, queue, placed.queued]
  · exact sorted
  · intro other
    rw [stands, drain, placed.inflight]

theorem Placed.rejectNext (placed : Placed s) (first : s.queue = next :: rest) :
    Placed (s.rejectNext next rest error) := by
  obtain ⟨x, found, queued⟩ := (placed.queued next).1 (by simp [first])
  have sorted := placed.sorted
  rw [first, List.pairwise_cons] at sorted
  have idle : s.drain.inflight ≠ some next := by
    intro busy
    obtain ⟨y, found', inflight⟩ := (placed.inflight next).1 busy
    simp_all
  refine placed.move found (f := fun x => { x with stage := .rejected error }) rfl ?_ sorted.2 ?_
  · intro other
    have later := sorted.1 other
    simp only [first, List.mem_cons]
    constructor
    · intro there
      exact .inr ⟨(later there).ne', .inr there⟩
    · rintro (⟨-, stage⟩ | ⟨different, same | there⟩)
      · cases stage
      · exact absurd same different
      · exact there
  · intro other
    simp only [reduceCtorEq, and_false, false_or]
    constructor
    · intro busy
      refine ⟨?_, busy⟩
      rintro rfl
      exact idle busy
    · exact And.right

theorem Placed.finish (placed : Placed s) (found : s.sends[send]? = some x)
    (here : s.drain.inflight = some send) (stage : SendStage)
    (over' : stage ≠ .queued ∧ stage ≠ .inflight) : Placed (s.finish send x stage) := by
  obtain ⟨y, found', inflight⟩ := (placed.inflight send).1 here
  obtain rfl : x = y := by simpa [found] using found'
  refine placed.move found (f := fun x => { x with stage := stage }) rfl ?_ placed.sorted ?_
  · intro other
    simp only [TcpTransport.finish, settle, setSend, over'.1, and_false, false_or]
    refine ⟨fun there => ⟨?_, there⟩, And.right⟩
    rintro rfl
    obtain ⟨y, found', queued⟩ := (placed.queued _).1 there
    simp_all
  · intro other
    rw [here]
    simp only [TcpTransport.finish, over'.2, and_false, false_or]
    constructor
    · nofun
    · rintro ⟨different, same⟩
      exact absurd (Option.some.inj same).symm different

theorem Placed.act (act : Act lax s t effects) (placed : Placed s) : Placed t := by
  cases act with
  | flags | throw | observe => exact ⟨placed.queued, placed.sorted, placed.inflight⟩
  | enqueue frame room whole =>
    have inside send (there : send ∈ s.queue) : send < s.sends.length := by
      obtain ⟨x, found, -⟩ := (placed.queued send).1 there
      exact (List.getElem?_eq_some_iff.1 found).1
    have stands (stage : SendStage) (send : SendId) :
        (∃ x, (s.enqueue frame).sends[send]? = some x ∧ x.stage = stage) ↔
          (send = s.sends.length ∧ stage = .queued) ∨ ∃ x, s.sends[send]? = some x ∧
          x.stage = stage := by
      unfold enqueue
      dsimp only
      constructor
      · rintro ⟨x, found, rfl⟩
        obtain there | ⟨rfl, rfl⟩ := Heap.of_append found
        · exact .inr ⟨x, there, rfl⟩
        · exact .inl ⟨rfl, rfl⟩
      · rintro (⟨rfl, rfl⟩ | ⟨x, found, rfl⟩)
        · exact ⟨_, List.getElem?_concat_length, rfl⟩
        · exact ⟨x, Heap.append_old found, rfl⟩
    constructor
    · intro send
      rw [stands, ← placed.queued]
      simp [enqueue, or_comm]
    · exact List.pairwise_append.2 ⟨placed.sorted,
        List.pairwise_singleton _ _, by simpa using inside⟩
    · intro send
      rw [stands, ← placed.inflight]
      simp [enqueue]
  | rejectNext next rest error first => exact placed.rejectNext first
  | dequeue next rest first free =>
    obtain ⟨x, found, queued⟩ := (placed.queued next).1 (by simp [first])
    have sorted := placed.sorted
    rw [first, List.pairwise_cons] at sorted
    refine placed.move found rfl ?_ sorted.2 ?_
    · intro other
      have later := sorted.1 other
      simp only [TcpTransport.dequeue, first, List.mem_cons, reduceCtorEq, and_false, false_or]
      constructor
      · intro there
        exact ⟨(later there).ne', .inr there⟩
      · rintro ⟨different, same | there⟩
        · exact absurd same different
        · exact there
    · intro other
      rw [free]
      simp only [TcpTransport.dequeue, and_true, reduceCtorEq, and_false, or_false]
      split_ifs <;> simp [TcpDrain.inflight, eq_comm]
  | rest drain free stays => exact placed.same rfl (stays.trans free.symm) fun _ => rfl
  | races send outcome here kept => exact placed.same rfl (by rw [here]; rfl) fun _ => rfl
  | throws send outcome error here => exact placed.same rfl (by rw [here]; rfl) fun _ => rfl
  | again send x here found short =>
    refine placed.same ?_ ?_ (stage_modify rfl fun _ => ?_)
    · rfl
    · rw [here]
      rfl
    · rfl
  | wrote send x here found full =>
    refine placed.same ?_ ?_ (stage_modify rfl fun _ => ?_)
    · rfl
    · rw [here]
      rfl
    · rfl
  | fulfill send x here found => exact placed.finish found (by rw [here]; rfl) _ ⟨nofun, nofun⟩
  | fail send x error thrown here found =>
    have finished : Placed (s.finish send x (.rejected thrown)) :=
      placed.finish found (by rw [here]; rfl) _ ⟨nofun, nofun⟩
    exact rejectQueued_invariant (fun s next rest first placed => Placed.rejectNext placed first)
      finished
  | puts send x bytes found writing =>
    refine placed.same ?_ ?_ (stage_modify rfl fun _ => ?_) <;> rfl
  | writeSettles send x outcome found writing =>
    have busy : (s.writeSettles send outcome).drain.inflight = s.drain.inflight := by
      unfold TcpTransport.writeSettles
      dsimp only
      split_ifs with here
      · rw [here]
        rfl
      · rfl
    refine placed.same ?_ busy (stage_modify rfl fun _ => ?_) <;> rfl

/-! ## The bytes of a frame -/

/-- What the stage of a frame and the drain loop tell about its bytes. -/
structure Written (drain : TcpDrain) (send : SendId) (x : TcpSend) : Prop where
  offset : x.offset ≤ x.put
  put : x.put ≤ x.frame.length
  queued : x.stage = .queued → x.put = 0 ∧ x.writing = false
  fulfilled : x.stage = .fulfilled → x.put = x.frame.length ∧ x.writing = false
  waiting : drain = .writing send none → x.writing = true
  raced : drain = .writing send (some .written) → x.writing = false
  written : drain = .written send → x.put = x.frame.length ∧ x.writing = false

/-- The drain loop turns to other frames, or to none. -/
theorem Written.leave {drain drain' : TcpDrain} (written : Written drain send x)
    (gone : drain'.inflight ≠ some send) :
    Written drain' send x := by
  refine ⟨written.offset, written.put, written.queued, written.fulfilled, ?_, ?_, ?_⟩
  all_goals
    rintro rfl
    exact absurd rfl gone

/-- Only the frame in flight has to do with the drain loop, before and after. -/
theorem written_modify (written : Heap.All (Written s.drain) s.sends) {drain : TcpDrain}
    (same : ∀ send, drain.inflight = some send → s.drain.inflight = some send)
    (here : s.drain.inflight = some send) {f : TcpSend → TcpSend}
    (kept : ∀ x, s.sends[send]? = some x → Written s.drain send x → Written drain send (f x)) :
    Heap.All (Written drain) (s.sends.modify send f) := by
  intro j y found
  obtain ⟨rfl, x, there, rfl⟩ | ⟨different, there⟩ := Heap.of_modify found
  · exact kept x there (written j x there)
  · refine (written j y there).leave fun busy => different ?_
    exact Option.some.inj ((same j busy).symm.trans here)

theorem written_rejectNext (written : Heap.All (Written s.drain) s.sends) :
    Heap.All (Written (s.rejectNext next rest error).drain) (s.rejectNext next rest error).sends :=
  Heap.All.modify written fun _ _ w => ⟨w.offset, w.put, nofun, nofun, w.waiting, w.raced,
    w.written⟩

/-- The frame in flight is rejected. -/
theorem written_reject (written : Heap.All (Written s.drain) s.sends)
    (here : s.drain.inflight = some send) :
    Heap.All (Written (s.finish send x (.rejected error)).drain)
    (s.finish send x (.rejected error)).sends := by
  have finished : Heap.All (Written .ending)
      (s.sends.modify send fun x => { x with stage := .rejected error }) :=
    written_modify written (by simp [TcpDrain.inflight]) here fun y there w =>
      ⟨w.offset, w.put, nofun, nofun, nofun, nofun, nofun⟩
  exact finished

theorem Written.act (act : Act lax s t effects) (placed : Placed s)
    (written : Heap.All (Written s.drain) s.sends) :
    Heap.All (Written t.drain) t.sends := by
  have alone {drain : TcpDrain} (same : ∀ send, drain.inflight = some send → s.drain.inflight =
      some send) {send : SendId} (here : s.drain.inflight = some send)
      (kept : ∀ x, s.sends[send]? = some x → Written s.drain send x → Written drain send x) :
      Heap.All (Written drain) s.sends := by
    intro j y found
    by_cases this : j = send
    · subst this
      exact kept y found (written j y found)
    · refine (written j y found).leave fun busy => this ?_
      exact Option.some.inj ((same j busy).symm.trans here)
  cases act with
  | flags | throw | observe => exact written
  | enqueue frame room whole =>
    refine Heap.All.append written ⟨le_rfl, Nat.zero_le _, fun _ => ⟨rfl, rfl⟩, nofun, ?_, ?_, ?_⟩
    all_goals
      intro here
      have busy : s.drain = _ := here
      obtain ⟨x, found, -⟩ := (placed.inflight s.sends.length).1 (by rw [busy]; rfl)
      simp at found
  | rejectNext next rest error first => exact written_rejectNext written
  | dequeue next rest first free =>
    intro j y found
    obtain ⟨x, there, queued⟩ := (placed.queued next).1 (by simp [first])
    obtain ⟨rfl, x', there', rfl⟩ | ⟨different, there'⟩ := Heap.of_modify found
    · obtain rfl : x = x' := by simpa [there] using there'
      have before := written j x there
      obtain ⟨none', still⟩ := before.queued queued
      have size : s.byteLength j = x.frame.length := by simp [byteLength, there]
      refine ⟨before.offset, before.put, nofun, nofun, ?_, ?_, ?_⟩ <;>
        simp only [TcpTransport.dequeue, size] <;> split_ifs <;> simp_all
    · refine (written j y there').leave fun busy => different ?_
      simp only [TcpTransport.dequeue] at busy
      split_ifs at busy <;> simp_all [TcpDrain.inflight]
  | rest drain free stays =>
    intro j y found
    exact (written j y found).leave (by rw [stays]; nofun)
  | races send outcome here kept =>
    refine alone (by rw [here]; exact fun _ => id) (by rw [here]; rfl) fun x _ w => ?_
    exact ⟨w.offset, w.put, w.queued, w.fulfilled, by simp, by simp [kept], by simp⟩
  | throws send outcome error here =>
    refine alone (by rw [here]; exact fun _ => id) (by rw [here]; rfl) fun x _ w => ?_
    exact ⟨w.offset, w.put, w.queued, w.fulfilled, by simp, by simp, by simp⟩
  | again send x here found short =>
    obtain ⟨x', found', inflight⟩ := (placed.inflight send).1 (by rw [here]; rfl)
    refine written_modify written (by rw [here]; exact fun _ => id) (by rw [here]; rfl) fun y
      there w => ?_
    have same : y.stage = .inflight := by simp_all
    exact ⟨le_rfl, w.put, by simp [same], by simp [same], by simp, by simp, by simp⟩
  | wrote send x here found full =>
    obtain ⟨x', found', inflight⟩ := (placed.inflight send).1 (by rw [here]; rfl)
    refine written_modify written (by rw [here]; exact fun _ => id) (by rw [here]; rfl) fun y
      there w => ?_
    obtain rfl : x = y := by simpa [found] using there
    have same : x.stage = .inflight := by simp_all
    exact ⟨le_rfl, w.put, by simp [same], by simp [same], by simp, by simp,
      fun _ => ⟨Nat.le_antisymm w.put full, w.raced here⟩⟩
  | fulfill send x here found =>
    have finished : Heap.All (Written .ending)
        (s.sends.modify send fun x => { x with stage := .fulfilled }) :=
      written_modify written (by simp [TcpDrain.inflight]) (by rw [here]; rfl) fun y there w =>
        ⟨w.offset, w.put, nofun, fun _ => w.written here, nofun, nofun, nofun⟩
    exact finished
  | fail send x error thrown here found =>
    exact rejectQueued_invariant (P := fun s => Heap.All (Written s.drain) s.sends)
      (fun s next rest _ written => written_rejectNext written)
      (written_reject written (by rw [here]; rfl))
  | puts send x bytes found writing =>
    refine Heap.All.modify written fun y there w => ?_
    obtain rfl : x = y := by simpa [found] using there
    refine ⟨?_, Nat.min_le_right _ _, ?_, ?_, w.waiting, w.raced, ?_⟩
    · have more := w.offset
      have room := w.put
      dsimp only
      omega
    · intro queued
      simp [(w.queued queued).2] at writing
    · intro fulfilled
      simp [(w.fulfilled fulfilled).2] at writing
    · intro written
      simp [(w.written written).2] at writing
  | writeSettles send x outcome found writing =>
    intro j y there
    obtain ⟨rfl, x', there', rfl⟩ | ⟨different, there'⟩ := Heap.of_modify there
    · have w := written j x' there'
      refine ⟨w.offset, w.put, fun queued => ⟨(w.queued queued).1, rfl⟩, fun done =>
        ⟨(w.fulfilled done).1, rfl⟩, ?_, fun _ => rfl, ?_⟩
      · unfold TcpTransport.writeSettles
        dsimp only
        split_ifs with here
        · nofun
        · exact fun same => absurd same here
      · unfold TcpTransport.writeSettles
        dsimp only
        split_ifs with here
        · nofun
        · exact fun same => ⟨(w.written same).1, rfl⟩
    · have w := written j y there'
      unfold TcpTransport.writeSettles
      dsimp only
      split_ifs with here
      · refine w.leave fun busy => different ?_
        exact (Option.some.inj busy).symm
      · exact w

/-! ## Counters -/

/-- The frames and the bytes that are queued or in flight are those that have not settled, within
their limits. -/
structure Accounted (s : TcpTransport) : Prop where
  frames : s.queue.length + s.inflightFrames =
    (s.sends.map fun x => if x.unsettled then (1 : ℤ) else 0).sum
  bytes : s.queuedBytes + s.inflightBytes = (s.sends.map TcpSend.unsettledBytes).sum
  maxFrames : ∀ max, s.options.maxQueuedOutboundFrames = some max →
    s.queue.length + s.inflightFrames ≤ max
  maxBytes : ∀ max, s.options.maxQueuedOutboundBytes = some max →
    s.queuedBytes + s.inflightBytes ≤ max

/-- A change that settles no frame. -/
theorem Accounted.same (accounted : Accounted s) (options : t.options = s.options)
    (frames : (t.queue.length : ℤ) + t.inflightFrames = s.queue.length + s.inflightFrames)
    (bytes : t.queuedBytes + t.inflightBytes = s.queuedBytes + s.inflightBytes)
    {f : TcpSend → TcpSend} (sends : t.sends = s.sends.modify send f)
    (kept : ∀ x, s.sends[send]? = some x → (f x).unsettled = x.unsettled ∧ (f x).frame = x.frame) :
    Accounted t := by
  have sum (g : TcpSend → ℤ) (same : ∀ x, s.sends[send]? = some x → g (f x) = g x) :
      (t.sends.map g).sum = (s.sends.map g).sum := by
    rw [sends]
    cases found : s.sends[send]? with
    | none => rw [List.modify_eq_self (by simpa using found)]
    | some x => rw [Heap.sum_modify g found, same x found, sub_self, add_zero]
  constructor
  · rw [frames, sum]
    · exact accounted.frames
    · intro x found
      rw [(kept x found).1]
  · rw [bytes, sum]
    · exact accounted.bytes
    · intro x found
      unfold TcpSend.unsettledBytes
      rw [(kept x found).1, (kept x found).2]
  · rw [options, frames]
    exact accounted.maxFrames
  · rw [options, bytes]
    exact accounted.maxBytes

/-- One frame settles. -/
theorem Accounted.settle (accounted : Accounted s) (options : t.options = s.options)
    (found : s.sends[send]? = some x) (unsettled : x.unsettled = true) (stage : SendStage)
    (settled : stage ≠ .queued ∧ stage ≠ .inflight)
    (sends : t.sends = s.sends.modify send fun x => { x with stage := stage })
    (frames : (t.queue.length : ℤ) + t.inflightFrames = s.queue.length + s.inflightFrames - 1)
    (bytes : t.queuedBytes + t.inflightBytes = s.queuedBytes + s.inflightBytes - x.frame.length) :
    Accounted t := by
  have over' : TcpSend.unsettled { x with stage := stage } = false := by
    simp [TcpSend.unsettled, settled]
  have fewer := accounted.frames
  have less := accounted.bytes
  constructor
  · rw [sends, Heap.sum_modify _ found, frames, fewer, unsettled, over']
    simp only [if_true, Bool.false_eq_true, if_false]
    ring
  · rw [sends, Heap.sum_modify _ found, bytes, less]
    simp only [TcpSend.unsettledBytes, unsettled, over', if_true, Bool.false_eq_true, if_false]
    ring
  · intro max limit
    have before := accounted.maxFrames max (options ▸ limit)
    omega
  · intro max limit
    have before := accounted.maxBytes max (options ▸ limit)
    omega

theorem byteLength_of (found : s.sends[send]? = some x) : s.byteLength send = x.frame.length := by
  simp [byteLength, found]

theorem Accounted.rejectNext (placed : Placed s) (accounted : Accounted s)
    (first : s.queue = next :: rest) :
    Accounted (s.rejectNext next rest error) := by
  obtain ⟨x, found, queued⟩ := (placed.queued next).1 (by simp [first])
  refine accounted.settle ?_ found (by simp [TcpSend.unsettled, queued]) (.rejected error)
    ⟨nofun, nofun⟩ ?_ ?_ ?_
  · rfl
  · rfl
  · simp only [TcpTransport.rejectNext, setSend, first, List.length_cons]
    push_cast
    ring
  · simp only [TcpTransport.rejectNext, setSend, byteLength_of found]
    ring

theorem Accounted.finish (placed : Placed s) (accounted : Accounted s)
    (here : s.drain.inflight = some send) (found : s.sends[send]? = some x) (stage : SendStage)
    (settled : stage ≠ .queued ∧ stage ≠ .inflight) :
    Accounted (s.finish send x stage) := by
  obtain ⟨y, found', inflight⟩ := (placed.inflight send).1 here
  obtain rfl : x = y := by simpa [found] using found'
  refine accounted.settle ?_ found (by simp [TcpSend.unsettled, inflight]) stage settled ?_ ?_ ?_
  · rfl
  · rfl
  · simp only [TcpTransport.finish, TcpTransport.settle, setSend]
    ring
  · simp only [TcpTransport.finish, TcpTransport.settle, setSend]
    ring

theorem room_of_assertCapacity {frameBytes : ℕ} (room : s.assertCapacity frameBytes = none) :
    (∀ max, s.options.maxQueuedOutboundFrames = some max →
      s.inflightFrames + s.queue.length + 1 ≤ max) ∧
      ∀ max, s.options.maxQueuedOutboundBytes = some max →
      s.inflightBytes + s.queuedBytes + frameBytes ≤ max := by
  unfold assertCapacity at room
  dsimp only at room
  obtain ⟨frames, bytes⟩ := Option.or_eq_none_iff.1 room
  refine ⟨fun max limit => ?_, fun max limit => ?_⟩
  · rw [limit] at frames
    dsimp only at frames
    split_ifs at frames with full
    exact Int.not_lt.1 full
  · rw [limit] at bytes
    dsimp only at bytes
    split_ifs at bytes with full
    exact Int.not_lt.1 full

theorem Accounted.act (act : Act lax s t effects) (placed : Placed s) (accounted : Accounted s) :
    Accounted t := by
  -- the drain loop moves on, and no frame does
  have stays {t : TcpTransport} (send : SendId) (f : TcpSend → TcpSend)
      (options : t.options = s.options)
      (queue : t.queue = s.queue) (queuedBytes : t.queuedBytes = s.queuedBytes)
      (inflightFrames : t.inflightFrames = s.inflightFrames)
      (inflightBytes : t.inflightBytes = s.inflightBytes)
      (sends : t.sends = s.sends.modify send f)
      (kept : ∀ x, s.sends[send]? = some x → (f x).unsettled = x.unsettled ∧
        (f x).frame = x.frame) : Accounted t :=
    accounted.same options (by rw [queue, inflightFrames])
      (by rw [queuedBytes, inflightBytes]) sends kept
  cases act with
  | flags | throw | observe | rest | races | throws =>
    exact ⟨accounted.frames, accounted.bytes, accounted.maxFrames, accounted.maxBytes⟩
  | enqueue frame room whole =>
    obtain ⟨frames, bytes⟩ := room_of_assertCapacity room
    have more := accounted.frames
    have larger := accounted.bytes
    constructor
    · simp only [TcpTransport.enqueue, List.length_append, List.map_append, List.sum_append, ← more]
      simp [TcpSend.unsettled]
      ring
    · simp only [TcpTransport.enqueue, List.map_append, List.sum_append, ← larger]
      simp [TcpSend.unsettledBytes, TcpSend.unsettled]
      ring
    · intro max limit
      have fits := frames max limit
      simp only [TcpTransport.enqueue, List.length_append, List.length_singleton]
      omega
    · intro max limit
      have fits := bytes max limit
      simp only [TcpTransport.enqueue]
      omega
  | rejectNext next rest error first => exact accounted.rejectNext placed first
  | dequeue next rest first free =>
    obtain ⟨x, found, queued⟩ := (placed.queued next).1 (by simp [first])
    have sends : (s.dequeue next rest).sends = s.sends.modify next fun x => { x with
        stage := .inflight, writing := !decide (s.byteLength next = 0) } := rfl
    refine accounted.same ?_ ?_ ?_ sends ?_
    · rfl
    · simp only [TcpTransport.dequeue, setSend, first, List.length_cons]
      push_cast
      ring
    · simp only [TcpTransport.dequeue, setSend]
      ring
    · intro y there
      obtain rfl : x = y := by simpa [found] using there
      simp [TcpSend.unsettled, queued]
  | again send x here found short =>
    refine stays send (fun x => { x with offset := x.put, writing := true }) ?_ ?_ ?_ ?_ ?_ ?_ fun _
      _ => ⟨rfl, rfl⟩
    all_goals rfl
  | wrote send x here found full =>
    refine stays send (fun x => { x with offset := x.put }) ?_ ?_ ?_ ?_ ?_ ?_ fun _ _ => ⟨rfl, rfl⟩
    all_goals rfl
  | fulfill send x here found =>
    exact accounted.finish placed (by rw [here]; rfl) found .fulfilled ⟨nofun, nofun⟩
  | fail send x error thrown here found =>
    have busy : s.drain.inflight = some send := by rw [here]; rfl
    have finished := placed.finish found busy (.rejected thrown) ⟨nofun, nofun⟩
    have counted := accounted.finish placed busy found (.rejected thrown) ⟨nofun, nofun⟩
    have both : Placed ((s.finish send x (.rejected thrown)).rejectQueued thrown).1 ∧
        Accounted ((s.finish send x (.rejected thrown)).rejectQueued thrown).1 :=
      rejectQueued_invariant (P := fun s => Placed s ∧ Accounted s)
        (fun s next rest first holds =>
          ⟨holds.1.rejectNext first, holds.2.rejectNext holds.1 first⟩)
        ⟨finished, counted⟩
    exact both.2
  | puts send x bytes found writing =>
    refine stays send (fun x => { x with put := min (x.put + bytes) x.frame.length }) ?_ ?_
      ?_ ?_ ?_ ?_ fun _ _ => ⟨rfl, rfl⟩
    all_goals rfl
  | writeSettles send x outcome found writing =>
    refine stays send (fun x => { x with writing := false }) ?_ ?_ ?_ ?_ ?_ ?_ fun _ _ => ⟨rfl, rfl⟩
    all_goals rfl

/-! ## Every frame settles once -/

/-- The effects about a frame are those of its stage. -/
def Told (send : SendId) (told : List TcpEffect) (x : TcpSend) : Prop :=
  match x.stage with
  | .queued | .inflight => told = []
  | .fulfilled => told = [.fulfilled send]
  | .rejected error => told = [.rejected send error]

abbrev Settled (past : List TcpEffect) (s : TcpTransport) : Prop :=
  Heap.Logged TcpEffect.settledSend Told past s.sends

theorem told_unsettled {told : List TcpEffect} (unsettled : x.unsettled = true)
    (holds : Told send told x) :
    told = [] := by
  unfold Told at holds
  cases stage : x.stage <;> simp_all [TcpSend.unsettled]

theorem Settled.rejectNext (placed : Placed s) (settled : Settled past s)
    (first : s.queue = next :: rest) :
    Settled (past ++ [.rejected next error]) (s.rejectNext next rest error) := by
  obtain ⟨x, found, queued⟩ := (placed.queued next).1 (by simp [first])
  refine Heap.Logged.modify settled found (by simp [TcpEffect.settledSend]) fun told => ?_
  rw [told_unsettled (by simp [TcpSend.unsettled, queued]) told]
  simp [Heap.log, TcpEffect.settledSend, Told]

theorem Settled.finish (placed : Placed s) (settled : Settled past s)
    (here : s.drain.inflight = some send) (found : s.sends[send]? = some x) (stage : SendStage)
    (effect : TcpEffect) (about : effect.settledSend = some send)
    (tells : Told send [effect] { x with stage := stage }) :
    Settled (past ++ [effect]) (s.finish send x stage) := by
  obtain ⟨y, found', inflight⟩ := (placed.inflight send).1 here
  obtain rfl : x = y := by simpa [found] using found'
  refine Heap.Logged.modify settled found (by simp [about, eq_comm]) fun told => ?_
  rw [told_unsettled (by simp [TcpSend.unsettled, inflight]) told]
  simpa [Heap.log, about] using tells

theorem Settled.act (act : Act lax s t effects) (placed : Placed s) (settled : Settled past s) :
    Settled (past ++ effects) t := by
  have kept {f : TcpSend → TcpSend} (send : SendId) (same : ∀ x, (f x).stage = x.stage) :
      Heap.Logged TcpEffect.settledSend Told (past ++ []) (s.sends.modify send f) := by
    cases found : s.sends[send]? with
    | none =>
      rw [List.modify_eq_self (by simpa using found), List.append_nil]
      exact settled
    | some x =>
      refine Heap.Logged.modify settled found (by simp) fun told => ?_
      simpa [Heap.log, Told, same] using told
  cases act with
  | flags | throw | observe | rest | races | throws =>
    exact Heap.Logged.silent settled (by simp [TcpEffect.settledSend])
  | enqueue frame room whole =>
    exact Heap.Logged.append settled (by simp [TcpEffect.settledSend]) rfl
  | rejectNext next rest error first => exact settled.rejectNext placed first
  | dequeue next rest first free =>
    obtain ⟨x, found, queued⟩ := (placed.queued next).1 (by simp [first])
    refine Heap.Logged.modify settled found (by simp) fun told => ?_
    rw [told_unsettled (by simp [TcpSend.unsettled, queued]) told]
    simp [Heap.log, Told]
  | again send | wrote send | puts send | writeSettles send => exact kept send fun _ => rfl
  | fulfill send x here found =>
    exact settled.finish placed (by rw [here]; rfl) found .fulfilled (.fulfilled send) rfl rfl
  | fail send x error thrown here found =>
    have busy : s.drain.inflight = some send := by rw [here]; rfl
    have finished := placed.finish found busy (.rejected thrown) (by simp)
    have told := settled.finish placed busy found (.rejected thrown) (.rejected send thrown) rfl rfl
    rw [← List.append_assoc]
    exact (rejectQueued_history (P := fun past s => Placed s ∧ Settled past s)
      (fun past s next rest first holds =>
        ⟨holds.1.rejectNext first, holds.2.rejectNext holds.1 first⟩)
      ⟨finished, told⟩).2

/-! ## What is on the wire -/

/-- The drain loop has come to the frame. -/
def Begun (x : TcpSend) : Prop := 0 < x.put ∨ x.writing = true ∨ x.stage = .inflight

/-- What is on the wire is what was put of the frames, and before a frame that was begun all are on
it as a whole. -/
structure InOrder (s : TcpTransport) : Prop where
  wire : s.wire = (s.sends.map fun x => x.frame.take x.put).flatten
  before : ∀ (send later : SendId) (x y : TcpSend), send < later → s.sends[send]? = some x →
    s.sends[later]? = some y → Begun y → x.stage = .fulfilled

/-- After a frame has failed no other one follows. -/
def Calm (s : TcpTransport) : Prop :=
  s.closed = false → s.hasFailed = true → s.queue = [] ∧ s.drain.inflight = none

theorem flatten_modify {α β : Type} {l : List α} {i : ℕ} {a : α} {f : α → α} {g : α → List β}
    {extra : List β} (found : l[i]? = some a) (more : g (f a) = g a ++ extra)
    (last : ∀ j b, i < j → l[j]? = some b → g b = []) :
    ((l.modify i f).map g).flatten = (l.map g).flatten ++ extra := by
  induction l generalizing i with
  | nil => simp at found
  | cons first rest ih =>
    cases i with
    | zero =>
      obtain rfl : first = a := by simpa using found
      have nothing : (rest.map g).flatten = [] := by
        rw [List.flatten_eq_nil_iff]
        intro piece member
        obtain ⟨b, there, rfl⟩ := List.mem_map.1 member
        obtain ⟨j, inside, rfl⟩ := List.mem_iff_getElem.1 there
        exact last (j + 1) _ (Nat.succ_pos j) (by simp [inside])
      simp [more, nothing]
    | succ i =>
      simp only [List.modify_succ_cons, List.map_cons, List.flatten_cons, List.append_assoc]
      congr 1
      apply ih
      · simpa using found
      · intro j b later there
        exact last (j + 1) b (Nat.succ_lt_succ later) (by simpa using there)

theorem InOrder.same (ordered : InOrder s) (wire : t.wire = s.wire) (sends : t.sends = s.sends) :
    InOrder t := by
  constructor
  · rw [wire, sends]
    exact ordered.wire
  · rw [sends]
    exact ordered.before

/-- A change of one frame that leaves the wire as it is. -/
theorem InOrder.modify (ordered : InOrder s) (f : TcpSend → TcpSend) (wire : t.wire = s.wire)
    (sends : t.sends = s.sends.modify send f) (found : s.sends[send]? = some x)
    (piece : (f x).frame.take (f x).put = x.frame.take x.put)
    (begun : Begun (f x) → Begun x ∨ ∀ (earlier : SendId) (y : TcpSend), earlier < send →
      s.sends[earlier]? = some y →
      y.stage = .fulfilled)
    (whole : x.stage = .fulfilled → (f x).stage = .fulfilled) : InOrder t := by
  constructor
  · have same : (s.sends.modify send f).map (fun x => x.frame.take x.put) =
        s.sends.map fun x => x.frame.take x.put := by
      apply List.ext_getElem?
      intro j
      simp only [List.getElem?_map]
      by_cases here : j = send
      · subst here
        rw [Heap.modify_self found, found, Option.map_some, Option.map_some, piece]
      · rw [Heap.modify_other here]
    rw [wire, sends, same]
    exact ordered.wire
  · intro i j y z earlier first second starts
    rw [sends] at first second
    obtain ⟨rfl, z', there', rfl⟩ | ⟨different', there'⟩ := Heap.of_modify second
    · obtain rfl : x = z' := by simpa [found] using there'
      rw [Heap.modify_other (Nat.ne_of_lt earlier)] at first
      obtain before | all := begun starts
      · exact ordered.before i j y x earlier first found before
      · exact all i y earlier first
    · obtain ⟨rfl, y', there, rfl⟩ | ⟨different, there⟩ := Heap.of_modify first
      · obtain rfl : x = y' := by simpa [found] using there
        exact whole (ordered.before i j x z earlier there there' starts)
      · exact ordered.before i j y z earlier there there' starts

theorem InOrder.rejectNext (placed : Placed s) (written : Heap.All (Written s.drain) s.sends)
    (ordered : InOrder s) (first : s.queue = next :: rest) :
    InOrder (s.rejectNext next rest error) := by
  obtain ⟨x, found, queued⟩ := (placed.queued next).1 (by simp [first])
  obtain ⟨none', still⟩ := (written next x found).queued queued
  refine ordered.modify (fun x => { x with stage := .rejected error }) ?_ ?_ found ?_ ?_ ?_
  · rfl
  · rfl
  · rfl
  · intro begun
    simp [Begun, none', still] at begun
  · intro fulfilled
    cases queued.symm.trans fulfilled

/-- Whether a frame has failed depends on the stages alone. -/
theorem hasFailed_modify {f : TcpSend → TcpSend} (sends : t.sends = s.sends.modify send f)
    (found : s.sends[send]? = some x) (kept : (f x).isRejected = true → x.isRejected = true)
    (failed : t.hasFailed = true) : s.hasFailed = true := by
  unfold hasFailed at failed ⊢
  rw [List.any_eq_true] at failed ⊢
  obtain ⟨y, mem, rejected⟩ := failed
  rw [sends] at mem
  obtain ⟨j, there⟩ := List.mem_iff_getElem?.1 mem
  obtain ⟨rfl, y', there', rfl⟩ | ⟨-, there'⟩ := Heap.of_modify there
  · obtain rfl : x = y' := by simpa [found] using there'
    exact ⟨x, List.mem_of_getElem? found, kept rejected⟩
  · exact ⟨y, List.mem_of_getElem? there', rejected⟩

/-- What holds of the wire as long as no frame is accepted after another one has failed. -/
structure Ordered (s : TcpTransport) : Prop where
  ordered : InOrder s
  calm : Calm s

theorem rejectQueued_drain (s : TcpTransport) (error : Thrown) :
    (s.rejectQueued error).1.drain = s.drain :=
  rejectQueued_invariant (P := fun t => t.drain = s.drain) (fun _ _ _ _ same => same) rfl

/-- A change of the frame in flight. -/
theorem Calm.modify (calm : Calm s) {f : TcpSend → TcpSend}
    (sends : t.sends = s.sends.modify send f) (found : s.sends[send]? = some x)
    (kept : (f x).isRejected = true → x.isRejected = true) (closed : t.closed = s.closed)
    (queue : t.queue = s.queue) (inflight : s.drain.inflight = none → t.drain.inflight = none) :
    Calm t := by
  intro free failed
  rw [closed] at free
  obtain ⟨none', idle⟩ := calm free (hasFailed_modify sends found kept failed)
  exact ⟨queue.trans none', inflight idle⟩

/-- The next frame is in flight: every frame before it is fulfilled. -/
theorem Ordered.dequeue (ordered : Ordered s) (placed : Placed s) (first : s.queue = next :: rest)
    (free : s.drain.inflight = none) (running : s.closed = false) :
    Ordered (s.dequeue next rest) := by
  have none' : s.hasFailed = false := by
    by_contra failed
    simp [(ordered.calm running (by simpa using failed)).1] at first
  obtain ⟨x, found, queued⟩ := (placed.queued next).1 (by simp [first])
  have sorted := placed.sorted
  rw [first, List.pairwise_cons] at sorted
  refine ⟨ordered.ordered.modify (fun x => { x with
    stage := .inflight, writing := !decide (s.byteLength next = 0) }) ?_ ?_ found ?_ ?_ ?_,
      fun _ failed => ?_⟩
  · rfl
  · rfl
  · rfl
  · -- every frame before is neither queued nor in flight, and none has failed
    intro _
    refine .inr fun earlier y before there => ?_
    cases stage : y.stage with
    | queued =>
      have member := (placed.queued earlier).2 ⟨y, there, stage⟩
      rw [first, List.mem_cons] at member
      obtain rfl | member := member
      · exact absurd before (Nat.lt_irrefl _)
      · exact absurd (sorted.1 earlier member) (Nat.lt_asymm before)
    | inflight =>
      have here := (placed.inflight earlier).2 ⟨y, there, stage⟩
      simp [free] at here
    | fulfilled => rfl
    | rejected error =>
      have unfailed := List.any_eq_false.1 none' y (List.mem_of_getElem? there)
      simp [TcpSend.isRejected, stage] at unfailed
  · intro fulfilled
    cases queued.symm.trans fulfilled
  · have failed' : s.hasFailed = true :=
      hasFailed_modify rfl found (fun rejected => by simp [TcpSend.isRejected] at rejected) failed
    cases none'.symm.trans failed'

/-- The frame in flight is rejected, and all that are queued. -/
theorem Ordered.fail {thrown : Thrown} (ordered : Ordered s) (placed : Placed s)
    (written : Heap.All (Written s.drain) s.sends) (flies : s.drain.inflight = some send)
    (found : s.sends[send]? = some x) (stage : x.stage = .inflight) :
    Ordered ((s.finish send x (.rejected thrown)).rejectQueued thrown).1 := by
  have finished : InOrder (s.finish send x (.rejected thrown)) := by
    refine ordered.ordered.modify (fun x => { x with stage := .rejected thrown }) ?_ ?_
      found ?_ ?_ ?_
    · rfl
    · rfl
    · rfl
    · exact fun _ => .inl (.inr (.inr stage))
    · intro fulfilled
      cases stage.symm.trans fulfilled
  have kept (s : TcpTransport) (next : SendId) (rest : List SendId)
      (first : s.queue = next :: rest)
      (holds : Placed s ∧ Heap.All (Written s.drain) s.sends ∧ InOrder s) :
      Placed (s.rejectNext next rest thrown) ∧
        Heap.All (Written (s.rejectNext next rest thrown).drain)
        (s.rejectNext next rest thrown).sends ∧
        InOrder (s.rejectNext next rest thrown) :=
    ⟨holds.1.rejectNext first, written_rejectNext holds.2.1,
      holds.2.2.rejectNext holds.1 holds.2.1 first⟩
  have rejected :=
    rejectQueued_invariant (P := fun s => Placed s ∧ Heap.All (Written s.drain) s.sends ∧
      InOrder s)
    kept ⟨placed.finish found flies (.rejected thrown) ⟨nofun, nofun⟩,
      written_reject written flies, finished⟩
  refine ⟨rejected.2.2, fun _ _ => ⟨rejectQueued_queue _ _, ?_⟩⟩
  rw [rejectQueued_drain]
  rfl

/-- The connection takes bytes of a frame: no byte of a later one is on the wire. -/
theorem Ordered.puts (ordered : Ordered s) (written : Heap.All (Written s.drain) s.sends)
    (bytes : ℕ) (found : s.sends[send]? = some x) (writing : x.writing = true) :
    Ordered (s.puts send x bytes) := by
  have unsettled : x.stage ≠ .fulfilled := by
    intro fulfilled
    simp [((written send x found).fulfilled fulfilled).2] at writing
  have later (j : SendId) (y : TcpSend) (after : send < j) (there : s.sends[j]? = some y) :
      y.put = 0 := by
    by_contra some'
    exact unsettled (ordered.ordered.before send j x y after found there
      (.inl (Nat.pos_of_ne_zero some')))
  refine ⟨⟨?_, fun i j y z earlier first second begun => ?_⟩,
    ordered.calm.modify (f := fun x => { x with put := min (x.put + bytes) x.frame.length }) ?_
      found id ?_ ?_ id⟩
  · have pieces :
        ((s.sends.modify send fun x => { x with put := min (x.put + bytes) x.frame.length }).map
        fun x => x.frame.take x.put).flatten =
        (s.sends.map fun x => x.frame.take x.put).flatten ++ (x.frame.drop x.put).take bytes := by
      apply flatten_modify found
      · dsimp only
        rw [← List.take_add, ← List.take_take, List.take_length]
      · intro j y after there
        rw [later j y after there, List.take_zero]
    exact (congrArg (· ++ (x.frame.drop x.put).take bytes) ordered.ordered.wire).trans pieces.symm
  · obtain ⟨rfl, z', there', rfl⟩ | ⟨different', there'⟩ := Heap.of_modify second
    · obtain rfl : x = z' := by simpa [found] using there'
      obtain ⟨rfl, -⟩ | ⟨-, there⟩ := Heap.of_modify first
      · exact absurd earlier (Nat.lt_irrefl _)
      · exact ordered.ordered.before i j y x earlier there there' (.inr (.inl writing))
    · obtain ⟨rfl, y', there, rfl⟩ | ⟨different, there⟩ := Heap.of_modify first
      · obtain rfl : x = y' := by simpa [found] using there
        exact absurd (ordered.ordered.before i j x z earlier there there' begun) unsettled
      · exact ordered.ordered.before i j y z earlier there there' begun
  · rfl
  · rfl
  · rfl

theorem Ordered.act (act : Act False s t effects) (placed : Placed s)
    (written : Heap.All (Written s.drain) s.sends) (ordered : Ordered s) : Ordered t := by
  -- a frame in flight has not settled
  have flying {send : SendId} {x : TcpSend} (here : s.drain.inflight = some send)
      (found : s.sends[send]? = some x) :
      x.stage = .inflight := by
    obtain ⟨y, found', inflight⟩ := (placed.inflight send).1 here
    simp_all
  -- and is the only one whose drain goes on
  have busy {send : SendId} {drain : TcpDrain} (here : s.drain.inflight = some send) :
      s.drain.inflight = none → drain.inflight = none := by
    intro idle
    cases here.symm.trans idle
  cases act with
  | flags started closed remoteClosed stays =>
    refine ⟨ordered.ordered.same rfl rfl, fun free failed => ordered.calm ?_ failed⟩
    by_contra gone
    cases (stays (Bool.eq_true_of_not_eq_false gone)).symm.trans free
  | throw | observe => exact ordered
  | enqueue frame room free whole =>
    have whole : s.hasFailed = false := by simpa using whole
    refine ⟨⟨?_, ?_⟩, fun _ failed => ?_⟩
    · simp [enqueue, ordered.ordered.wire]
    · intro i j x y earlier first second begun
      obtain there | ⟨rfl, rfl⟩ := Heap.of_append second
      · obtain there' | ⟨rfl, -⟩ := Heap.of_append first
        · exact ordered.ordered.before i j x y earlier there' there begun
        · have inside : j < s.sends.length := (List.getElem?_eq_some_iff.1 there).1
          exact absurd earlier (Nat.lt_asymm inside)
      · simp [Begun] at begun
    · have more : (s.enqueue frame).hasFailed = s.hasFailed := by
        simp [hasFailed, enqueue, TcpSend.isRejected]
      cases whole.symm.trans (more.symm.trans failed)
  | rejectNext next rest error first closed =>
    exact ⟨ordered.ordered.rejectNext placed written first,
      fun free => by cases closed.symm.trans free⟩
  | dequeue next rest first free running => exact ordered.dequeue placed first free running
  | rest drain free stays =>
    exact ⟨ordered.ordered.same rfl rfl, fun running failed =>
      ⟨(ordered.calm running failed).1, stays⟩⟩
  | races send outcome here kept | throws send outcome error here =>
    have flies : s.drain.inflight = some send := by rw [here]; rfl
    exact ⟨ordered.ordered.same rfl rfl, fun running failed =>
      ⟨(ordered.calm running failed).1, busy flies (ordered.calm running failed).2⟩⟩
  | again send x here found short =>
    have flies : s.drain.inflight = some send := by rw [here]; rfl
    have stage := flying flies found
    refine ⟨ordered.ordered.modify (fun x => { x with offset := x.put, writing := true }) ?_ ?_
      found ?_ ?_ ?_,
      ordered.calm.modify (f := fun x => { x with offset := x.put, writing := true }) ?_ found id ?_
        ?_ (busy flies)⟩
    · rfl
    · rfl
    · rfl
    · exact fun _ => .inl (.inr (.inr stage))
    · exact id
    · rfl
    · rfl
    · rfl
  | wrote send x here found full =>
    have flies : s.drain.inflight = some send := by rw [here]; rfl
    refine ⟨ordered.ordered.modify (fun x => { x with offset := x.put }) ?_ ?_ found ?_ ?_ ?_,
      ordered.calm.modify (f := fun x => { x with offset := x.put }) ?_ found id ?_ ?_ (busy flies)⟩
    · rfl
    · rfl
    · rfl
    · exact .inl
    · exact id
    · rfl
    · rfl
    · rfl
  | fulfill send x here found =>
    have flies : s.drain.inflight = some send := by rw [here]; rfl
    have stage := flying flies found
    refine ⟨ordered.ordered.modify (fun x => { x with stage := .fulfilled }) ?_ ?_ found ?_ ?_ ?_,
      ordered.calm.modify (f := fun x => { x with stage := .fulfilled }) ?_ found ?_ ?_ ?_
        (busy flies)⟩
    · rfl
    · rfl
    · rfl
    · exact fun _ => .inl (.inr (.inr stage))
    · exact fun _ => rfl
    · rfl
    · exact nofun
    · rfl
    · rfl
  | fail send x error thrown here found =>
    have flies : s.drain.inflight = some send := by rw [here]; rfl
    exact ordered.fail placed written flies found (flying flies found)
  | puts send x bytes found writing => exact ordered.puts written bytes found writing
  | writeSettles send x outcome found writing =>
    have inflight : (s.writeSettles send outcome).drain.inflight = s.drain.inflight := by
      unfold TcpTransport.writeSettles
      dsimp only
      split_ifs with here
      · rw [here]
        rfl
      · rfl
    refine ⟨ordered.ordered.modify (fun x => { x with writing := false }) ?_ ?_ found ?_ ?_ ?_,
      ordered.calm.modify (f := fun x => { x with writing := false }) ?_ found id ?_ ?_
        inflight.trans⟩
    · rfl
    · rfl
    · rfl
    · exact fun _ => .inl (.inr (.inl writing))
    · exact id
    · rfl
    · rfl
    · rfl

/-- Where every frame before one that was begun is whole, what was put of the frames is a prefix of
them. -/
theorem flatten_prefix {l : List TcpSend}
    (whole : ∀ (i j : SendId) (x y : TcpSend), i < j → l[i]? = some x →
    l[j]? = some y → 0 < y.put → x.frame.length ≤ x.put) :
    (l.map fun x => x.frame.take x.put).flatten <+: (l.map (·.frame)).flatten := by
  induction l with
  | nil => exact List.prefix_refl []
  | cons x l ih =>
    rw [List.map_cons, List.map_cons, List.flatten_cons, List.flatten_cons]
    by_cases full : x.frame.length ≤ x.put
    · rw [List.take_of_length_le full, List.prefix_append_right_inj]
      refine ih fun i j y z earlier first second => ?_
      exact whole (i + 1) (j + 1) y z (Nat.succ_lt_succ earlier) first second
    · have nothing : (l.map fun x => x.frame.take x.put).flatten = [] := by
        rw [List.flatten_eq_nil_iff]
        intro piece member
        obtain ⟨y, there, rfl⟩ := List.mem_map.1 member
        obtain ⟨j, second⟩ := List.mem_iff_getElem?.1 there
        have none' : y.put = 0 := by
          by_contra some'
          exact full (whole 0 (j + 1) x y (Nat.succ_pos j) rfl second (Nat.pos_of_ne_zero some'))
        rw [none', List.take_zero]
      rw [nothing, List.append_nil]
      exact (List.take_prefix _ _).trans (List.prefix_append _ _)

/-! ## The drain loop runs -/

/-- Between two steps no frame waits without a drain loop, and none on a transport that is
closed. -/
structure Draining (s : TcpTransport) : Prop where
  idle : s.drain = .idle → s.queue = []
  closed : s.closed = true → s.queue = []

theorem draining_drainOutbound (closed : s.closed = true → s.queue = []) :
    Draining s.drainOutbound := by
  unfold drainOutbound
  split
  · next next rest first =>
    have running : s.closed = false := by
      by_contra here
      simp [closed (by simpa using here)] at first
    rw [if_neg (by simp [running])]
    refine ⟨fun idle => ?_, fun gone => by cases running.symm.trans gone⟩
    simp only [dequeue] at idle
    split_ifs at idle
  · next none' => exact ⟨nofun, fun _ => none'⟩

theorem draining_ensureDrainLoop (closed : s.closed = true → s.queue = []) :
    Draining s.ensureDrainLoop := by
  unfold ensureDrainLoop
  split_ifs with idle
  · exact draining_drainOutbound closed
  · exact ⟨fun idle' => absurd idle' idle, closed⟩

theorem draining_rejectQueued : Draining (s.rejectQueued error).1 :=
  ⟨fun _ => rejectQueued_queue s error, fun _ => rejectQueued_queue s error⟩

/-- The frames in the queue stay there, and so does the loop. -/
theorem Draining.same (draining : Draining s) (idle : t.drain = .idle → s.drain = .idle)
    (queue : t.queue = s.queue) (closed : t.closed = s.closed) : Draining t := by
  refine ⟨fun idle' => ?_, fun gone => ?_⟩
  · rw [queue]
    exact draining.idle (idle idle')
  · rw [queue]
    exact draining.closed (closed.symm.trans gone)

theorem draining_send (draining : Draining s) (frame : Bytes) : Draining (s.send frame).1 := by
  unfold TcpTransport.send
  split
  · exact draining
  · next accepted =>
    split
    · exact draining_ensureDrainLoop draining.closed
    · refine draining_ensureDrainLoop fun gone => ?_
      have closed : s.closed = true := gone
      simp only [refusal, closed, Bool.true_or, if_true] at accepted
      split_ifs at accepted

theorem draining_afterWrite (draining : Draining s) {outcome : WriteOutcome}
    (here : s.drain.inflight = some send) :
    Draining (s.afterWrite send x outcome) := by
  have busy : s.drain ≠ .idle := by
    rintro idle
    simp [idle, TcpDrain.inflight] at here
  cases outcome with
  | written =>
    unfold afterWrite
    dsimp only
    split_ifs <;> exact draining.same nofun rfl rfl
  | invalid => exact draining.same nofun rfl rfl
  | failed => exact draining.same nofun rfl rfl

theorem draining_drainGoesOn (draining : Draining s) : Draining s.drainGoesOn.1 := by
  unfold drainGoesOn
  split
  · next send outcome here =>
    split
    · exact draining_afterWrite draining (by rw [here]; rfl)
    · exact draining
  · split
    · exact draining_drainOutbound draining.closed
    · exact draining
  · split
    · exact draining_rejectQueued
    · exact draining
  · dsimp only
    split_ifs with more
    · exact draining_ensureDrainLoop draining.closed
    · refine ⟨fun _ => ?_, draining.closed⟩
      by_contra some'
      have closed : s.closed = true := by simpa using fun open' => more ⟨some', open'⟩
      exact some' (draining.closed closed)
  · exact draining
  · exact draining

theorem draining_step (draining : Draining s) (event : TcpEvent) : Draining (s.step event).1 := by
  have writes (send : SendId) (act : TcpSend → TcpTransport) (kept : ∀ x, Draining (act x)) :
      Draining (s.atWrite send act) := by
    unfold atWrite
    split
    · split_ifs
      · apply kept
      · exact draining
    · exact draining
  cases event with
  | start =>
    unfold step start
    split_ifs <;> exact draining.same id rfl rfl
  | send frame => exact draining_send draining frame
  | close =>
    unfold step close
    split_ifs
    · exact draining
    · exact draining_rejectQueued
  | remoteCloses =>
    unfold step markRemoteClosed
    split_ifs
    · exact draining
    · exact draining_rejectQueued
  | puts send bytes => exact writes send _ fun x => draining.same id rfl rfl
  | writeSettles send outcome =>
    refine writes send _ fun _ => draining.same ?_ rfl rfl
    unfold writeSettles
    dsimp only
    split_ifs
    · nofun
    · exact id
  | timesOut =>
    have kept : Draining s.timesOut := by
      unfold timesOut
      split
      · exact draining.same nofun rfl rfl
      · exact draining
    exact kept
  | drainGoesOn => exact draining_drainGoesOn draining

/-! ## Runs -/

/-- What holds in every run. -/
structure Sound (past : List TcpEffect) (s : TcpTransport) : Prop where
  placed : Placed s
  written : Heap.All (Written s.drain) s.sends
  accounted : Accounted s
  settled : Settled past s

theorem Sound.act (act : Act lax s t effects) (sound : Sound past s) : Sound (past ++ effects) t :=
  ⟨sound.placed.act act, Written.act act sound.placed sound.written,
    sound.accounted.act act sound.placed, sound.settled.act act sound.placed⟩

theorem sound_initial (options : TcpTransportOptions) : Sound [] (initial options) where
  placed := by constructor <;> simp [initial, TcpDrain.inflight]
  written := by simp [initial, Heap.All]
  accounted := by constructor <;> simp [initial]
  settled := Heap.logged_nil

theorem sound_run (options : TcpTransportOptions) (events : List TcpEvent) :
    Sound (Machine.shown step (initial options) events)
    (Machine.final step (initial options) events) := by
  have always : Machine.Always step (fun _ _ => True) (initial options) events :=
    Machine.always_of_forall (fun _ _ => trivial) events
  refine always.history (P := Sound) (fun past s event _ sound => ?_) (sound_initial options)
  exact (acts_step s event).history (fun _ _ _ _ act sound => Sound.act act sound) sound

theorem ordered_run (options : TcpTransportOptions) (events : List TcpEvent)
    (calm : Machine.Always step (fun s event => s.acceptsAfterFailure event = false)
      (initial options) events) :
    Ordered (Machine.final step (initial options) events) := by
  have start : Sound [] (initial options) ∧ Ordered (initial options) :=
    ⟨sound_initial options, ⟨rfl, by simp [initial]⟩, by simp [Calm, hasFailed, initial]⟩
  refine (calm.history (P := fun past s => Sound past s ∧ Ordered s)
    (fun past s event ok holds => ?_) start).2
  have acts := acts_step s event
  simp only [ok, Bool.false_eq_true] at acts
  refine acts.history (P := fun past s => Sound past s ∧ Ordered s)
    (fun _ _ _ _ act holds => ?_) holds
  exact ⟨holds.1.act act, holds.2.act act holds.1.placed holds.1.written⟩

theorem draining_run (options : TcpTransportOptions) (events : List TcpEvent) :
    Draining (Machine.final step (initial options) events) :=
  Machine.invariant (P := Draining) (fun _ event draining => draining_step draining event) events
    ⟨fun _ => rfl, nofun⟩

/-- A write of two bytes is cut short, and then fails. -/
def tornRun : List TcpEvent :=
  [.start, .send [1, 2], .puts 0 1, .writeSettles 0 .written, .drainGoesOn,
    .writeSettles 0 (.failed (plainError "reset")), .drainGoesOn, .drainGoesOn, .drainGoesOn]

end TcpTransport

end CapnpDeno
