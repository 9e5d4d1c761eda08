import CapnpDeno.Rpc.Transports.ConnectionCount

/-!
# Pending acquires

The entries of the pending list that are settled stay in it and are counted, until they are dropped
or the list is compacted.  An acquire that waits has its entry there; while it does, no connection
is idle, and every one that the pool could begin is active, or is about to come back to the pool.
-/

namespace CapnpDeno

def AcquireStage.settled : AcquireStage → Bool
  | .fulfilled _ | .rejected _ => true
  | .looking | .checking _ | .connecting _ | .abandoned _ | .closing | .queued => false

/-- The acquire that the effect settles. -/
def PoolEffect.settles : PoolEffect → Option AcquireId
  | .fulfilled i _ | .rejected i _ => some i
  | .failed _ | .connectionClosed _ | .closed => none

namespace RpcConnectionPool

variable {s s' taken : RpcConnectionPool} {i j : AcquireId} {conn : ConnId} {call : PoolAcquire}
  {hand : Option ConnId} {owed : Bool} {late stray : Prop} {m m' : Midway}
  {effects past : List PoolEffect}

/-! ## The pending list -/

/-- The acquire waits. -/
def waits (acquires : List PoolAcquire) (i : AcquireId) : Bool :=
  acquires[i]?.any (·.stage = .queued)

section Pending

variable {pending dropped rest : List AcquireId} {count left : ℤ} {acquires : List PoolAcquire}

/-- The entries of the list, the acquires that wait, and the count of the settled entries. -/
structure PendingOk (pending : List AcquireId) (count : ℤ) (acquires : List PoolAcquire) :
    Prop where
  nodup : pending.Nodup
  entries : ∀ i ∈ pending, ∃ call, acquires[i]? = some call ∧
    (call.stage = .queued ∨ ∃ error, call.stage = .rejected error)
  queued : ∀ i, waits acquires i = true → i ∈ pending
  settled : count = pending.countP fun i => !waits acquires i

theorem waits_iff : waits acquires i = true ↔ ∃ call, acquires[i]? = some call ∧
    call.stage = .queued := by
  unfold waits
  cases acquires[i]? <;> simp

theorem waits_other {f : PoolAcquire → PoolAcquire} (apart : j ≠ i) :
    waits (acquires.modify i f) j = waits acquires j := by
  unfold waits
  rw [Heap.modify_other apart]

/-- An acquire that is under way, or has a connection checked, has no entry. -/
theorem PendingOk.absent (holds : PendingOk pending count acquires)
    (found : acquires[i]? = some call) (queued : call.stage ≠ .queued)
    (rejected : ∀ error, call.stage ≠ .rejected error) : i ∉ pending := by
  intro mem
  obtain ⟨other, there, stands | ⟨error, stands⟩⟩ := holds.entries i mem
  · cases found.symm.trans there
    exact queued stands
  · cases found.symm.trans there
    exact rejected error stands

/-- An acquire without an entry goes on, and does not wait. -/
theorem PendingOk.modify (holds : PendingOk pending count acquires)
    (found : acquires[i]? = some call) (absent : i ∉ pending) (f : PoolAcquire → PoolAcquire)
    (stage : (f call).stage ≠ .queued) :
    PendingOk pending count (acquires.modify i f) := by
  have apart : ∀ j ∈ pending, j ≠ i := fun j mem same => absent (same ▸ mem)
  refine ⟨holds.nodup, fun j mem => ?_, fun j waiting => ?_, ?_⟩
  · rw [Heap.modify_other (apart j mem)]
    exact holds.entries j mem
  · by_cases same : j = i
    · subst same
      obtain ⟨after, there, queued⟩ := waits_iff.1 waiting
      cases (Heap.modify_self found).symm.trans there
      exact absurd queued stage
    · rw [waits_other same] at waiting
      exact holds.queued j waiting
  · rw [holds.settled]
    refine congrArg _ (List.countP_congr fun j mem => ?_)
    rw [waits_other (apart j mem)]

theorem waits_mark (i : AcquireId) (f : PoolAcquire → PoolAcquire)
    (same : ∀ call, (f call).stage = call.stage) (j : AcquireId) :
    waits (acquires.modify i f) j = waits acquires j := by
  by_cases here : j = i
  · subst here
    unfold waits
    rw [List.getElem?_modify_eq]
    cases acquires[j]? <;> simp [same]
  · exact waits_other here

/-- A change that leaves the stages. -/
theorem PendingOk.mark (holds : PendingOk pending count acquires) (i : AcquireId)
    (f : PoolAcquire → PoolAcquire) (same : ∀ call, (f call).stage = call.stage) :
    PendingOk pending count (acquires.modify i f) := by
  refine ⟨holds.nodup, fun j mem => ?_, fun j waits => ?_, ?_⟩
  · obtain ⟨call, there, stands⟩ := holds.entries j mem
    by_cases here : j = i
    · subst here
      exact ⟨f call, Heap.modify_self there, by rw [same]; exact stands⟩
    · exact ⟨call, by rw [Heap.modify_other here]; exact there, stands⟩
  · rw [waits_mark i f same] at waits
    exact holds.queued j waits
  · simp only [waits_mark i f same]
    exact holds.settled

theorem waits_arrive (stage : call.stage ≠ .queued) (j : AcquireId) :
    waits (acquires ++ [call]) j = waits acquires j := by
  rw [Bool.eq_iff_iff, waits_iff, waits_iff]
  constructor
  · rintro ⟨other, there, queued⟩
    obtain old | ⟨-, rfl⟩ := Heap.of_append there
    · exact ⟨other, old, queued⟩
    · exact absurd queued stage
  · rintro ⟨other, there, queued⟩
    exact ⟨other, Heap.append_old there, queued⟩

theorem PendingOk.arrive (holds : PendingOk pending count acquires) (stage : call.stage ≠ .queued) :
    PendingOk pending count (acquires ++ [call]) := by
  refine ⟨holds.nodup, fun j mem => ?_, fun j waits => ?_, ?_⟩
  · obtain ⟨other, there, stands⟩ := holds.entries j mem
    exact ⟨other, Heap.append_old there, stands⟩
  · rw [waits_arrive stage] at waits
    exact holds.queued j waits
  · simp only [waits_arrive stage]
    exact holds.settled

theorem PendingOk.enqueue (holds : PendingOk pending count acquires)
    (found : acquires[i]? = some call) (absent : i ∉ pending) :
    PendingOk (pending ++ [i]) count (acquires.modify i fun call =>
      { call with stage := .queued }) := by
  have apart : ∀ j ∈ pending, j ≠ i := fun j mem same => absent (same ▸ mem)
  have own : waits (acquires.modify i fun call => { call with stage := .queued }) i = true :=
    waits_iff.2 ⟨_, Heap.modify_self found, rfl⟩
  refine ⟨?_, fun j mem => ?_, fun j waiting => ?_, ?_⟩
  · exact List.nodup_append.2 ⟨holds.nodup, List.nodup_singleton i, fun j mem k mem' same => by
      rw [List.mem_singleton] at mem'
      exact apart j mem (same.trans mem')⟩
  · rcases List.mem_append.1 mem with old | new
    · rw [Heap.modify_other (apart j old)]
      exact holds.entries j old
    · rw [List.mem_singleton] at new
      subst new
      exact ⟨_, Heap.modify_self found, .inl rfl⟩
  · by_cases same : j = i
    · exact List.mem_append_right _ (List.mem_singleton.2 same)
    · rw [waits_other same] at waiting
      exact List.mem_append_left _ (holds.queued j waiting)
  · rw [List.countP_append, holds.settled]
    have last :
        List.countP (fun j => !waits (acquires.modify i fun call => { call with stage := .queued })
          j) [i] = 0 := by
      simp [own]
    rw [last, Nat.add_zero]
    refine congrArg _ (List.countP_congr fun j mem => ?_)
    rw [waits_other (apart j mem)]

/-- An acquire that waits is rejected, and its entry stays. -/
theorem PendingOk.reject (holds : PendingOk pending count acquires)
    (found : acquires[i]? = some call) (queued : call.stage = .queued) (error : Thrown) :
    i ∈ pending ∧
      PendingOk pending (count + 1)
      (acquires.modify i fun call => { call with stage := .rejected error }) := by
  have waiting : waits acquires i = true := waits_iff.2 ⟨call, found, queued⟩
  have mem : i ∈ pending := holds.queued i waiting
  have gone : waits (acquires.modify i fun call => { call with stage := .rejected error }) i =
      false := by
    unfold waits
    rw [Heap.modify_self found]
    simp
  refine ⟨mem, holds.nodup, fun j inside => ?_, fun j waits => ?_, ?_⟩
  · by_cases same : j = i
    · subst same
      exact ⟨_, Heap.modify_self found, .inr ⟨error, rfl⟩⟩
    · rw [Heap.modify_other same]
      exact holds.entries j inside
  · by_cases same : j = i
    · rwa [same]
    · rw [waits_other same] at waits
      exact holds.queued j waits
  · obtain ⟨before, after, rfl⟩ := List.append_of_mem mem
    have nodup := holds.nodup
    rw [List.nodup_append, List.nodup_cons] at nodup
    obtain ⟨-, ⟨outside, -⟩, apart⟩ := nodup
    have first : ∀ j ∈ before, j ≠ i := fun j inside => apart j inside i List.mem_cons_self
    have last : ∀ j ∈ after, j ≠ i := fun j inside same => outside (same ▸ inside)
    have before' : before.countP (fun j =>
        !waits (acquires.modify i fun call => { call with stage := .rejected error }) j) =
        before.countP fun j => !waits acquires j :=
      List.countP_congr fun j inside => by rw [waits_other (first j inside)]
    have after' : after.countP (fun j =>
        !waits (acquires.modify i fun call => { call with stage := .rejected error }) j) =
        after.countP fun j => !waits acquires j :=
      List.countP_congr fun j inside => by rw [waits_other (last j inside)]
    rw [holds.settled, List.countP_append, List.countP_append, List.countP_cons, List.countP_cons,
      before', after', gone, waiting]
    push_cast
    simp [add_assoc]

/-- The settled entries are dropped. -/
theorem PendingOk.compact (holds : PendingOk pending count acquires) :
    PendingOk (pending.filter fun i => waits acquires i) 0 acquires := by
  refine ⟨holds.nodup.filter _, fun j mem => holds.entries j (List.mem_filter.1 mem).1,
    fun j waiting => ?_, ?_⟩
  · exact List.mem_filter.2 ⟨holds.queued j waiting, waiting⟩
  · have none : (pending.filter fun i => waits acquires i).countP (fun i => !waits acquires i) =
        0 := by
      rw [List.countP_eq_zero]
      intro j mem
      simp [(List.mem_filter.1 mem).2]
    rw [none]
    rfl

/-- The settled entries at the head are dropped, and the next acquire no longer waits. -/
theorem PendingOk.take (holds : PendingOk (dropped ++ i :: rest) count acquires)
    (settled : ∀ j ∈ dropped, waits acquires j = false) (found : acquires[i]? = some call)
    (queued : call.stage = .queued) (f : PoolAcquire → PoolAcquire)
    (stage : (f call).stage ≠ .queued) :
    PendingOk rest (count - dropped.length) (acquires.modify i f) := by
  have waiting : waits acquires i = true := waits_iff.2 ⟨call, found, queued⟩
  have nodup := holds.nodup
  rw [List.nodup_append, List.nodup_cons] at nodup
  obtain ⟨-, ⟨outside, rest_nodup⟩, -⟩ := nodup
  have apart : ∀ j ∈ rest, j ≠ i := fun j inside same => outside (same ▸ inside)
  refine ⟨rest_nodup, fun j mem => ?_, fun j waits => ?_, ?_⟩
  · rw [Heap.modify_other (apart j mem)]
    exact holds.entries j (List.mem_append_right _ (List.mem_cons_of_mem i mem))
  · have other : j ≠ i := by
      rintro rfl
      obtain ⟨after, there, still⟩ := waits_iff.1 waits
      cases (Heap.modify_self found).symm.trans there
      exact stage still
    rw [waits_other other] at waits
    rcases List.mem_append.1 (holds.queued j waits) with before | after
    · rw [settled j before] at waits
      cases waits
    · exact (List.mem_cons.1 after).resolve_left other
  · have all : dropped.countP (fun j => !waits acquires j) = dropped.length :=
      List.countP_eq_length.2 fun j mem => by rw [settled j mem]; rfl
    have same : rest.countP (fun j => !waits (acquires.modify i f) j) = rest.countP fun j =>
        !waits acquires j :=
      List.countP_congr fun j inside => by rw [waits_other (apart j inside)]
    rw [holds.settled, same, List.countP_append, List.countP_cons, all, waiting]
    push_cast
    simp

end Pending

theorem hasSettled_eq (s : RpcConnectionPool) (i : AcquireId) :
    s.hasSettled i = !waits s.acquires i := rfl

theorem dropSettled_split {settled : AcquireId → Bool} {pending rest : List AcquireId}
    {count left : ℤ} (done : dropSettled settled pending count = (rest, left)) :
    ∃ dropped, pending = dropped ++ rest ∧ (∀ i ∈ dropped, settled i = true) ∧
    left = count - dropped.length := by
  induction pending generalizing count with
  | nil =>
    cases done
    exact ⟨[], rfl, nofun, by simp⟩
  | cons first pending ih =>
    unfold dropSettled at done
    split_ifs at done with dead
    · obtain ⟨dropped, rfl, all, rfl⟩ := ih done
      refine ⟨first :: dropped, rfl, List.forall_mem_cons.2 ⟨dead, all⟩, ?_⟩
      rw [List.length_cons]
      push_cast
      omega
    · cases done
      exact ⟨[], rfl, nofun, by simp⟩

/-- The next acquire is taken, and goes on. -/
theorem takeNext_pending (holds : PendingOk s.pending s.pendingSettled s.acquires)
    (took : s.takeNextPendingAcquire = (taken, some i)) {stage : AcquireStage}
    (gone : stage ≠ .queued) :
    PendingOk taken.pending taken.pendingSettled (taken.goTo i stage).acquires := by
  obtain ⟨call, found, queued⟩ := takeNext_queued took
  unfold takeNextPendingAcquire at took
  split at took
  · cases took
  · next next rest count done =>
    cases took
    obtain ⟨dropped, same, settled, rfl⟩ := dropSettled_split done
    rw [same] at holds
    have after :=
      holds.take (fun j mem => by simpa [hasSettled_eq] using settled j mem) found queued
      (fun call => { call with stage := stage }) gone
    unfold compactPending
    split_ifs
    · exact after
    · have apart : ∀ j ∈ rest, j ≠ i := by
        have nodup := holds.nodup
        rw [List.nodup_append, List.nodup_cons] at nodup
        exact fun j inside same => nodup.2.1.1 (same ▸ inside)
      have filtered : (rest.filter fun j => !hasSettled { s with
            pending := rest, pendingSettled := s.pendingSettled - dropped.length } j) =
          rest.filter fun j => waits (s.acquires.modify i fun call =>
            { call with stage := stage }) j := by
        refine List.filter_congr fun j mem => ?_
        rw [waits_other (apart j mem), hasSettled_eq, Bool.not_not]
      dsimp only
      rw [filtered]
      exact after.compact

/-- No acquire waits. -/
theorem takeNext_exhausted (holds : PendingOk s.pending s.pendingSettled s.acquires)
    (took : s.takeNextPendingAcquire = (taken, none)) :
    PendingOk taken.pending taken.pendingSettled taken.acquires ∧ ∀ i, waits taken.acquires i =
      false := by
  unfold takeNextPendingAcquire at took
  split at took
  · next count done =>
    cases took
    obtain ⟨dropped, same, settled, rfl⟩ := dropSettled_split done
    rw [List.append_nil] at same
    subst same
    have none (i : AcquireId) : waits s.acquires i = false := by
      by_contra waiting
      have waiting := Bool.eq_true_of_not_eq_false waiting
      have dead := settled i (holds.queued i waiting)
      rw [hasSettled_eq, waiting] at dead
      cases dead
    refine ⟨⟨List.nodup_nil, nofun, fun i waiting => ?_, ?_⟩, none⟩
    · rw [none i] at waiting
      cases waiting
    · have all : s.pending.countP (fun i => !waits s.acquires i) = s.pending.length :=
        List.countP_eq_length.2 fun i _ => by rw [none i]; rfl
      rw [holds.settled, all]
      simp
  · cases took

theorem rejectPending_pending (holds : PendingOk s.pending s.pendingSettled s.acquires)
    (found : s.acquires[i]? = some call) (queued : call.stage = .queued) (error : Thrown) :
    PendingOk (s.rejectPendingAcquire i error).1.pending
      (s.rejectPendingAcquire i error).1.pendingSettled
      (s.rejectPendingAcquire i error).1.acquires := by
  obtain ⟨mem, after⟩ := holds.reject found queued error
  unfold rejectPendingAcquire
  rw [if_neg (by rw [hasSettled_eq_false.2 ⟨call, found, queued⟩]; exact Bool.false_ne_true)]
  have inside : i ∈ (s.reject i error).1.pending := mem
  dsimp only
  rw [if_pos inside]
  unfold compactPending
  split_ifs
  · exact after
  · simp only [hasSettled_eq, Bool.not_not]
    exact after.compact

/-! ## The attempts that the pool counts -/

theorem countP_setAttempt {s : RpcConnectionPool} {attempt : ConnectAttempt}
    (p : ConnectAttempt → Bool) (found : s.attempts[conn]? = some attempt)
    (f : ConnectAttempt → ConnectAttempt) :
    ((s.setAttempt conn f).attempts.countP p : ℤ) =
      s.attempts.countP p + ((if p (f attempt) then 1 else 0) - if p attempt then 1 else 0) := by
  rw [← Heap.sum_countP, ← Heap.sum_countP]
  exact Heap.sum_modify (fun attempt => if p attempt then 1 else 0) found

theorem countP_setAttempt_same (p : ConnectAttempt → Bool) (conn : ConnId)
    (f : ConnectAttempt → ConnectAttempt) (same : ∀ attempt, p (f attempt) = p attempt) :
    (s.setAttempt conn f).attempts.countP p = s.attempts.countP p := by
  cases found : s.attempts[conn]? with
  | none =>
    have unchanged : (s.setAttempt conn f).attempts = s.attempts :=
      List.modify_eq_self (List.getElem?_eq_none_iff.1 found)
    rw [unchanged]
  | some attempt =>
    have counted := countP_setAttempt p found f
    rw [same] at counted
    omega

/-- The pool counts the attempts that are under way. -/
def Counts (s : RpcConnectionPool) : Prop :=
  s.connecting = s.attempts.countP (·.stage = .connecting)

/-- The stage of an attempt changes, and it is under way neither before nor after. -/
theorem Counts.setAttempt (counts : s.Counts) {attempt : ConnectAttempt} {stage : AttemptStage}
    (found : s.attempts[conn]? = some attempt) (before : attempt.stage ≠ .connecting)
    (after : stage ≠ .connecting) :
    (s.setAttempt conn fun attempt => { attempt with stage := stage }).Counts := by
  have counted := countP_setAttempt (fun attempt => attempt.stage = .connecting) found
    fun attempt => { attempt with stage := stage }
  simp only [before, after, decide_false, Bool.false_eq_true, if_false] at counted
  unfold Counts at counts ⊢
  change s.connecting = _
  omega

/-- An attempt is settled. -/
theorem Counts.connects (counts : s.Counts) {attempt : ConnectAttempt} {failure : Option Thrown}
    (found : s.attempts[conn]? = some attempt) (stands : attempt.stage = .connecting) :
    Counts { s.setAttempt conn fun attempt => { attempt with stage := .settled failure } with
      connecting := s.connecting - 1 } := by
  have counted := countP_setAttempt (fun attempt => attempt.stage = .connecting) found
    fun attempt => { attempt with stage := .settled failure }
  simp only [stands, decide_true, if_true, reduceCtorEq, decide_false, Bool.false_eq_true,
    if_false] at counted
  unfold Counts at counts ⊢
  change s.connecting - 1 = (s.setAttempt conn fun attempt =>
    { attempt with stage := .settled failure }).attempts.countP fun attempt =>
    attempt.stage = .connecting
  omega

theorem Counts.leftToPool (counts : s.Counts) (conn : ConnId) :
    (s.setAttempt conn fun attempt => { attempt with owner := .late }).Counts := by
  have same := countP_setAttempt_same (s := s) (fun attempt => attempt.stage = .connecting) conn
    (fun attempt => { attempt with owner := .late }) fun _ => rfl
  exact counts.trans same.symm

theorem Counts.begin (counts : s.Counts) {begun : RpcConnectionPool} {owner : AttemptOwner}
    (begins : s.beginConnectAttempt owner = some begun) : begun.Counts := by
  unfold beginConnectAttempt at begins
  split_ifs at begins
  cases begins
  unfold Counts at counts ⊢
  rw [List.countP_append, ← counts]
  rfl

/-! ## Freed capacity -/

def untaken (attempt : ConnectAttempt) : Bool := attempt.stage ≠ .taken

/-- In the middle of a step of an open pool: an acquire that waits finds no idle connection, and
every place is taken by an active connection, one that an attempt is to deliver, or the one at hand,
unless the drain is due. -/
structure Waiting (m : Midway) : Prop where
  pending : PendingOk m.pool.pending m.pool.pendingSettled m.pool.acquires
  connecting : m.pool.connecting = m.pool.attempts.countP (·.stage = .connecting)
  owners : ∀ attempt ∈ m.pool.attempts, attempt.owner ≠ .closing
  idle : ∀ i, waits m.pool.acquires i = true → m.pool.idle = []
  full : ∀ i, waits m.pool.acquires i = true → m.owed = false → m.pool.drain = .off →
    m.pool.options.maxConnections ≤
      m.pool.active.length + m.pool.attempts.countP untaken + if m.hand.isSome then 1 else 0

theorem waits_modify {acquires : List PoolAcquire} {f : PoolAcquire → PoolAcquire}
    (found : acquires[i]? = some call) (stage : (f call).stage ≠ .queued)
    (waiting : waits (acquires.modify i f) j = true) : waits acquires j = true := by
  by_cases same : j = i
  · subst same
    obtain ⟨after, there, queued⟩ := waits_iff.1 waiting
    cases (Heap.modify_self found).symm.trans there
    exact absurd queued stage
  · rwa [waits_other same] at waiting

/-- An acquire that does not wait goes on, and does not wait. -/
theorem Waiting.goTo (holds : Waiting ⟨s, hand, owed⟩) (found : s.acquires[i]? = some call)
    (absent : i ∉ s.pending) {stage : AcquireStage} (gone : stage ≠ .queued) :
    Waiting ⟨s.goTo i stage, hand, owed⟩ := by
  refine ⟨holds.pending.modify found absent _ gone, holds.connecting, holds.owners,
    fun j waiting => ?_, fun j waiting => ?_⟩
  · exact holds.idle j (waits_modify found gone waiting)
  · exact holds.full j (waits_modify found gone waiting)

theorem Waiting.absent (holds : Waiting ⟨s, hand, owed⟩)
    (free : Free s.attempts s.acquires i call) :
    i ∉ s.pending := by
  have running := free.running
  refine holds.pending.absent free.found ?_ ?_
  · intro stands
    rw [stands] at running
    cases running
  · intro error stands
    rw [stands] at running
    cases running

theorem Waiting.checked (holds : Waiting ⟨s, hand, owed⟩) (found : s.acquires[i]? = some call)
    (stands : call.stage = .checking conn) : i ∉ s.pending := by
  refine holds.pending.absent found ?_ ?_ <;> rw [stands] <;> simp

/-- The connection at hand becomes active. -/
theorem Waiting.use (holds : Waiting ⟨s, some conn, owed⟩) :
    Waiting ⟨{ s with active := s.active ++ [conn] }, none, owed⟩ := by
  refine ⟨holds.pending, holds.connecting, holds.owners, holds.idle, fun j waiting due off => ?_⟩
  have full := holds.full j waiting due off
  simp only [List.length_append, List.length_singleton, Option.isSome_some, Option.isSome_none,
    if_true] at full ⊢
  omega

/-- The list of the pending acquires changes, and no acquire begins to wait. -/
theorem Waiting.relist (holds : Waiting ⟨s, hand, owed⟩) {pending : List AcquireId} {count : ℤ}
    {acquires : List PoolAcquire} (after : PendingOk pending count acquires)
    (fewer : ∀ j, waits acquires j = true → waits s.acquires j = true) :
    Waiting ⟨{ s with pending := pending, pendingSettled := count, acquires := acquires },
      hand, owed⟩ :=
  ⟨after, holds.connecting, holds.owners, fun j waiting => holds.idle j (fewer j waiting),
    fun j waiting => holds.full j (fewer j waiting)⟩

theorem takeNext_relist {next : Option AcquireId}
    (took : s.takeNextPendingAcquire = (taken, next)) :
    taken = { s with pending := taken.pending, pendingSettled := taken.pendingSettled } := by
  obtain ⟨pending, count, same⟩ := takeNext_only s
  rw [took] at same
  dsimp only at same
  rw [same]

/-- The next acquire is taken, and goes on. -/
theorem Waiting.take (holds : Waiting ⟨s, hand, owed⟩)
    (took : s.takeNextPendingAcquire = (taken, some i)) {stage : AcquireStage}
    (gone : stage ≠ .queued) : Waiting ⟨taken.goTo i stage, hand, owed⟩ := by
  obtain ⟨call, found, queued⟩ := takeNext_queued took
  have after := takeNext_pending holds.pending took gone
  have relist := takeNext_relist took
  rw [relist] at after ⊢
  exact holds.relist after fun j waiting => waits_modify found gone waiting

theorem owners_setAttempt {attempts : List ConnectAttempt}
    (owners : ∀ attempt ∈ attempts, attempt.owner ≠ .closing) (f : ConnectAttempt → ConnectAttempt)
    (kept : ∀ attempt : ConnectAttempt, attempt.owner ≠ .closing → (f attempt).owner ≠ .closing) :
    ∀ attempt ∈ attempts.modify conn f, attempt.owner ≠ .closing := by
  intro attempt mem
  obtain ⟨place, found⟩ := List.mem_iff_getElem?.1 mem
  obtain ⟨-, before, there, rfl⟩ | ⟨-, there⟩ := Heap.of_modify found
  · exact kept before (owners before (List.mem_of_getElem? there))
  · exact owners attempt (List.mem_of_getElem? there)

/-- An attempt goes on that is not connecting, and is connecting no more. -/
theorem Waiting.attempt (holds : Waiting ⟨s, hand, owed⟩) {attempt : ConnectAttempt}
    {stage : AttemptStage} (found : s.attempts[conn]? = some attempt)
    (before : attempt.stage ≠ .connecting) (after : stage ≠ .connecting) {hand' : Option ConnId}
    {owed' : Bool} (owed : owed' = false → owed = false)
    (balance : owed' = false → (if attempt.stage = .taken then 0 else 1) + (if hand.isSome then 1
      else 0) ≤ (if stage = .taken then 0 else 1) + if hand'.isSome then 1 else 0) :
    Waiting ⟨s.setAttempt conn fun attempt => { attempt with stage := stage }, hand', owed'⟩ := by
  have counts : s.Counts := holds.connecting
  refine ⟨holds.pending, counts.setAttempt found before after,
    owners_setAttempt holds.owners _ fun _ => id, holds.idle, fun j waiting due off => ?_⟩
  have counted := countP_setAttempt untaken found fun attempt => { attempt with stage := stage }
  have full := holds.full j waiting (owed due) off
  have moves := balance due
  unfold untaken at counted full ⊢
  simp only [ne_eq, decide_not, Bool.not_eq_true', decide_eq_false_iff_not, ite_not]
    at counted full moves ⊢
  change s.options.maxConnections ≤ s.active.length +
    (s.setAttempt conn fun attempt => { attempt with stage := stage }).attempts.countP
      (fun attempt => !decide (attempt.stage = .taken)) + _
  rcases eq_or_ne stage .taken with rfl | is <;> by_cases was : attempt.stage = .taken
  · rw [if_pos was, if_pos rfl] at counted moves
    omega
  · rw [if_neg was, if_pos rfl] at counted moves
    omega
  · rw [if_pos was, if_neg is] at counted moves
    omega
  · rw [if_neg was, if_neg is] at counted moves
    omega

theorem Waiting.connecting_le (holds : Waiting ⟨s, hand, owed⟩) :
    s.connecting ≤ s.attempts.countP untaken := by
  have same := holds.connecting
  dsimp only at same
  rw [same]
  refine List.countP_mono_left fun attempt mem connects => ?_
  unfold untaken
  rw [decide_eq_true_iff] at connects ⊢
  rw [connects]
  exact nofun

/-- An attempt is begun. -/
theorem Waiting.begin (holds : Waiting ⟨s, hand, owed⟩) (owner : AttemptOwner)
    (open' : owner ≠ .closing) :
    Waiting ⟨{ s with connecting := s.connecting + 1, attempts :=
      s.attempts ++ [⟨owner, .connecting⟩] }, hand,
      owed⟩ := by
  refine ⟨holds.pending, ?_, fun attempt mem => ?_, holds.idle, fun j waiting due off => ?_⟩
  · dsimp only
    rw [List.countP_append, holds.connecting]
    rfl
  · rcases List.mem_append.1 mem with old | new
    · exact holds.owners attempt old
    · rw [List.mem_singleton.1 new]
      exact open'
  · have full := holds.full j waiting due off
    dsimp only at full ⊢
    rw [List.countP_append]
    omega

/-- No acquire waits. -/
theorem Waiting.exhausted (holds : Waiting ⟨s, hand, owed⟩) (exhausted : s.pending = [])
    (i : AcquireId) :
    waits s.acquires i ≠ true := by
  intro waiting
  have mem := holds.pending.queued i waiting
  dsimp only at mem
  rw [exhausted] at mem
  cases mem

/-- While a connection is idle no acquire waits. -/
theorem Waiting.parked (holds : Waiting ⟨s, hand, owed⟩) (parked : s.idle ≠ []) (i : AcquireId) :
    waits s.acquires i ≠ true := fun waiting => parked (holds.idle i waiting)

/-- A change that leaves the stages. -/
theorem Waiting.mark (holds : Waiting ⟨s, hand, owed⟩) (i : AcquireId)
    (f : PoolAcquire → PoolAcquire) (same : ∀ call, (f call).stage = call.stage) :
    Waiting ⟨{ s with acquires := s.acquires.modify i f }, hand, owed⟩ :=
  holds.relist (holds.pending.mark i f same) fun j waiting =>
    (waits_mark i f same j).symm.trans waiting

/-- An active connection is taken back. -/
theorem Waiting.unuse (holds : Waiting ⟨s, none, owed⟩) (used : conn ∈ s.active) :
    Waiting ⟨{ s with active := s.active.erase conn }, some conn, owed⟩ := by
  refine ⟨holds.pending, holds.connecting, holds.owners, holds.idle, fun j waiting due off => ?_⟩
  have full := holds.full j waiting due off
  have one := List.length_erase_of_mem used
  have some := List.length_pos_of_mem used
  simp only [Option.isSome_some, Option.isSome_none, Bool.false_eq_true, if_false, if_true]
    at full ⊢
  omega

/-- The idle connections change while no acquire waits. -/
theorem Waiting.vacuous (holds : Waiting ⟨s, hand, owed⟩) (none : ∀ i, waits s.acquires i ≠ true)
    (idle : List (ConnId × ℕ)) (hand' : Option ConnId) (owed' : Bool) :
    Waiting ⟨{ s with idle := idle }, hand', owed'⟩ :=
  ⟨holds.pending, holds.connecting, holds.owners, fun j waiting => absurd waiting (none j),
    fun j waiting => absurd waiting (none j)⟩

theorem rejectPending_relist (error : Thrown) : (s.rejectPendingAcquire i error).1 = { s with
    pending := (s.rejectPendingAcquire i error).1.pending
    pendingSettled := (s.rejectPendingAcquire i error).1.pendingSettled
    acquires := (s.rejectPendingAcquire i error).1.acquires } := by
  unfold rejectPendingAcquire compactPending
  dsimp only
  split_ifs <;> rfl

theorem rejectPending_acquires (found : s.acquires[i]? = some call) (queued : call.stage = .queued)
    (error : Thrown) :
    (s.rejectPendingAcquire i error).1.acquires =
      s.acquires.modify i fun call => { call with stage := .rejected error } := by
  unfold rejectPendingAcquire compactPending
  rw [if_neg (by rw [hasSettled_eq_false.2 ⟨call, found, queued⟩]; exact Bool.false_ne_true)]
  dsimp only
  split_ifs <;> rfl

theorem sweep_closed (due : (s.closed && !s.swept && s.warmupComplete) = true) :
    s.sweep.1.closed ≠ false := by
  have closed : s.closed = true := by
    simp only [Bool.and_eq_true] at due
    exact due.1.1
  unfold sweep
  rw [if_pos due]
  change s.closed ≠ false
  rw [closed]
  exact nofun

theorem waiting_act (act : Act late stray m m' effects) (serving : m'.pool.closed = false)
    (holds : Waiting m) :
    Waiting m' := by
  cases act with
  | arrive s hand owed call stands =>
    have new : call.stage ≠ .queued := by
      rw [stands]
      exact nofun
    refine ⟨holds.pending.arrive new, holds.connecting, holds.owners, fun j waiting =>
      ?_, fun j waiting => ?_⟩
    · exact holds.idle j ((waits_arrive new j).symm.trans waiting)
    · exact holds.full j ((waits_arrive new j).symm.trans waiting)
  | abandon s hand owed i call conn found stands =>
    refine holds.goTo found (holds.pending.absent found ?_ ?_) nofun <;> rw [stands] <;> simp
  | awaitClose s hand owed i call free => exact holds.goTo free.found (holds.absent free) nofun
  | takeIdle s owed conn lastUsedAt rest first =>
    exact holds.vacuous (holds.parked (by rw [first]; simp)) _ _ _
  | checkIdle s owed i call conn lastUsedAt rest first free =>
    have taken : Waiting ⟨{ s with idle := rest }, none, owed⟩ :=
      holds.vacuous (holds.parked (by rw [first]; simp)) rest none owed
    exact taken.goTo free.found (holds.absent free) nofun
  | healthy s owed i call conn found stands =>
    have looks : Waiting ⟨s.goTo i .looking, none, owed⟩ :=
      holds.goTo found (holds.checked found stands) nofun
    refine ⟨looks.pending, looks.connecting, looks.owners, looks.idle, fun j waiting due off => ?_⟩
    have full := looks.full j waiting due off
    exact full.trans (Nat.le_add_right _ 1)
  | unhealthy s owed i call conn found stands =>
    exact holds.goTo found (holds.checked found stands) nofun
  | fulfil s owed i call conn free => exact holds.use.goTo free.found (holds.absent free) nofun
  | handoff s taken owed i conn took =>
    have gone : Waiting ⟨taken.goTo i (.fulfilled conn), some conn, owed⟩ := holds.take took nofun
    exact gone.use
  | exhaust s taken hand owed took =>
    obtain ⟨after, none⟩ := takeNext_exhausted holds.pending took
    obtain ⟨pending, count, same⟩ := takeNext_only s
    rw [took] at same
    dsimp only at same
    subst same
    exact holds.relist after fun j waiting => waiting
  | park s owed conn lastUsedAt exhausted => exact holds.vacuous (holds.exhausted exhausted) _ _ _
  | closeHand s owed conn idle =>
    rcases idle with closed | exhausted
    · exact absurd (closed.symm.trans serving) Bool.noConfusion
    · exact holds.vacuous (holds.exhausted exhausted) _ _ _
  | evict s hand owed conn lastUsedAt parked =>
    exact holds.vacuous (holds.parked (List.ne_nil_of_mem parked)) _ _ _
  | parkAgain s hand owed conn lastUsedAt parked =>
    exact holds.vacuous (holds.parked (List.ne_nil_of_mem parked)) _ _ _
  | reject s hand owed i call error free => exact holds.goTo free.found (holds.absent free) nofun
  | rejectPending s hand owed i call error found stands =>
    rw [rejectPending_relist]
    refine holds.relist (rejectPending_pending holds.pending found stands error) fun j waiting => ?_
    have gone : ({ call with stage := .rejected error } : PoolAcquire).stage ≠ .queued := nofun
    rw [rejectPending_acquires found stands] at waiting
    exact waits_modify found gone waiting
  | dismiss s taken hand owed i error took => exact holds.take took nofun
  | enqueue s hand owed i call free none full =>
    have waiting := holds.pending.enqueue free.found (holds.absent free)
    refine ⟨waiting, holds.connecting, holds.owners, fun j _ => none, fun j _ due off => ?_⟩
    have counted := holds.connecting_le
    unfold canCreateConnection at full
    rw [none, decide_eq_false_iff_not] at full
    simp only [List.length_nil] at full
    change s.options.maxConnections ≤ s.active.length + s.attempts.countP untaken + _
    omega
  | begin s begun hand owed i call free begins =>
    unfold beginConnectAttempt at begins
    split_ifs at begins
    cases begins
    exact (holds.begin (.acquire i) nofun).goTo free.found (holds.absent free) nofun
  | connects s hand owed conn attempt failure found stands =>
    have counts : s.Counts := holds.connecting
    have open' : (s.setAttempt conn fun attempt =>
        { attempt with stage := .settled failure }).attempts.countP untaken =
        s.attempts.countP untaken := by
      have counted := countP_setAttempt untaken found fun attempt =>
        { attempt with stage := .settled failure }
      unfold untaken at counted ⊢
      simp only [stands] at counted
      simpa using counted
    refine ⟨holds.pending, counts.connects found stands,
      owners_setAttempt holds.owners _ fun _ => id, holds.idle, fun j waiting due off => ?_⟩
    have full := holds.full j waiting due off
    dsimp only at full ⊢
    rw [open']
    exact full
  | connected s owed conn attempt stage found stands taken =>
    refine holds.attempt found (by rw [stands]; simp) (by rcases taken with rfl | rfl <;> simp) id
      fun due => ?_
    rw [stands]
    rcases taken with rfl | rfl <;> simp
  | disposed s hand owed conn attempt stage found stands taken =>
    have before : attempt.stage ≠ .connecting ∧ attempt.stage ≠ .taken := by
      rcases stands with ⟨error, stands⟩ | stands <;> rw [stands] <;> simp
    refine holds.attempt found before.1 (by rcases taken with rfl | rfl <;> simp) (fun due => ?_)
      fun due => ?_
    · exact (Bool.or_eq_false_iff.1 due).1
    · have kept : stage ≠ .taken := of_decide_eq_false (Bool.or_eq_false_iff.1 due).2
      rw [if_neg before.2, if_neg kept]
  | leftToPool s hand owed conn =>
    have counts : s.Counts := holds.connecting
    have open' := countP_setAttempt_same (s := s) untaken conn
      (fun attempt => { attempt with owner := .late }) fun _ => rfl
    refine ⟨holds.pending, counts.leftToPool conn,
      owners_setAttempt holds.owners _ fun _ _ => nofun, holds.idle, fun j waiting due off => ?_⟩
    dsimp only
    rw [open']
    exact holds.full j waiting due off
  | closing s hand owed conn attempt failure found stands owner =>
    exact absurd owner (holds.owners attempt (List.mem_of_getElem? found))
  | drains s begun hand owed begins =>
    unfold beginConnectAttempt at begins
    split_ifs at begins
    cases begins
    have begun := holds.begin .drain nofun
    exact ⟨begun.pending, begun.connecting, begun.owners, begun.idle, fun j waiting due off =>
      nomatch off⟩
  | drained s hand owed =>
    exact ⟨holds.pending, holds.connecting, holds.owners, holds.idle, fun j waiting due off =>
      nomatch off⟩
  | undrained s hand owed =>
    exact ⟨holds.pending, holds.connecting, holds.owners, holds.idle, fun j waiting due =>
      nomatch due⟩
  | scheduled s hand owed idle =>
    refine ⟨holds.pending, holds.connecting, holds.owners, holds.idle, fun j waiting due off => ?_⟩
    have none := holds.idle j waiting
    have counted := holds.connecting_le
    have some : s.hasPendingAcquires = true := by
      have settled := holds.pending.settled
      have inside := holds.pending.queued j waiting
      have fewer : s.pending.countP (fun i => !waits s.acquires i) < s.pending.length := by
        refine lt_of_le_of_ne List.countP_le_length fun all => ?_
        have dead := List.countP_eq_length.1 all j inside
        dsimp only at waiting
        rw [waiting] at dead
        cases dead
      unfold hasPendingAcquires
      dsimp only at settled
      rw [decide_eq_true_iff]
      omega
    by_cases room : s.canCreateConnection = true
    · exact absurd ⟨off, serving, some, room⟩ idle
    · unfold canCreateConnection at room
      dsimp only at none
      rw [none, decide_eq_true_iff] at room
      simp only [List.length_nil] at room
      dsimp only
      omega
  | release s owed i call conn found stands used => exact (holds.unuse used).mark i _ fun _ => rfl
  | giveBack s hand owed i | flag s hand owed i => exact holds.mark i _ fun _ => rfl
  | advance => exact ⟨holds.pending, holds.connecting, holds.owners, holds.idle, holds.full⟩
  | close s hand owed open' =>
    unfold close at serving
    rw [open'] at serving
    cases serving
  | sweep s hand owed due => exact absurd serving (sweep_closed due)

/-! ## Settlements -/

section Once

variable {acquires : List PoolAcquire} {f : PoolAcquire → PoolAcquire}

/-- An acquire has been settled once if it is, and not at all if it is not. -/
def Once (past : List PoolEffect) (acquires : List PoolAcquire) : Prop :=
  Heap.Logged PoolEffect.settles (fun _ log call => log.length = if call.stage.settled then 1
    else 0) past acquires

/-- An acquire goes on that is not settled, and is not. -/
theorem Once.pass (once : Once past acquires) (found : acquires[i]? = some call)
    (before : call.stage.settled = false) (after : (f call).stage.settled = false) :
    Once (past ++ []) (acquires.modify i f) := by
  refine Heap.Logged.modify once found nofun fun none => ?_
  rw [before] at none
  rw [after]
  exact (congrArg List.length (List.append_nil _)).trans none

theorem Once.settle (once : Once past acquires) (found : acquires[i]? = some call)
    (before : call.stage.settled = false) (after : (f call).stage.settled = true)
    {effect : PoolEffect} (own : effect.settles = some i) :
    Once (past ++ [effect]) (acquires.modify i f) := by
  refine Heap.Logged.modify once found (fun e mem j same => ?_) fun none => ?_
  · rw [List.mem_singleton.1 mem, own] at same
    exact (Option.some.inj same).symm
  · have one : Heap.log PoolEffect.settles i [effect] = [effect] :=
      Heap.log_eq_self fun e mem => by rw [List.mem_singleton.1 mem]; exact own
    rw [before] at none
    rw [after, one, List.length_append, none]
    rfl

theorem Once.mark (once : Once past acquires) (i : AcquireId) (f : PoolAcquire → PoolAcquire)
    (same : ∀ call, (f call).stage = call.stage) : Once (past ++ []) (acquires.modify i f) := by
  cases found : acquires[i]? with
  | none =>
    rw [List.modify_eq_self (List.getElem?_eq_none_iff.1 found)]
    exact Heap.Logged.silent once nofun
  | some call =>
    refine Heap.Logged.modify once found nofun fun settled => ?_
    rw [same]
    exact (congrArg List.length (List.append_nil _)).trans settled

end Once

theorem settled_running (running : call.stage.running = true) : call.stage.settled = false := by
  cases stands : call.stage <;> rw [stands] at running <;> first | rfl | cases running

theorem once_act (act : Act late stray m m' effects) (serving : m'.pool.closed = false)
    (once : Once past m.pool.acquires) : Once (past ++ effects) m'.pool.acquires := by
  cases act with
  | arrive s hand owed call stands =>
    refine Heap.Logged.append once nofun ?_
    have new : call.stage.settled = false := settled_running (by rw [stands]; rfl)
    rw [new]
    rfl
  | abandon s hand owed i call conn found stands => exact once.pass found (by rw [stands]; rfl) rfl
  | awaitClose s hand owed i call free =>
    exact once.pass free.found (settled_running free.running) rfl
  | checkIdle s owed i call conn lastUsedAt rest first free =>
    exact once.pass free.found (settled_running free.running) rfl
  | healthy s owed i call conn found stands => exact once.pass found (by rw [stands]; rfl) rfl
  | unhealthy s owed i call conn found stands =>
    have looks : Once (past ++ []) (s.goTo i .looking).acquires :=
      once.pass found (by rw [stands]; rfl) rfl
    rw [List.append_nil] at looks
    exact Heap.Logged.silent looks (by simp [PoolEffect.settles])
  | fulfil s owed i call conn free =>
    exact once.settle free.found (settled_running free.running) rfl rfl
  | handoff s taken owed i conn took =>
    obtain ⟨call, found, queued⟩ := takeNext_queued took
    dsimp only at once
    rw [← (takeNext_some took).1] at found once
    exact once.settle found (by rw [queued]; rfl) rfl rfl
  | exhaust s taken hand owed took =>
    have same := (takeNext_lists took).2
    dsimp only at once ⊢
    rw [same]
    exact Heap.Logged.silent once nofun
  | reject s hand owed i call error free =>
    exact once.settle free.found (settled_running free.running) rfl rfl
  | rejectPending s hand owed i call error found stands =>
    dsimp only
    rw [rejectPending_acquires found stands]
    exact once.settle found (by rw [stands]; rfl) rfl rfl
  | dismiss s taken hand owed i error took =>
    obtain ⟨call, found, queued⟩ := takeNext_queued took
    dsimp only at once
    rw [← (takeNext_some took).1] at found once
    exact once.settle found (by rw [queued]; rfl) rfl rfl
  | enqueue s hand owed i call free => exact once.pass free.found (settled_running free.running) rfl
  | begin s begun hand owed i call free begins =>
    unfold beginConnectAttempt at begins
    split_ifs at begins
    cases begins
    exact once.pass free.found (settled_running free.running) rfl
  | connects s hand owed conn attempt failure =>
    refine Heap.Logged.silent once ?_
    cases failure <;> simp [PoolEffect.settles]
  | closing s hand owed conn attempt failure =>
    refine Heap.Logged.silent once ?_
    cases failure <;> simp [PoolEffect.settles]
  | closeHand => exact Heap.Logged.silent once (by simp [PoolEffect.settles])
  | evict => exact Heap.Logged.silent once (by simp [PoolEffect.settles])
  | drains s begun hand owed begins =>
    unfold beginConnectAttempt at begins
    split_ifs at begins
    cases begins
    exact Heap.Logged.silent once nofun
  | release s owed i => exact once.mark i _ fun _ => rfl
  | giveBack s hand owed i => exact once.mark i _ fun _ => rfl
  | flag s hand owed i => exact once.mark i _ fun _ => rfl
  | close s hand owed open' =>
    unfold close at serving
    rw [open'] at serving
    cases serving
  | sweep s hand owed due => exact absurd serving (sweep_closed due)
  | _ => exact Heap.Logged.silent once nofun

/-! ## Runs -/

theorem open_act (act : Act late stray m m' effects) (serving : m'.pool.closed = false) :
    m.pool.closed = false := by
  cases act with
  | handoff s taken owed i conn took => exact (takeNext_some took).2.symm.trans serving
  | exhaust s taken hand owed took => exact (takeNext_none took).2.symm.trans serving
  | dismiss s taken hand owed i error took => exact (takeNext_some took).2.symm.trans serving
  | rejectPending s hand owed i call error =>
    dsimp only at serving
    rw [rejectPending_relist] at serving
    exact serving
  | begin s begun hand owed i call free begins =>
    unfold beginConnectAttempt at begins
    split_ifs at begins
    cases begins
    exact serving
  | drains s begun hand owed begins =>
    unfold beginConnectAttempt at begins
    split_ifs at begins
    cases begins
    exact serving
  | close s hand owed free => exact free
  | sweep s hand owed due => exact absurd serving (sweep_closed due)
  | _ => exact serving

/-- At the end of a step of an open pool. -/
structure Serving (past : List PoolEffect) (s : RpcConnectionPool) : Prop where
  once : Once past s.acquires
  waiting : Waiting ⟨s, none, false⟩

theorem serving_step (event : PoolEvent) (holds : s.closed = false → Serving past s)
    (serving : (s.step event).1.closed = false) :
    Serving (past ++ (s.step event).2) (s.step event).1 := by
  obtain ⟨once, waiting⟩ : Once (past ++ (s.step event).2) (s.step event).1.acquires ∧
      Waiting ⟨(s.step event).1, none, false⟩ := by
    refine (acts_step s event).history (P := fun past m =>
      m.pool.closed = false → Once past m.pool.acquires ∧ Waiting m)
        (fun past m m' effects act holds free => ?_)
      (fun free => ⟨(holds free).once, (holds free).waiting⟩) serving
    obtain ⟨once, waiting⟩ := holds (open_act act free)
    exact ⟨once_act act free once, waiting_act act free waiting⟩
  exact ⟨once, waiting⟩

theorem serving_initial (options : RpcConnectionPoolOptions) : Serving [] (initial options) := by
  unfold initial
  apply warmUp_invariant
  · exact fun s holds => ⟨holds.once, holds.waiting.begin .warmUp nofun⟩
  · have none (i : AcquireId) : waits [] i = false := by simp [waits]
    refine ⟨Heap.logged_nil, ⟨⟨List.nodup_nil, nofun, fun i waiting => ?_, rfl⟩, rfl, nofun,
      fun i waiting => ?_,
      fun i waiting => ?_⟩⟩ <;> exact absurd ((none i).symm.trans waiting) Bool.noConfusion

/-- No connect attempt, health check or drain is outstanding. -/
structure Calm (s : RpcConnectionPool) : Prop where
  attempts : ∀ attempt ∈ s.attempts, attempt.stage = .taken
  checks : ∀ call ∈ s.acquires, call.stage.checks = false
  drain : s.drain = .off

/-- An acquire is settled at most once, the settled entries are counted, and an acquire that waits
does so for nothing but an active connection. -/
structure Woken (past : List PoolEffect) (s : RpcConnectionPool) : Prop where
  once : ∀ i, (past.filter (·.settles = some i)).length ≤ 1
  settled : s.pendingSettled = s.pending.countP s.hasSettled
  active : s.Calm → ∀ i, s.hasSettled i = false → s.active.length = s.options.maxConnections

/-- No wakeup is lost: at least as many connections as there may be are active. -/
theorem Serving.full (serving : Serving past s) (calm : s.Calm) (waiting : s.hasSettled i = false) :
    s.options.maxConnections ≤ s.active.length := by
  rw [hasSettled_eq, Bool.not_eq_false'] at waiting
  have full := serving.waiting.full i waiting rfl calm.drain
  have none : s.attempts.countP untaken = 0 := by
    rw [List.countP_eq_zero]
    intro attempt mem
    unfold untaken
    rw [calm.attempts attempt mem]
    exact Bool.false_ne_true
  dsimp only at full
  rw [none] at full
  exact full

theorem once_log {acquires : List PoolAcquire} (once : Once past acquires) (i : AcquireId) :
    (past.filter (·.settles = some i)).length ≤ 1 := by
  cases found : acquires[i]? with
  | some call =>
    have log : (Heap.log PoolEffect.settles i past).length = if call.stage.settled then 1 else 0 :=
      once.1 i call found
    change (Heap.log PoolEffect.settles i past).length ≤ 1
    rw [log]
    split_ifs <;> decide
  | none =>
    have log : Heap.log PoolEffect.settles i past = [] := by
      refine Heap.log_eq_nil fun e mem same => ?_
      have inside := once.2 e mem i same
      have outside := List.getElem?_eq_none_iff.1 found
      omega
    change (Heap.log PoolEffect.settles i past).length ≤ 1
    rw [log]
    exact Nat.zero_le 1

theorem run_serving (options : RpcConnectionPoolOptions) (events : List PoolEvent)
    (serving : (Machine.final step (initial options) events).closed = false) :
    Serving (Machine.shown step (initial options) events)
    (Machine.final step (initial options) events) := by
  have always : Machine.Always step (fun _ _ => True) (initial options) events :=
    Machine.always_of_forall (fun _ _ => trivial) events
  refine always.history (P := fun past s => s.closed = false → Serving past s)
    (fun past s event _ holds => ?_) (fun _ => serving_initial options) serving
  exact serving_step event holds

end RpcConnectionPool

end CapnpDeno
