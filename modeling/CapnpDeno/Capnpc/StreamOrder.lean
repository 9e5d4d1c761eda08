import CapnpDeno.Capnpc.ServerAdapter

/-!
# Streaming calls in order

A job that a chain has queued stands behind the job that settles the call of that chain, and a
reaction to a chain that is not settled belongs to its last call before.  So an invocation comes
after the settlement of the streaming calls that it has to wait for.
-/

namespace CapnpDeno

namespace ServiceServer

variable {α β : Type} {streams : List ℕ} {s s' : State α} {call call' : ℕ}

/-! ## Methods and stages -/

def State.method (s : State α) (call : ℕ) : Option ℕ := s.calls[call]?.map Call.method

def State.stage (s : State α) (call : ℕ) : Option (Stage α) := s.calls[call]?.map Call.stage

def Stage.Begun : Stage α → Prop
  | .waiting _ => False
  | _ => True

theorem calls_setStage (s : State α) (call call' : ℕ) (stage : Stage α) :
    (s.setStage call stage).calls[call']? =
      if call' = call then s.calls[call']?.map fun c => { c with stage } else s.calls[call']? := by
  unfold State.setStage
  rw [List.getElem?_modify]
  by_cases same : call' = call
  · subst same
    simp
  · simp [same, Ne.symm same]

@[simp] theorem method_setStage (s : State α) (call call' : ℕ) (stage : Stage α) :
    (s.setStage call stage).method call' = s.method call' := by
  unfold State.method
  rw [calls_setStage]
  split_ifs
  · rw [Option.map_map]
    rfl
  · rfl

theorem stage_setStage {old : Stage α} (known : s.stage call = some old) (stage : Stage α)
    (call' : ℕ) :
    (s.setStage call stage).stage call' = if call' = call then some stage else s.stage call' := by
  unfold State.stage at known ⊢
  rw [calls_setStage]
  split_ifs with same
  · subst same
    cases found : s.calls[call']? with
    | none => simp [found] at known
    | some c => rfl
  · rfl

theorem stage_setStage_self {old : Stage α} (known : s.stage call = some old) (stage : Stage α) :
    (s.setStage call stage).stage call = some stage := by
  rw [stage_setStage known, if_pos rfl]

theorem lt_of_method {method : ℕ} (known : s.method call = some method) :
    call < s.calls.length := by
  unfold State.method at known
  obtain ⟨c, found, -⟩ := Option.map_eq_some_iff.1 known
  exact (List.getElem?_eq_some_iff.1 found).1

theorem lt_of_stage {stage : Stage α} (known : s.stage call = some stage) :
    call < s.calls.length := by
  unfold State.stage at known
  obtain ⟨c, found, -⟩ := Option.map_eq_some_iff.1 known
  exact (List.getElem?_eq_some_iff.1 found).1

section Append

variable {c : Call α}

theorem method_append (same : s'.calls = s.calls ++ [c]) (call : ℕ) :
    s'.method call = if call = s.calls.length then some c.method else s.method call := by
  unfold State.method
  rw [same]
  split_ifs with new
  · subst new
    simp
  · obtain before | after := Nat.lt_or_gt_of_ne new
    · rw [List.getElem?_append_left before]
    · rw [List.getElem?_eq_none (by simpa using after), List.getElem?_eq_none (by omega)]

theorem stage_append (same : s'.calls = s.calls ++ [c]) (call : ℕ) :
    s'.stage call = if call = s.calls.length then some c.stage else s.stage call := by
  unfold State.stage
  rw [same]
  split_ifs with new
  · subst new
    simp
  · obtain before | after := Nat.lt_or_gt_of_ne new
    · rw [List.getElem?_append_left before]
    · rw [List.getElem?_eq_none (by simpa using after), List.getElem?_eq_none (by omega)]

end Append

/-! ## The order of the jobs -/

/-- An earlier streaming call that has to settle before the call is invoked: of its own method, if
that streams. -/
def State.Awaits (streams : List ℕ) (s : State α) (call call' : ℕ) : Prop :=
  call' < call ∧ ∃ stream ∈ streams, s.method call' = some stream ∧
    ∀ own ∈ streams, s.method call = some own → own = stream

/-- `pending` of the streaming call is settled. -/
def State.Returned (streams : List ℕ) (s : State α) (call : ℕ) : Prop :=
  (∃ stream ∈ streams, s.method call = some stream) ∧
    ((∃ outcome, s.stage call = some (.returned outcome)) ∨ s.stage call = some .settled)

/-- The job is a reaction to the chain of the method. -/
def Job.OnChain (s : State α) : Job → ℕ → Prop
  | .run call, stream => s.method call = some stream
  | .element _ method, stream => method = stream
  | _, _ => False

/-- What the order of the queue and the chains amount to. -/
structure Order (streams : List ℕ) (s : State α) : Prop where
  caught : ∀ call ∈ s.caught, s.Returned streams call
  chains : ∀ stream ∈ streams, ∀ call, s.method call = some stream → ∃ last, s.chain stream =
    some last ∧ call ≤ last
  chained : ∀ stream last, s.chain stream = some last → stream ∈ streams ∧
    s.method last = some stream
  parked : ∀ call' job, (call', job) ∈ s.reactions → call' ∉ s.caught ∧ call' < job.call ∧
    ∃ stream ∈ streams,
    job.OnChain s stream ∧ s.method call' = some stream ∧
      ∀ call, s.method call = some stream → call < job.call → call ≤ call'
  ordered : ∀ before job after, s.queue = before ++ job :: after →
    ∀ stream ∈ streams, job.OnChain s stream →
    ∀ call', s.method call' = some stream → call' < job.call →
      s.stage call' = some .settled ∨ .resumed call' ∈ before
  returned : ∀ call outcome, s.stage call = some (.returned outcome) → .resumed call ∈ s.queue
  ready : ∀ call stage, s.stage call = some stage → stage.Begun →
    ∀ call', s.Awaits streams call call' →
    s.stage call' = some .settled
  gates : ∀ call left, s.stage call = some (.waiting left) →
    (∀ stream ∈ streams, s.method call ≠ some stream) →
    ∀ call' stream, stream ∈ streams → s.method call' = some stream → call' < call →
      stream ∈ left ∨ s.stage call' = some .settled

theorem Order.initial : Order streams (State.initial : State α) where
  caught := nofun
  chains _ _ _ known := by simp [State.initial, State.method] at known
  chained := nofun
  parked := nofun
  ordered before job after same := by simp [State.initial] at same
  returned _ _ known := by simp [State.initial, State.stage] at known
  ready _ _ known := by simp [State.initial, State.stage] at known
  gates _ _ known := by simp [State.initial, State.stage] at known

theorem onChain_setStage {job : Job} {stage : Stage α} {stream : ℕ} :
    job.OnChain (s.setStage call stage) stream ↔ job.OnChain s stream := by
  cases job <;> simp [Job.OnChain]

theorem onChain_congr (same : s.calls = s'.calls) {job : Job} {stream : ℕ} :
    job.OnChain s stream ↔ job.OnChain s' stream := by
  cases job <;> simp [Job.OnChain, State.method, same]

theorem Job.OnChain.unique {job : Job} {stream stream' : ℕ} (onChain : job.OnChain s stream)
    (onChain' : job.OnChain s stream') : stream = stream' := by
  cases job with
  | run call => exact Option.some.inj (onChain.symm.trans onChain')
  | element call method => exact onChain.symm.trans onChain'
  | caught call => exact onChain.elim
  | resumed call => exact onChain.elim
  | gate call => exact onChain.elim

/-- A call comes to another stage. -/
theorem Order.setStage (order : Order streams s) {old new : Stage α}
    (known : s.stage call = some old) (settled : old = .settled → new = .settled)
    (caught : call ∈ s.caught → (∃ outcome, new = .returned outcome) ∨ new = .settled)
    (returned : ∀ outcome, new = .returned outcome → .resumed call ∈ s.queue)
    (ready : new.Begun → ∀ call', s.Awaits streams call call' → s.stage call' = some .settled)
    (gate : ∀ left, new = .waiting left → (∀ stream ∈ streams, s.method call ≠ some stream) →
      ∀ call' stream, stream ∈ streams → s.method call' = some stream → call' < call →
        stream ∈ left ∨ s.stage call' = some .settled) :
    Order streams (s.setStage call new) := by
  have keeps : ∀ call', s.stage call' = some .settled → (s.setStage call new).stage call' =
      some .settled := by
    intro call' done
    rw [stage_setStage known]
    split_ifs with same
    · subst same
      rw [settled (Option.some.inj (known.symm.trans done))]
    · exact done
  refine ⟨?_, ?_, ?_, ?_, ?_, ?_, ?_, ?_⟩
  · intro call' mem
    obtain ⟨streaming, came⟩ := order.caught call' mem
    refine ⟨by simpa using streaming, ?_⟩
    rw [stage_setStage known]
    split_ifs with same
    · subst same
      simpa using caught mem
    · exact came
  · intro stream streaming call' own
    exact order.chains stream streaming call' (by simpa using own)
  · intro stream last tail
    simpa using order.chained stream last tail
  · intro call' job mem
    obtain ⟨open', before, stream, streaming, chain, own, last⟩ := order.parked call' job mem
    exact ⟨open', before, stream, streaming,
      onChain_setStage.2 chain, by simpa using own, by simpa using last⟩
  · intro before job after same stream streaming chain call' own early
    rw [method_setStage] at own
    exact (order.ordered before job after same stream streaming (onChain_setStage.1 chain) call' own
      early).imp_left (keeps call')
  · intro call' outcome now
    rw [stage_setStage known] at now
    split_ifs at now with same
    · subst same
      exact returned outcome (Option.some.inj now)
    · exact order.returned call' outcome now
  · intro call₁ stage now begun call' awaits
    unfold State.Awaits at awaits
    simp only [method_setStage] at awaits
    rw [stage_setStage known] at now
    split_ifs at now with same
    · subst same
      cases now
      exact keeps call' (ready begun call' awaits)
    · exact keeps call' (order.ready call₁ stage now begun call' awaits)
  · intro call₁ left now other call' stream streaming own early
    simp only [method_setStage] at other own
    rw [stage_setStage known] at now
    split_ifs at now with same
    · subst same
      exact (gate left (Option.some.inj now) other call' stream streaming own early).imp_right
        (keeps call')
    · exact (order.gates call₁ left now other call' stream streaming own early).imp_right
        (keeps call')

/-- The first job is taken off the queue. -/
theorem Order.pop (order : Order streams s) {job : Job} {queue : List Job}
    (next : s.queue = job :: queue) (settled : ∀ call', job = .resumed call' →
      s.stage call' = some .settled) : Order streams { s with queue } where
  caught := order.caught
  chains := order.chains
  chained := order.chained
  parked call' job' mem := by
    obtain ⟨open', before, stream, streaming, chain, rest⟩ := order.parked call' job' mem
    exact ⟨open', before, stream, streaming, (onChain_congr rfl).1 chain, rest⟩
  ordered before job' after same stream streaming chain call' own early := by
    have within : s.queue = (job :: before) ++ job' :: after := by
      rw [next, List.cons_append, ← same]
    have chain' : job'.OnChain s stream := (onChain_congr rfl).1 chain
    obtain done | waits := order.ordered _ job' after within stream streaming chain' call' own early
    · exact .inl done
    · obtain first | waits := List.mem_cons.1 waits
      · exact .inl (settled call' first.symm)
      · exact .inr waits
  returned call' outcome now := by
    have waits := order.returned call' outcome now
    rw [next] at waits
    obtain first | waits := List.mem_cons.1 waits
    · have done := settled call' first.symm
      rw [show s.stage call' = some (.returned outcome) from now] at done
      simp at done
    · exact waits
  ready := order.ready
  gates := order.gates

/-- More jobs behind the queue. -/
theorem Order.enqueue (order : Order streams s) {jobs : List Job}
    (behind : ∀ job ∈ jobs, ∀ stream ∈ streams, job.OnChain s stream → ∀ call', s.method call' =
      some stream →
      call' < job.call → s.stage call' = some .settled ∨ .resumed call' ∈ s.queue) :
    Order streams { s with queue := s.queue ++ jobs } where
  caught := order.caught
  chains := order.chains
  chained := order.chained
  parked call' job' mem := by
    obtain ⟨open', before, stream, streaming, chain, rest⟩ := order.parked call' job' mem
    exact ⟨open', before, stream, streaming, (onChain_congr rfl).1 chain, rest⟩
  ordered before job after same stream streaming chain call' own early := by
    have chain' : job.OnChain s stream := (onChain_congr rfl).1 chain
    have new : ∀ rest, jobs = rest ++ job :: after → before = s.queue ++ rest →
        s.stage call' = some .settled ∨ .resumed call' ∈ before := by
      intro rest among split
      refine (behind job (by simp [among]) stream streaming chain' call' own early).imp_right
        fun waits => ?_
      rw [split]
      exact List.mem_append_left rest waits
    obtain ⟨rest, split, among⟩ | ⟨rest, split, among⟩ := List.append_eq_append_iff.1 same
    · exact new rest among split
    · cases rest with
      | nil => exact new [] (by simpa using among.symm) (by simpa using split.symm)
      | cons first rest =>
        cases among
        exact order.ordered before job rest split stream streaming chain' call' own early
  returned call' outcome now := List.mem_append_left jobs (order.returned call' outcome now)
  ready := order.ready
  gates := order.gates

/-- What stands before a call whose `pending` is settled. -/
theorem Order.before (order : Order streams s) {stream last : ℕ} (streaming : stream ∈ streams)
    (own : s.method last = some stream) (came : s.Returned streams last) {call : ℕ}
    (same : s.method call = some stream) (early : call ≤ last) :
    s.stage call = some .settled ∨ .resumed call ∈ s.queue := by
  obtain ⟨-, ⟨outcome, now⟩ | now⟩ := came
  · obtain rfl | earlier := Nat.eq_or_lt_of_le early
    · exact .inr (order.returned call outcome now)
    · refine .inl (order.ready last _ now trivial call ⟨earlier, stream, streaming, same,
        fun own' _ known => ?_⟩)
      exact Option.some.inj (known.symm.trans own)
  · obtain rfl | earlier := Nat.eq_or_lt_of_le early
    · exact .inl now
    · refine .inl (order.ready last _ now trivial call ⟨earlier, stream, streaming, same,
        fun own' _ known => ?_⟩)
      exact Option.some.inj (known.symm.trans own)

/-- A reaction to the chain of a method, of which the last call before that of the job is the one
given. -/
theorem Order.react (order : Order streams s) {stream : ℕ} {chain : Option ℕ} {job : Job}
    (streaming : stream ∈ streams) (onChain : job.OnChain s stream)
    (last : ∀ call', chain = some call' → call' < job.call ∧ s.method call' = some stream)
    (all : ∀ call', s.method call' = some stream → call' < job.call → ∃ last, chain = some last ∧
      call' ≤ last) :
    Order streams (s.react chain job) := by
  unfold State.react
  cases chain with
  | none =>
    refine order.enqueue ?_
    rintro job' mem stream' - onChain' call' own early
    obtain rfl := List.mem_singleton.1 mem
    obtain rfl := onChain.unique onChain'
    obtain ⟨last, none', -⟩ := all call' own early
    cases none'
  | some call =>
    obtain ⟨before, own⟩ := last call rfl
    have all : ∀ call', s.method call' = some stream → call' < job.call → call' ≤ call := by
      intro call' own' early
      obtain ⟨last, same, le⟩ := all call' own' early
      cases same
      exact le
    by_cases mem : call ∈ s.caught
    · simp only [mem, if_true]
      refine order.enqueue ?_
      rintro job' mem' stream' - onChain' call' own' early
      obtain rfl := List.mem_singleton.1 mem'
      obtain rfl := onChain.unique onChain'
      exact order.before streaming own (order.caught call mem) own' (all call' own' early)
    · simp only [mem, if_false]
      refine { order with parked := ?_, ordered := ?_ }
      · intro call' job' mem'
        obtain old | new := List.mem_append.1 mem'
        · obtain ⟨open', before, stream, streaming, chain, rest⟩ := order.parked call' job' old
          exact ⟨open', before, stream, streaming, (onChain_congr rfl).1 chain, rest⟩
        · cases List.mem_singleton.1 new
          exact ⟨mem, before, stream, streaming, (onChain_congr rfl).1 onChain, own, all⟩
      · intro before job' after same stream' streaming' chain call' own' early
        exact order.ordered before job' after same stream' streaming' ((onChain_congr rfl).1 chain)
          call' own' early

/-- The promise of a call's `pending.catch(…)` is settled. -/
theorem Order.release (order : Order streams s) (came : s.Returned streams call) :
    Order streams { s with
      caught := call :: s.caught
      queue := s.queue ++ (s.reactions.filter (·.1 = call)).map Prod.snd
      reactions := s.reactions.filter (·.1 ≠ call) } := by
  have behind : Order streams { s with
      caught := call :: s.caught, reactions := s.reactions.filter (·.1 ≠ call) } := by
    refine { order with caught := ?_, parked := ?_, ordered := ?_ }
    · intro call' mem
      obtain rfl | mem := List.mem_cons.1 mem
      · exact came
      · exact order.caught call' mem
    · intro call' job mem
      obtain ⟨mem, other⟩ := List.mem_filter.1 mem
      obtain ⟨open', before, stream, streaming, chain, rest⟩ := order.parked call' job mem
      refine ⟨?_, before, stream, streaming, (onChain_congr rfl).1 chain, rest⟩
      simpa [open'] using other
    · intro before job' after same stream' streaming' chain call' own' early
      exact order.ordered before job' after same stream' streaming' ((onChain_congr rfl).1 chain)
        call' own' early
  refine behind.enqueue ?_
  intro job mem stream streaming chain call' own early
  simp only [List.mem_map, List.mem_filter, decide_eq_true_eq] at mem
  obtain ⟨⟨call, job⟩, ⟨mem, rfl⟩, rfl⟩ := mem
  obtain ⟨-, -, stream', -, chain', own', all⟩ := order.parked call job mem
  obtain rfl := chain'.unique ((onChain_congr rfl).1 chain)
  exact order.before streaming own' came own (all call' own early)

/-- A method of the adapter is called. -/
theorem Order.append (order : Order streams s)
    (known : ∀ entry ∈ s.reactions, entry.2.call < s.calls.length)
    (queued : ∀ job ∈ s.queue, job.call < s.calls.length) (c : Call α)
    (calls : s'.calls = s.calls ++ [c]) (caught : s'.caught = s.caught)
    (reactions : s'.reactions = s.reactions) (queue : s'.queue = s.queue)
    (stage : c.stage = .waiting (if c.method ∈ streams then [] else streams)) (chain : s'.chain =
      if c.method ∈ streams then Function.update s.chain c.method (some s.calls.length)
        else s.chain) :
    Order streams s' := by
  have older : ∀ {call}, call < s.calls.length → s'.method call = s.method call ∧
      s'.stage call = s.stage call := by
    intro call lt
    rw [method_append calls, stage_append calls, if_neg (Nat.ne_of_lt lt), if_neg (Nat.ne_of_lt lt)]
    exact ⟨rfl, rfl⟩
  have method : ∀ {call own}, s'.method call = some own →
      call = s.calls.length ∧ c.method = own ∨ call < s.calls.length ∧
      s.method call = some own := by
    intro call own now
    rw [method_append calls] at now
    split_ifs at now with new
    · exact .inl ⟨new, Option.some.inj now⟩
    · exact .inr ⟨lt_of_method now, now⟩
  have chain' : ∀ {job : Job} {stream}, job.call < s.calls.length →
      (job.OnChain s' stream ↔ job.OnChain s stream) := by
    intro job stream lt
    cases job with
    | run call =>
      show s'.method call = some stream ↔ s.method call = some stream
      rw [(@older call lt).1]
    | _ => rfl
  refine ⟨?_, ?_, ?_, ?_, ?_, ?_, ?_, ?_⟩
  · intro call mem
    rw [caught] at mem
    obtain ⟨⟨stream, streaming, own⟩, came⟩ := order.caught call mem
    obtain ⟨own', stage'⟩ := older (lt_of_method own)
    exact ⟨⟨stream, streaming, own'.trans own⟩, by rwa [stage']⟩
  · intro stream streaming call own
    rw [chain]
    obtain ⟨rfl, rfl⟩ | ⟨lt, own⟩ := method own
    · exact ⟨_, by rw [if_pos streaming, Function.update_self], le_rfl⟩
    · obtain ⟨last, tail, le⟩ := order.chains stream streaming call own
      by_cases same : c.method = stream
      · subst same
        exact ⟨_, by rw [if_pos streaming, Function.update_self], lt.le⟩
      · refine ⟨last, ?_, le⟩
        split_ifs
        · rwa [Function.update_of_ne (Ne.symm same)]
        · exact tail
  · intro stream last tail
    rw [chain] at tail
    have old : s.chain stream = some last → stream ∈ streams ∧ s'.method last = some stream := by
      intro tail
      obtain ⟨streaming, own⟩ := order.chained stream last tail
      exact ⟨streaming, (older (lt_of_method own)).1.trans own⟩
    split_ifs at tail with streaming
    · by_cases same : stream = c.method
      · subst same
        rw [Function.update_self] at tail
        cases tail
        exact ⟨streaming, by rw [method_append calls, if_pos rfl]⟩
      · rw [Function.update_of_ne same] at tail
        exact old tail
    · exact old tail
  · intro call' job mem
    rw [reactions] at mem
    obtain ⟨open', before, stream, streaming, onChain, own, all⟩ := order.parked call' job mem
    have lt : job.call < s.calls.length := known _ mem
    refine ⟨by rwa [caught], before, stream, streaming, (chain' lt).2 onChain,
      (older (lt_of_method own)).1.trans own, ?_⟩
    intro call own' early
    exact all call (by rwa [(older (early.trans lt)).1] at own') early
  · intro before job after split stream streaming onChain call' own early
    rw [queue] at split
    have lt : job.call < s.calls.length := queued job (by simp [split])
    rw [(older (early.trans lt)).1] at own
    rw [(older (early.trans lt)).2]
    exact order.ordered before job after split stream streaming ((chain' lt).1 onChain) call'
      own early
  · intro call outcome now
    rw [queue]
    rw [stage_append calls] at now
    split_ifs at now
    · rw [stage] at now
      cases now
    · exact order.returned call outcome now
  · intro call stage' now begun call' ⟨early, stream, streaming, own, only⟩
    rw [stage_append calls] at now
    split_ifs at now with new
    · rw [stage] at now
      cases now
      exact begun.elim
    · have lt := lt_of_stage now
      rw [(older (early.trans lt)).1] at own
      rw [(older lt).1] at only
      rw [(older (early.trans lt)).2]
      exact order.ready call stage' now begun call' ⟨early, stream, streaming, own, only⟩
  · intro call left now other call' stream streaming own early
    rw [stage_append calls] at now
    split_ifs at now with new
    · subst new
      rw [method_append calls, if_pos rfl] at other
      have silent : c.method ∉ streams := fun mem => other _ mem rfl
      rw [stage, if_neg silent] at now
      cases now
      exact .inl streaming
    · have lt := lt_of_stage now
      rw [(older (early.trans lt)).1] at own
      rw [(older lt).1] at other
      rw [(older (early.trans lt)).2]
      exact order.gates call left now other call' stream streaming own early

end ServiceServer

end CapnpDeno
