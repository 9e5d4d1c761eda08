import CapnpDeno.Capnpc.StreamOrder

/-!
# The jobs of the adapter

The jobs, in the queue or as reactions to a chain, are those that the stages of the calls ask for,
each as often.  With the order of the queue, every action of the adapter keeps this.
-/

namespace CapnpDeno

namespace ServiceServer

variable {α β : Type} {streams : List ℕ} {s s' : State α} {call call' : ℕ}

/-! ## Jobs -/

def State.jobs (s : State α) : List Job := s.queue ++ s.reactions.map Prod.snd

/-- How many of the job there must be, `pending.catch(…)` being settled or not. -/
def Stage.due (streaming caught : Bool) (stage : Stage α) (job : Job) : ℕ :=
  match job, stage with
  | .run _, .waiting _ => if streaming then 1 else 0
  | .caught _, .returned _ => if streaming && !caught then 1 else 0
  | .caught _, .settled => if streaming && !caught then 1 else 0
  | .resumed _, .returned _ => 1
  | .element _ method, .waiting left => if streaming then 0 else left.count method
  | .gate _, .waiting [] => if streaming then 0 else 1
  | _, _ => 0

theorem Stage.due_congr {job : Job} (other : ∀ call, job ≠ .caught call) (stage : Stage α)
    (streaming caught : Bool) :
    stage.due streaming caught job = stage.due streaming false job := by
  cases job with
  | caught call => exact absurd rfl (other call)
  | _ =>
    cases stage with
    | waiting left => cases left <;> rfl
    | _ => rfl

def State.due (streams : List ℕ) (s : State α) (job : Job) : ℕ :=
  match s.calls[job.call]? with
  | none => 0
  | some c => c.stage.due (c.method ∈ streams) (job.call ∈ s.caught) job

/-- What holds between two jobs. -/
structure Inv (streams : List ℕ) (s : State α) : Prop where
  order : Order streams s
  jobs : ∀ job, s.jobs.count job = s.due streams job

@[simp] theorem jobs_react (s : State α) (chain : Option ℕ) (job job' : Job) :
    (s.react chain job).jobs.count job' = s.jobs.count job' + [job].count job' := by
  unfold State.react State.jobs
  cases chain with
  | none =>
    simp only [List.count_append]
    omega
  | some call =>
    simp only
    split_ifs
    · simp only [List.count_append]
      omega
    · simp only [List.count_append, List.map_append, List.map_cons, List.map_nil]
      omega

@[simp] theorem calls_react (s : State α) (chain : Option ℕ) (job : Job) :
    (s.react chain job).calls = s.calls := by
  unfold State.react
  split
  · rfl
  · split_ifs <;> rfl

@[simp] theorem caught_react (s : State α) (chain : Option ℕ) (job : Job) :
    (s.react chain job).caught = s.caught := by
  unfold State.react
  split
  · rfl
  · split_ifs <;> rfl

@[simp] theorem chain_react (s : State α) (chain : Option ℕ) (job : Job) :
    (s.react chain job).chain = s.chain := by
  unfold State.react
  split
  · rfl
  · split_ifs <;> rfl

theorem due_of_calls (calls : s'.calls = s.calls) (caught : s'.caught = s.caught) (job : Job) :
    s'.due streams job = s.due streams job := by
  unfold State.due
  rw [calls, caught]

theorem due_cons_caught {job : Job} (other : job ≠ .caught call) :
    State.due streams { s with caught := call :: s.caught } job = s.due streams job := by
  unfold State.due
  cases s.calls[job.call]? with
  | none => rfl
  | some c =>
    by_cases kind : ∃ call', job = .caught call'
    · obtain ⟨call', rfl⟩ := kind
      have differs : call' ≠ call := fun same => other (same ▸ rfl)
      have same : decide (call' ∈ call :: s.caught) = decide (call' ∈ s.caught) := by
        rw [decide_eq_decide, List.mem_cons, or_iff_right differs]
      show c.stage.due _ (decide (call' ∈ call :: s.caught)) _ = _
      rw [same]
      rfl
    · have kind : ∀ call', job ≠ .caught call' := fun call' same => kind ⟨call', same⟩
      exact (c.stage.due_congr kind _ _).trans (c.stage.due_congr kind _ _).symm

theorem due_setStage {c : Call α} (found : s.calls[call]? = some c) (stage : Stage α) (job : Job) :
    (s.setStage call stage).due streams job =
      if job.call = call then stage.due (c.method ∈ streams) (job.call ∈ s.caught) job
        else s.due streams job := by
  unfold State.due
  rw [calls_setStage]
  split_ifs with same
  · rw [same, found]
    rfl
  · rfl

theorem Inv.initial : Inv streams (State.initial : State α) where
  order := .initial
  jobs job := by simp [State.jobs, State.due, State.initial]

/-- A job that is there is due, and so its call has come as far. -/
theorem Inv.due_pos (inv : Inv streams s) {job : Job} (mem : job ∈ s.jobs) :
    ∃ c, s.calls[job.call]? = some c ∧ 0 < c.stage.due (c.method ∈ streams)
    (job.call ∈ s.caught) job := by
  have positive : 0 < s.due streams job := by
    rw [← inv.jobs job]
    exact List.count_pos_iff.2 mem
  unfold State.due at positive
  cases found : s.calls[job.call]? with
  | none => simp [found] at positive
  | some c => exact ⟨c, rfl, by simpa [found] using positive⟩

theorem Inv.lt_length (inv : Inv streams s) {job : Job} (mem : job ∈ s.jobs) :
    job.call < s.calls.length := by
  obtain ⟨c, found, -⟩ := inv.due_pos mem
  exact (List.getElem?_eq_some_iff.1 found).1

/-- A call comes to another stage, and jobs of it go and come. -/
theorem Inv.move (inv : Inv streams s) (gone new : List Job) (order : Order streams s') {c : Call α}
    {stage : Stage α} (found : s.calls[call]? = some c)
    (calls : s'.calls = (s.setStage call stage).calls) (caught : s'.caught = s.caught)
    (own : ∀ job ∈ gone ++ new, job.call = call)
    (jobs : ∀ job, s'.jobs.count job + gone.count job = s.jobs.count job + new.count job)
    (due : ∀ job : Job, job.call = call →
      stage.due (c.method ∈ streams) (job.call ∈ s.caught) job + gone.count job =
        c.stage.due (c.method ∈ streams) (job.call ∈ s.caught) job + new.count job) :
    Inv streams s' where
  order := order
  jobs job := by
    have now : s'.due streams job = (s.setStage call stage).due streams job :=
      due_of_calls calls caught job
    rw [now, due_setStage found]
    have moved := jobs job
    rw [inv.jobs job] at moved
    split_ifs with same
    · have before : s.due streams job = c.stage.due (c.method ∈ streams)
          (job.call ∈ s.caught) job := by
        unfold State.due
        rw [same, found]
      have kept := due job same
      omega
    · have none : ∀ jobs ⊆ gone ++ new, jobs.count job = 0 := fun jobs sub =>
        List.count_eq_zero.2 fun mem => same (own job (sub mem))
      rw [none gone (List.subset_append_left _ _), none new (List.subset_append_right _ _)] at moved
      exact moved

/-- A call comes in. -/
theorem Inv.append (inv : Inv streams s) (new : List Job) (order : Order streams s') {c : Call α}
    (calls : s'.calls = s.calls ++ [c]) (caught : s'.caught = s.caught)
    (own : ∀ job ∈ new, job.call = s.calls.length)
    (jobs : ∀ job, s'.jobs.count job = s.jobs.count job + new.count job)
    (due : ∀ job : Job, job.call = s.calls.length → c.stage.due (c.method ∈ streams) false job =
      new.count job) :
    Inv streams s' where
  order := order
  jobs job := by
    rw [jobs job, inv.jobs job]
    unfold State.due
    rw [calls, caught]
    obtain before | same | after := Nat.lt_trichotomy job.call s.calls.length
    · rw [List.getElem?_append_left before, List.count_eq_zero.2 fun mem => before.ne (own job mem),
        Nat.add_zero]
    · have fresh : job.call ∉ s.caught := by
        intro mem
        obtain ⟨⟨stream, -, known⟩, -⟩ := inv.order.caught job.call mem
        exact (lt_of_method known).ne same
      have now := due job same
      simp only [same, List.getElem?_concat_length, le_refl, List.getElem?_eq_none, Nat.zero_add]
        at fresh ⊢
      simpa [fresh] using now.symm
    · have beyond : (s.calls ++ [c])[job.call]? = none :=
        List.getElem?_eq_none (by simpa using after)
      rw [List.getElem?_eq_none after.le, beyond, List.count_eq_zero.2 fun mem =>
        after.ne' (own job mem)]

theorem jobs_pop {job : Job} {queue : List Job} (next : s.queue = job :: queue) (job' : Job) :
    ({ s with queue } : State α).jobs.count job' + [job].count job' = s.jobs.count job' := by
  unfold State.jobs
  rw [next, List.cons_append, ← List.count_append]
  exact (List.perm_append_singleton job _).count_eq job'

@[simp] theorem jobs_setStage (s : State α) (call : ℕ) (stage : Stage α) :
    (s.setStage call stage).jobs = s.jobs := rfl

/-- The turn of a call has come. -/
theorem Inv.turn (inv : Inv streams s) {job : Job} {queue : List Job}
    (next : s.queue = job :: queue) (turn : job = .run call ∨ job = .gate call) :
    ∃ method badArguments left, s.calls[call]? = some ⟨method, badArguments, .waiting left⟩ ∧
      (∀ job' : Job, job'.call = call → [job].count job' =
        (Stage.waiting left : Stage α).due (method ∈ streams) (job'.call ∈ s.caught) job') ∧
      ∀ call', s.Awaits streams call call' → s.stage call' = some .settled := by
  obtain ⟨⟨method, badArguments, stage⟩, found, positive⟩ :=
    inv.due_pos (List.mem_append_left _ (next ▸ List.mem_cons_self))
  obtain rfl | rfl := turn
  · have own : s.method call = some method := by
      simpa [State.method] using ⟨_, found, rfl⟩
    cases stage with
    | waiting left =>
      have streaming : method ∈ streams := by
        by_contra silent
        simp [Stage.due, silent] at positive
      refine ⟨method, badArguments, left, found, ?_, ?_⟩
      · intro job' same
        cases job' <;> cases left <;> simp_all [Stage.due, Job.call]
      · intro call' awaits
        obtain ⟨early, stream, streaming', own', only⟩ := awaits
        obtain rfl := only method streaming own
        have done := inv.order.ordered [] (.run call) queue next _ streaming own call' own' early
        simpa using done
    | _ => simp [Stage.due] at positive
  · have own : s.method call = some method := by
      simpa [State.method] using ⟨_, found, rfl⟩
    have now : s.stage call = some stage := by
      simpa [State.stage] using ⟨_, found, rfl⟩
    cases stage with
    | waiting left =>
      cases left with
      | nil =>
        have silent : method ∉ streams := by
          intro streaming
          simp [Stage.due, streaming] at positive
        refine ⟨method, badArguments, [], found, ?_, ?_⟩
        · intro job' same
          cases job' <;> simp_all [Stage.due, Job.call]
        · intro call' awaits
          obtain ⟨early, stream, streaming, own', -⟩ := awaits
          refine (inv.order.gates call [] now ?_ call' stream streaming own' early).resolve_left
            (by simp)
          intro stream mem same
          rw [own] at same
          exact silent (Option.some.inj same ▸ mem)
      | cons first left => simp [Stage.due] at positive
    | _ => simp [Stage.due] at positive

/-- A call whose `pending.catch(…)` is settled has come that far. -/
theorem Order.not_caught (order : Order streams s) {stage : Stage α}
    (known : s.stage call = some stage) (returned : ∀ outcome, stage ≠ .returned outcome)
    (settled : stage ≠ .settled) : call ∉ s.caught := by
  intro mem
  obtain ⟨-, ⟨outcome, now⟩ | now⟩ := order.caught call mem
  · exact returned outcome (Option.some.inj (known.symm.trans now))
  · exact settled (Option.some.inj (known.symm.trans now))

theorem stage_of_found {method : ℕ} {badArguments : Option Thrown} {stage : Stage α}
    (found : s.calls[call]? = some ⟨method, badArguments, stage⟩) : s.stage call = some stage := by
  unfold State.stage
  rw [found]
  rfl

theorem Inv.invoke (inv : Inv streams s) {job : Job} {queue : List Job}
    (next : s.queue = job :: queue) (turn : job = .run call ∨ job = .gate call) :
    Inv streams (({ s with queue } : State α).invoke call : State α × List (Event α β)).1 := by
  obtain ⟨method, badArguments, left, found, counts, awaited⟩ := inv.turn next turn
  have known := stage_of_found found
  have popped : Order streams { s with queue } := by
    refine inv.order.pop next ?_
    rintro call' rfl
    simp at turn
  have set : ∀ stage : Stage α, stage = .running ∨ (∃ outcome, stage = .finished outcome) →
      Inv streams (({ s with queue } : State α).setStage call stage) := by
    intro stage kind
    refine inv.move [job] [] ?_ found rfl rfl ?_ ?_ ?_
    · refine popped.setStage known nofun ?_ ?_ (fun _ => awaited) ?_
      · intro mem
        exact absurd mem (inv.order.not_caught known nofun nofun)
      · rintro outcome rfl
        simp at kind
      · rintro left' rfl
        simp at kind
    · obtain rfl | rfl := turn <;> simp [Job.call]
    · exact jobs_pop next
    · intro job' same
      rw [counts job' same]
      obtain rfl | ⟨outcome, rfl⟩ := kind <;> cases job' <;> simp [Stage.due]
  unfold State.invoke
  simp only [found]
  cases badArguments with
  | none => exact set .running (.inl rfl)
  | some e => exact set (.finished (.error e)) (.inr ⟨_, rfl⟩)

theorem Inv.caught (inv : Inv streams s) {queue : List Job}
    (next : s.queue = .caught call :: queue) :
    Inv streams { s with
      caught := call :: s.caught
      queue := queue ++ (s.reactions.filter (·.1 = call)).map Prod.snd
      reactions := s.reactions.filter (·.1 ≠ call) } := by
  obtain ⟨⟨method, badArguments, stage⟩, found, positive⟩ :=
    inv.due_pos (List.mem_append_left _ (next ▸ List.mem_cons_self))
  change s.calls[call]? = _ at found
  have streaming : method ∈ streams := by
    by_contra silent
    cases stage <;> simp [Stage.due, silent] at positive
  have fresh : call ∉ s.caught := by
    intro mem
    cases stage <;> simp [Stage.due, Job.call, mem] at positive
  have came : s.Returned streams call := by
    refine ⟨⟨method, streaming, by simp [State.method, found]⟩, ?_⟩
    rw [stage_of_found found]
    cases stage with
    | returned outcome => exact .inl ⟨outcome, rfl⟩
    | settled => exact .inr rfl
    | _ => simp [Stage.due] at positive
  refine ⟨(inv.order.pop next (by simp)).release came, fun job => ?_⟩
  have split :
      ((s.reactions.filter (·.1 = call)).map Prod.snd ++ (s.reactions.filter (·.1 ≠ call)).map
        Prod.snd).count
      job = (s.reactions.map Prod.snd).count job := by
    rw [← List.map_append]
    refine ((List.Perm.map Prod.snd ?_).count_eq job)
    simpa using List.filter_append_perm (fun entry => decide (entry.1 = call)) s.reactions
  have paid : State.due streams { s with caught := call :: s.caught } job +
      [Job.caught call].count job = s.due streams job := by
    by_cases this' : job = .caught call
    · subst this'
      unfold State.due
      cases stage <;> simp_all [Stage.due, Job.call]
    · rw [List.count_singleton, if_neg (by simpa using Ne.symm this'), Nat.add_zero]
      exact due_cons_caught this'
  have before := jobs_pop next job
  rw [inv.jobs job] at before
  unfold State.jobs at before ⊢
  simp only [List.count_append] at split before ⊢
  show queue.count job + _ + _ = State.due streams { s with caught := call :: s.caught } job
  omega

theorem Inv.resumed (inv : Inv streams s) {queue : List Job}
    (next : s.queue = .resumed call :: queue) {method : ℕ} {badArguments : Option Thrown}
    {outcome : Except Thrown α}
    (found : s.calls[call]? = some ⟨method, badArguments, .returned outcome⟩) :
    Inv streams (({ s with queue } : State α).setStage call .settled) := by
  have known := stage_of_found found
  refine inv.move [.resumed call] [] ?_ found rfl rfl (by simp [Job.call]) (jobs_pop next) ?_
  · have set : Order streams (s.setStage call .settled) := by
      refine inv.order.setStage known nofun (fun _ => .inr rfl) nofun ?_ nofun
      intro _ call' awaits
      exact inv.order.ready call _ known trivial call' awaits
    refine set.pop next ?_
    rintro call' ⟨⟩
    exact stage_setStage_self known _
  · intro job same
    cases job <;> simp_all [Stage.due, Job.call]

theorem Inv.element (inv : Inv streams s) {queue : List Job} {stream : ℕ}
    (next : s.queue = .element call stream :: queue) {method : ℕ} {badArguments : Option Thrown}
    {left : List ℕ} (found : s.calls[call]? = some ⟨method, badArguments, .waiting left⟩) :
    Inv streams { ({ s with queue } : State α).setStage call (.waiting (left.erase stream)) with
      queue := if left.erase stream = [] then queue ++ [.gate call] else queue } := by
  have known := stage_of_found found
  obtain ⟨c, found', positive⟩ := inv.due_pos (List.mem_append_left _ (next ▸ List.mem_cons_self))
  obtain rfl := Option.some.inj (found.symm.trans found')
  have silent : method ∉ streams := by
    intro streaming
    simp [Stage.due, streaming] at positive
  have mem : stream ∈ left := by
    by_contra absent
    simp [Stage.due, List.count_eq_zero.2 absent] at positive
  have stood : ∀ stage : Stage α, (s.setStage call stage).method call = some method := by
    intro stage
    rw [method_setStage]
    simp [State.method, found]
  have set : Order streams (s.setStage call (.waiting (left.erase stream))) := by
    refine inv.order.setStage known (by simp) ?_ (by simp) False.elim ?_
    · intro mem
      exact absurd mem (inv.order.not_caught known (by simp) (by simp))
    · rintro _ ⟨⟩ other call' stream' streaming own early
      obtain still | done := inv.order.gates call left known other call' stream' streaming own early
      · by_cases same : stream' = stream
        · subst same
          have done := inv.order.ordered [] _ queue next _ streaming rfl call' own early
          exact .inr (by simpa using done)
        · exact .inl ((List.mem_erase_of_ne same).2 still)
      · exact .inr done
  have popped := set.pop next (by simp)
  refine inv.move [.element call stream]
    (if left.erase stream = [] then [.gate call] else []) ?_ found rfl rfl ?_ ?_ ?_
  · split_ifs
    · exact popped.enqueue (by simp [Job.OnChain])
    · exact popped
  · split_ifs <;> simp [Job.call]
  · intro job
    have before := jobs_pop next job
    unfold State.jobs at before ⊢
    split_ifs
    · simp only [List.count_append] at before ⊢
      simp only [State.setStage]
      omega
    · simpa [State.setStage] using before
  · intro job same
    have none : left ≠ [] := List.ne_nil_of_mem mem
    cases job with
    | element call' method' =>
      obtain rfl : call' = call := same
      by_cases this' : stream = method'
      · subst this'
        have positive := List.count_pos_iff.2 mem
        simp [Stage.due, silent]
        split_ifs <;> simp <;> omega
      · have other : Job.element call' stream ≠ .element call' method' := by simpa using this'
        simp [Stage.due, silent, List.count_erase_of_ne (Ne.symm this'), other]
        split_ifs <;> simp
    | gate call' =>
      obtain rfl : call' = call := same
      cases left with
      | nil => exact absurd rfl none
      | cons first left =>
        cases rest : (first :: left).erase stream <;> simp [Stage.due, silent]
    | run => simp [Stage.due, silent]; split_ifs <;> simp
    | caught => simp [Stage.due]; split_ifs <;> simp
    | resumed => simp [Stage.due]; split_ifs <;> simp

theorem Inv.proceed (inv : Inv streams s) {method : ℕ} {badArguments : Option Thrown}
    {outcome : Except Thrown α}
    (found : s.calls[call]? = some ⟨method, badArguments, .finished outcome⟩) :
    Inv streams (if method ∈ streams then
      { s.setStage call (.returned outcome) with queue := s.queue ++ [.caught call, .resumed call] }
      else s.setStage call .settled) := by
  have known := stage_of_found found
  have fresh := inv.order.not_caught known (by simp) (by simp)
  split_ifs with streaming
  · refine inv.move [] [.caught call, .resumed call] ?_ found rfl rfl (by simp [Job.call]) ?_ ?_
    · have queued : Order streams { s with queue := s.queue ++ [.caught call, .resumed call] } :=
        inv.order.enqueue (by simp [Job.OnChain])
      refine queued.setStage known (by simp) (fun mem => absurd mem fresh) ?_ ?_ (by simp)
      · simp
      · intro _ call' awaits
        exact inv.order.ready call _ known trivial call' awaits
    · intro job
      unfold State.jobs State.setStage
      simp only [List.count_append, List.count_nil]
      omega
    · intro job same
      cases job <;> simp_all [Stage.due, Job.call]
  · refine inv.move [] [] ?_ found rfl rfl (by simp) (fun _ => rfl) ?_
    · refine inv.order.setStage known (by simp) (fun mem => absurd mem fresh) (by simp) ?_ (by simp)
      intro _ call' awaits
      exact inv.order.ready call _ known trivial call' awaits
    · intro job same
      cases job <;> simp [Stage.due, streaming]

theorem Inv.finish (inv : Inv streams s) {method : ℕ} {badArguments : Option Thrown}
    (found : s.calls[call]? = some ⟨method, badArguments, .running⟩) (outcome : Except Thrown α) :
    Inv streams (s.setStage call (.finished outcome)) := by
  have known := stage_of_found found
  refine inv.move [] [] ?_ found rfl rfl nofun (fun _ => rfl) ?_
  · refine inv.order.setStage known nofun ?_ nofun ?_ nofun
    · intro mem
      exact absurd mem (inv.order.not_caught known nofun nofun)
    · intro _ call' awaits
      exact inv.order.ready call _ known trivial call' awaits
  · intro job same
    cases job <;> simp [Stage.due]

/-! ## A call comes in -/

theorem react_chain (s : State α) (chain : Option ℕ) (job : Job) (tails : ℕ → Option ℕ) :
    { s.react chain job with chain := tails } =
      ({ s with chain := tails } : State α).react chain job := by
  unfold State.react
  split
  · rfl
  · dsimp only
    split_ifs <;> rfl

theorem Inv.reactions_lt (inv : Inv streams s) :
    ∀ entry ∈ s.reactions, entry.2.call < s.calls.length := fun _ mem =>
  inv.lt_length (List.mem_append_right _ (List.mem_map_of_mem mem))

theorem Inv.queue_lt (inv : Inv streams s) : ∀ job ∈ s.queue, job.call < s.calls.length :=
  fun _ mem =>
  inv.lt_length (List.mem_append_left _ mem)

theorem Inv.callStreaming (inv : Inv streams s) {method : ℕ} (streaming : method ∈ streams)
    (badArguments : Option Thrown) :
    Inv streams (s.call streams method badArguments : State α × List (Event α β)).1 := by
  have order : Order streams { s with
      calls := s.calls ++ [⟨method, badArguments, .waiting []⟩]
      chain := Function.update s.chain method (some s.calls.length) } :=
    inv.order.append inv.reactions_lt inv.queue_lt ⟨method, badArguments, .waiting []⟩ rfl
      rfl rfl rfl (by rw [if_pos streaming]) (by rw [if_pos streaming])
  unfold State.call
  simp only [if_pos streaming, react_chain, chain_react]
  refine inv.append [.run s.calls.length] (order.react streaming ?_ ?_ ?_) (calls_react _ _ _)
    (caught_react _ _ _) (by simp [Job.call]) (jobs_react _ _ _) ?_
  · show State.method _ _ = _
    rw [method_append rfl, if_pos rfl]
  · intro call' tail
    obtain ⟨-, own⟩ := inv.order.chained method call' tail
    have lt := lt_of_method own
    exact ⟨lt, by rw [method_append rfl, if_neg lt.ne]; exact own⟩
  · intro call' own early
    have early : call' < s.calls.length := early
    rw [method_append rfl, if_neg early.ne] at own
    exact inv.order.chains method streaming call' own
  · intro job same
    cases job <;> simp_all [Stage.due, Job.call]

/-- The call waits for the chains as it finds them. -/
theorem Order.reacts (order : Order streams s) {call : ℕ}
    (before : ∀ stream call', s.chain stream = some call' → call' < call) {rest : List ℕ}
    (sub : rest ⊆ streams) :
    Order streams (rest.foldl (fun s stream => s.react (s.chain stream)
      (.element call stream)) s) := by
  induction rest generalizing s with
  | nil => exact order
  | cons stream rest ih =>
    rw [List.foldl_cons]
    refine ih (order.react (sub List.mem_cons_self) rfl ?_ ?_) ?_ (List.subset_of_cons_subset sub)
    · intro call' tail
      exact ⟨before stream call' tail, (order.chained stream call' tail).2⟩
    · intro call' own _
      exact order.chains stream (sub List.mem_cons_self) call' own
    · intro stream call' tail
      rw [chain_react] at tail
      exact before stream call' tail

theorem reacts (rest : List ℕ) (s : State α) (call : ℕ) :
    let s' := rest.foldl (fun s stream => s.react (s.chain stream) (.element call stream)) s
    s'.calls = s.calls ∧ s'.caught = s.caught ∧
      ∀ job, s'.jobs.count job = s.jobs.count job + (rest.map (Job.element call)).count job := by
  induction rest generalizing s with
  | nil => exact ⟨rfl, rfl, fun _ => rfl⟩
  | cons stream rest ih =>
    obtain ⟨calls, caught, jobs⟩ := ih (s.react (s.chain stream) (.element call stream))
    refine ⟨calls.trans (calls_react _ _ _), caught.trans (caught_react _ _ _), fun job => ?_⟩
    rw [List.foldl_cons, jobs job, jobs_react, List.map_cons]
    simp only [List.count_cons, List.count_nil]
    omega

theorem due_gated {left : List ℕ} (some : left ≠ []) (caught : Bool) (job : Job) :
    (Stage.waiting left : Stage α).due false caught job =
      (left.map (.element job.call)).count job := by
  cases job with
  | element call stream =>
    exact (List.count_map_of_injective left (Job.element call)
      (fun _ _ same => (Job.element.inj same).2) stream).symm
  | gate call =>
    cases left with
    | nil => exact absurd rfl some
    | cons first left => exact (List.count_eq_zero.2 (by simp)).symm
  | _ => exact (List.count_eq_zero.2 (by simp)).symm

theorem setStage_append {c : Call α} (calls : s.calls = s'.calls ++ [c]) (stage : Stage α) :
    (s.setStage s'.calls.length stage).calls = s'.calls ++ [{ c with stage }] := by
  unfold State.setStage
  refine List.ext_getElem? fun position => ?_
  rw [calls, List.getElem?_modify, List.getElem?_append, List.getElem?_append]
  by_cases before : position < s'.calls.length
  · simp [before, before.ne']
  · by_cases same : s'.calls.length = position
    · simp [same]
    · have beyond : 1 ≤ position - s'.calls.length := by omega
      have gone : ∀ c : Call α, [c][position - s'.calls.length]? = none :=
        fun c => List.getElem?_eq_none beyond
      simp [before, same, gone]

theorem Inv.callGated (inv : Inv streams s) {method : ℕ} (silent : method ∉ streams)
    (badArguments : Option Thrown) :
    Inv streams (s.call streams method badArguments : State α × List (Event α β)).1 := by
  let s' : State α := { s with calls := s.calls ++ [⟨method, badArguments, .waiting streams⟩] }
  have order : Order streams s' :=
    inv.order.append inv.reactions_lt inv.queue_lt ⟨method, badArguments, .waiting streams⟩ rfl
      rfl rfl rfl (by rw [if_neg silent]) (by rw [if_neg silent])
  unfold State.call
  simp only [if_neg silent]
  by_cases none : streams = []
  · have set : ∀ stage : Stage α, stage = .running ∨ (∃ outcome, stage = .finished outcome) →
        Inv streams (s'.setStage s.calls.length stage) := by
      intro stage kind
      have known : s'.stage s.calls.length = some (.waiting streams) := by
        rw [stage_append rfl, if_pos rfl]
      refine inv.append [] (order.setStage known nofun ?_ ?_ ?_ ?_)
        (setStage_append rfl stage) rfl nofun (fun _ => rfl) ?_
      · intro mem
        exact absurd mem (order.not_caught known nofun nofun)
      · rintro outcome rfl
        simp at kind
      · rintro - call' ⟨-, stream, mem, -⟩
        rw [none] at mem
        simp at mem
      · rintro left rfl
        simp at kind
      · intro job same
        obtain rfl | ⟨outcome, rfl⟩ := kind <;> cases job <;> simp [Stage.due]
    rw [if_pos none]
    unfold State.invoke
    simp only [List.getElem?_concat_length]
    cases badArguments with
    | none => exact set .running (.inl rfl)
    | some e => exact set (.finished (.error e)) (.inr ⟨_, rfl⟩)
  · rw [if_neg none]
    obtain ⟨calls, caught, jobs⟩ := reacts streams s' s.calls.length
    refine inv.append (streams.map (.element s.calls.length))
      (order.reacts ?_ (List.Subset.refl _)) calls caught ?_ jobs ?_
    · intro stream call' tail
      exact lt_of_method (inv.order.chained stream call' tail).2
    · simp [Job.call]
    · intro job same
      rw [decide_eq_false silent, due_gated none, same]

/-- Every step keeps what holds between two jobs. -/
theorem Inv.step (inv : Inv streams s) {construct : ℕ → α → Except Thrown β}
    {annotate : ℕ → Thrown → Thrown} (action : Action α) :
    Inv streams (step streams construct annotate s action).1 := by
  cases action with
  | call method badArguments =>
    by_cases streaming : method ∈ streams
    · exact inv.callStreaming streaming badArguments
    · exact inv.callGated streaming badArguments
  | job =>
    unfold ServiceServer.step
    cases next : s.queue with
    | nil => exact inv
    | cons job queue =>
      cases job with
      | run call => exact inv.invoke next (.inl rfl)
      | caught call => exact inv.caught next
      | resumed call =>
        unfold State.runJob
        dsimp only
        split
        · next method badArguments outcome found => exact inv.resumed next found
        · next other =>
          obtain ⟨⟨method, badArguments, stage⟩, found, positive⟩ :=
            inv.due_pos (List.mem_append_left _ (next ▸ List.mem_cons_self))
          cases stage with
          | returned outcome => exact absurd found (other method badArguments outcome)
          | _ => simp [Stage.due] at positive
      | element call stream =>
        unfold State.runJob
        dsimp only
        split
        · next method badArguments left found =>
          have kept := inv.element next found
          split_ifs at kept ⊢ <;> exact kept
        · next other =>
          obtain ⟨⟨method, badArguments, stage⟩, found, positive⟩ :=
            inv.due_pos (List.mem_append_left _ (next ▸ List.mem_cons_self))
          cases stage with
          | waiting left => exact absurd found (other method badArguments left)
          | _ => simp [Stage.due] at positive
      | gate call => exact inv.invoke next (.inr rfl)
  | finish call outcome =>
    unfold ServiceServer.step
    dsimp only
    split
    · exact inv.finish ‹_› outcome
    · exact inv
  | proceed call =>
    unfold ServiceServer.step
    dsimp only
    split
    · next method badArguments outcome found =>
      have kept := inv.proceed found
      split_ifs at kept ⊢ <;> exact kept
    · exact inv

end ServiceServer

end CapnpDeno
