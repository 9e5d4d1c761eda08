import CapnpDeno.Capnpc.StreamJobs

/-!
# What a client of the adapter sees

The log of a run tells of every call how far it has come, so the invariants of the jobs speak about
the log.  A run without new calls and new outcomes comes to an end, and what then is not settled
stands behind an invocation under way.
-/

namespace CapnpDeno

namespace ServiceServer

variable {α β : Type} {streams : List ℕ} {construct : ℕ → α → Except Thrown β}
  {annotate : ℕ → Thrown → Thrown} {s s' : State α} {past events : List (Event α β)} {call : ℕ}
  {stage : Stage α}

/-! ## The stages of a call -/

/-- A call goes on to a stage and shows the events. -/
inductive State.Goes (streams : List ℕ) (construct : ℕ → α → Except Thrown β)
    (annotate : ℕ → Thrown → Thrown) (s : State α) (call : ℕ) : Stage α → List (Event α β) → Prop
  | waits {method badArguments left} (left' : List ℕ) :
    s.calls[call]? = some ⟨method, badArguments, .waiting left⟩ →
    Goes streams construct annotate s call (.waiting left') []
  | invoked {method left} : s.calls[call]? = some ⟨method, none, .waiting left⟩ →
    (∀ call', s.Awaits streams call call' → s.stage call' = some .settled) →
    Goes streams construct annotate s call .running [.invoked call]
  | refused {method e left} : s.calls[call]? = some ⟨method, some e, .waiting left⟩ →
    Goes streams construct annotate s call (.finished (.error e)) []
  | finished {method badArguments} (outcome : Except Thrown α) :
    s.calls[call]? = some ⟨method, badArguments, .running⟩ →
    Goes streams construct annotate s call (.finished outcome) [.finished call outcome]
  | returned {method badArguments outcome} :
    s.calls[call]? = some ⟨method, badArguments, .finished outcome⟩ →
    Goes streams construct annotate s call (.returned outcome) []
  | settled {method badArguments stage outcome} :
    s.calls[call]? = some ⟨method, badArguments, stage⟩ →
    stage = .finished outcome ∨ stage = .returned outcome →
    Goes streams construct annotate s call .settled
      [.settled call (respond construct annotate call outcome)]

theorem invoke_goes (same : s'.calls = s.calls) {method : ℕ} {badArguments : Option Thrown}
    {left : List ℕ} (found : s.calls[call]? = some ⟨method, badArguments, .waiting left⟩)
    (awaited : ∀ call', s.Awaits streams call call' → s.stage call' = some .settled) :
    ∃ stage, s.Goes streams construct annotate call stage
      (s'.invoke call : State α × List (Event α β)).2 ∧
      (s'.invoke call : State α × List (Event α β)).1.calls = (s.setStage call stage).calls := by
  unfold State.invoke
  simp only [same, found]
  cases badArguments with
  | none => exact ⟨.running, .invoked found awaited, by simp only [State.setStage, same]⟩
  | some e => exact ⟨.finished (.error e), .refused found, by simp only [State.setStage, same]⟩

/-- What an action does to the calls. -/
theorem step_cases (construct : ℕ → α → Except Thrown β) (annotate : ℕ → Thrown → Thrown)
    (inv : Inv streams s) (action : Action α) :
    (step streams construct annotate s action).1.calls = s.calls ∧
    (step streams construct annotate s action).2 = [] ∨
    (∃ call stage, s.Goes streams construct annotate call stage
      (step streams construct annotate s action).2 ∧
      (step streams construct annotate s action).1.calls = (s.setStage call stage).calls) ∨
    ∃ method badArguments left events,
      (step streams construct annotate s action).2 =
        .called s.calls.length method badArguments :: events ∧
      let s' : State α := { s with calls := s.calls ++ [⟨method, badArguments, .waiting left⟩] }
      (step streams construct annotate s action).1.calls = s'.calls ∧ events = [] ∨
      ∃ stage, s'.Goes streams construct annotate s.calls.length stage events ∧
        (step streams construct annotate s action).1.calls =
        (s'.setStage s.calls.length stage).calls := by
  cases action with
  | call method badArguments =>
    refine .inr (.inr ⟨method, badArguments, if method ∈ streams then [] else streams, ?_⟩)
    unfold ServiceServer.step State.call
    by_cases streaming : method ∈ streams
    · simp only [if_pos streaming]
      exact ⟨[], rfl, .inl ⟨calls_react _ _ _, rfl⟩⟩
    · simp only [if_neg streaming]
      by_cases none : streams = []
      · simp only [if_pos none]
        exact ⟨_, rfl, .inr (invoke_goes rfl (List.getElem?_concat_length ..)
          (by simp [State.Awaits, none]))⟩
      · simp only [if_neg none]
        exact ⟨[], rfl, .inl ⟨(reacts _ _ _).1, rfl⟩⟩
  | job =>
    unfold ServiceServer.step
    cases next : s.queue with
    | nil => exact .inl ⟨rfl, rfl⟩
    | cons job queue =>
      have turn : ∀ call, job = .run call ∨ job = .gate call →
          ∃ stage, s.Goes streams construct annotate call stage
            (({ s with queue } : State α).invoke call : State α × List (Event α β)).2 ∧
          (({ s with queue } : State α).invoke call : State α × List (Event α β)).1.calls =
            (s.setStage call stage).calls := by
        intro call turn
        obtain ⟨method, badArguments, left, found, -, awaited⟩ := inv.turn next turn
        exact invoke_goes rfl found awaited
      cases job with
      | run call => exact .inr (.inl ⟨call, turn call (.inl rfl)⟩)
      | gate call => exact .inr (.inl ⟨call, turn call (.inr rfl)⟩)
      | caught call => exact .inl ⟨rfl, rfl⟩
      | resumed call =>
        unfold State.runJob
        dsimp only
        split
        · next method badArguments outcome found =>
            exact .inr (.inl ⟨call, _, .settled found (.inr rfl), rfl⟩)
        · exact .inl ⟨rfl, rfl⟩
      | element call stream =>
        unfold State.runJob
        dsimp only
        split
        · next method badArguments left found =>
          refine .inr (.inl ⟨call, _, .waits (left.erase stream) found, ?_⟩)
          split_ifs <;> rfl
        · exact .inl ⟨rfl, rfl⟩
  | finish call outcome =>
    unfold ServiceServer.step
    dsimp only
    split
    · next method badArguments found => exact .inr (.inl ⟨call, _, .finished outcome found, rfl⟩)
    · exact .inl ⟨rfl, rfl⟩
  | proceed call =>
    unfold ServiceServer.step
    dsimp only
    split
    · next method badArguments outcome found =>
      split_ifs
      · exact .inr (.inl ⟨call, _, .returned found, rfl⟩)
      · exact .inr (.inl ⟨call, _, .settled found (.inl rfl), rfl⟩)
    · exact .inl ⟨rfl, rfl⟩

/-! ## The log -/

/-- What the log tells of a call. -/
def Told (past : List (Event α β)) (call : ℕ) : Option (Call α) → Prop
  | none => (∀ method badArguments, .called call method badArguments ∉ past) ∧
      .invoked call ∉ past ∧
    (∀ outcome, .finished call outcome ∉ past) ∧ ∀ outcome, .settled call outcome ∉ past
  | some c => (∀ method badArguments, .called call method badArguments ∈ past ↔
      method = c.method ∧ badArguments = c.badArguments) ∧
    match c.stage with
    | .waiting _ => .invoked call ∉ past ∧ (∀ outcome, .finished call outcome ∉ past) ∧
      ∀ outcome, .settled call outcome ∉ past
    | .running => .invoked call ∈ past ∧ (∀ outcome, .finished call outcome ∉ past) ∧
      ∀ outcome, .settled call outcome ∉ past
    | .finished outcome | .returned outcome =>
      (.finished call outcome ∈ past ∨ ∃ e, c.badArguments = some e ∧ outcome = .error e) ∧
        ∀ outcome, .settled call outcome ∉ past
    | .settled => ∃ outcome, .settled call outcome ∈ past

/-- How an event stands to those before it. -/
def Served (streams : List ℕ) (construct : ℕ → α → Except Thrown β) (annotate : ℕ → Thrown → Thrown)
    (past : List (Event α β)) : Event α β → Prop
  | .called call _ _ =>
    ∀ call', call' < call ↔ ∃ method badArguments, .called call' method badArguments ∈ past
  | .invoked call => .invoked call ∉ past ∧ ∃ method, .called call method none ∈ past ∧
    ∀ call' < call, ∀ stream ∈ streams, ∀ badArguments, .called call' stream badArguments ∈ past →
      (method ∈ streams → method = stream) → ∃ outcome, .settled call' outcome ∈ past
  | .finished call _ => .invoked call ∈ past ∧ ∀ outcome, .finished call outcome ∉ past
  | .settled call outcome => (∀ outcome, .settled call outcome ∉ past) ∧ ∃ result : Except Thrown α,
    outcome = respond construct annotate call result ∧ (.finished call result ∈ past ∨
      ∃ method e, .called call method (some e) ∈ past ∧ result = .error e)

/-- The log tells of all calls. -/
structure Logged (streams : List ℕ) (construct : ℕ → α → Except Thrown β)
    (annotate : ℕ → Thrown → Thrown) (past : List (Event α β)) (s : State α) : Prop where
  told : ∀ call, Told past call s.calls[call]?
  served : Machine.Follows (Served streams construct annotate) past

theorem Logged.called_iff (logged : Logged streams construct annotate past s) {method : ℕ}
    {badArguments : Option Thrown} :
    .called call method badArguments ∈ past ↔ ∃ stage, s.calls[call]? =
      some ⟨method, badArguments, stage⟩ := by
  have told := logged.told call
  cases found : s.calls[call]? with
  | none =>
    rw [found] at told
    simp [told.1]
  | some c =>
    rw [found] at told
    rw [told.1]
    constructor
    · rintro ⟨rfl, rfl⟩
      exact ⟨c.stage, rfl⟩
    · rintro ⟨stage, same⟩
      cases same
      exact ⟨rfl, rfl⟩

theorem Logged.settled_of_stage (logged : Logged streams construct annotate past s)
    (done : s.stage call = some .settled) :
    ∃ outcome, .settled call outcome ∈ past := by
  have told := logged.told call
  unfold State.stage at done
  obtain ⟨⟨method, badArguments, stage⟩, found, rfl⟩ := Option.map_eq_some_iff.1 done
  rw [found] at told
  exact told.2

/-- An event at the end of the log. -/
theorem Logged.follows_one (logged : Logged streams construct annotate past s) {event : Event α β}
    (served : Served streams construct annotate past event) :
    Machine.Follows (Served streams construct annotate) (past ++ [event]) := by
  refine logged.served.append ?_
  intro before effect after split
  cases before with
  | nil =>
    cases split
    rwa [List.append_nil]
  | cons first before => simp at split

theorem Logged.goes (logged : Logged streams construct annotate past s)
    (goes : s.Goes streams construct annotate call stage events)
    (same : s'.calls = (s.setStage call stage).calls) :
    Logged streams construct annotate (past ++ events) s' := by
  have told := logged.told
  constructor
  · intro call'
    have other := told call'
    rw [same, calls_setStage]
    by_cases this' : call' = call
    · subst this'
      cases goes <;> simp_all [Told]
    · cases goes <;> simp_all [Told]
  · have own := told call
    cases goes with
    | waits | refused | returned => simpa using logged.served
    | @invoked method left found awaited =>
      rw [found] at own
      refine logged.follows_one ⟨own.2.1, method, logged.called_iff.2 ⟨_, found⟩, ?_⟩
      intro call' early stream streaming badArguments called only
      obtain ⟨stage, found'⟩ := logged.called_iff.1 called
      refine logged.settled_of_stage (awaited call' ⟨early, stream, streaming, ?_, ?_⟩)
      · unfold State.method
        rw [found']
        rfl
      · intro own' streaming' known
        unfold State.method at known
        rw [found] at known
        cases known
        exact only streaming'
    | finished outcome found =>
      rw [found] at own
      exact logged.follows_one ⟨own.2.1, own.2.2.1⟩
    | @settled method badArguments stage outcome found kind =>
      rw [found] at own
      have now : (.finished call outcome ∈ past ∨ ∃ e, badArguments = some e ∧ outcome = .error e) ∧
          ∀ outcome, .settled call outcome ∉ past := by
        obtain rfl | rfl := kind <;> exact own.2
      refine logged.follows_one ⟨now.2, outcome, rfl, now.1.imp_right ?_⟩
      rintro ⟨e, rfl, rfl⟩
      exact ⟨method, e, logged.called_iff.2 ⟨stage, found⟩, rfl⟩

theorem Logged.called (logged : Logged streams construct annotate past s) {method : ℕ}
    {badArguments : Option Thrown} {left : List ℕ}
    (same : s'.calls = s.calls ++ [⟨method, badArguments, .waiting left⟩]) :
    Logged streams construct annotate (past ++ [.called s.calls.length method badArguments])
      s' := by
  have told := logged.told
  constructor
  · intro call
    have own := told call
    rw [same]
    obtain before | rfl | after := Nat.lt_trichotomy call s.calls.length
    · rw [List.getElem?_append_left before]
      rw [List.getElem?_eq_getElem before] at own ⊢
      simp_all [Told, before.ne]
    · rw [List.getElem?_concat_length]
      rw [List.getElem?_eq_none le_rfl] at own
      simp_all [Told]
    · rw [List.getElem?_eq_none (by simpa using after)]
      rw [List.getElem?_eq_none after.le] at own
      simp_all [Told, after.ne']
  · refine logged.follows_one fun call' => ⟨fun before => ?_, ?_⟩
    · obtain ⟨c, found⟩ := (⟨_, List.getElem?_eq_getElem before⟩ : ∃ c, s.calls[call']? = some c)
      exact ⟨c.method, c.badArguments, logged.called_iff.2 ⟨c.stage, found⟩⟩
    · rintro ⟨method, badArguments, called⟩
      obtain ⟨stage, found⟩ := logged.called_iff.1 called
      exact (List.getElem?_eq_some_iff.1 found).1

theorem logged_step (inv : Inv streams s) (logged : Logged streams construct annotate past s)
    (action : Action α) :
    Logged streams construct annotate (past ++ (step streams construct annotate s action).2)
      (step streams construct annotate s action).1 := by
  obtain ⟨same, silent⟩ | ⟨call, stage, goes, same⟩ |
      ⟨method, badArguments, left, events, shown, goes⟩ :=
    step_cases construct annotate inv action
  · rw [silent, List.append_nil]
    exact ⟨fun call => same ▸ logged.told call, logged.served⟩
  · exact logged.goes goes same
  · have called : Logged streams construct annotate
        (past ++ [.called s.calls.length method badArguments])
        ({ s with calls := s.calls ++ [⟨method, badArguments, .waiting left⟩] } : State α) :=
      logged.called rfl
    rw [shown, List.append_cons]
    obtain ⟨same, rfl⟩ | ⟨stage, goes, same⟩ := goes
    · rw [List.append_nil]
      exact ⟨fun call => same ▸ called.told call, called.served⟩
    · exact called.goes goes same

/-! ## Until nothing is left to do -/

/-- The adapter can go on by itself. -/
def State.Ready (s : State α) : Action α → Prop
  | .job => s.queue ≠ []
  | .proceed call => ∃ outcome, s.stage call = some (.finished outcome)
  | .call _ _ | .finish _ _ => False

def Job.cost : Job → ℕ
  | .element _ _ => 2
  | _ => 1

def Stage.cost : Stage α → ℕ
  | .waiting _ => 4
  | .finished _ => 3
  | _ => 0

/-- It goes down with every step that the adapter takes by itself. -/
def State.cost (s : State α) : ℕ :=
  (s.calls.map fun c => c.stage.cost).sum + (s.jobs.map Job.cost).sum

theorem sum_modify {ι : Type} (cost : ι → ℕ) (f : ι → ι) {list : List ι} {position : ℕ} {old : ι}
    (found : list[position]? = some old) :
    ((list.modify position f).map cost).sum + cost old = (list.map cost).sum + cost (f old) := by
  induction list generalizing position with
  | nil => simp at found
  | cons first list ih =>
    cases position with
    | zero =>
      cases found
      simp only [List.modify_zero_cons, List.map_cons, List.sum_cons]
      omega
    | succ position =>
      have found : list[position]? = some old := by simpa using found
      have rest := ih found
      simp only [List.modify_succ_cons, List.map_cons, List.sum_cons]
      omega

theorem cost_setStage {c : Call α} (found : s.calls[call]? = some c) (stage : Stage α) :
    (s.setStage call stage).cost + c.stage.cost = s.cost + stage.cost := by
  have moved := sum_modify (fun c : Call α => c.stage.cost) (fun c => { c with stage }) found
  unfold State.cost State.setStage State.jobs
  dsimp only at moved ⊢
  omega

theorem cost_pop {job : Job} {queue : List Job} (next : s.queue = job :: queue) :
    ({ s with queue } : State α).cost + job.cost = s.cost := by
  unfold State.cost State.jobs
  rw [next]
  simp only [List.map_append, List.map_cons, List.sum_append, List.sum_cons, List.cons_append]
  omega

theorem cost_enqueue (s : State α) (jobs : List Job) :
    ({ s with queue := s.queue ++ jobs } : State α).cost = s.cost + (jobs.map Job.cost).sum := by
  unfold State.cost State.jobs
  simp only [List.map_append, List.sum_append]
  omega

theorem cost_release (s : State α) (call : ℕ) :
    ({ s with
      caught := call :: s.caught
      queue := s.queue ++ (s.reactions.filter (·.1 = call)).map Prod.snd
      reactions := s.reactions.filter (·.1 ≠ call) } : State α).cost = s.cost := by
  have split : ((s.reactions.filter (·.1 = call)) ++ s.reactions.filter (·.1 ≠ call)).Perm
      s.reactions := by
    simpa using List.filter_append_perm (fun entry => decide (entry.1 = call)) s.reactions
  have same := ((split.map Prod.snd).map Job.cost).sum_eq
  unfold State.cost State.jobs
  simp only [List.map_append, List.sum_append] at same ⊢
  omega

theorem cost_invoke {method : ℕ} {badArguments : Option Thrown} {left : List ℕ}
    (found : s.calls[call]? = some ⟨method, badArguments, .waiting left⟩) :
    (s.invoke call : State α × List (Event α β)).1.cost < s.cost := by
  have running := cost_setStage found .running
  unfold State.invoke
  simp only [found]
  cases badArguments with
  | none =>
    simp only [Stage.cost] at running
    dsimp only
    omega
  | some e =>
    have finished := cost_setStage found (.finished (.error e))
    simp only [Stage.cost] at finished
    dsimp only
    omega

theorem cost_step (construct : ℕ → α → Except Thrown β) (annotate : ℕ → Thrown → Thrown)
    (inv : Inv streams s) {action : Action α} (ready : s.Ready action) :
    (step streams construct annotate s action).1.cost < s.cost := by
  cases action with
  | call => exact ready.elim
  | finish => exact ready.elim
  | job =>
    unfold ServiceServer.step
    cases next : s.queue with
    | nil => exact absurd next ready
    | cons job queue =>
      have popped := cost_pop next
      cases job with
      | run call =>
        obtain ⟨method, badArguments, left, found, -⟩ := inv.turn next (.inl rfl)
        exact (cost_invoke (s := { s with queue }) found).trans_le
          ((Nat.le_add_right _ _).trans_eq popped)
      | gate call =>
        obtain ⟨method, badArguments, left, found, -⟩ := inv.turn next (.inr rfl)
        exact (cost_invoke (s := { s with queue }) found).trans_le
          ((Nat.le_add_right _ _).trans_eq popped)
      | caught call =>
        have same := cost_release ({ s with queue } : State α) call
        simp only [Job.cost] at popped
        unfold State.runJob
        dsimp only at same ⊢
        omega
      | resumed call =>
        simp only [Job.cost] at popped
        unfold State.runJob
        dsimp only
        split
        · next method badArguments outcome found =>
          have moved := cost_setStage (s := { s with queue }) found .settled
          simp only [Stage.cost] at moved
          dsimp only
          omega
        · dsimp only
          omega
      | element call stream =>
        simp only [Job.cost] at popped
        unfold State.runJob
        dsimp only
        split
        · next method badArguments left found =>
          have moved := cost_setStage (s := { s with queue }) found (.waiting (left.erase stream))
          have queued :=
            cost_enqueue (({ s with queue } : State α).setStage call (.waiting (left.erase stream)))
            [.gate call]
          simp only [Stage.cost, List.map_cons, List.map_nil, List.sum_cons, List.sum_nil, Job.cost]
            at moved queued
          dsimp only
          split_ifs <;> omega
        · dsimp only
          omega
  | proceed call =>
    obtain ⟨outcome, now⟩ := ready
    unfold State.stage at now
    obtain ⟨⟨method, badArguments, stage⟩, found, rfl⟩ := Option.map_eq_some_iff.1 now
    unfold ServiceServer.step
    simp only [found]
    split_ifs
    · have moved := cost_setStage found (.returned outcome)
      have queued := cost_enqueue (s.setStage call (.returned outcome))
        [.caught call, .resumed call]
      simp only [Stage.cost, List.map_cons, List.map_nil, List.sum_cons, List.sum_nil, Job.cost]
        at moved queued
      dsimp only
      omega
    · have moved := cost_setStage found .settled
      simp only [Stage.cost] at moved
      dsimp only
      omega

theorem bounded (inv : Inv streams s) (more : List (Action α))
    (ready : Machine.Always (step streams construct annotate) State.Ready s more) :
    more.length ≤ s.cost := by
  induction more generalizing s with
  | nil => exact Nat.zero_le _
  | cons action more ih =>
    have rest := ih (inv.step action) ready.2
    have down := cost_step construct annotate inv ready.1
    simp only [List.length_cons]
    omega

/-- Where nothing is queued, the jobs are the reactions to chains. -/
theorem Inv.parked_of_due (inv : Inv streams s) (idle : s.queue = []) (job : Job)
    (due : 0 < s.due streams job) :
    ∃ call', (call', job) ∈ s.reactions := by
  rw [← inv.jobs job, List.count_pos_iff] at due
  unfold State.jobs at due
  rw [idle, List.nil_append, List.mem_map] at due
  obtain ⟨⟨call', _⟩, mem, rfl⟩ := due
  exact ⟨call', mem⟩

theorem Inv.not_due (inv : Inv streams s) (idle : s.queue = []) (job : Job)
    (free : ∀ stream, ¬job.OnChain s stream) :
    ¬0 < s.due streams job := by
  intro due
  obtain ⟨call', mem⟩ := inv.parked_of_due idle job due
  obtain ⟨-, -, stream, -, onChain, -⟩ := inv.order.parked call' job mem
  exact free stream onChain

/-- Where nothing is left to do, a call is settled or stands at an invocation under way. -/
theorem Inv.stands (inv : Inv streams s) (quiet : ∀ action, ¬s.Ready action) :
    ∀ {call method badArguments stage}, s.calls[call]? = some ⟨method, badArguments, stage⟩ →
      stage = .settled ∨ stage = .running ∨ ∃ call', s.Awaits streams call call' ∧
      s.stage call' = some .running := by
  have idle : s.queue = [] := by
    by_contra some
    exact quiet .job some
  intro call
  induction call using Nat.strong_induction_on with
  | _ call ih =>
    intro method badArguments stage found
    have own : s.method call = some method := by
      unfold State.method
      rw [found]
      rfl
    -- the call of a chain that is not settled
    have behind : ∀ {job : Job} {call'}, job.call = call → (call', job) ∈ s.reactions →
        (∀ stream, job.OnChain s stream → method ∈ streams → method = stream) →
        ∃ call', s.Awaits streams call call' ∧ s.stage call' = some .running := by
      intro job call' same mem only
      obtain ⟨pending, before, stream, streaming, onChain, own', -⟩ :=
        inv.order.parked call' job mem
      rw [same] at before
      have awaits : ∀ {call''}, call'' < call → s.method call'' = some stream →
          s.Awaits streams call call'' := by
        intro call'' early own''
        refine ⟨early, stream, streaming, own'', fun other mem known => ?_⟩
        obtain rfl := Option.some.inj (own.symm.trans known)
        exact only stream onChain mem
      unfold State.method at own'
      obtain ⟨⟨_, badArguments', stage'⟩, found', rfl⟩ := Option.map_eq_some_iff.1 own'
      obtain rfl | rfl | ⟨call'', ⟨early, stream', streaming', own'', only'⟩, now⟩ :=
        ih call' before found'
      · refine absurd ?_ (inv.not_due idle (.caught call') fun _ => id)
        simp [State.due, Job.call, found', Stage.due, streaming, pending]
      · exact ⟨call', awaits before own', stage_of_found found'⟩
      · obtain rfl := only' _ streaming own'
        exact ⟨call'', awaits (early.trans before) own'', now⟩
    cases stage with
    | settled => exact .inl rfl
    | running => exact .inr (.inl rfl)
    | finished outcome => exact absurd ⟨outcome, stage_of_found found⟩ (quiet (.proceed call))
    | returned outcome =>
      refine absurd ?_ (inv.not_due idle (.resumed call) fun _ => id)
      simp [State.due, Job.call, found, Stage.due]
    | waiting left =>
      refine .inr (.inr ?_)
      by_cases streaming : method ∈ streams
      · obtain ⟨call', mem⟩ := inv.parked_of_due idle (.run call)
          (by simp [State.due, Job.call, found, Stage.due, streaming])
        exact behind rfl mem fun stream onChain _ => Option.some.inj (own.symm.trans onChain)
      · cases left with
        | nil =>
          refine absurd ?_ (inv.not_due idle (.gate call) fun _ => id)
          simp [State.due, Job.call, found, Stage.due, streaming]
        | cons stream left =>
          obtain ⟨call', mem⟩ := inv.parked_of_due idle (.element call stream)
            (by simp [State.due, Job.call, found, Stage.due, streaming])
          exact behind rfl mem fun _ _ mem => absurd mem streaming

/-! ## Streaming servers -/

theorem inv_final (actions : List (Action α)) :
    Inv streams (Machine.final (step streams construct annotate) State.initial actions) :=
  Machine.invariant (fun _ action inv => inv.step action) actions .initial

theorem logged_final (actions : List (Action α)) :
    Logged streams construct annotate (Machine.shown (step streams construct annotate)
      State.initial actions)
      (Machine.final (step streams construct annotate) State.initial actions) := by
  have always : Machine.Always (step streams construct annotate) (fun _ _ => True)
      (State.initial : State α) actions :=
    Machine.always_of_forall (fun _ _ => trivial) actions
  have along := always.history
    (P := fun past s => Inv streams s ∧ Logged streams construct annotate past s)
    (fun _ _ action _ holds => ⟨holds.1.step action, logged_step holds.1 holds.2 action⟩)
    ⟨.initial, fun _ => by simp [Told, State.initial], Machine.follows_nil⟩
  exact along.2

/-- In every run of the adapter, the implementation of a streaming method is invoked at most once
for a call, when the earlier calls of the method are settled, and that of another method when all
streaming calls made before are; a call settles once, with the outcome of its invocation, or at its
turn with the error of its argument expression.  The adapter stops of itself, and then an unsettled
call stands at an invocation under way: its own, or that of a streaming call which it has to wait
for. -/
theorem streams_in_order (streams : List ℕ) (construct : ℕ → α → Except Thrown β)
    (annotate : ℕ → Thrown → Thrown) (actions : List (Action α)) :
    let past := Machine.shown (step streams construct annotate) State.initial actions
    let s := Machine.final (step streams construct annotate) State.initial actions
    Machine.Follows (Served streams construct annotate) past ∧
    (∃ bound, ∀ more, Machine.Always (step streams construct annotate) State.Ready s more →
      more.length ≤ bound) ∧
    ((∀ action, ¬s.Ready action) → ∀ call method badArguments,
      .called call method badArguments ∈ past →
      (∃ outcome, .settled call outcome ∈ past) ∨
      ∃ call', .invoked call' ∈ past ∧ (∀ outcome, .finished call' outcome ∉ past) ∧
        (call' = call ∨ call' < call ∧ ∃ stream ∈ streams,
          (∃ badArguments, .called call' stream badArguments ∈ past) ∧
          (method ∈ streams → method = stream))) := by
  intro past s
  have inv : Inv streams s := inv_final actions
  have logged : Logged streams construct annotate past s := logged_final actions
  refine ⟨logged.served, ⟨s.cost, bounded inv⟩, fun quiet call method badArguments called => ?_⟩
  have under : ∀ {call'}, s.stage call' = some .running →
      .invoked call' ∈ past ∧ ∀ outcome, .finished call' outcome ∉ past := by
    intro call' now
    have told := logged.told call'
    unfold State.stage at now
    obtain ⟨⟨_, _, _⟩, found, rfl⟩ := Option.map_eq_some_iff.1 now
    rw [found] at told
    exact ⟨told.2.1, told.2.2.1⟩
  obtain ⟨stage, found⟩ := logged.called_iff.1 called
  obtain rfl | rfl | ⟨call', ⟨early, stream, streaming, own, only⟩, now⟩ := inv.stands quiet found
  · exact .inl (logged.settled_of_stage (stage_of_found found))
  · obtain ⟨invoked, unfinished⟩ := under (stage_of_found found)
    exact .inr ⟨call, invoked, unfinished, .inl rfl⟩
  · obtain ⟨invoked, unfinished⟩ := under now
    refine .inr ⟨call', invoked, unfinished, .inr ⟨early, stream, streaming, ?_, fun mem => ?_⟩⟩
    · unfold State.method at own
      obtain ⟨⟨_, badArguments', stage'⟩, found', rfl⟩ := Option.map_eq_some_iff.1 own
      exact ⟨badArguments', logged.called_iff.2 ⟨stage', found'⟩⟩
    · refine only method mem ?_
      unfold State.method
      rw [found]
      rfl

/-- A streaming call with a capability parameter comes in where there is no outbound client. -/
theorem stream_not_invoked :
    let e := sessionError "rpc outbound client is unavailable for capability callbacks"
    let actions : List (Action Unit) := [.call 0 (some e), .job, .proceed 0, .job, .job]
    let past : List (Event Unit Unit) :=
      Machine.shown (step [0] (fun _ => .ok) fun _ e => e) State.initial actions
    (∃ outcome, .settled 0 outcome ∈ past) ∧ .invoked 0 ∉ past := by
  intro e actions past
  have same : past = [.called 0 0 (some e), .settled 0 (.error e)] := rfl
  rw [same]
  exact ⟨⟨_, List.mem_of_mem_getLast? rfl⟩, by simp⟩

end ServiceServer

end CapnpDeno
