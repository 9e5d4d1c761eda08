import Mathlib.Data.Finset.Card
import CapnpDeno.Lib.Fallible

/-!
# Searching a graph

A breadth-first search that marks a node when it enters the queue and keeps what each visit finds,
and the spreading of a mark against the references until a pass over the nodes changes nothing.
-/

/-- Only known nodes enter the queue; a visit gives a record, which names the nodes to go on to. -/
structure GraphSearch (K R E : Type) where
  known : K → Bool
  visit : K → Except E R
  refs : R → List K

namespace GraphSearch

variable {K R E : Type} [DecidableEq K]

structure State (K R : Type) where
  visited : List K
  queue : List K
  records : List (K × R)

variable (g : GraphSearch K R E)

def enqueue (s : State K R) (key : K) : State K R :=
  if key ∈ s.visited then s
  else if g.known key then { s with visited := s.visited ++ [key], queue := s.queue ++ [key] }
  else s

def start (keys : List K) : State K R := keys.foldl g.enqueue ⟨[], [], []⟩

/-- The state after the visit of the first node of the queue. -/
def visitNext (s : State K R) (queue : List K) (key : K) (record : R) : State K R :=
  (g.refs record).foldl g.enqueue ⟨s.visited, queue, s.records ++ [(key, record)]⟩

/-- At most that many visits. -/
def run : ℕ → State K R → Except E (State K R)
  | 0, s => pure s
  | visits + 1, s =>
    match s.queue with
    | [] => pure s
    | key :: queue => do
      let record ← g.visit key
      run visits (g.visitNext s queue key record)

/-- What a search from the keys is to find. -/
inductive Reached (keys : List K) : K → Prop
  | start {key : K} (mem : key ∈ keys) (known : g.known key) : Reached keys key
  | step {key ref : K} {record : R} (reached : Reached keys key)
    (visited : g.visit key = .ok record)
      (mem : ref ∈ g.refs record) (known : g.known ref) : Reached keys ref

/-- A search under way: the nodes marked are those with a record and those in the queue. -/
structure Searching (keys : List K) (s : State K R) : Prop where
  nodup : s.visited.Nodup
  marked : s.visited = s.records.map Prod.fst ++ s.queue
  reached : ∀ key ∈ s.visited, g.Reached keys key
  recorded : ∀ entry ∈ s.records, g.visit entry.1 = .ok entry.2

variable {g} {keys refs : List K} {s s' : State K R} {key : K} {visits : ℕ}

theorem mem_enqueue {other : K} :
    other ∈ (g.enqueue s key).visited ↔ other ∈ s.visited ∨ other = key ∧ g.known key := by
  unfold enqueue
  split_ifs with old known
  · constructor
    · exact .inl
    · rintro (mem | ⟨rfl, -⟩)
      · exact mem
      · exact old
  · simp [known]
  · simp [known]

theorem mem_enqueueAll {other : K} : other ∈ (refs.foldl g.enqueue s).visited ↔
    other ∈ s.visited ∨ other ∈ refs ∧ g.known other := by
  induction refs generalizing s with
  | nil => simp
  | cons ref refs ih =>
    rw [List.foldl_cons, ih, mem_enqueue, List.mem_cons]
    constructor
    · rintro ((old | ⟨rfl, known⟩) | ⟨mem, known⟩)
      · exact .inl old
      · exact .inr ⟨.inl rfl, known⟩
      · exact .inr ⟨.inr mem, known⟩
    · rintro (old | ⟨rfl | mem, known⟩)
      · exact .inl (.inl old)
      · exact .inl (.inr ⟨rfl, known⟩)
      · exact .inr ⟨mem, known⟩

theorem enqueueAll_records : (refs.foldl g.enqueue s).records = s.records := by
  induction refs generalizing s with
  | nil => rfl
  | cons ref refs ih =>
    rw [List.foldl_cons, ih]
    unfold enqueue
    split_ifs <;> rfl

theorem Searching.enqueue (h : g.Searching keys s) (reach : g.known key → g.Reached keys key) :
    g.Searching keys (g.enqueue s key) := by
  unfold GraphSearch.enqueue
  split_ifs with old known
  · exact h
  · exact
      { nodup := by
          rw [List.nodup_append]
          refine ⟨h.nodup, List.nodup_singleton key, fun a mem b single same => old ?_⟩
          rwa [← List.mem_singleton.1 single, ← same]
        marked := by
          show s.visited ++ [key] = s.records.map Prod.fst ++ (s.queue ++ [key])
          rw [h.marked, List.append_assoc]
        reached := fun other mem => by
          rcases List.mem_append.1 mem with before | last
          · exact h.reached other before
          · rw [List.mem_singleton.1 last]
            exact reach known
        recorded := h.recorded }
  · exact h

theorem Searching.enqueueAll (h : g.Searching keys s)
    (reach : ∀ ref ∈ refs, g.known ref → g.Reached keys ref) :
    g.Searching keys (refs.foldl g.enqueue s) := by
  induction refs generalizing s with
  | nil => exact h
  | cons ref refs ih =>
    rw [List.foldl_cons]
    exact ih (h.enqueue (reach ref List.mem_cons_self)) fun other mem =>
      reach other (List.mem_cons_of_mem ref mem)

theorem searching_start : g.Searching keys (g.start keys) := by
  have empty : g.Searching keys ⟨[], [], []⟩ := ⟨List.nodup_nil, rfl, nofun, nofun⟩
  exact empty.enqueueAll fun _ => .start

/-- The known references of every record are marked. -/
def Closed (g : GraphSearch K R E) (s : State K R) : Prop :=
  ∀ entry ∈ s.records, ∀ ref ∈ g.refs entry.2, g.known ref → ref ∈ s.visited

section Visits

variable {queue : List K} {record : R}

theorem Searching.visitNext (h : g.Searching keys s) (next : s.queue = key :: queue)
    (found : g.visit key = .ok record) : g.Searching keys (g.visitNext s queue key record) := by
  have here : key ∈ s.visited := by
    rw [h.marked, next]
    simp
  refine Searching.enqueueAll ?_ fun ref mem => .step (h.reached key here) found mem
  exact
    { nodup := h.nodup
      marked := by
        show s.visited = (s.records ++ [(key, record)]).map Prod.fst ++ queue
        rw [h.marked, next]
        simp
      reached := h.reached
      recorded := fun entry mem => by
        rcases List.mem_append.1 mem with before | last
        · exact h.recorded entry before
        · rw [List.mem_singleton.1 last]
          exact found }

theorem Closed.visitNext (h : g.Closed s) : g.Closed (g.visitNext s queue key record) := by
  intro entry mem ref refers known
  rw [GraphSearch.visitNext, mem_enqueueAll]
  rw [GraphSearch.visitNext, enqueueAll_records] at mem
  rcases List.mem_append.1 mem with before | last
  · exact .inl (h entry before ref refers known)
  · rw [List.mem_singleton.1 last] at refers
    exact .inr ⟨refers, known⟩

theorem records_visitNext : (g.visitNext s queue key record).records =
    s.records ++ [(key, record)] :=
  enqueueAll_records

theorem visited_visitNext (mem : key ∈ s.visited) {first : K} :
    key ∈ (g.visitNext s queue first record).visited :=
  mem_enqueueAll.2 (.inl mem)

end Visits

/-- What a search leaves: a record for each node that is marked, and all that it was to find is
marked. -/
structure Finished (g : GraphSearch K R E) (keys : List K) (s : State K R) : Prop where
  nodup : s.visited.Nodup
  visited : s.visited = s.records.map Prod.fst
  recorded : ∀ entry ∈ s.records, g.visit entry.1 = .ok entry.2
  reached : ∀ key, key ∈ s.visited ↔ g.Reached keys key

omit [DecidableEq K] in
/-- A search marks only known nodes, so their number bounds its visits. -/
theorem queue_length {nodes : List K} (h : g.Searching keys s)
    (finite : ∀ key, g.known key → key ∈ nodes) :
    s.records.length + s.queue.length ≤ nodes.length := by
  have known : s.visited ⊆ nodes := fun key mem => by
    cases h.reached key mem with
    | start _ known => exact finite key known
    | step _ _ _ known => exact finite key known
  have bound := (h.nodup.subperm known).length_le
  rwa [h.marked, List.length_append, List.length_map] at bound

theorem run_ok {nodes : List K} (h : g.Searching keys s) (closed : g.Closed s)
    (begun : ∀ key ∈ keys, g.known key → key ∈ s.visited)
    (finite : ∀ key, g.known key → key ∈ nodes) (enough : nodes.length ≤ s.records.length + visits)
    (done : g.run visits s = .ok s') :
    g.Finished keys s' := by
  have finished {s : State K R} (h : g.Searching keys s) (closed : g.Closed s)
      (begun : ∀ key ∈ keys, g.known key → key ∈ s.visited) (empty : s.queue = []) :
      g.Finished keys s := by
    have visited : s.visited = s.records.map Prod.fst := by
      rw [h.marked, empty, List.append_nil]
    refine ⟨h.nodup, visited, h.recorded, fun key => ⟨h.reached key, fun reached => ?_⟩⟩
    induction reached with
    | start mem known => exact begun _ mem known
    | step _ found mem known ih =>
      rw [visited] at ih
      obtain ⟨entry, recorded, rfl⟩ := List.mem_map.1 ih
      obtain rfl := Except.ok.inj ((h.recorded entry recorded).symm.trans found)
      exact closed entry recorded _ mem known
  induction visits generalizing s with
  | zero =>
    cases done
    have bound := queue_length h finite
    exact finished h closed begun (List.length_eq_zero_iff.1 (by omega))
  | succ visits ih =>
    unfold run at done
    cases next : s.queue with
    | nil =>
      rw [next] at done
      cases done
      exact finished h closed begun next
    | cons key queue =>
      rw [next] at done
      obtain ⟨record, found, rest⟩ := Fallible.bind_eq_ok.1 done
      refine ih (h.visitNext next found) closed.visitNext
        (fun key mem known => visited_visitNext (begun key mem known)) ?_ rest
      rw [records_visitNext, List.length_append, List.length_singleton]
      omega

/-- The search succeeds where every visit of what it is to find does. -/
theorem run_total (h : g.Searching keys s)
    (visit : ∀ key, g.Reached keys key → ∃ record, g.visit key = .ok record) :
    ∃ s', g.run visits s = .ok s' := by
  induction visits generalizing s with
  | zero => exact ⟨s, rfl⟩
  | succ visits ih =>
    unfold run
    cases next : s.queue with
    | nil => exact ⟨s, rfl⟩
    | cons key queue =>
      have here : key ∈ s.visited := by
        rw [h.marked, next]
        simp
      obtain ⟨record, found⟩ := visit key (h.reached key here)
      obtain ⟨s', rest⟩ := ih (h.visitNext next found)
      refine ⟨s', ?_⟩
      show (g.visit key >>= fun record => g.run visits (g.visitNext s queue key record)) = .ok s'
      rw [found]
      exact rest

/-- From the first keys, as many visits as there are nodes finish the search. -/
theorem finished_of_run {nodes : List K} (finite : ∀ key, g.known key → key ∈ nodes)
    (done : g.run nodes.length (g.start keys) = .ok s) : g.Finished keys s := by
  refine run_ok searching_start ?_ ?_ finite (Nat.le_add_left _ _) done
  · intro entry mem
    rw [start, enqueueAll_records] at mem
    cases mem
  · exact fun key mem known => mem_enqueueAll.2 (.inr ⟨mem, known⟩)

end GraphSearch

/-! ## Spreading a mark -/

namespace Spread

variable {K : Type} [DecidableEq K] (refs : K → List K)

/-- One pass: a node without the mark takes it from a node that it refers to; and whether one
did. -/
def pass (nodes : List K) (state : List K × Bool) : List K × Bool :=
  nodes.foldl (fun (state : List K × Bool) key =>
    if key ∈ state.1 then state
    else if (refs key).any (· ∈ state.1) then (state.1 ++ [key], true)
    else state) state

/-- Passes as long as one changes something. -/
def saturate (nodes : List K) : ℕ → List K → List K
  | 0, marked => marked
  | passes + 1, marked =>
    let after := pass refs nodes (marked, false)
    if after.2 then saturate nodes passes after.1 else after.1

/-- The nodes from which one of the seeds can be reached. -/
inductive Leads (nodes seeds : List K) : K → Prop
  | seed {key : K} (mem : key ∈ seeds) : Leads nodes seeds key
  | step {key ref : K} (node : key ∈ nodes) (mem : ref ∈ refs key) (leads : Leads nodes seeds ref) :
      Leads nodes seeds key

variable {refs} {nodes seeds marked : List K} {key : K} {passes : ℕ}

/-- The marked nodes of a saturation under way. -/
structure Marked (refs : K → List K) (nodes seeds marked : List K) : Prop where
  nodup : marked.Nodup
  subset : marked ⊆ nodes
  contained : seeds ⊆ marked
  leads : ∀ key ∈ marked, Leads refs nodes seeds key

theorem Marked.cons (h : Marked refs nodes seeds marked) (node : key ∈ nodes) (fresh : key ∉ marked)
    (takes : (refs key).any (· ∈ marked)) : Marked refs nodes seeds (marked ++ [key]) where
  nodup := by
    rw [List.nodup_append]
    refine ⟨h.nodup, List.nodup_singleton key, fun a mem b single same => fresh ?_⟩
    rwa [← List.mem_singleton.1 single, ← same]
  subset := by
    rw [List.append_subset]
    exact ⟨h.subset, List.cons_subset.2 ⟨node, List.nil_subset nodes⟩⟩
  contained := fun other mem => List.mem_append_left _ (h.contained mem)
  leads := fun other mem => by
    rcases List.mem_append.1 mem with before | last
    · exact h.leads other before
    · obtain ⟨ref, refers, there⟩ := List.any_eq_true.1 takes
      rw [List.mem_singleton.1 last]
      exact .step node refers (h.leads ref (of_decide_eq_true there))

/-- What a pass over some nodes leaves: one that changes something marks a node more; one that does
not leaves every node as it found it. -/
structure Passed (refs : K → List K) (nodes seeds some marked : List K) (changed : Bool)
    (after : List K × Bool) :
    Prop where
  inv : Marked refs nodes seeds after.1
  grows : marked.length ≤ after.1.length
  more : after.2 = true → changed = true ∨ marked.length < after.1.length
  kept : after.2 = false →
    changed = false ∧ after.1 = marked ∧ ∀ key ∈ some, key ∉ marked → ∀ ref ∈ refs key, ref ∉ marked

theorem passed (changed : Bool) (h : Marked refs nodes seeds marked) (some : List K)
    (sub : some ⊆ nodes) :
    Passed refs nodes seeds some marked changed (pass refs some (marked, changed)) := by
  induction some generalizing marked changed with
  | nil => exact ⟨h, le_rfl, .inl, fun same => ⟨same, rfl, nofun⟩⟩
  | cons key some ih =>
    have node := sub List.mem_cons_self
    have rest := (List.cons_subset.1 sub).2
    unfold pass
    rw [List.foldl_cons]
    by_cases old : key ∈ marked
    · rw [if_pos old]
      have after := ih changed h rest
      refine ⟨after.inv, after.grows, after.more, fun still => ?_⟩
      obtain ⟨before, same, closed⟩ := after.kept still
      exact ⟨before, same, List.forall_mem_cons.2 ⟨fun fresh => (fresh old).elim, closed⟩⟩
    · rw [if_neg old]
      by_cases takes : (refs key).any (· ∈ marked)
      · rw [if_pos takes]
        have after := ih true (h.cons node old takes) rest
        have grown : marked.length < (pass refs some (marked ++ [key], true)).1.length :=
          lt_of_lt_of_le (by simp) after.grows
        exact ⟨after.inv, grown.le, fun _ => .inr grown, fun still => nomatch (after.kept still).1⟩
      · rw [if_neg takes]
        have after := ih changed h rest
        refine ⟨after.inv, after.grows, after.more, fun still => ?_⟩
        obtain ⟨before, same, closed⟩ := after.kept still
        refine ⟨before, same, List.forall_mem_cons.2 ⟨fun _ ref refers there => takes ?_, closed⟩⟩
        exact List.any_eq_true.2 ⟨ref, refers, decide_eq_true there⟩

/-- With a pass for each node that is not marked and one more, the marked nodes are those that lead
to a seed. -/
theorem mem_saturate (h : Marked refs nodes seeds marked)
    (enough : nodes.length < marked.length + passes) :
    key ∈ saturate refs nodes passes marked ↔ Leads refs nodes seeds key := by
  induction passes generalizing marked with
  | zero =>
    have bound := (h.nodup.subperm h.subset).length_le
    omega
  | succ passes ih =>
    have after := passed false h nodes (List.Subset.refl nodes)
    unfold saturate
    by_cases changed : (pass refs nodes (marked, false)).2 = true
    · have grown : marked.length < (pass refs nodes (marked, false)).1.length :=
        (after.more changed).resolve_left Bool.false_ne_true
      simp only [changed, if_true]
      exact ih after.inv (by omega)
    · obtain ⟨-, same, closed⟩ := after.kept (Bool.eq_false_iff.2 changed)
      rw [if_neg changed, same]
      clear ih
      refine ⟨h.leads key, fun leads => ?_⟩
      induction leads with
      | seed mem => exact h.contained mem
      | step node refers _ there =>
        by_contra fresh
        exact closed _ node fresh _ refers there

end Spread
