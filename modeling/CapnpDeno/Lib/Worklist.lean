import Mathlib.Data.Finset.Card
import Mathlib.Logic.Relation
import Mathlib.Tactic

/-!
# Worklists with a visited set

A walk that keeps its open states on a stack and remembers the *keys* of the states it has expanded.
When a key stands for one state only, the walk is a search of the whole reachable graph; when two
states share a key, the second one to be met is passed over.  `run` counts its steps, and
`run_total` says how many are enough.
-/

/-- A graph to be searched: expanding a state gives its successors, the next to be visited first, or
fails. -/
structure Worklist (S K E : Type) where
  key : S → K
  expand : S → Except E (List S)

namespace Worklist

variable {S K E : Type} (w : Worklist S K E)

/-- The edges of the graph. -/
def Edge (s c : S) : Prop := ∃ children, w.expand s = .ok children ∧ c ∈ children

/-- The states that can be met from `s`. -/
def Reach : S → S → Prop := Relation.ReflTransGen w.Edge

variable [DecidableEq K]

/-- At most `steps` steps of the walk, from a stack and the keys seen; `none` when they did not
suffice, else the keys seen at the end. -/
def run : ℕ → List S → List K → Option (Except E (List K))
  | _, [], seen => some (.ok seen)
  | 0, _ :: _, _ => none
  | steps + 1, s :: pending, seen =>
    if w.key s ∈ seen then run steps pending seen
    else
      match w.expand s with
      | .error e => some (.error e)
      | .ok children => run steps (children ++ pending) (w.key s :: seen)

variable {w} {steps : ℕ} {s : S} {pending children : List S} {seen seen' : List K} {e : E}

theorem run_skip (old : w.key s ∈ seen) :
    w.run (steps + 1) (s :: pending) seen = w.run steps pending seen := if_pos old

theorem run_visit (fresh : w.key s ∉ seen) (expanded : w.expand s = .ok children) :
    w.run (steps + 1) (s :: pending) seen =
      w.run steps (children ++ pending) (w.key s :: seen) := by
  simp only [run]
  rw [if_neg fresh, expanded]

/-- A walk that fails met a state that cannot be expanded. -/
theorem run_error (failed : w.run steps pending seen = some (.error e)) :
    ∃ p ∈ pending, ∃ s, w.Reach p s ∧ w.expand s = .error e := by
  induction steps generalizing pending seen with
  | zero => cases pending <;> simp [run] at failed
  | succ steps ih =>
    cases pending with
    | nil => simp [run] at failed
    | cons s pending =>
      simp only [run] at failed
      split_ifs at failed with old
      · obtain ⟨p, mem, reach⟩ := ih failed
        exact ⟨p, List.mem_cons_of_mem s mem, reach⟩
      cases expanded : w.expand s with
      | error e' =>
        rw [expanded] at failed
        cases failed
        exact ⟨s, List.mem_cons_self, s, .refl, expanded⟩
      | ok children =>
        rw [expanded] at failed
        obtain ⟨p, mem, t, reach, bad⟩ := ih failed
        rcases List.mem_append.1 mem with child | waiting
        · exact ⟨s, List.mem_cons_self, t, .head ⟨children, expanded, child⟩ reach, bad⟩
        · exact ⟨p, List.mem_cons_of_mem s waiting, t, reach, bad⟩

/-- The states that a finished walk has expanded: their keys are the new keys, every open state was
seen, and every successor of theirs was seen. -/
structure Expanded (w : Worklist S K E) (pending : List S) (seen seen' : List K)
    (expanded : List S) : Prop where
  keys : ∀ k, k ∈ seen' ↔ k ∈ seen ∨ ∃ s ∈ expanded, w.key s = k
  pending_seen : ∀ p ∈ pending, w.key p ∈ seen'
  closed : ∀ s ∈ expanded, ∃ children, w.expand s = .ok children ∧ ∀ c ∈ children, w.key c ∈ seen'
  reached : ∀ s ∈ expanded, ∃ p ∈ pending, w.Reach p s

theorem run_ok (finished : w.run steps pending seen = some (.ok seen')) :
    ∃ expanded, Expanded w pending seen seen' expanded := by
  induction steps generalizing pending seen with
  | zero =>
    cases pending with
    | nil =>
      cases finished
      exact ⟨[], by simp, nofun, nofun, nofun⟩
    | cons => simp [run] at finished
  | succ steps ih =>
    cases pending with
    | nil =>
      cases finished
      exact ⟨[], by simp, nofun, nofun, nofun⟩
    | cons s pending =>
      simp only [run] at finished
      split_ifs at finished with old
      · obtain ⟨expanded, h⟩ := ih finished
        refine ⟨expanded, h.keys, ?_, h.closed, ?_⟩
        · intro p mem
          rcases List.mem_cons.1 mem with rfl | waiting
          · exact (h.keys _).2 (.inl old)
          · exact h.pending_seen p waiting
        · intro t mem
          obtain ⟨p, waiting, reach⟩ := h.reached t mem
          exact ⟨p, List.mem_cons_of_mem s waiting, reach⟩
      cases result : w.expand s with
      | error e => simp [result] at finished
      | ok children =>
        rw [result] at finished
        obtain ⟨expanded, h⟩ := ih finished
        have own : w.key s ∈ seen' := (h.keys _).2 (.inl List.mem_cons_self)
        refine ⟨s :: expanded, ?_, ?_, ?_, ?_⟩
        · intro k
          rw [h.keys, List.mem_cons]
          constructor
          · rintro ((rfl | k_old) | ⟨t, mem, same⟩)
            · exact .inr ⟨s, List.mem_cons_self, rfl⟩
            · exact .inl k_old
            · exact .inr ⟨t, List.mem_cons_of_mem s mem, same⟩
          · rintro (k_old | ⟨t, mem, same⟩)
            · exact .inl (.inr k_old)
            · rcases List.mem_cons.1 mem with rfl | mem
              · exact .inl (.inl same.symm)
              · exact .inr ⟨t, mem, same⟩
        · intro p mem
          rcases List.mem_cons.1 mem with rfl | waiting
          · exact own
          · exact h.pending_seen p (List.mem_append_right _ waiting)
        · intro t mem
          rcases List.mem_cons.1 mem with rfl | mem
          · exact ⟨children, result, fun c child =>
              h.pending_seen c (List.mem_append_left _ child)⟩
          · exact h.closed t mem
        · intro t mem
          rcases List.mem_cons.1 mem with rfl | mem
          · exact ⟨t, List.mem_cons_self, .refl⟩
          · obtain ⟨p, waiting, reach⟩ := h.reached t mem
            rcases List.mem_append.1 waiting with child | waiting
            · exact ⟨s, List.mem_cons_self, .head ⟨children, result, child⟩ reach⟩
            · exact ⟨p, List.mem_cons_of_mem s waiting, reach⟩

/-- When no two reachable states share a key, a finished walk has expanded every reachable state. -/
theorem run_complete {start : S} (finished : w.run steps [start] [] = some (.ok seen'))
    (distinct : ∀ s t, w.Reach start s → w.Reach start t → w.key s = w.key t → s = t) {s : S}
    (reach : w.Reach start s) : ∃ children, w.expand s = .ok children := by
  obtain ⟨expanded, h⟩ := run_ok finished
  have met : ∀ t ∈ expanded, w.Reach start t := fun t mem => by
    obtain ⟨p, head, reach⟩ := h.reached t mem
    rwa [List.mem_singleton.1 head] at reach
  -- a reachable state whose key was seen is itself among the expanded ones
  have own : ∀ t, w.Reach start t → w.key t ∈ seen' → t ∈ expanded := fun t reach key => by
    rcases (h.keys _).1 key with none | ⟨u, mem, same⟩
    · cases none
    · rwa [← distinct u t (met u mem) reach same]
  suffices s ∈ expanded by
    obtain ⟨children, result, -⟩ := h.closed s this
    exact ⟨children, result⟩
  induction reach with
  | refl => exact own _ .refl (h.pending_seen _ List.mem_cons_self)
  | tail before edge ih =>
    obtain ⟨children, result, child⟩ := edge
    obtain ⟨children', result', seenAll⟩ := h.closed _ ih
    rw [result] at result'
    cases result'
    exact own _ (before.tail ⟨children, result, child⟩) (seenAll _ child)

/-- Each key is expanded once, so a bound on the keys and on the successors of one state bounds the
walk. -/
theorem run_total (Inv : S → Prop) (keys : Finset K) (width : ℕ)
    (step : ∀ s, Inv s → w.key s ∈ keys ∧
      ∀ children, w.expand s = .ok children → children.length ≤ width ∧ ∀ c ∈ children, Inv c)
    (start : ∀ p ∈ pending, Inv p)
    (enough : pending.length + (keys \ seen.toFinset).card * (width + 1) ≤ steps) :
    w.run steps pending seen ≠ none := by
  induction steps generalizing pending seen with
  | zero =>
    obtain rfl : pending = [] := List.length_eq_zero_iff.1 (by omega)
    simp [run]
  | succ steps ih =>
    cases pending with
    | nil => simp [run]
    | cons s pending =>
      have rest : ∀ p ∈ pending, Inv p := fun p mem => start p (List.mem_cons_of_mem s mem)
      obtain ⟨known, next⟩ := step s (start s List.mem_cons_self)
      rw [List.length_cons] at enough
      simp only [run]
      split_ifs with old
      · exact ih rest (by omega)
      cases result : w.expand s with
      | error e => simp
      | ok children =>
        obtain ⟨narrow, inv⟩ := next children result
        refine ih ?_ ?_
        · intro p mem
          rcases List.mem_append.1 mem with child | waiting
          · exact inv p child
          · exact rest p waiting
        · have fewer : (keys \ (w.key s :: seen).toFinset).card + 1 ≤
              (keys \ seen.toFinset).card := by
            rw [List.toFinset_cons, Finset.sdiff_insert]
            have mem : w.key s ∈ keys \ seen.toFinset := by
              simp [known, old]
            rw [Finset.card_erase_of_mem mem]
            have := Finset.card_pos.2 ⟨_, mem⟩
            omega
          rw [List.length_append]
          nlinarith

/-! ## The walk step by step -/

/-- The open states, the keys seen and the states they were seen for. -/
structure Config (S K : Type) where
  pending : List S
  seen : List K
  visited : List S

/-- One step of the walk: the next state is skipped when its key was seen, and else visited. -/
inductive Step (w : Worklist S K E) : Config S K → Config S K → Prop
  | skip {s : S} {pending visited : List S} {seen : List K} (old : w.key s ∈ seen) :
      Step w ⟨s :: pending, seen, visited⟩ ⟨pending, seen, visited⟩
  | visit {s : S} {pending visited children : List S} {seen : List K} (fresh : w.key s ∉ seen)
      (expanded : w.expand s = .ok children) :
      Step w ⟨s :: pending, seen, visited⟩ ⟨children ++ pending, w.key s :: seen, s :: visited⟩

/-- The walk comes to a state that it has not visited and skips it. -/
def Skips (w : Worklist S K E) (start : S) : Prop :=
  ∃ c, Relation.ReflTransGen w.Step ⟨[start], [], []⟩ c ∧
    ∃ s pending, c.pending = s :: pending ∧ w.key s ∈ c.seen ∧ s ∉ c.visited

omit [DecidableEq K] in
/-- When no two reachable states share a key, only states visited before are skipped. -/
theorem not_skips {start : S}
    (distinct : ∀ s t, w.Reach start s → w.Reach start t → w.key s = w.key t → s = t) :
    ¬ w.Skips start := by
  rintro ⟨c, steps, s, pending, next, old, fresh⟩
  -- the keys seen are those of the states visited, and all states at hand can be reached
  have inv : (∀ k ∈ c.seen, ∃ t ∈ c.visited, w.key t = k) ∧
      (∀ t ∈ c.pending, w.Reach start t) ∧ ∀ t ∈ c.visited, w.Reach start t := by
    clear next old fresh
    induction steps with
    | refl =>
      refine ⟨nofun, fun t mem => ?_, nofun⟩
      rw [List.mem_singleton.1 mem]
      exact .refl
    | tail _ step ih =>
      obtain ⟨keys, open_, done⟩ := ih
      cases step with
      | skip old => exact ⟨keys, fun t mem => open_ t (List.mem_cons_of_mem _ mem), done⟩
      | @visit u pending visited children seen fresh expanded =>
        have here := open_ u List.mem_cons_self
        refine ⟨?_, ?_, ?_⟩
        · intro k mem
          obtain rfl | mem := List.mem_cons.1 mem
          · exact ⟨u, List.mem_cons_self, rfl⟩
          · obtain ⟨t, visited, same⟩ := keys k mem
            exact ⟨t, List.mem_cons_of_mem u visited, same⟩
        · intro t mem
          rcases List.mem_append.1 mem with child | waiting
          · exact here.tail ⟨children, expanded, child⟩
          · exact open_ t (List.mem_cons_of_mem u waiting)
        · intro t mem
          obtain rfl | mem := List.mem_cons.1 mem
          · exact here
          · exact done t mem
  obtain ⟨keys, open_, done⟩ := inv
  obtain ⟨t, visited, same⟩ := keys _ old
  have reach := open_ s (next ▸ List.mem_cons_self)
  exact fresh (distinct t s (done t visited) reach same ▸ visited)

end Worklist
