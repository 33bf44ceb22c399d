import Flowplan.Proofs.Graph.Reachability
import Flowplan.Proofs.Number.Sums
import Mathlib.Data.List.Perm.Basic

namespace Flowplan.Graph

open Relation

/-- The same edges leave each name, in any order. -/
def Rearranged (connections other : Connections) : Prop :=
  ∀ source, (successors connections source).Perm (successors other source)

theorem nodup_reachFrom {connections : Connections} {seen : List String} (fresh : seen.Nodup)
    (pending : List String) : (reachFrom connections seen pending).Nodup := by
  fun_induction reachFrom connections seen pending with
  | case1 => exact fresh
  | case2 _ _ _ _ ih => exact ih fresh
  | case3 _ _ _ hs ih => exact ih (List.nodup_cons.mpr ⟨hs, fresh⟩)

theorem nodup_reachable (connections : Connections) (start : String) :
    (reachable connections start).Nodup :=
  nodup_reachFrom List.nodup_nil [start]

theorem Rearranged.reachable_perm {connections other : Connections}
    (rearranged : Rearranged connections other) (start : String) :
    (reachable connections start).Perm (reachable other start) := by
  have hstep : (fun a b => b ∈ successors connections a) = fun a b => b ∈ successors other a := by
    funext a b
    exact propext (rearranged a).mem_iff
  rw [List.perm_ext_iff_of_nodup (nodup_reachable connections start) (nodup_reachable other start)]
  intro name
  rw [mem_reachable_iff_path, mem_reachable_iff_path, hstep]

/-- The edges of each source from the last to the first. -/
def backward (connections : Connections) : Connections :=
  connections.map fun entry => (entry.1, entry.2.reverse)

theorem successors_backward (connections : Connections) (name : String) :
    successors (backward connections) name = (successors connections name).reverse := by
  induction connections with
  | nil => rfl
  | cons entry rest ih =>
    by_cases h : name = entry.1
    · rw [h, successors_cons_self entry rest, ← List.map_reverse]
      exact successors_cons_self (entry.1, entry.2.reverse) (backward rest)
    · rw [successors_cons_of_ne rest h, ← ih]
      exact successors_cons_of_ne (backward rest) h

theorem rearranged_backward (connections : Connections) :
    Rearranged (backward connections) connections := by
  intro source
  rw [successors_backward]
  exact List.reverse_perm _

/-- The names that a search has met, and a stack of names that it is to look at. -/
structure Worklist where
  seen : List String
  stack : List String

namespace Worklist

/-- Takes the last name off the stack, and puts what it leads to on it unless it was met before. -/
def turn (connections : Connections) (work : Worklist) : Worklist :=
  match work.stack.getLast? with
  | none => work
  | some name =>
    if name ∈ work.seen then { work with stack := work.stack.dropLast }
    else ⟨name :: work.seen, work.stack.dropLast ++ successors connections name⟩

/-- Takes turns until the stack is empty, and gives the names met. There is no answer if names are
left on it after so many turns. -/
def run (connections : Connections) (turns : Nat) (work : Worklist) : Option (List String) :=
  if work.stack = [] then some work.seen
  else match turns with
  | 0 => none
  | turns + 1 => run connections turns (work.turn connections)

/-- The turns that may be left: one for each name on the stack, and for each edge that can still put
a name on it. -/
def size (connections : Connections) (work : Worklist) : Nat :=
  edgesOutside connections work.seen + work.stack.length

/-- What the loop is to come to: the stack, from its top, is what is pending of a search that
follows the edges of each name backward. -/
def outcome (connections : Connections) (work : Worklist) : List String :=
  reachFrom (backward connections) work.seen work.stack.reverse

section Turns

variable {connections : Connections} {seen stack : List String} {name : String} {work : Worklist}

theorem turn_of_seen (h : name ∈ seen) :
    turn connections ⟨seen, stack ++ [name]⟩ = ⟨seen, stack⟩ := by
  simp [turn, h]

theorem turn_of_fresh (h : name ∉ seen) :
    turn connections ⟨seen, stack ++ [name]⟩
      = ⟨name :: seen, stack ++ successors connections name⟩ := by
  simp [turn, h]

theorem size_turn_lt (h : work.stack ≠ []) :
    (work.turn connections).size connections < work.size connections := by
  obtain ⟨seen, stack⟩ := work
  obtain ⟨rest, name, rfl⟩ := (List.eq_nil_or_concat' stack).resolve_left h
  by_cases hs : name ∈ seen
  · simp [turn_of_seen hs, size]
  · have hedges := edgesOutside_cons_add_successors_le connections hs
    simp only [turn_of_fresh hs, size, List.length_append, List.length_singleton]
    omega

theorem outcome_turn (connections : Connections) (work : Worklist) :
    (work.turn connections).outcome connections = work.outcome connections := by
  obtain ⟨seen, stack⟩ := work
  rcases List.eq_nil_or_concat' stack with rfl | ⟨rest, name, rfl⟩
  · rfl
  have hpending : (rest ++ [name]).reverse = name :: rest.reverse := by simp
  by_cases hs : name ∈ seen
  · rw [turn_of_seen hs]
    simp only [outcome]
    rw [hpending, reachFrom, dif_pos hs]
  · rw [turn_of_fresh hs]
    simp only [outcome]
    rw [hpending, reachFrom, dif_neg hs, successors_backward, List.reverse_append]

theorem run_of_done (h : work.stack = []) (turns : Nat) :
    work.run connections turns = some (work.outcome connections) := by
  unfold run
  rw [if_pos h, outcome, h, List.reverse_nil, reachFrom]

theorem run_of_size_le {turns : Nat} (h : work.size connections ≤ turns) :
    work.run connections turns = some (work.outcome connections) := by
  induction turns generalizing work with
  | zero =>
    refine run_of_done (List.length_eq_zero_iff.mp ?_) 0
    simp only [size] at h
    omega
  | succ turns ih =>
    by_cases hd : work.stack = []
    · exact run_of_done hd _
    · have hless : (work.turn connections).size connections < work.size connections :=
        size_turn_lt hd
      rw [run, if_neg hd, ih (by omega), outcome_turn]

theorem eq_outcome_of_run {turns : Nat} {names : List String}
    (h : work.run connections turns = some names) : names = work.outcome connections := by
  induction turns generalizing work with
  | zero =>
    by_cases hd : work.stack = []
    · rw [run_of_done hd] at h
      exact (Option.some.inj h).symm
    · rw [run, if_neg hd] at h
      contradiction
  | succ turns ih =>
    by_cases hd : work.stack = []
    · rw [run_of_done hd] at h
      exact (Option.some.inj h).symm
    · rw [run, if_neg hd] at h
      rw [ih h, outcome_turn]

end Turns

end Worklist

/-- The names that the loop meets from a start, if it is over after so many turns. -/
def reachableInPlace (connections : Connections) (turns : Nat) (start : String) :
    Option (List String) :=
  Worklist.run connections turns ⟨[], [start]⟩

theorem edgesOutside_nil (graph : Graph) :
    edgesOutside graph.connections [] = graph.edgeCount := by
  simp [edgesOutside, Number.total_eq_sum, edgeCount, edges, List.length_flatMap]

theorem reachableInPlace_of_lt (graph : Graph) {turns : Nat} (h : graph.edgeCount < turns)
    (start : String) :
    reachableInPlace graph.connections turns start
      = some (reachable (backward graph.connections) start) := by
  refine Worklist.run_of_size_le ?_
  rw [Worklist.size, edgesOutside_nil]
  exact h

/-- The loop comes to an end on every graph, after a turn for the start and at most one for each
edge. It meets each name once, and exactly those to which a path of any length leads from the start;
in another order of the edges it meets the same ones. -/
theorem reachableInPlace_exact (graph : Graph) (keyed : Keyed graph.connections)
    (start : String) :
    ∃ names : List String, names.Nodup ∧
      (∀ turns > graph.edgeCount, reachableInPlace graph.connections turns start = some names) ∧
      (∀ turns answer, reachableInPlace graph.connections turns start = some answer →
        answer = names) ∧
      (∀ name, name ∈ names ↔ ReflTransGen (Leads graph.connections) start name) ∧
      names.Perm (reachable graph.connections start) ∧
      ∀ other : Graph, Rearranged graph.connections other.connections →
        ∀ turns > other.edgeCount, ∃ answer,
          reachableInPlace other.connections turns start = some answer ∧ answer.Perm names := by
  have hperm := (rearranged_backward graph.connections).reachable_perm start
  refine ⟨reachable (backward graph.connections) start, nodup_reachable _ start,
    fun turns h => reachableInPlace_of_lt graph h start,
    fun turns answer h => Worklist.eq_outcome_of_run h, fun name => ?_, hperm,
    fun other rearranged turns h => ?_⟩
  · rw [hperm.mem_iff, mem_reachable_iff keyed]
  · refine ⟨_, reachableInPlace_of_lt other h start, ?_⟩
    have hother := (rearranged_backward other.connections).reachable_perm start
    exact hother.trans ((rearranged.reachable_perm start).symm.trans hperm.symm)

/-- Edges that lead in a circle and back to their own name, the same edge twice, and an edge to a
name that no node has. -/
def roundabout : Graph where
  id := "1"
  name := "Roundabout"
  nodes := []
  connections := [
    ("Start", [.main "Fetch", .main "Fetch", .main "Log"]),
    ("Fetch", [.main "Notify", .main "Start"]),
    ("Log", [.main "Log"]),
    ("Aside", [.main "Start"])]
  active := false
  settings := []
  tags := []
  version := "1"
  metadata := []

theorem reachableInPlace_exact_roundabout :
    Keyed roundabout.connections ∧
      reachableInPlace roundabout.connections 8 "Start"
        = some ["Notify", "Fetch", "Log", "Start"] ∧
      ∀ name, name ∈ ["Notify", "Fetch", "Log", "Start"]
        ↔ ReflTransGen (Leads roundabout.connections) "Start" name := by
  have keyed : Keyed roundabout.connections := by decide
  have hrun : reachableInPlace roundabout.connections 8 "Start"
      = some ["Notify", "Fetch", "Log", "Start"] := by decide
  obtain ⟨names, -, -, hanswer, hpaths, -⟩ := reachableInPlace_exact roundabout keyed "Start"
  rw [← hanswer 8 _ hrun] at hpaths
  exact ⟨keyed, hrun, hpaths⟩

end Flowplan.Graph
