import Flowplan.Graph.Lowering
import Flowplan.Proofs.Graph.WellFormed
import Mathlib.Data.List.Nodup

namespace Flowplan.Graph

open Relation

theorem sources_chain (path : List Node) :
    (chain path).map (·.1) = (path.map (·.name)).dropLast := by
  induction path with
  | nil => rfl
  | cons first rest ih =>
    cases rest with
    | nil => rfl
    | cons second rest => simp [chain, ih]

theorem targets_chain (path : List Node) :
    ((chain path).flatMap (·.2)).map (·.target) = (path.map (·.name)).tail := by
  induction path with
  | nil => rfl
  | cons first rest ih =>
    cases rest with
    | nil => rfl
    | cons second rest => simp [chain, ih, Edge.main]

/-- An edge of a path leads from a node to the next one. -/
theorem infix_of_leads_chain {path : List Node} {source target : String}
    (edge : Leads (chain path) source target) : [source, target] <:+: path.map (·.name) := by
  obtain ⟨edges, hm, ht⟩ := edge
  induction path with
  | nil => simp [chain] at hm
  | cons first rest ih =>
    cases rest with
    | nil => simp [chain] at hm
    | cons second rest =>
      rcases List.mem_cons.mp hm with he | hm
      · obtain ⟨rfl, rfl⟩ := Prod.mk.inj he
        obtain rfl : target = second.name := by simpa [Edge.main] using ht
        exact ⟨[], rest.map (·.name), by simp⟩
      · exact List.infix_cons (ih hm)

theorem idxOf_lt_of_infix {names : List String} (distinct : names.Nodup) {a b : String}
    (h : [a, b] <:+: names) : names.idxOf a < names.idxOf b := by
  obtain ⟨before, after, rfl⟩ := h
  have hd : (before ++ a :: b :: after).Nodup := by simpa using distinct
  have ha : a ∉ before := fun hm => (List.nodup_append.mp hd).2.2 a hm a (by simp) rfl
  have hb : b ∉ before := fun hm => (List.nodup_append.mp hd).2.2 b hm b (by simp) rfl
  have hne : b ≠ a := by
    rintro rfl
    have := (List.nodup_append.mp hd).2.1
    simp at this
  simp [List.idxOf_append, ha, hb, List.idxOf_cons_ne _ hne.symm]

/-- The nodes of a graph form a main path and a side path, under distinct names. -/
structure OfPaths (graph : Graph) (path aside : List Node) : Prop where
  nodes_eq : graph.nodes = path ++ aside
  connections_eq : graph.connections = chain path ++ chain aside
  distinct : graph.names.Nodup

namespace OfPaths

variable {graph : Graph} {path aside : List Node} (paths : graph.OfPaths path aside)

include paths

theorem names_eq : graph.names = path.map (·.name) ++ aside.map (·.name) := by
  rw [names, paths.nodes_eq, List.map_append]

theorem keyed : Keyed graph.connections := by
  unfold Keyed
  rw [paths.connections_eq, List.map_append, sources_chain, sources_chain]
  have distinct := paths.distinct
  rw [paths.names_eq] at distinct
  exact distinct.sublist ((List.dropLast_sublist _).append (List.dropLast_sublist _))

theorem targets_eq : graph.edges.map (·.target)
    = (path.map (·.name)).tail ++ (aside.map (·.name)).tail := by
  rw [edges, paths.connections_eq, List.flatMap_append, List.map_append, targets_chain,
    targets_chain]

theorem infix_of_leads {source target : String} (edge : Leads graph.connections source target) :
    [source, target] <:+: path.map (·.name) ∨ [source, target] <:+: aside.map (·.name) := by
  obtain ⟨edges, hm, ht⟩ := edge
  rw [paths.connections_eq] at hm
  rcases List.mem_append.mp hm with hm | hm
  · exact .inl (infix_of_leads_chain ⟨edges, hm, ht⟩)
  · exact .inr (infix_of_leads_chain ⟨edges, hm, ht⟩)

/-- Every edge leads on in the order of the names, so that none leads back. -/
theorem idxOf_lt_of_leads {source target : String}
    (edge : Leads graph.connections source target) :
    graph.names.idxOf source < graph.names.idxOf target := by
  refine idxOf_lt_of_infix paths.distinct ?_
  rw [paths.names_eq]
  rcases paths.infix_of_leads edge with h | h
  · exact List.infix_append_of_infix_left h
  · exact List.infix_append_of_infix_right h

theorem acyclic (name : String) : ¬TransGen (Leads graph.connections) name name := by
  have hlt : ∀ {a b}, TransGen (Leads graph.connections) a b →
      graph.names.idxOf a < graph.names.idxOf b := by
    intro a b walk
    induction walk with
    | single edge => exact paths.idxOf_lt_of_leads edge
    | tail _ edge ih => exact Nat.lt_trans ih (paths.idxOf_lt_of_leads edge)
  exact fun cycle => Nat.lt_irrefl _ (hlt cycle)

theorem disjoint {name : String} (hp : name ∈ path.map (·.name)) : name ∉ aside.map (·.name) := by
  have distinct := paths.distinct
  rw [paths.names_eq] at distinct
  exact fun ha => (List.nodup_append.mp distinct).2.2 name hp name ha rfl

/-- Nothing leads off the main path. -/
theorem mem_path_of_reachable {start name : String} (hs : start ∈ path.map (·.name))
    (walk : ReflTransGen (Leads graph.connections) start name) : name ∈ path.map (·.name) := by
  induction walk with
  | refl => exact hs
  | tail _ edge ih =>
    rcases paths.infix_of_leads edge with h | h
    · exact h.subset (by simp)
    · exact absurd (h.subset (by simp)) (paths.disjoint ih)

theorem wellFormed {first : Node} {rest : List Node} (hp : path = first :: rest)
    (trigger : first.isTrigger) (others : ∀ node ∈ rest ++ aside, ¬node.isTrigger) :
    graph.WellFormed (aside.head?.toList.map (·.name)) := by
  have htargets : ∀ name, (∃ edge ∈ graph.edges, edge.target = name) ↔
      name ∈ rest.map (·.name) ++ (aside.map (·.name)).tail := by
    intro name
    rw [← List.mem_map, paths.targets_eq, hp]
    rfl
  have hnames : graph.names = first.name :: (rest ++ aside).map (·.name) := by
    simp [paths.names_eq, hp]
  have hnodes : graph.nodes = first :: (rest ++ aside) := by simp [paths.nodes_eq, hp]
  have hfirst : first.name ∉ (rest ++ aside).map (·.name) :=
    (List.nodup_cons.mp (hnames ▸ paths.distinct)).1
  have hsub : rest.map (·.name) ++ (aside.map (·.name)).tail ⊆ (rest ++ aside).map (·.name) := by
    rw [List.map_append]
    exact List.append_subset.mpr ⟨List.subset_append_left _ _,
      List.Subset.trans (List.tail_sublist _).subset (List.subset_append_right _ _)⟩
  constructor
  case distinct => exact paths.distinct
  case sources_known =>
    intro entry hm
    have hs := List.mem_map_of_mem (f := (·.1)) hm
    rw [paths.connections_eq, List.map_append, sources_chain, sources_chain] at hs
    rw [paths.names_eq]
    exact ((List.dropLast_sublist _).append (List.dropLast_sublist _)).subset hs
  case targets_known =>
    intro edge hm
    rw [hnames]
    exact List.mem_cons_of_mem _ (hsub ((htargets _).mp ⟨edge, hm, rfl⟩))
  case triggered => exact ⟨first, by simp [hnodes], trigger⟩
  case triggers_unfed =>
    intro node hm ht edge he heq
    rw [hnodes] at hm
    rcases List.mem_cons.mp hm with rfl | hm
    · exact hfirst (hsub ((htargets _).mp ⟨edge, he, heq⟩))
    · exact others node hm ht
  case others_fed =>
    intro node hm ht hroot
    rw [hnodes] at hm
    rw [htargets]
    rcases List.mem_cons.mp hm with rfl | hm
    · exact absurd trigger ht
    rcases List.mem_append.mp hm with hm | hm
    · exact List.mem_append_left _ (List.mem_map_of_mem hm)
    · refine List.mem_append_right _ ?_
      cases aside with
      | nil => simp at hm
      | cons head tail =>
        rcases List.mem_cons.mp hm with rfl | hm
        · simp at hroot
        · exact List.mem_map_of_mem hm
  case roots_apart =>
    intro start hs root hroot walk
    have hstart : start = first := by
      unfold trigger? at hs
      rw [hnodes, List.find?_cons_of_pos trigger] at hs
      exact (Option.some.inj hs).symm
    subst hstart
    have hpath := paths.mem_path_of_reachable (by simp [hp]) walk
    refine paths.disjoint hpath ?_
    cases aside with
    | nil => simp at hroot
    | cons head tail => simpa using .inl (by simpa using hroot)
  case acyclic => exact paths.acyclic

end OfPaths

end Flowplan.Graph
