import Flowplan.Graph.Structure
import Flowplan.Proofs.Graph.Acyclic

namespace Flowplan.Graph

open Relation

/-- The metadata state the error path: they leave it out, or give its names as a list of texts. -/
def StatesErrorPath (graph : Graph) (roots : List String) : Prop :=
  match graph.metadata.lookup "errorPath" with
  | none => roots = []
  | some json => json = .strings roots

structure WellFormed (graph : Graph) (roots : List String) : Prop where
  distinct : graph.names.Nodup
  sources_known : ∀ entry ∈ graph.connections, entry.1 ∈ graph.names
  targets_known : ∀ edge ∈ graph.edges, edge.target ∈ graph.names
  triggered : ∃ node ∈ graph.nodes, node.isTrigger
  triggers_unfed : ∀ node ∈ graph.nodes, node.isTrigger → ∀ edge ∈ graph.edges,
    edge.target ≠ node.name
  others_fed : ∀ node ∈ graph.nodes, ¬node.isTrigger → node.name ∉ roots →
    ∃ edge ∈ graph.edges, edge.target = node.name
  roots_apart : ∀ trigger, graph.trigger? = some trigger → ∀ root ∈ roots,
    ¬ReflTransGen (Leads graph.connections) trigger.name root
  acyclic : ∀ name, ¬TransGen (Leads graph.connections) name name

theorem nameProblems_eq_nil_iff (graph : Graph) :
    graph.nameProblems = [] ↔ graph.names.Nodup := by
  unfold nameProblems
  by_cases h : graph.names.Nodup <;> simp [h]

theorem connectionProblems_eq_nil_iff (graph : Graph) :
    graph.connectionProblems = [] ↔
      (∀ entry ∈ graph.connections, entry.1 ∈ graph.names) ∧
        ∀ edge ∈ graph.edges, edge.target ∈ graph.names := by
  have hentry : ∀ entry, graph.sourceProblems entry = [] ↔
      entry.1 ∈ graph.names ∧ ∀ edge ∈ entry.2, edge.target ∈ graph.names := by
    intro entry
    unfold sourceProblems
    by_cases h : entry.1 ∈ graph.names <;> simp [h]
  unfold connectionProblems edges
  rw [List.flatMap_eq_nil_iff]
  simp only [hentry, List.mem_flatMap]
  constructor
  · intro h
    refine ⟨fun entry hm => (h entry hm).1, ?_⟩
    rintro edge ⟨entry, hm, he⟩
    exact (h entry hm).2 edge he
  · rintro ⟨hs, ht⟩ entry hm
    exact ⟨hs entry hm, fun edge he => ht edge ⟨entry, hm, he⟩⟩

theorem triggerProblems_eq_nil_iff (graph : Graph) :
    graph.triggerProblems = [] ↔ ∃ node ∈ graph.nodes, node.isTrigger := by
  unfold triggerProblems trigger?
  rw [← List.find?_isSome]
  cases graph.nodes.find? (·.isTrigger) <;> simp

theorem inboundCount_eq_zero_iff (graph : Graph) (name : String) :
    graph.inboundCount name = 0 ↔ ∀ edge ∈ graph.edges, edge.target ≠ name := by
  unfold inboundCount
  rw [List.countP_eq_zero]
  simp

theorem nodeProblems_eq_nil_iff (graph : Graph) (roots : List String) (node : Node) :
    graph.nodeProblems roots node = [] ↔
      (node.isTrigger → ∀ edge ∈ graph.edges, edge.target ≠ node.name) ∧
        (¬node.isTrigger → node.name ∉ roots →
          ∃ edge ∈ graph.edges, edge.target = node.name) := by
  have hfed : (∃ edge ∈ graph.edges, edge.target = node.name) ↔
      graph.inboundCount node.name ≠ 0 := by
    rw [ne_eq, inboundCount_eq_zero_iff]
    simp
  rw [hfed, ← inboundCount_eq_zero_iff]
  unfold nodeProblems
  by_cases ht : node.isTrigger <;> by_cases hc : graph.inboundCount node.name = 0 <;>
    simp [ht, hc]

theorem errorPathProblems_eq_nil_iff {graph : Graph} (keyed : Keyed graph.connections)
    (roots : List String) :
    graph.errorPathProblems roots = [] ↔
      ∀ trigger, graph.trigger? = some trigger → ∀ root ∈ roots,
        ¬ReflTransGen (Leads graph.connections) trigger.name root := by
  have hnil : graph.errorPathProblems roots = [] ↔ graph.reachableRoots roots = [] := by
    unfold errorPathProblems
    rw [← List.length_eq_zero_iff, List.length_mergeSort, List.length_map,
      List.length_eq_zero_iff]
  rw [hnil]
  unfold reachableRoots
  cases graph.trigger? with
  | none => simp
  | some trigger =>
    simp only [Option.some.injEq, forall_eq', ← mem_reachable_iff keyed]
    rw [List.eq_nil_iff_forall_not_mem]
    simp [List.mem_eraseDups]

theorem cycleProblems_eq_nil_iff {graph : Graph} (keyed : Keyed graph.connections) :
    graph.cycleProblems = [] ↔ ∀ name, ¬TransGen (Leads graph.connections) name name := by
  unfold cycleProblems
  rw [← not_exists, ← hasCycle_iff keyed]
  cases hasCycle graph.connections <;> simp

theorem problemsWith_eq_nil_iff {graph : Graph} (keyed : Keyed graph.connections)
    (roots : List String) : graph.problemsWith roots = [] ↔ graph.WellFormed roots := by
  unfold problemsWith
  simp only [List.append_eq_nil_iff, nameProblems_eq_nil_iff, connectionProblems_eq_nil_iff,
    triggerProblems_eq_nil_iff, List.flatMap_eq_nil_iff, nodeProblems_eq_nil_iff,
    errorPathProblems_eq_nil_iff keyed, cycleProblems_eq_nil_iff keyed]
  constructor
  · rintro ⟨⟨⟨⟨⟨distinct, sources, targets⟩, triggered⟩, hnodes⟩, apart⟩, acyclic⟩
    exact ⟨distinct, sources, targets, triggered, fun node hm => (hnodes node hm).1,
      fun node hm => (hnodes node hm).2, apart, acyclic⟩
  · intro h
    exact ⟨⟨⟨⟨⟨h.distinct, h.sources_known, h.targets_known⟩, h.triggered⟩,
      fun node hm => ⟨h.triggers_unfed node hm, h.others_fed node hm⟩⟩, h.roots_apart⟩, h.acyclic⟩

theorem sideRoots_strings (roots : List String) : sideRoots (roots.map .str) = .ok roots := by
  induction roots with
  | nil => rfl
  | cons root rest ih => simp [sideRoots, ih, Except.map]

theorem problems_of_sideRoots {graph : Graph} {parts : List Json} {roots : List String}
    (hparts : graph.errorPath = .ok parts) (hroots : sideRoots parts = .ok roots) :
    graph.problems = .ok (graph.problemsWith roots) := by
  simp [problems, hparts, hroots, bind, Except.bind, pure, Except.pure]

theorem problems_eq_of_statesErrorPath {graph : Graph} {roots : List String}
    (stated : graph.StatesErrorPath roots) :
    graph.problems = .ok (graph.problemsWith roots) := by
  unfold StatesErrorPath at stated
  cases hl : graph.metadata.lookup "errorPath" with
  | none =>
    rw [hl] at stated
    have hparts : graph.errorPath = .ok [] := by rw [errorPath, hl]
    exact problems_of_sideRoots hparts (by rw [stated]; rfl)
  | some json =>
    rw [hl] at stated
    subst stated
    have hparts : graph.errorPath = .ok (roots.map .str) := by
      rw [errorPath, hl]
      rfl
    exact problems_of_sideRoots hparts (sideRoots_strings roots)

/-- A graph has no problem exactly if it is well formed. -/
theorem problems_eq_nil_iff_wellFormed (graph : Graph) (keyed : Keyed graph.connections)
    (roots : List String) (stated : graph.StatesErrorPath roots) :
    graph.problems = .ok [] ↔ graph.WellFormed roots := by
  rw [problems_eq_of_statesErrorPath stated, Except.ok.injEq]
  exact problemsWith_eq_nil_iff keyed roots

/-- A path with a fork, and an error path beside it. -/
def forked : Graph where
  id := "g"
  name := "Forked"
  nodes := [
    ⟨"1", "Start", "n8n-nodes-base.cron", 1, (0, 0), [], none⟩,
    ⟨"2", "Left", "n8n-nodes-base.set", 1, (0, 0), [], none⟩,
    ⟨"3", "Right", "n8n-nodes-base.set", 1, (0, 0), [], none⟩,
    ⟨"4", "Handler", "n8n-nodes-base.function", 1, (0, 0), [], none⟩,
    ⟨"5", "Alert", "n8n-nodes-base.emailSend", 1, (0, 0), [], none⟩]
  connections := [
    ("Start", [.main "Left", .main "Right"]),
    ("Left", [.main "Right"]),
    ("Handler", [.main "Alert"])]
  active := false
  settings := []
  tags := []
  version := "1"
  metadata := [("errorPath", .strings ["Handler"])]

theorem problems_eq_nil_iff_wellFormed_forked :
    Keyed forked.connections ∧ forked.StatesErrorPath ["Handler"] ∧
      forked.problems = .ok [] ∧ forked.WellFormed ["Handler"] := by
  have keyed : Keyed forked.connections := by decide
  have stated : forked.StatesErrorPath ["Handler"] := rfl
  have hreach : reachable forked.connections "Start" = ["Right", "Left", "Start"] := by
    simp [forked, reachable, reachFrom, successors, Edge.main, List.lookup_cons]
  have hapart : forked.errorPathProblems ["Handler"] = [] := by
    have ht : forked.trigger? = forked.nodes.head? := by decide
    simp [errorPathProblems, reachableRoots, ht, show forked.nodes.head? = some
      ⟨"1", "Start", "n8n-nodes-base.cron", 1, (0, 0), [], none⟩ from rfl, hreach]
  have hcycle : forked.cycleProblems = [] := by
    simp [cycleProblems, forked, hasCycle, visitAll, visit, successors, Edge.main,
      List.lookup_cons]
  have hrest : forked.nameProblems ++ forked.connectionProblems ++ forked.triggerProblems
      ++ forked.nodes.flatMap (forked.nodeProblems ["Handler"]) = [] := by decide
  have sound : forked.problems = .ok [] := by
    rw [problems_eq_of_statesErrorPath stated, problemsWith, hrest, hapart, hcycle]
    rfl
  exact ⟨keyed, stated, sound,
    (problems_eq_nil_iff_wellFormed forked keyed ["Handler"] stated).mp sound⟩

end Flowplan.Graph
