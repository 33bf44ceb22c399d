import Flowplan.Proofs.Graph.WellFormed
import Mathlib.Order.WellFoundedSet

namespace Flowplan.Graph

open Relation

theorem exists_leads_iff {graph : Graph} {name : String} :
    (∃ source, Leads graph.connections source name) ↔ ∃ edge ∈ graph.edges, edge.target = name := by
  constructor
  · rintro ⟨source, edges, hm, htarget⟩
    obtain ⟨edge, hedge, he⟩ := List.mem_map.mp htarget
    exact ⟨edge, List.mem_flatMap.mpr ⟨(source, edges), hm, hedge⟩, he⟩
  · rintro ⟨edge, hedge, he⟩
    obtain ⟨⟨source, edges⟩, hm, hin⟩ := List.mem_flatMap.mp hedge
    exact ⟨source, edges, hm, List.mem_map.mpr ⟨edge, hin, he⟩⟩

/-- Without a cycle no walk against the edges goes on for ever: all that it meets are sources, of
which there are finitely many. -/
theorem wellFounded_leads {connections : Connections}
    (acyclic : ∀ name, ¬TransGen (Leads connections) name name) :
    WellFounded (Leads connections) := by
  let sources : Set String := { source | source ∈ connections.map (·.1) }
  have hsource : ∀ {source target}, Leads connections source target → source ∈ sources := by
    rintro source target ⟨edges, hm, _⟩
    exact List.mem_map_of_mem (f := (·.1)) hm
  have hstrict : IsStrictOrder String (TransGen (Leads connections)) :=
    { irrefl := acyclic, trans := fun _ _ _ => TransGen.trans }
  have hfinite : sources.Finite := (connections.map (·.1)).finite_toSet
  have hordered : sources.WellFoundedOn (TransGen (Leads connections)) := hfinite.wellFoundedOn
  have hacc : ∀ source ∈ sources, Acc (Leads connections) source := fun source hs =>
    hordered.induction hs fun later _ ih =>
      ⟨later, fun earlier edge => ih earlier (hsource edge) (.single edge)⟩
  exact ⟨fun name => ⟨name, fun source edge => hacc source (hsource edge)⟩⟩

/-- Some way leads to the name from a trigger or from a node on the error path. -/
def IsLive (graph : Graph) (roots : List String) (name : String) : Prop :=
  ∃ entrance ∈ graph.nodes, (entrance.isTrigger ∨ entrance.name ∈ roots) ∧
    ReflTransGen (Leads graph.connections) entrance.name name

theorem WellFormed.isLive {graph : Graph} {roots : List String}
    (wellFormed : graph.WellFormed roots)
    {node : Node} (hm : node ∈ graph.nodes) : graph.IsLive roots node.name := by
  -- Against the edges: a node that is no entrance is fed by an earlier one.
  induction hname : node.name using (wellFounded_leads wellFormed.acyclic).induction
    generalizing node with
  | _ name ih =>
    subst hname
    by_cases hentrance : node.isTrigger ∨ node.name ∈ roots
    · exact ⟨node, hm, hentrance, .refl⟩
    · obtain ⟨htrigger, hroot⟩ := not_or.mp hentrance
      obtain ⟨source, edge⟩ := exists_leads_iff.mpr (wellFormed.others_fed node hm htrigger hroot)
      have hsource : source ∈ graph.names := by
        obtain ⟨edges, hentry, _⟩ := edge
        exact wellFormed.sources_known _ hentry
      obtain ⟨feeder, hfeeder, rfl⟩ := List.mem_map.mp hsource
      obtain ⟨entrance, hin, hkind, path⟩ := ih feeder.name edge hfeeder rfl
      exact ⟨entrance, hin, hkind, path.tail edge⟩

theorem mem_nodeProblems_iff {graph : Graph} {roots : List String} {node : Node}
    {problem : Problem} :
    problem ∈ graph.nodeProblems roots node ↔
      (node.isTrigger ∧ graph.inboundCount node.name ≠ 0
        ∧ problem = .triggerInbound node.name) ∨
      (¬node.isTrigger ∧ (node.name ∉ roots ∧ graph.inboundCount node.name = 0)
        ∧ problem = .noInbound node.name) := by
  unfold nodeProblems
  split
  next htrigger => split <;> simp_all
  next htrigger => split <;> simp_all

theorem mem_problemsWith_iff {graph : Graph} {roots : List String} {problem : Problem} :
    problem ∈ graph.problemsWith roots ↔
      problem ∈ graph.nameProblems ∨ problem ∈ graph.connectionProblems ∨
        problem ∈ graph.triggerProblems ∨
        (∃ node ∈ graph.nodes, problem ∈ graph.nodeProblems roots node) ∨
        (∃ root ∈ graph.reachableRoots roots, .errorPathReachable root = problem) ∨
        problem ∈ graph.cycleProblems := by
  simp [problemsWith, errorPathProblems, List.mem_append]

theorem duplicateNames_mem_problemsWith_iff {graph : Graph} {roots : List String} :
    .duplicateNames ∈ graph.problemsWith roots ↔ ¬graph.names.Nodup := by
  simp [mem_problemsWith_iff, mem_nodeProblems_iff, nameProblems, connectionProblems,
    sourceProblems, triggerProblems, cycleProblems]

theorem noInbound_mem_problemsWith_iff {graph : Graph} {roots : List String} {name : String} :
    .noInbound name ∈ graph.problemsWith roots ↔
      ∃ node ∈ graph.nodes, node.name = name ∧ ¬node.isTrigger ∧ node.name ∉ roots ∧
        ¬∃ source, Leads graph.connections source node.name := by
  have hnode : ∀ node, .noInbound name ∈ graph.nodeProblems roots node ↔
      node.name = name ∧ ¬node.isTrigger ∧ node.name ∉ roots ∧
        ¬∃ source, Leads graph.connections source node.name := by
    intro node
    simp only [mem_nodeProblems_iff, exists_leads_iff, inboundCount_eq_zero_iff]
    grind
  simp [mem_problemsWith_iff, hnode, nameProblems, connectionProblems, sourceProblems,
    triggerProblems, cycleProblems]

/-- A graph with two triggers, of which the second leads to the error path. -/
def twoStarts : Graph where
  id := "g"
  name := "Two starts"
  nodes := [
    ⟨"1", "Start", "n8n-nodes-base.cron", 1, (0, 0), [], none⟩,
    ⟨"2", "Notify", "n8n-nodes-base.emailSend", 1, (0, 0), [], none⟩,
    ⟨"3", "Retry", "n8n-nodes-base.manualTrigger", 1, (0, 0), [], none⟩,
    ⟨"4", "Handler", "n8n-nodes-base.function", 1, (0, 0), [], none⟩]
  connections := [("Start", [.main "Notify"]), ("Retry", [.main "Handler"])]
  active := false
  settings := []
  tags := []
  version := "1"
  metadata := [("errorPath", .strings ["Handler"])]

theorem statesErrorPath_twoStarts : twoStarts.StatesErrorPath ["Handler"] := rfl

theorem problems_twoStarts : twoStarts.problems = .ok [] := by
  have hreach : reachable twoStarts.connections "Start" = ["Notify", "Start"] := by
    simp [twoStarts, reachable, reachFrom, successors, Edge.main, List.lookup_cons]
  have htrigger : twoStarts.trigger?.map (·.name) = some "Start" := by decide
  have hapart : twoStarts.errorPathProblems ["Handler"] = [] := by
    obtain ⟨trigger, hfirst, hname⟩ := Option.map_eq_some_iff.mp htrigger
    simp [errorPathProblems, reachableRoots, hfirst, hname, hreach]
  have hcycle : twoStarts.cycleProblems = [] := by
    simp [cycleProblems, twoStarts, hasCycle, visitAll, visit, successors, Edge.main,
      List.lookup_cons]
  have hrest : twoStarts.nameProblems ++ twoStarts.connectionProblems ++ twoStarts.triggerProblems
      ++ twoStarts.nodes.flatMap (twoStarts.nodeProblems ["Handler"]) = [] := by decide
  rw [problems_eq_of_statesErrorPath statesErrorPath_twoStarts, problemsWith, hrest, hapart,
    hcycle]
  rfl

theorem leads_twoStarts : ∃ trigger ∈ twoStarts.nodes, trigger.isTrigger ∧
    Leads twoStarts.connections trigger.name "Handler" := by
  obtain ⟨trigger, hm, htrigger, hname⟩ : ∃ node ∈ twoStarts.nodes,
      node.isTrigger ∧ node.name = "Retry" := by decide
  have hentry : ("Retry", [Edge.main "Handler"]) ∈ twoStarts.connections := by decide
  exact ⟨trigger, hm, htrigger, hname ▸ ⟨_, hentry, List.mem_singleton_self _⟩⟩

/-- A graph is accepted exactly if there is nothing wrong with it but nodes that no edge leads to,
and no node is dead: each can be reached from a trigger or from a node on the error path. -/
theorem problems_eq_nil_iff_live {graph : Graph} (keyed : Keyed graph.connections)
    {roots : List String} (stated : graph.StatesErrorPath roots) :
    graph.problems = .ok [] ↔
      (∃ problems, graph.problems = .ok problems ∧
        ∀ problem ∈ problems, ∃ name, problem = .noInbound name) ∧
      ∀ node ∈ graph.nodes, graph.IsLive roots node.name := by
  rw [problems_eq_of_statesErrorPath stated]
  simp only [Except.ok.injEq, exists_eq_left']
  constructor
  · intro hnil
    have wellFormed := (problemsWith_eq_nil_iff keyed roots).mp hnil
    exact ⟨by simp [hnil], fun node hm => wellFormed.isLive hm⟩
  · rintro ⟨unfed, live⟩
    have distinct : graph.names.Nodup := by
      by_contra hrepeats
      obtain ⟨name, he⟩ := unfed _ (duplicateNames_mem_problemsWith_iff.mpr hrepeats)
      cases he
    refine List.eq_nil_iff_forall_not_mem.mpr fun problem hm => ?_
    obtain ⟨name, rfl⟩ := unfed problem hm
    obtain ⟨node, hnode, -, htrigger, hroot, hfed⟩ := noInbound_mem_problemsWith_iff.mp hm
    obtain ⟨entrance, hentrance, hkind, path⟩ := live node hnode
    -- No edge leads to the node, so the way that leads to it starts there.
    rcases path.cases_tail with hsame | ⟨source, _, edge⟩
    · obtain rfl := List.inj_on_of_nodup_map distinct hnode hentrance hsame
      exact hkind.elim htrigger hroot
    · exact hfed ⟨source, edge⟩

theorem problems_eq_nil_iff_live_twoStarts :
    Keyed twoStarts.connections ∧ twoStarts.StatesErrorPath ["Handler"] ∧
      twoStarts.problems = .ok [] ∧
      ∀ node ∈ twoStarts.nodes, twoStarts.IsLive ["Handler"] node.name := by
  have keyed : Keyed twoStarts.connections := by decide
  have live := ((problems_eq_nil_iff_live keyed statesErrorPath_twoStarts).mp problems_twoStarts).2
  exact ⟨keyed, statesErrorPath_twoStarts, problems_twoStarts, live⟩

/-- No way leads from the node to a name on the error path. -/
def KeepsApart (graph : Graph) (roots : List String) (node : Node) : Prop :=
  ∀ root ∈ roots, ¬ReflTransGen (Leads graph.connections) node.name root

def withNodes (graph : Graph) (nodes : List Node) : Graph :=
  { graph with nodes }

/-- All that the order of the nodes decides is which trigger is the first. -/
theorem WellFormed.reorder {graph : Graph} {roots : List String} {nodes : List Node}
    (wellFormed : graph.WellFormed roots) (perm : nodes.Perm graph.nodes)
    (apart : ∀ trigger ∈ graph.nodes, trigger.isTrigger → graph.KeepsApart roots trigger) :
    (graph.withNodes nodes).WellFormed roots := by
  have hnames : (graph.withNodes nodes).names.Perm graph.names := perm.map _
  exact {
    distinct := hnames.nodup_iff.mpr wellFormed.distinct
    sources_known := fun entry hm => hnames.mem_iff.mpr (wellFormed.sources_known entry hm)
    targets_known := fun edge hm => hnames.mem_iff.mpr (wellFormed.targets_known edge hm)
    triggered := by
      obtain ⟨node, hm, htrigger⟩ := wellFormed.triggered
      exact ⟨node, perm.mem_iff.mpr hm, htrigger⟩
    triggers_unfed := fun node hm => wellFormed.triggers_unfed node (perm.mem_iff.mp hm)
    others_fed := fun node hm => wellFormed.others_fed node (perm.mem_iff.mp hm)
    roots_apart := fun trigger hfirst =>
      apart trigger (perm.mem_iff.mp (List.mem_of_find?_eq_some hfirst)) (List.find?_some hfirst)
    acyclic := wellFormed.acyclic }

/-- The error path of an accepted graph is apart from the first trigger. It is apart from all
triggers exactly if the graph is accepted in every order of its nodes. -/
theorem triggers_apart_iff_accepted_reordered {graph : Graph} (keyed : Keyed graph.connections)
    {roots : List String} (stated : graph.StatesErrorPath roots)
    (accepted : graph.problems = .ok []) :
    (∀ trigger, graph.trigger? = some trigger → graph.KeepsApart roots trigger) ∧
    ((∀ trigger ∈ graph.nodes, trigger.isTrigger → graph.KeepsApart roots trigger) ↔
      ∀ nodes, nodes.Perm graph.nodes →
        (graph.withNodes nodes).problems = .ok []) := by
  have haccepted : ∀ nodes, (graph.withNodes nodes).problems = .ok [] ↔
      (graph.withNodes nodes).WellFormed roots := by
    intro nodes
    have hstated : (graph.withNodes nodes).StatesErrorPath roots := stated
    have hkeyed : Keyed (graph.withNodes nodes).connections := keyed
    rw [problems_eq_of_statesErrorPath hstated, Except.ok.injEq]
    exact problemsWith_eq_nil_iff hkeyed roots
  have wellFormed : graph.WellFormed roots := (haccepted graph.nodes).mp accepted
  refine ⟨wellFormed.roots_apart, fun apart nodes perm => ?_,
    fun everyOrder trigger hm htrigger => ?_⟩
  · exact (haccepted nodes).mpr (wellFormed.reorder perm apart)
  · -- The trigger is the first one in the order that puts it in front.
    have hfront := everyOrder (trigger :: graph.nodes.erase trigger)
      (List.perm_cons_erase hm).symm
    exact ((haccepted _).mp hfront).roots_apart trigger (List.find?_cons_of_pos htrigger)

theorem triggers_apart_iff_accepted_reordered_twoStarts :
    Keyed twoStarts.connections ∧ twoStarts.StatesErrorPath ["Handler"] ∧
      twoStarts.problems = .ok [] ∧
      ¬∀ nodes, nodes.Perm twoStarts.nodes → (twoStarts.withNodes nodes).problems = .ok [] := by
  have keyed : Keyed twoStarts.connections := by decide
  refine ⟨keyed, statesErrorPath_twoStarts, problems_twoStarts, fun everyOrder => ?_⟩
  have apart := (triggers_apart_iff_accepted_reordered keyed statesErrorPath_twoStarts
    problems_twoStarts).2.mpr everyOrder
  obtain ⟨trigger, hm, htrigger, edge⟩ := leads_twoStarts
  exact apart trigger hm htrigger "Handler" (by simp) (.single edge)

/-- A graph is accepted although one of its triggers leads to the error path. -/
theorem not_apart_twoStarts :
    Keyed twoStarts.connections ∧ twoStarts.StatesErrorPath ["Handler"] ∧
      twoStarts.problems = .ok [] ∧ ∃ trigger ∈ twoStarts.nodes, trigger.isTrigger ∧
        ReflTransGen (Leads twoStarts.connections) trigger.name "Handler" := by
  obtain ⟨trigger, hm, htrigger, edge⟩ := leads_twoStarts
  exact ⟨by decide, statesErrorPath_twoStarts, problems_twoStarts, trigger, hm, htrigger,
    .single edge⟩

end Flowplan.Graph
