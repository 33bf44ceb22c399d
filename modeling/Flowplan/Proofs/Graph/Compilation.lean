import Flowplan.Proofs.Graph.Chain
import Flowplan.Proofs.Graph.Naming
import Flowplan.Proofs.Requirement.Feed

namespace Flowplan

namespace Signal

theorem mem_of_firstChoice?_eq_some {α : Type} {rules : List (α × List String)} {text : String}
    {choice : α} (h : firstChoice? rules text = some choice) : choice ∈ rules.map (·.1) := by
  obtain ⟨rule, hf, rfl⟩ := Option.map_eq_some_iff.mp h
  exact List.mem_map_of_mem (List.mem_of_find?_eq_some hf)

end Signal

namespace Graph

def Draft.isTrigger (draft : Draft) : Bool :=
  draft.type ∈ triggerTypes

theorem processingDraft_cases {p : Draft → Prop} {text : String} (ai : p (aiDraft text))
    (data : p .transformData) (general : p .processData) (component : Component) :
    p (processingDraft text component) := by
  unfold processingDraft
  split
  · exact ai
  split
  · exact data
  · exact general

theorem integrationDraft_cases {p : Draft → Prop}
    (rules : ∀ draft ∈ serviceRules.map (·.1), p draft) (general : p .httpRequest)
    (spec : IntegrationSpec) : p (integrationDraft spec) := by
  unfold integrationDraft
  cases h : Signal.firstChoice? serviceRules (Text.fold spec.service) with
  | none => exact general
  | some draft => exact rules draft (Signal.mem_of_firstChoice?_eq_some h)

theorem forall_mem_orDefault {p : Draft → Prop} {drafts : List Draft} {draft : Draft}
    (hall : ∀ d ∈ drafts, p d) (hd : p draft) : ∀ d ∈ orDefault drafts draft, p d := by
  unfold orDefault
  split
  · simpa using hd
  · exact hall

theorem flatten_mainGroups (blueprint : Blueprint) (text : String) (options : GraphOptions) :
    (mainGroups blueprint text options).flatten = (Trigger.ofText text).draft ::
      ((if options.security = .basic then [] else [.validation])
        ++ processingDrafts blueprint.architecture text
        ++ (integrationDrafts blueprint.architecture.integrations).map (fun draft =>
          if options.retries then draft.retrying else draft)
        ++ [.notification blueprint.title]) := by
  unfold mainGroups
  split <;> simp

/-- What holds of every draft after the first one on a main path. -/
theorem forall_mem_tail_mainGroups {p : Draft → Prop} {blueprint : Blueprint} {text : String}
    {options : GraphOptions} (validation : p .validation)
    (processing : ∀ component, p (processingDraft text component)) (processed : p .processData)
    (integration : ∀ spec, p (integrationDraft spec)) (requested : p .httpRequest)
    (retrying : ∀ draft, p draft → p draft.retrying)
    (notification : p (.notification blueprint.title)) :
    ∀ draft ∈ (mainGroups blueprint text options).flatten.tail, p draft := by
  have hvalidation : ∀ draft ∈ (if options.security = .basic then [] else [Draft.validation]),
      p draft := by
    split
    · simp
    · simpa using validation
  have hprocessing : ∀ draft ∈ processingDrafts blueprint.architecture text, p draft := by
    refine forall_mem_orDefault ?_ processed
    simp only [List.forall_mem_map]
    exact fun component _ => processing component
  have hintegration : ∀ draft ∈ integrationDrafts blueprint.architecture.integrations,
      p draft := by
    refine forall_mem_orDefault ?_ requested
    simp only [List.forall_mem_map]
    exact fun spec _ => integration spec
  have hretrying : ∀ draft ∈ (integrationDrafts blueprint.architecture.integrations).map
      (fun draft => if options.retries then draft.retrying else draft), p draft := by
    simp only [List.forall_mem_map]
    intro draft hm
    split
    · exact retrying draft (hintegration draft hm)
    · exact hintegration draft hm
  rw [flatten_mainGroups, List.tail_cons]
  simp only [List.forall_mem_append, List.forall_mem_singleton]
  exact ⟨⟨⟨hvalidation, hprocessing⟩, hretrying⟩, notification⟩

/-- The nodes of a graph under construction: those of the groups on the main path, and those of a
list of drafts aside. -/
structure BuiltFrom (graph : Graph) (groups : List (List Draft)) (side : List Draft) : Prop where
  nodes_eq : graph.nodes = (Canvas.empty.addGroups groups).1
    ++ ((Canvas.empty.addGroups groups).2.addAll side).1
  connections_eq : graph.connections = chain (Canvas.empty.addGroups groups).1
    ++ chain ((Canvas.empty.addGroups groups).2.addAll side).1

namespace BuiltFrom

variable {graph : Graph} {groups : List (List Draft)} {side : List Draft}
  (built : graph.BuiltFrom groups side)

include built

theorem ofPaths : graph.OfPaths (Canvas.empty.addGroups groups).1
    ((Canvas.empty.addGroups groups).2.addAll side).1 where
  nodes_eq := built.nodes_eq
  connections_eq := built.connections_eq
  distinct := by
    have hempty : Canvas.empty.taken.Nodup := List.nodup_nil
    have htaken := Canvas.taken_addAll_nodup (Canvas.taken_addGroups_nodup hempty groups) side
    rw [Canvas.taken_addAll, Canvas.taken_addGroups] at htaken
    have hnil : Canvas.empty.taken = [] := rfl
    rw [hnil, List.append_nil, ← List.reverse_append, List.nodup_reverse] at htaken
    rwa [names, built.nodes_eq, List.map_append]

theorem wellFormed {first : Draft} {others : List Draft} (hg : groups.flatten = first :: others)
    (trigger : first.isTrigger) (hothers : ∀ draft ∈ others, draft.isTrigger = false)
    (hside : ∀ draft ∈ side, draft.isTrigger = false) :
    graph.WellFormed
      (((Canvas.empty.addGroups groups).2.addAll side).1.head?.toList.map (·.name)) := by
  have htypes := Canvas.types_addGroups Canvas.empty groups
  rw [hg, List.map_cons] at htypes
  obtain ⟨head, rest, hp, hhead, hrest⟩ := List.map_eq_cons_iff.mp htypes
  have htrigger : ∀ {nodes : List Node} {drafts : List Draft},
      nodes.map (·.type) = drafts.map (·.type) → (∀ draft ∈ drafts, draft.isTrigger = false) →
        ∀ node ∈ nodes, ¬node.isTrigger := by
    intro nodes drafts he hd node hm
    have ht : node.type ∈ drafts.map (·.type) := he ▸ List.mem_map_of_mem hm
    obtain ⟨draft, hmd, hdt⟩ := List.mem_map.mp ht
    have := hd draft hmd
    simpa [Node.isTrigger, Draft.isTrigger, hdt] using this
  refine built.ofPaths.wellFormed hp ?_ ?_
  · simpa [Node.isTrigger, Draft.isTrigger, hhead] using trigger
  · rw [List.forall_mem_append]
    exact ⟨htrigger hrest hothers, htrigger (Canvas.types_addAll _ side) hside⟩

end BuiltFrom

/-- The drafts of the error path, below the end of the main path. -/
def sideDrafts (blueprint : Blueprint) (text : String) (options : GraphOptions) : List Draft :=
  let cursor := (Canvas.empty.addGroups (mainGroups blueprint text options)).2.cursor
  if options.errorHandling then [.errorHandler cursor, .errorNotification cursor] else []

theorem mainNodes_eq (blueprint : Blueprint) (text : String) (options : GraphOptions) :
    mainNodes blueprint text options =
      ((Canvas.empty.addGroups (mainGroups blueprint text options)).1,
        ((Canvas.empty.addGroups (mainGroups blueprint text options)).2.addAll
          (sideDrafts blueprint text options)).1) := by
  unfold mainNodes sideDrafts
  cases options.errorHandling <;> rfl

theorem builtFrom_mainGraph (blueprint : Blueprint) (text : String) (options : GraphOptions)
    (id : String) : (mainGraph blueprint text options id).BuiltFrom
      (mainGroups blueprint text options) (sideDrafts blueprint text options) := by
  constructor <;> simp [mainGraph, mainNodes_eq]

theorem needsMonitoring_iff (blueprint : Blueprint) (options : GraphOptions) :
    needsMonitoring blueprint options = true ↔
      options.monitoring ∨ 3 < blueprint.architecture.components.length := by
  simp [needsMonitoring]

/-- The graphs of a blueprint, each with an id that does not depend on the options. -/
theorem exists_forall_compile_eq (blueprint : Blueprint) (requirements : List Requirement)
    (ids : Ids) :
    ∃ main data monitoring, ∀ options,
      (blueprint.compile requirements options ids).1 =
        mainGraph blueprint (Requirement.combinedText requirements) options main ::
          ((if needsDataProcessing blueprint then [dataProcessingGraph blueprint data] else [])
            ++ if needsMonitoring blueprint options then [monitoringGraph blueprint monitoring]
              else []) := by
  simp only [Blueprint.compile, pending]
  cases needsDataProcessing blueprint
  · refine ⟨ids.fresh.1, "", ids.fresh.2.fresh.1, fun options => ?_⟩
    cases needsMonitoring blueprint options <;> rfl
  · refine ⟨ids.fresh.1, ids.fresh.2.fresh.1, ids.fresh.2.fresh.2.fresh.1, fun options => ?_⟩
    cases needsMonitoring blueprint options <;> rfl

theorem exists_compile_eq (blueprint : Blueprint) (requirements : List Requirement)
    (options : GraphOptions) (ids : Ids) :
    ∃ main data monitoring,
      (blueprint.compile requirements options ids).1 =
        mainGraph blueprint (Requirement.combinedText requirements) options main ::
          ((if needsDataProcessing blueprint then [dataProcessingGraph blueprint data] else [])
            ++ if needsMonitoring blueprint options then [monitoringGraph blueprint monitoring]
              else []) := by
  obtain ⟨main, data, monitoring, h⟩ := exists_forall_compile_eq blueprint requirements ids
  exact ⟨main, data, monitoring, h options⟩

end Graph

end Flowplan
