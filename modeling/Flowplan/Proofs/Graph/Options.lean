import Flowplan.Proofs.Graph.Compilation

namespace Flowplan.Graph

namespace Canvas

/-- An edit of drafts that a change of the nodes made from them can follow. -/
def Follows (edit : Draft → Draft) (change : Node → Node) : Prop :=
  ∀ (canvas : Canvas) (draft : Draft),
    canvas.add (edit draft) = (change (canvas.add draft).1, (canvas.add draft).2)

variable {edit : Draft → Draft} {change : Node → Node} (follows : Follows edit change)

include follows

theorem addAll_map (canvas : Canvas) (drafts : List Draft) :
    canvas.addAll (drafts.map edit)
      = ((canvas.addAll drafts).1.map change, (canvas.addAll drafts).2) := by
  induction drafts generalizing canvas with
  | nil => rfl
  | cons draft rest ih => simp only [List.map_cons, addAll, follows canvas draft, ih]

theorem addGroups_map (canvas : Canvas) (groups : List (List Draft)) :
    canvas.addGroups (groups.map (·.map edit))
      = ((canvas.addGroups groups).1.map change, (canvas.addGroups groups).2) := by
  induction groups generalizing canvas with
  | nil => rfl
  | cons group rest ih =>
    simp only [List.map_cons, addGroups, addGroup, addAll_map follows, List.length_map, ih,
      List.map_append]

end Canvas

/-- The nodes that call a service. -/
def serviceDrafts : List Draft := .httpRequest :: serviceRules.map (·.1)

def Draft.callsService (draft : Draft) : Bool :=
  draft.type ∈ serviceDrafts.map (·.type)

def Node.callsService (node : Node) : Bool :=
  node.type ∈ serviceDrafts.map (·.type)

/-- A call of a service is tried again if it fails; any other node stays as it is. -/
def Draft.retryingCalls (draft : Draft) : Draft :=
  if draft.callsService then draft.retrying else draft

def Node.retryingCalls (node : Node) : Node :=
  if node.callsService then
    { node with
      parameters := node.parameters ++ [("retryOnFail", .bool true), ("maxTries", .int 3)] }
  else node

theorem follows_retryingCalls : Canvas.Follows Draft.retryingCalls Node.retryingCalls := by
  intro canvas draft
  have hsame : (canvas.add draft).1.callsService = draft.callsService := rfl
  unfold Draft.retryingCalls Node.retryingCalls
  rw [hsame]
  split <;> rfl

theorem Node.name_retryingCalls (node : Node) : node.retryingCalls.name = node.name := by
  unfold retryingCalls
  split <;> rfl

theorem chain_map {change : Node → Node} (same : ∀ node, (change node).name = node.name)
    (path : List Node) : chain (path.map change) = chain path := by
  induction path with
  | nil => rfl
  | cons first rest ih =>
    cases rest with
    | nil => rfl
    | cons second rest =>
      rw [List.map_cons, List.map_cons, chain, same, same, chain]
      exact congrArg _ ih

theorem integrationDraft_mem (spec : IntegrationSpec) : integrationDraft spec ∈ serviceDrafts :=
  integrationDraft_cases (p := (· ∈ serviceDrafts)) (fun _ hm => List.mem_cons_of_mem _ hm)
    List.mem_cons_self spec

theorem mem_serviceDrafts_of_mem {specs : List IntegrationSpec} :
    ∀ draft ∈ integrationDrafts specs, draft ∈ serviceDrafts := by
  refine forall_mem_orDefault ?_ List.mem_cons_self
  simp only [List.forall_mem_map]
  exact fun spec _ => integrationDraft_mem spec

theorem callsService_of_mem {draft : Draft} (hm : draft ∈ serviceDrafts) : draft.callsService :=
  decide_eq_true (List.mem_map_of_mem hm)

theorem callsService_processingDraft (text : String) (component : Component) :
    (processingDraft text component).callsService = false :=
  processingDraft_cases (p := fun draft => draft.callsService = false) rfl (by decide) (by decide)
    component

/-- No draft of the main path calls a service but those for the integrations. -/
theorem callsService_of_mem_processingDrafts {architecture : Architecture} {text : String} :
    ∀ draft ∈ processingDrafts architecture text, draft.callsService = false := by
  refine forall_mem_orDefault ?_ (by decide)
  simp only [List.forall_mem_map]
  exact fun component _ => callsService_processingDraft text component

theorem callsService_triggerDraft (trigger : Trigger) : trigger.draft.callsService = false := by
  cases trigger <;> decide

theorem callsService_sideDrafts (blueprint : Blueprint) (text : String) (options : GraphOptions) :
    ∀ draft ∈ sideDrafts blueprint text options, draft.callsService = false := by
  unfold sideDrafts
  split
  · simp only [List.mem_cons, List.not_mem_nil, or_false, forall_eq_or_imp, forall_eq]
    exact ⟨rfl, rfl⟩
  · simp

theorem retryingCalls_eq_self {draft : Draft} (h : draft.callsService = false) :
    draft.retryingCalls = draft := by
  rw [Draft.retryingCalls, h]
  rfl

theorem map_retryingCalls_eq_self {drafts : List Draft}
    (h : ∀ draft ∈ drafts, draft.callsService = false) : drafts.map Draft.retryingCalls = drafts :=
  (List.map_congr_left fun draft hm => retryingCalls_eq_self (h draft hm)).trans (List.map_id _)

theorem mainGroups_retries (blueprint : Blueprint) (text : String) (options : GraphOptions) :
    mainGroups blueprint text { options with retries := true }
      = (mainGroups blueprint text { options with retries := false }).map
        (·.map Draft.retryingCalls) := by
  have htrigger := retryingCalls_eq_self (callsService_triggerDraft (Trigger.ofText text))
  have hvalidation : Draft.validation.retryingCalls = .validation :=
    retryingCalls_eq_self (by decide)
  have hprocessing := map_retryingCalls_eq_self
    (@callsService_of_mem_processingDrafts blueprint.architecture text)
  have hnotification : (Draft.notification blueprint.title).retryingCalls
      = .notification blueprint.title := retryingCalls_eq_self rfl
  have hcalls : (integrationDrafts blueprint.architecture.integrations).map Draft.retrying
      = (integrationDrafts blueprint.architecture.integrations).map Draft.retryingCalls := by
    refine List.map_congr_left fun draft hm => ?_
    rw [Draft.retryingCalls, if_pos (callsService_of_mem (mem_serviceDrafts_of_mem draft hm))]
  unfold mainGroups
  by_cases hbasic : options.security = .basic <;>
    simp [hbasic, htrigger, hvalidation, hprocessing, hnotification, hcalls]

/-- The graph with its calls of services tried again. -/
def withRetries (graph : Graph) : Graph :=
  { graph with nodes := graph.nodes.map Node.retryingCalls }

/-- The graph with the progress of its runs saved. -/
def withProgress (graph : Graph) : Graph :=
  { graph with settings := graph.settings ++ [("saveExecutionProgress", .bool true)] }

/-- The graph with a handler of errors, and a node that it leads to, beside its nodes. -/
def withErrorPath (graph : Graph) (handler notifier : Node) : Graph :=
  { graph with
    nodes := graph.nodes ++ [handler, notifier]
    connections := graph.connections ++ [(handler.name, [.main notifier.name])]
    metadata := graph.metadata ++ [("errorPath", .strings [handler.name])] }

theorem sideDrafts_retries (blueprint : Blueprint) (text : String) (options : GraphOptions) :
    sideDrafts blueprint text { options with retries := true }
      = sideDrafts blueprint text { options with retries := false } := by
  unfold sideDrafts
  rw [mainGroups_retries, Canvas.addGroups_map follows_retryingCalls]

theorem mainNodes_retries (blueprint : Blueprint) (text : String) (options : GraphOptions) :
    mainNodes blueprint text { options with retries := true }
      = ((mainNodes blueprint text { options with retries := false }).1.map Node.retryingCalls,
        (mainNodes blueprint text { options with retries := false }).2.map Node.retryingCalls) := by
  have hside := congrArg Prod.fst (Canvas.addAll_map follows_retryingCalls
    (Canvas.empty.addGroups (mainGroups blueprint text { options with retries := false })).2
    (sideDrafts blueprint text { options with retries := false }))
  rw [map_retryingCalls_eq_self (callsService_sideDrafts _ _ _)] at hside
  rw [mainNodes_eq, mainNodes_eq, sideDrafts_retries, mainGroups_retries,
    Canvas.addGroups_map follows_retryingCalls]
  exact Prod.ext rfl hside

theorem mainGraph_retries (blueprint : Blueprint) (text id : String) (options : GraphOptions) :
    mainGraph blueprint text { options with retries := true } id
      = (mainGraph blueprint text { options with retries := false } id).withRetries := by
  unfold mainGraph withRetries
  rw [mainNodes_retries]
  generalize mainNodes blueprint text { options with retries := false } = nodes
  obtain ⟨path, aside⟩ := nodes
  have hmetadata : (aside.map Node.retryingCalls).head?.toList.map
      (fun handler => ("errorPath", Json.strings [handler.name]))
      = aside.head?.toList.map fun handler => ("errorPath", Json.strings [handler.name]) := by
    cases aside with
    | nil => rfl
    | cons handler rest => simp [Node.name_retryingCalls]
  simp only [chain_map Node.name_retryingCalls, hmetadata, List.map_append]

theorem mainGraph_logging (blueprint : Blueprint) (text id : String) (options : GraphOptions) :
    mainGraph blueprint text { options with logging := true } id
      = (mainGraph blueprint text { options with logging := false } id).withProgress := rfl

/-- The error path is made of two nodes below the end of the main path, which stays as it is. -/
theorem mainGraph_errorHandling (blueprint : Blueprint) (text id : String)
    (options : GraphOptions) :
    ∃ handler notifier place handlerId notifierId,
      handler = (Draft.errorHandler place).node handlerId handler.name place ∧
      notifier = (Draft.errorNotification place).node notifierId notifier.name place ∧
      mainGraph blueprint text { options with errorHandling := true } id
        = (mainGraph blueprint text { options with errorHandling := false } id).withErrorPath
          handler notifier := by
  have hgroups : mainGroups blueprint text { options with errorHandling := true }
      = mainGroups blueprint text { options with errorHandling := false } := rfl
  unfold mainGraph withErrorPath mainNodes
  rw [hgroups]
  generalize Canvas.empty.addGroups
    (mainGroups blueprint text { options with errorHandling := false }) = main
  obtain ⟨path, canvas⟩ := main
  refine ⟨(canvas.add (.errorHandler canvas.cursor)).1,
    ((canvas.add (.errorHandler canvas.cursor)).2.add (.errorNotification canvas.cursor)).1,
    canvas.cursor, _, _, rfl, rfl, ?_⟩
  simp [Canvas.addAll, chain]

/-- The drafts that call a service are those for the integrations. -/
theorem filter_callsService (blueprint : Blueprint) (text : String) (options : GraphOptions) :
    ((mainGroups blueprint text options).flatten ++ sideDrafts blueprint text options).filter
        (·.callsService)
      = (integrationDrafts blueprint.architecture.integrations).map fun draft =>
        if options.retries then draft.retrying else draft := by
  have hnone : ∀ drafts : List Draft, (∀ draft ∈ drafts, draft.callsService = false) →
      drafts.filter (·.callsService) = [] := by simp
  have hvalidation : (if options.security = .basic then [] else [Draft.validation]).filter
      (·.callsService) = [] := by
    split
    · rfl
    · exact hnone _ (by decide)
  have hcalls : ((integrationDrafts blueprint.architecture.integrations).map fun draft =>
      if options.retries then draft.retrying else draft).filter (·.callsService)
      = (integrationDrafts blueprint.architecture.integrations).map fun draft =>
        if options.retries then draft.retrying else draft := by
    refine List.filter_eq_self.mpr ?_
    simp only [List.forall_mem_map]
    intro draft hm
    have hdraft := callsService_of_mem (mem_serviceDrafts_of_mem draft hm)
    split
    · exact hdraft
    · exact hdraft
  have hnotification : [Draft.notification blueprint.title].filter (·.callsService) = [] :=
    hnone _ (by simp only [List.mem_singleton, forall_eq]; rfl)
  rw [flatten_mainGroups, List.cons_append, List.filter_cons_of_neg
    (by simp [callsService_triggerDraft])]
  simp only [List.filter_append, hvalidation, hcalls, hnotification,
    hnone _ callsService_of_mem_processingDrafts, hnone _ (callsService_sideDrafts _ _ _),
    List.nil_append, List.append_nil]

/-- What a node does: its type and its parameters. -/
def Draft.content (draft : Draft) : RawText × Record.Members :=
  (draft.type, draft.parameters)

def Node.content (node : Node) : RawText × Record.Members :=
  (node.type, node.parameters)

theorem contents_mainGraph (blueprint : Blueprint) (text id : String) (options : GraphOptions) :
    (mainGraph blueprint text options id).nodes.map Node.content
      = ((mainGroups blueprint text options).flatten
        ++ sideDrafts blueprint text options).map Draft.content := by
  have same : ∀ (draft : Draft) id name cursor,
      (draft.node id name cursor).content = draft.content :=
    fun _ _ _ _ => rfl
  rw [(builtFrom_mainGraph blueprint text options id).nodes_eq, List.map_append, List.map_append,
    Canvas.map_addGroups same, Canvas.map_addAll same]

/-- The nodes that call a service are those for the integrations. -/
theorem calls_mainGraph (blueprint : Blueprint) (text id : String) (options : GraphOptions) :
    ((mainGraph blueprint text options id).nodes.filter (·.callsService)).map Node.content
      = (integrationDrafts blueprint.architecture.integrations).map fun draft =>
        (if options.retries then draft.retrying else draft).content := by
  have hfilter := congrArg (List.filter fun content : RawText × Record.Members =>
    decide (content.1 ∈ serviceDrafts.map (·.type))) (contents_mainGraph blueprint text id options)
  rw [List.filter_map, List.filter_map] at hfilter
  have hcalls := congrArg (List.map Draft.content) (filter_callsService blueprint text options)
  rw [List.map_map] at hcalls
  exact hfilter.trans hcalls

theorem untried_mainGraph {blueprint : Blueprint} {text id : String} {options : GraphOptions}
    {node : Node}
    (hm : node ∈ (mainGraph blueprint text { options with retries := false } id).nodes)
    (calls : node.callsService) :
    node.parameters.lookup "retryOnFail" = none ∧ node.parameters.lookup "maxTries" = none := by
  have huntried : ∀ draft ∈ serviceDrafts, draft.content.2.lookup "retryOnFail" = none ∧
      draft.content.2.lookup "maxTries" = none := by decide
  have hcontent : node.content ∈ ((mainGraph blueprint text { options with retries := false }
      id).nodes.filter (·.callsService)).map Node.content :=
    List.mem_map_of_mem (List.mem_filter.mpr ⟨hm, calls⟩)
  rw [calls_mainGraph] at hcontent
  obtain ⟨draft, hdraft, he⟩ := List.mem_map.mp hcontent
  have h := huntried draft (mem_serviceDrafts_of_mem draft hdraft)
  rw [show draft.content = node.content from he] at h
  exact h

/-- What the options make of the main graph of a blueprint, each of them apart from the others. -/
structure OptionEffects (blueprint : Blueprint) (main : GraphOptions → Graph)
    (options : GraphOptions) : Prop where
  distinct : (main options).names.Nodup
  errorHandling : ∃ handler notifier place handlerId notifierId,
    handler = (Draft.errorHandler place).node handlerId handler.name place ∧
    notifier = (Draft.errorNotification place).node notifierId notifier.name place ∧
    main { options with errorHandling := true }
      = (main { options with errorHandling := false }).withErrorPath handler notifier ∧
    handler.name ∉ (main { options with errorHandling := false }).connections.map (·.1)
  unhandled : (main { options with errorHandling := false }).metadata = []
  logging : main { options with logging := true }
    = (main { options with logging := false }).withProgress
  unlogged : (main { options with logging := false }).settings.lookup "saveExecutionProgress" = none
  retries : main { options with retries := true }
    = (main { options with retries := false }).withRetries
  untried : ∀ node ∈ (main { options with retries := false }).nodes, node.callsService →
    node.parameters.lookup "retryOnFail" = none ∧ node.parameters.lookup "maxTries" = none
  calls : ((main options).nodes.filter (·.callsService)).map (·.type)
    = (integrationDrafts blueprint.architecture.integrations).map (·.type)
  monitoring : ∀ monitoring, main { options with monitoring } = main options
  scalability : ∀ scalability, main { options with scalability } = main options
  security : main { options with security := .high } = main { options with security := .standard }

theorem optionEffects_mainGraph (blueprint : Blueprint) (text id : String)
    (options : GraphOptions) :
    OptionEffects blueprint (mainGraph blueprint text · id) options where
  distinct := (builtFrom_mainGraph blueprint text options id).ofPaths.distinct
  errorHandling := by
    obtain ⟨handler, notifier, place, _, _, hhandler, hnotifier, he⟩ :=
      mainGraph_errorHandling blueprint text id options
    refine ⟨handler, notifier, place, _, _, hhandler, hnotifier, he, ?_⟩
    have keyed := (builtFrom_mainGraph blueprint text { options with errorHandling := true }
      id).ofPaths.keyed
    rw [he, Keyed, withErrorPath, List.map_append] at keyed
    exact fun hm => (List.nodup_append.mp keyed).2.2 _ hm _ List.mem_cons_self rfl
  unhandled := by simp [mainGraph, mainNodes]
  logging := mainGraph_logging blueprint text id options
  unlogged := rfl
  retries := mainGraph_retries blueprint text id options
  untried node hm calls := untried_mainGraph hm calls
  calls := by
    have h := congrArg (List.map (·.1)) (calls_mainGraph blueprint text id options)
    rw [List.map_map, List.map_map] at h
    refine h.trans (List.map_congr_left fun draft _ => ?_)
    cases options.retries <;> rfl
  monitoring _ := rfl
  scalability _ := rfl
  security := rfl

end Flowplan.Graph

namespace Flowplan

open Flowplan.Graph

/-- The options are apart from each other. Which of them are set shows in the main graph, and in
whether there is a monitoring graph; what a supporting graph is like does not depend on them. -/
theorem Blueprint.compile_optionEffects (blueprint : Blueprint) (requirements : List Requirement)
    (ids : Ids) :
    ∃ (main : GraphOptions → Graph) (data : List Graph) (monitoring : Graph),
      (∀ options, (blueprint.compile requirements options ids).1 = main options ::
        (data ++ if options.monitoring ∨ 3 < blueprint.architecture.components.length
          then [monitoring] else [])) ∧
      ∀ options, OptionEffects blueprint main options := by
  obtain ⟨id, data, monitoring, h⟩ := exists_forall_compile_eq blueprint requirements ids
  simp only [needsMonitoring_iff] at h
  exact ⟨_, _, _, h, optionEffects_mainGraph blueprint _ id⟩

end Flowplan
