import Flowplan.Proofs.Blueprint.Generation
import Flowplan.Proofs.Graph.Compilation

namespace Flowplan

namespace Graph

def positions (graph : Graph) : List (Int × Int) :=
  graph.nodes.map (·.position)

/-- The place on the main path with a number. -/
def onPath (number : Nat) : Int × Int :=
  (300 + 400 * number, 300)

/-- The places of the error path below the end of a main path of a length. -/
def belowPath (length : Nat) : List (Int × Int) :=
  [(300 + 400 * length, 600), (300 + 400 * length, 800)]

theorem onPath_injective : Function.Injective onPath := by
  intro m n h
  have hfirst := congrArg Prod.fst h
  simp only [onPath] at hfirst
  omega

/-- Where groups of these sizes stand if the first one begins at a column. -/
def placesFrom (start : Nat) : List Nat → List (Int × Int)
  | [] => []
  | size :: rest => List.replicate size (onPath start) ++ placesFrom (start + size) rest

theorem snd_of_mem_placesFrom {start : Nat} {sizes : List Nat} :
    ∀ place ∈ placesFrom start sizes, place.2 = 300 := by
  induction sizes generalizing start with
  | nil => simp [placesFrom]
  | cons size rest ih =>
    rw [placesFrom, List.forall_mem_append]
    refine ⟨fun place hm => ?_, ih⟩
    rw [List.eq_of_mem_replicate hm, onPath]

theorem length_placesFrom (start : Nat) (sizes : List Nat) :
    (placesFrom start sizes).length = sizes.sum := by
  induction sizes generalizing start with
  | nil => rfl
  | cons size rest ih => simp [placesFrom, ih]

/-- Groups of at most one node stand side by side. -/
theorem placesFrom_of_le_one {start : Nat} {sizes : List Nat} (single : ∀ size ∈ sizes, size ≤ 1) :
    placesFrom start sizes = (List.range' start sizes.sum).map onPath := by
  induction sizes generalizing start with
  | nil => rfl
  | cons size rest ih =>
    obtain ⟨hsize, hrest⟩ := List.forall_mem_cons.mp single
    have hfirst : List.replicate size (onPath start) = (List.range' start size).map onPath := by
      obtain rfl | rfl : size = 0 ∨ size = 1 := by omega
      · rfl
      · rfl
    rw [placesFrom, ih hrest, hfirst, ← List.map_append, List.sum_cons, List.range'_append_1]

theorem nodup_map_onPath (start count : Nat) : ((List.range' start count).map onPath).Nodup :=
  (List.nodup_range' 1).map onPath_injective

theorem nodup_placesFrom_iff {start : Nat} {sizes : List Nat} :
    (placesFrom start sizes).Nodup ↔ ∀ size ∈ sizes, size ≤ 1 := by
  refine ⟨fun h => ?_, fun single => ?_⟩
  -- A group of two nodes would already repeat its own place.
  · induction sizes generalizing start with
    | nil => simp
    | cons size rest ih =>
      obtain ⟨hfirst, hrest, -⟩ := List.nodup_append.mp h
      exact List.forall_mem_cons.mpr ⟨List.nodup_replicate.mp hfirst, ih hrest⟩
  · rw [placesFrom_of_le_one single]
    exact nodup_map_onPath start sizes.sum

theorem placesFrom_eq_iff {start : Nat} {sizes : List Nat} :
    placesFrom start sizes = (List.range' start sizes.sum).map onPath ↔
      ∀ size ∈ sizes, size ≤ 1 := by
  refine ⟨fun h => ?_, placesFrom_of_le_one⟩
  rw [← @nodup_placesFrom_iff start, h]
  exact nodup_map_onPath start sizes.sum

namespace Canvas

theorem cursor_eq (canvas : Canvas) : canvas.cursor = onPath canvas.column := rfl

theorem column_addAll (canvas : Canvas) (drafts : List Draft) :
    (canvas.addAll drafts).2.column = canvas.column := by
  induction drafts generalizing canvas with
  | nil => rfl
  | cons draft rest ih => exact ih (canvas.add draft).2

theorem column_addGroup (canvas : Canvas) (drafts : List Draft) :
    (canvas.addGroup drafts).2.column = canvas.column + drafts.length :=
  congrArg (· + drafts.length) (column_addAll canvas drafts)

theorem column_addGroups (canvas : Canvas) (groups : List (List Draft)) :
    (canvas.addGroups groups).2.column = canvas.column + (groups.map List.length).sum := by
  induction groups generalizing canvas with
  | nil => rfl
  | cons group rest ih =>
    simp only [addGroups, ih, column_addGroup, List.map_cons, List.sum_cons]
    omega

/-- A node stands where its draft asks for, or at the cursor, which no node moves. -/
theorem positions_addAll (canvas : Canvas) (drafts : List Draft) :
    (canvas.addAll drafts).1.map (·.position)
      = drafts.map fun draft => draft.position.getD canvas.cursor := by
  induction drafts generalizing canvas with
  | nil => rfl
  | cons draft rest ih => exact congrArg _ (ih (canvas.add draft).2)

theorem positions_addGroups (canvas : Canvas) {groups : List (List Draft)}
    (unplaced : ∀ draft ∈ groups.flatten, draft.position = none) :
    (canvas.addGroups groups).1.map (·.position)
      = placesFrom canvas.column (groups.map List.length) := by
  induction groups generalizing canvas with
  | nil => rfl
  | cons group rest ih =>
    rw [List.flatten_cons, List.forall_mem_append] at unplaced
    -- The column moves on only after the whole group.
    have hgroup : (canvas.addGroup group).1.map (·.position)
        = List.replicate group.length (onPath canvas.column) := by
      refine (positions_addAll canvas group).trans (List.map_eq_replicate_iff.mpr ?_)
      intro draft hm
      rw [unplaced.1 draft hm, Option.getD_none, cursor_eq]
    simp only [addGroups, List.map_append, hgroup, ih _ unplaced.2, column_addGroup, List.map_cons,
      placesFrom]

end Canvas

theorem position_processingDraft (text : String) (component : Component) :
    (processingDraft text component).position = none :=
  processingDraft_cases (p := fun draft => draft.position = none) rfl rfl rfl component

theorem position_integrationDraft (spec : IntegrationSpec) :
    (integrationDraft spec).position = none :=
  integrationDraft_cases (p := fun draft => draft.position = none) (by decide) rfl spec

/-- No node of the main path asks for a place. -/
theorem position_of_mem_mainGroups (blueprint : Blueprint) (text : String)
    (options : GraphOptions) :
    ∀ draft ∈ (mainGroups blueprint text options).flatten, draft.position = none := by
  have htrigger : (Trigger.ofText text).draft.position = none := by
    cases Trigger.ofText text <;> rfl
  have htail : ∀ draft ∈ (mainGroups blueprint text options).flatten.tail,
      draft.position = none :=
    forall_mem_tail_mainGroups rfl (position_processingDraft text) rfl position_integrationDraft rfl
      (fun _ h => h) rfl
  rw [flatten_mainGroups, List.tail_cons] at htail
  rw [flatten_mainGroups]
  exact List.forall_mem_cons.mpr ⟨htrigger, htail⟩

theorem length_orDefault (drafts : List Draft) (draft : Draft) :
    (orDefault drafts draft).length = max 1 drafts.length := by
  unfold orDefault
  cases drafts with
  | nil => rfl
  | cons first rest => simp

/-- How many nodes the groups of the main path have: processors and integrations have one even if
there are none of them. -/
def mainSizes (blueprint : Blueprint) (options : GraphOptions) : List Nat :=
  [1] ++ (if options.security = .basic then [] else [1])
    ++ [max 1 (blueprint.architecture.componentsOf .processor).length,
      max 1 blueprint.architecture.integrations.length, 1]

theorem lengths_mainGroups (blueprint : Blueprint) (text : String) (options : GraphOptions) :
    (mainGroups blueprint text options).map List.length = mainSizes blueprint options := by
  unfold mainGroups mainSizes processingDrafts integrationDrafts
  split <;> simp [length_orDefault]

theorem forall_mem_mainSizes_le_one_iff (blueprint : Blueprint) (options : GraphOptions) :
    (∀ size ∈ mainSizes blueprint options, size ≤ 1) ↔
      (blueprint.architecture.componentsOf .processor).length ≤ 1 ∧
        blueprint.architecture.integrations.length ≤ 1 := by
  unfold mainSizes
  split <;> simp

theorem positions_mainPath (blueprint : Blueprint) (text : String) (options : GraphOptions) :
    (Canvas.empty.addGroups (mainGroups blueprint text options)).1.map (·.position)
      = placesFrom 0 (mainSizes blueprint options) := by
  rw [← lengths_mainGroups blueprint text]
  exact Canvas.positions_addGroups Canvas.empty (position_of_mem_mainGroups blueprint text options)

theorem length_mainPath (blueprint : Blueprint) (text : String) (options : GraphOptions) :
    (Canvas.empty.addGroups (mainGroups blueprint text options)).1.length
      = (mainSizes blueprint options).sum := by
  have h := congrArg List.length (positions_mainPath blueprint text options)
  rwa [List.length_map, length_placesFrom] at h

/-- The error path stands below the place after the main path. -/
theorem positions_sidePath (blueprint : Blueprint) (text : String) (options : GraphOptions) :
    ((Canvas.empty.addGroups (mainGroups blueprint text options)).2.addAll
      (sideDrafts blueprint text options)).1.map (·.position)
      = if options.errorHandling then belowPath (mainSizes blueprint options).sum else [] := by
  have hcolumn := Canvas.column_addGroups Canvas.empty (mainGroups blueprint text options)
  rw [lengths_mainGroups, show Canvas.empty.column = 0 from rfl, Nat.zero_add] at hcolumn
  rw [Canvas.positions_addAll, sideDrafts, Canvas.cursor_eq, hcolumn]
  cases options.errorHandling <;> rfl

theorem positions_mainGraph (blueprint : Blueprint) (text : String) (options : GraphOptions)
    (id : String) :
    (mainGraph blueprint text options id).positions
      = placesFrom 0 (mainSizes blueprint options)
        ++ if options.errorHandling then belowPath (mainSizes blueprint options).sum else [] := by
  rw [positions, (builtFrom_mainGraph blueprint text options id).nodes_eq, List.map_append,
    positions_mainPath, positions_sidePath]

/-- No node of the error path stands on the main path, and the two stand apart. -/
theorem nodup_positions_mainGraph_iff (blueprint : Blueprint) (text : String)
    (options : GraphOptions) (id : String) :
    (mainGraph blueprint text options id).positions.Nodup ↔
      (blueprint.architecture.componentsOf .processor).length ≤ 1 ∧
        blueprint.architecture.integrations.length ≤ 1 := by
  rw [positions_mainGraph, ← forall_mem_mainSizes_le_one_iff, ← @nodup_placesFrom_iff 0,
    List.nodup_append]
  refine ⟨fun h => h.1, fun h => ⟨h, ?_, fun place hm other ho => ?_⟩⟩
  · split <;> simp [belowPath]
  · rintro rfl
    have hsecond := snd_of_mem_placesFrom place hm
    split at ho
    · simp only [belowPath, List.mem_cons, List.not_mem_nil, or_false] at ho
      rcases ho with rfl | rfl
      · simp at hsecond
      · simp at hsecond
    · simp at ho

/-- The nodes of a path that is added one by one stand side by side. -/
theorem positions_of_single {groups : List (List Draft)}
    (unplaced : ∀ draft ∈ groups.flatten, draft.position = none)
    (single : ∀ group ∈ groups, group.length ≤ 1) :
    (Canvas.empty.addGroups groups).1.map (·.position)
      = (List.range (Canvas.empty.addGroups groups).1.length).map onPath := by
  have hplaces := Canvas.positions_addGroups Canvas.empty unplaced
  rw [placesFrom_of_le_one (by simpa using single)] at hplaces
  have hlength := congrArg List.length hplaces
  rw [List.length_map, List.length_map, List.length_range'] at hlength
  rw [hplaces, hlength, List.range_eq_range']
  rfl

theorem positions_dataProcessingGraph (blueprint : Blueprint) (id : String) :
    (dataProcessingGraph blueprint id).positions
      = (List.range (dataProcessingGraph blueprint id).nodes.length).map onPath :=
  positions_of_single (by decide) (by decide)

theorem positions_monitoringGraph (blueprint : Blueprint) (id : String) :
    (monitoringGraph blueprint id).positions
      = (List.range (monitoringGraph blueprint id).nodes.length).map onPath :=
  positions_of_single (by decide) (by decide)

end Graph

open Flowplan.Graph in
/-- Where the nodes of the compiled graphs stand. In a supporting graph they stand side by side. In
the main graph the groups of the main path do, and the error path below its end; no two nodes are at
one place exactly if there is at most one processor and at most one integration. -/
theorem Blueprint.compile_layout (blueprint : Blueprint) (requirements : List Requirement)
    (options : GraphOptions) (ids : Ids) :
    ∃ main supporting path aside,
      (blueprint.compile requirements options ids).1 = main :: supporting ∧
      main.OfPaths path aside ∧
      path.map (·.position) = placesFrom 0 (mainSizes blueprint options) ∧
      aside.map (·.position) = (if options.errorHandling then belowPath path.length else []) ∧
      (path.map (·.position) = (List.range path.length).map onPath ↔
        (blueprint.architecture.componentsOf .processor).length ≤ 1 ∧
          blueprint.architecture.integrations.length ≤ 1) ∧
      (main.positions.Nodup ↔
        (blueprint.architecture.componentsOf .processor).length ≤ 1 ∧
          blueprint.architecture.integrations.length ≤ 1) ∧
      ∀ graph ∈ supporting, graph.positions = (List.range graph.nodes.length).map onPath ∧
        graph.positions.Nodup := by
  obtain ⟨main, data, monitoring, hgraphs⟩ :=
    exists_compile_eq blueprint requirements options ids
  refine ⟨_, _, _, _, hgraphs, (builtFrom_mainGraph _ _ _ main).ofPaths,
    positions_mainPath _ _ _, ?_, ?_, nodup_positions_mainGraph_iff _ _ _ _, ?_⟩
  · rw [positions_sidePath, length_mainPath]
  · rw [positions_mainPath, length_mainPath, List.range_eq_range', placesFrom_eq_iff,
      forall_mem_mainSizes_le_one_iff]
  · have hpositions : ∀ graph ∈ (if needsDataProcessing blueprint then
          [dataProcessingGraph blueprint data] else [])
        ++ (if needsMonitoring blueprint options then [monitoringGraph blueprint monitoring]
          else []), graph.positions = (List.range graph.nodes.length).map onPath := by
      rw [List.forall_mem_append]
      constructor
      · split
        · simpa using positions_dataProcessingGraph blueprint data
        · simp
      · split
        · simpa using positions_monitoringGraph blueprint monitoring
        · simp
    intro graph hm
    have hgraph := hpositions graph hm
    exact ⟨hgraph, by rw [hgraph, List.range_eq_range']; exact nodup_map_onPath _ _⟩

/-- One record that names two services. -/
def twoServices : List Requirement.Item :=
  [.data (.obj [("text", .str "sync contacts to hubspot and charge with stripe")])]

open Flowplan.Graph in
/-- Not every compiled graph has its nodes at different places: two calls of services may share
one. -/
theorem Blueprint.compile_twoServices :
    ∃ blueprint used main,
      Blueprint.ofItems twoServices .standard (.amount (.whole 20)) .start = .ok (blueprint, used) ∧
      (blueprint.compile (Requirement.ofItems .start twoServices).1 .basic .start).1 = [main] ∧
      main.positions = [(300, 300), (700, 300), (1100, 300), (1100, 300), (1900, 300)] ∧
      ¬main.positions.Nodup := by
  obtain ⟨blueprint, used, h, hcomponents, hservices⟩ := exists_ofItems twoServices .standard .start
    (by decide : (0 : Int) < 20) (Return.hours_le_of_le (by decide))
  generalize htext : Requirement.combinedText (Requirement.ofItems .start twoServices).1 = text
    at hcomponents hservices
  obtain ⟨hdata, hai, hstorage⟩ : Signal.needsDataProcessing text = false ∧
      Signal.needsAi text = false ∧ Signal.needsStorage text = false := by
    rw [← htext]
    decide +kernel
  rw [Design.components_of_plain hdata hai hstorage] at hcomponents
  have hprocessors : (blueprint.architecture.componentsOf .processor).length = 0 := by
    rw [Architecture.componentsOf, hcomponents]
    rfl
  have hintegrations : blueprint.architecture.integrations.length = 2 := by
    rw [hservices, ← htext]
    decide +kernel
  have hdata : needsDataProcessing blueprint = false := by
    rw [needsDataProcessing, Architecture.has, hcomponents]
    rfl
  have hmonitoring : needsMonitoring blueprint .basic = false := by
    rw [needsMonitoring, hcomponents]
    rfl
  obtain ⟨main, data, monitoring, hgraphs⟩ := exists_compile_eq blueprint
    (Requirement.ofItems .start twoServices).1 .basic .start
  rw [hdata, hmonitoring, if_neg Bool.false_ne_true, if_neg Bool.false_ne_true,
    List.append_nil] at hgraphs
  refine ⟨blueprint, used, _, h, hgraphs, ?_, fun distinct => ?_⟩
  · rw [positions_mainGraph, mainSizes, hprocessors, hintegrations]
    rfl
  · have hfew := ((nodup_positions_mainGraph_iff _ _ _ _).mp distinct).2
    omega

end Flowplan
