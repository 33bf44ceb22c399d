import Flowplan.Proofs.Graph.NameSearch
import Flowplan.Proofs.Graph.Selection

namespace Flowplan

namespace Graph

/-- The node has what the draft asks for; a name that is taken gets a number. -/
structure Node.Realizes (node : Node) (draft : Draft) : Prop where
  type : node.type = draft.type
  typeVersion : node.typeVersion = draft.typeVersion
  parameters : node.parameters = draft.parameters
  credentials : node.credentials = draft.credentials
  name : node.name = draft.name ∨ ∃ number ≥ 2, node.name = Canvas.numbered draft.name number

namespace Canvas

theorem freeName_cases (taken : List String) (name : String) :
    freeName taken name = name ∨ ∃ number ≥ 2, freeName taken name = numbered name number := by
  rcases firstFree_freeName taken name with ⟨-, h⟩ | ⟨-, number, least, h⟩
  · exact .inl h
  · exact .inr ⟨number, least.1.1, h⟩

theorem realizes_add (canvas : Canvas) (draft : Draft) : (canvas.add draft).1.Realizes draft :=
  ⟨rfl, rfl, rfl, rfl, freeName_cases canvas.taken draft.name⟩

theorem realizes_addAll (canvas : Canvas) (drafts : List Draft) :
    List.Forall₂ Node.Realizes (canvas.addAll drafts).1 drafts := by
  induction drafts generalizing canvas with
  | nil => exact .nil
  | cons draft rest ih => exact .cons (realizes_add canvas draft) (ih (canvas.add draft).2)

theorem realizes_addGroups (canvas : Canvas) (groups : List (List Draft)) :
    List.Forall₂ Node.Realizes (canvas.addGroups groups).1 groups.flatten := by
  induction groups generalizing canvas with
  | nil => exact .nil
  | cons group rest ih =>
    exact List.rel_append (realizes_addAll canvas group) (ih (canvas.addGroup group).2)

theorem count_addAll (canvas : Canvas) (drafts : List Draft) :
    (canvas.addAll drafts).2.count = canvas.count + drafts.length := by
  induction drafts generalizing canvas with
  | nil => rfl
  | cons draft rest ih =>
    have hadd : (canvas.add draft).2.count = canvas.count + 1 := rfl
    rw [addAll, ih, hadd, List.length_cons]
    omega

theorem count_addGroup (canvas : Canvas) (drafts : List Draft) :
    (canvas.addGroup drafts).2.count = canvas.count + drafts.length :=
  count_addAll canvas drafts

theorem count_addGroups (canvas : Canvas) (groups : List (List Draft)) :
    (canvas.addGroups groups).2.count = canvas.count + groups.flatten.length := by
  induction groups generalizing canvas with
  | nil => rfl
  | cons group rest ih =>
    rw [addGroups, ih, count_addGroup, List.flatten_cons, List.length_append]
    omega

/-- The id of the node that comes after a number of nodes. -/
def idAfter (count : Nat) : String :=
  s!"node_{count + 1}"

theorem ids_addAll (canvas : Canvas) (drafts : List Draft) :
    (canvas.addAll drafts).1.map (·.id)
      = (List.range' canvas.count drafts.length).map (.ofString <| idAfter ·) := by
  induction drafts generalizing canvas with
  | nil => rfl
  | cons draft rest ih =>
    rw [List.length_cons, List.range'_succ, List.map_cons]
    exact congrArg _ (ih (canvas.add draft).2)

theorem ids_addGroups (canvas : Canvas) (groups : List (List Draft)) :
    (canvas.addGroups groups).1.map (·.id)
      = (List.range' canvas.count groups.flatten.length).map (.ofString <| idAfter ·) := by
  induction groups generalizing canvas with
  | nil => rfl
  | cons group rest ih =>
    have hgroup : (canvas.addGroup group).1.map (·.id)
        = (List.range' canvas.count group.length).map (.ofString <| idAfter ·) :=
      ids_addAll canvas group
    rw [addGroups, List.map_append, hgroup, ih, count_addGroup, ← List.map_append,
      List.range'_append_1, List.flatten_cons, List.length_append]

end Canvas

/-- The edges that a list of connections gives for a name. -/
def edgesFrom (connections : List (String × List Edge)) (name : String) : List Edge :=
  (connections.filter (·.1 = name)).flatMap (·.2)

theorem edgesFrom_append (first second : List (String × List Edge)) (name : String) :
    edgesFrom (first ++ second) name = edgesFrom first name ++ edgesFrom second name := by
  simp [edgesFrom]

theorem edgesFrom_of_not_mem {connections : List (String × List Edge)} {name : String}
    (h : name ∉ connections.map (·.1)) : edgesFrom connections name = [] := by
  have hnone : connections.filter (·.1 = name) = [] := by
    rw [List.filter_eq_nil_iff]
    intro entry hm he
    exact h (List.mem_map.mpr ⟨entry, hm, of_decide_eq_true he⟩)
  rw [edgesFrom, hnone, List.flatMap_nil]

theorem edgesFrom_chain_of_not_mem {path : List Node} {name : String}
    (h : name ∉ path.map (·.name)) : edgesFrom (chain path) name = [] := by
  refine edgesFrom_of_not_mem fun hm => h ?_
  rw [sources_chain] at hm
  exact List.mem_of_mem_dropLast hm

theorem edgesFrom_chain_cons {first : Node} {name : String} (h : first.name ≠ name)
    (rest : List Node) : edgesFrom (chain (first :: rest)) name = edgesFrom (chain rest) name := by
  cases rest with
  | nil => rfl
  | cons second rest => simp [chain, edgesFrom, h]

/-- In a path under distinct names, each node leads to the next one alone. -/
theorem edgesFrom_chain {before after : List Node} {node : Node}
    (distinct : ((before ++ node :: after).map (·.name)).Nodup) :
    edgesFrom (chain (before ++ node :: after)) node.name
      = after.head?.toList.map fun next => .main next.name := by
  -- The nodes before have other names, so that the chain can be cut down to start at the node.
  induction before with
  | nil =>
    rw [List.nil_append, List.map_cons] at distinct
    have hrest := edgesFrom_chain_of_not_mem (List.nodup_cons.mp distinct).1
    cases after with
    | nil => rfl
    | cons next rest =>
      have hchain : edgesFrom (chain (node :: next :: rest)) node.name
          = .main next.name :: edgesFrom (chain (next :: rest)) node.name := by
        simp [chain, edgesFrom]
      rw [List.nil_append, hchain, hrest]
      rfl
  | cons first rest ih =>
    rw [List.cons_append, List.map_cons, List.nodup_cons] at distinct
    have hne : first.name ≠ node.name := by
      intro he
      exact distinct.1 (List.mem_map.mpr ⟨node, by simp, he.symm⟩)
    rw [List.cons_append, edgesFrom_chain_cons hne]
    exact ih distinct.2

/-- Each node of the path has one edge, to the first input of the next node; the last has none. -/
def Linked (graph : Graph) (path : List Node) : Prop :=
  ∀ before node after, path = before ++ node :: after →
    edgesFrom graph.connections node.name
      = after.head?.toList.map fun next => ⟨next.name, "main", 0⟩

namespace OfPaths

variable {graph : Graph} {path aside : List Node} (paths : graph.OfPaths path aside)

include paths

theorem linked_path : graph.Linked path := by
  rintro before node after rfl
  have distinct := paths.distinct
  rw [paths.names_eq] at distinct
  have haside := edgesFrom_chain_of_not_mem
    (paths.disjoint (List.mem_map_of_mem (by simp : node ∈ before ++ node :: after)))
  rw [paths.connections_eq, edgesFrom_append, haside, List.append_nil]
  exact edgesFrom_chain (List.nodup_append.mp distinct).1

theorem linked_aside : graph.Linked aside := by
  rintro before node after rfl
  have distinct := paths.distinct
  rw [paths.names_eq] at distinct
  have hpath : node.name ∉ path.map (·.name) := fun hm =>
    paths.disjoint hm (List.mem_map_of_mem (by simp))
  rw [paths.connections_eq, edgesFrom_append, edgesFrom_chain_of_not_mem hpath, List.nil_append]
  exact edgesFrom_chain (List.nodup_append.mp distinct).2.1

theorem edgesFrom_of_not_mem_names {name : String} (h : name ∉ graph.names) :
    edgesFrom graph.connections name = [] := by
  rw [paths.names_eq, List.mem_append, not_or] at h
  rw [paths.connections_eq, edgesFrom_append, edgesFrom_chain_of_not_mem h.1,
    edgesFrom_chain_of_not_mem h.2]
  rfl

end OfPaths

theorem BuiltFrom.ids {graph : Graph} {groups : List (List Draft)} {side : List Draft}
    (built : graph.BuiltFrom groups side) :
    graph.nodes.map (·.id)
      = (List.range graph.nodes.length).map (.ofString <| Canvas.idAfter ·) := by
  have hids : graph.nodes.map (·.id)
      = (List.range' 0 (groups.flatten.length + side.length)).map
        (.ofString <| Canvas.idAfter ·) := by
    have hzero : Canvas.empty.count = 0 := rfl
    rw [built.nodes_eq, List.map_append, Canvas.ids_addGroups, Canvas.ids_addAll,
      Canvas.count_addGroups, hzero, ← List.map_append, List.range'_append_1]
  have hlength := congrArg List.length hids
  rw [List.length_map, List.length_map, List.length_range'] at hlength
  rw [hids, hlength, List.range_eq_range']

/-- The node for a processor goes by its name. -/
inductive Processes (text : String) (component : Component) : Draft → Prop where
  | ai (named : Text.Holds component.name "AI") : Processes text component (aiDraft text)
  | data (other : ¬Text.Holds component.name "AI") (named : Text.Holds component.name "Data") :
    Processes text component .transformData
  | general (other : ¬Text.Holds component.name "AI")
    (unnamed : ¬Text.Holds component.name "Data") : Processes text component .processData

/-- The node for a service is that of the first rule of which the service holds a keyword. -/
inductive Calls (service : String) : Draft → Prop where
  | rule {before after : List (Draft × List String)} {rule : Draft × List String}
    (rules : serviceRules = before ++ rule :: after) (held : Text.HoldsAny service rule.2)
    (first : ∀ earlier ∈ before, ¬Text.HoldsAny service earlier.2) : Calls service rule.1
  | general (unheld : ∀ rule ∈ serviceRules, ¬Text.HoldsAny service rule.2) :
    Calls service .httpRequest

/-- A draft for each item in order, or the general one if there are no items. -/
inductive OneEach {α : Type} (stands : α → Draft → Prop) (general : Draft) :
    List α → List Draft → Prop where
  | general : OneEach stands general [] [general]
  | each {first : α} {rest : List α} {drafts : List Draft}
    (each : List.Forall₂ stands (first :: rest) drafts) :
    OneEach stands general (first :: rest) drafts

theorem processes_processingDraft (text : String) (component : Component) :
    Processes text component (processingDraft text component) := by
  unfold processingDraft
  simp only [Text.mentions_iff]
  split
  next named => exact .ai named
  next other =>
    split
    next named => exact .data other named
    next unnamed => exact .general other unnamed

theorem calls_integrationDraft (spec : IntegrationSpec) :
    Calls (Text.fold spec.service) (integrationDraft spec) := by
  rw [integrationDraft, Signal.firstChoice?_eq]
  cases hf : serviceRules.find? fun rule => Text.HoldsAny (Text.fold spec.service) rule.2 with
  | none => exact .general fun rule hm => by simpa using List.find?_eq_none.mp hf rule hm
  | some rule =>
    obtain ⟨held, before, after, rules, first⟩ := List.find?_eq_some_iff_append.mp hf
    exact .rule rules (of_decide_eq_true held) (by simpa using first)

theorem oneEach_orDefault {α : Type} {stands : α → Draft → Prop} {draft : α → Draft}
    (h : ∀ a, stands a (draft a)) (general : Draft) (as : List α) :
    OneEach stands general as (orDefault (as.map draft) general) := by
  -- Without items the list of drafts is empty too, which is when the general draft stands in.
  cases as with
  | nil => exact .general
  | cons first rest =>
    refine .each (List.forall₂_map_right_iff.mpr ?_)
    exact List.forall₂_same.mpr fun a _ => h a

/-- The drafts of a main path: a trigger, a validation unless nothing is checked, the processors,
the calls of services, which may be tried again, and a notification. -/
inductive IsMainPath (blueprint : Blueprint) (text : String) (options : GraphOptions) :
    List Draft → Prop where
  | intro {processing calls : List Draft}
    (processors : OneEach (Processes text) .processData
      (blueprint.architecture.components.filter (·.type = .processor)) processing)
    (services : OneEach (fun spec => Calls (Text.fold spec.service)) .httpRequest
      blueprint.architecture.integrations calls) :
    IsMainPath blueprint text options ((Trigger.ofText text).draft ::
      ((if options.security = .basic then [] else [.validation]) ++ processing
        ++ calls.map (fun draft => if options.retries then draft.retrying else draft)
        ++ [.notification blueprint.title]))

theorem isMainPath_mainGroups (blueprint : Blueprint) (text : String) (options : GraphOptions) :
    IsMainPath blueprint text options (mainGroups blueprint text options).flatten := by
  rw [flatten_mainGroups]
  exact .intro (oneEach_orDefault (processes_processingDraft text) _ _)
    (oneEach_orDefault calls_integrationDraft _ _)

end Graph

open Flowplan.Graph in
/-- The main graph is one path from a trigger to a notification, and an error path beside it if
errors are handled. -/
theorem Blueprint.compile_mainPath (blueprint : Blueprint) (requirements : List Requirement)
    (options : GraphOptions) (ids : Ids) :
    ∃ main supporting path aside drafts place,
      (blueprint.compile requirements options ids).1 = main :: supporting ∧
      main.nodes = path ++ aside ∧
      IsMainPath blueprint (Requirement.combinedText requirements) options drafts ∧
      List.Forall₂ Node.Realizes path drafts ∧
      List.Forall₂ Node.Realizes aside (if options.errorHandling then
        [.errorHandler place, .errorNotification place] else []) ∧
      main.nodes.map (·.id)
        = (List.range main.nodes.length).map (fun i => RawText.ofString s!"node_{i + 1}") ∧
      main.names.Nodup ∧
      main.Linked path ∧ main.Linked aside ∧
      ∀ name ∉ main.names, edgesFrom main.connections name = [] := by
  obtain ⟨main, data, monitoring, hgraphs⟩ :=
    exists_compile_eq blueprint requirements options ids
  have built := builtFrom_mainGraph blueprint (Requirement.combinedText requirements) options main
  have paths := built.ofPaths
  exact ⟨_, _, _, _, _, (Canvas.empty.addGroups _).2.cursor, hgraphs, paths.nodes_eq,
    isMainPath_mainGroups _ _ _, Canvas.realizes_addGroups _ _, Canvas.realizes_addAll _ _,
    built.ids, paths.distinct, paths.linked_path, paths.linked_aside,
    fun name h => paths.edgesFrom_of_not_mem_names h⟩

end Flowplan
