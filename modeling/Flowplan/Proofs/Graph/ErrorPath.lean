import Flowplan.Cli.Execution
import Flowplan.Proofs.Graph.Acceptance
import Flowplan.Proofs.Graph.WellFormed

namespace Flowplan

/-- The value is a list or an object. -/
def Json.nests : Json → Bool
  | arr _ => true
  | obj _ => true
  | _ => false

def Json.text? : Json → Option String
  | str text => some text
  | _ => none

namespace Graph

/-- The names that an error path gives, which starts a side path at each of them. A half of a
surrogate pair is no name. -/
inductive GivesRoots : Option Json → List String → Prop where
  | absent : GivesRoots none []
  | text (text : String) : GivesRoots (some (.str text)) (text.toList.map String.singleton)
  | torn (text : TornText) : GivesRoots (some (.torn text))
    ((text.raw.points.filterMap Text.Point.char?).map String.singleton)
  | object (members : Record.Members) : GivesRoots (some (.obj members)) (members.map (·.1))
  | list {items : List Json} (flat : ∀ item ∈ items, ¬item.nests) :
    GivesRoots (some (.arr items)) (items.filterMap Json.text?)

/-- The fault of an error path that gives no names; in a list the first item that nests decides. -/
inductive RefusesRoots : Option Json → Fault → Prop where
  | null : RefusesRoots (some .null) (.notIterable "NoneType")
  | bool (value : Bool) : RefusesRoots (some (.bool value)) (.notIterable "bool")
  | int (value : Int) : RefusesRoots (some (.int value)) (.notIterable "int")
  | float (value : Binary64) : RefusesRoots (some (.float value)) (.notIterable "float")
  | list {before after : List Json} {item : Json} (flat : ∀ earlier ∈ before, ¬earlier.nests)
    (nested : item.nests) :
    RefusesRoots (some (.arr (before ++ item :: after))) (.unhashable item.kind)

theorem sideRoots_cons {item : Json} (flat : ¬item.nests) (rest : List Json) :
    sideRoots (item :: rest) = (sideRoots rest).map (item.text?.toList ++ ·) := by
  cases item with
  | str name => rfl
  | arr items => exact absurd rfl flat
  | obj members => exact absurd rfl flat
  | _ => cases h : sideRoots rest <;> simp [sideRoots, h, Json.text?, Except.map]

theorem sideRoots_of_flat {items : List Json} (flat : ∀ item ∈ items, ¬item.nests) :
    sideRoots items = .ok (items.filterMap Json.text?) := by
  induction items with
  | nil => rfl
  | cons item rest ih =>
    obtain ⟨hitem, hrest⟩ := List.forall_mem_cons.mp flat
    rw [sideRoots_cons hitem, ih hrest, List.filterMap_cons]
    cases item.text? <;> rfl

theorem sideRoots_points (points : List Text.Point) :
    sideRoots (points.map fun point => .ofRaw ⟨[point]⟩)
      = .ok ((points.filterMap Text.Point.char?).map String.singleton) := by
  induction points with
  | nil => rfl
  | cons point rest ih =>
    cases point with
    | char c =>
      have hname : Json.ofRaw ⟨[.char c]⟩ = .str (String.singleton c) :=
        congrArg Json.str String.singleton_eq_ofList.symm
      rw [List.map_cons, hname, sideRoots, ih]
      rfl
    | half half => exact ih

theorem sideRoots_of_nested {before : List Json} {item : Json}
    (flat : ∀ earlier ∈ before, ¬earlier.nests) (nested : item.nests) (after : List Json) :
    sideRoots (before ++ item :: after) = .error (.unhashable item.kind) := by
  induction before with
  | nil => cases item <;> first | rfl | exact nomatch nested
  | cons earlier rest ih =>
    obtain ⟨hearlier, hrest⟩ := List.forall_mem_cons.mp flat
    rw [List.cons_append, sideRoots_cons hearlier, ih hrest]
    rfl

theorem problems_of_givesRoots {graph : Graph} {roots : List String}
    (gives : GivesRoots (graph.metadata.lookup "errorPath") roots) :
    graph.problems = .ok (graph.problemsWith roots) := by
  obtain ⟨parts, hparts, hroots⟩ :
      ∃ parts, graph.errorPath = .ok parts ∧ sideRoots parts = .ok roots := by
    unfold errorPath
    generalize graph.metadata.lookup "errorPath" = json at gives
    cases gives with
    | absent => exact ⟨[], rfl, rfl⟩
    | text text =>
      refine ⟨_, rfl, ?_⟩
      simpa [Function.comp_def] using sideRoots_strings (text.toList.map String.singleton)
    | torn text => exact ⟨_, rfl, sideRoots_points text.raw.points⟩
    | object members =>
      refine ⟨_, rfl, ?_⟩
      simpa [Function.comp_def] using sideRoots_strings (members.map (·.1))
    | list flat => exact ⟨_, rfl, sideRoots_of_flat flat⟩
  exact problems_of_sideRoots hparts hroots

theorem problems_of_refusesRoots {graph : Graph} {fault : Fault}
    (refuses : RefusesRoots (graph.metadata.lookup "errorPath") fault) :
    graph.problems = .error fault := by
  unfold problems errorPath
  generalize graph.metadata.lookup "errorPath" = json at refuses
  cases refuses with
  | list flat nested =>
    simp [Json.parts?, sideRoots_of_nested flat nested, bind, Except.bind]
  | _ => rfl

/-- An error path gives names, or is refused with a fault. -/
theorem givesRoots_or_refusesRoots (json : Option Json) :
    (∃ roots, GivesRoots json roots) ∨ ∃ fault, RefusesRoots json fault := by
  cases json with
  | none => exact .inl ⟨_, .absent⟩
  | some json =>
    cases json with
    | null => exact .inr ⟨_, .null⟩
    | bool value => exact .inr ⟨_, .bool value⟩
    | int value => exact .inr ⟨_, .int value⟩
    | float value => exact .inr ⟨_, .float value⟩
    | str text => exact .inl ⟨_, .text text⟩
    | torn text => exact .inl ⟨_, .torn text⟩
    | obj members => exact .inl ⟨_, .object members⟩
    | arr items =>
      cases hnested : items.find? Json.nests with
      | none => exact .inl ⟨_, .list (List.find?_eq_none.mp hnested)⟩
      | some item =>
        obtain ⟨nested, before, after, rfl, flat⟩ := List.find?_eq_some_iff_append.mp hnested
        exact .inr ⟨_, .list (by simpa using flat) nested⟩

theorem problems_eq_ok_iff {graph : Graph} {found : List Problem} :
    graph.problems = .ok found ↔ ∃ roots,
      GivesRoots (graph.metadata.lookup "errorPath") roots ∧ found = graph.problemsWith roots := by
  constructor
  · intro h
    rcases givesRoots_or_refusesRoots (graph.metadata.lookup "errorPath") with
      ⟨roots, gives⟩ | ⟨fault, refuses⟩
    · rw [problems_of_givesRoots gives] at h
      exact ⟨roots, gives, (Except.ok.inj h).symm⟩
    · rw [problems_of_refusesRoots refuses] at h
      exact nomatch h
  · rintro ⟨roots, gives, rfl⟩
    exact problems_of_givesRoots gives

theorem problems_eq_error_iff {graph : Graph} {fault : Fault} :
    graph.problems = .error fault ↔ RefusesRoots (graph.metadata.lookup "errorPath") fault := by
  refine ⟨fun h => ?_, problems_of_refusesRoots⟩
  rcases givesRoots_or_refusesRoots (graph.metadata.lookup "errorPath") with
    ⟨roots, gives⟩ | ⟨other, refuses⟩
  · rw [problems_of_givesRoots gives] at h
    exact nomatch h
  · rw [problems_of_refusesRoots refuses] at h
    exact Except.error.inj h ▸ refuses

/-- What a document holds under its error path. -/
def errorPathOf (members : Record.Members) : Option Json :=
  (members.lookup "meta").bind (·.member? "errorPath")

theorem Describes.lookup_errorPath {graph : Graph} {members : Record.Members}
    (describes : graph.Describes members) :
    graph.metadata.lookup "errorPath" = errorPathOf members := by
  unfold errorPathOf
  rcases describes.metadata.cases with ⟨json, hlookup, hjson⟩ | ⟨hlookup, hempty⟩
  · rw [hlookup, Option.bind_some]
    split at hjson
    · rw [hjson, Json.member?]
    -- What is not present gives no metadata, and has no member of that name either.
    next absent =>
      rw [hjson]
      cases json with
      | obj members => cases members <;> simp_all [Json.isPresent, Json.member?]
      | _ => rfl
  · rw [hlookup, hempty]
    rfl

theorem effect_of_problems {graph : Graph} {found : List Problem}
    (h : graph.problems = .ok found) :
    ∃ effect, Cli.verdict graph = .ok effect ∧ (effect.code = 0 ∨ effect.code = 1) ∧
      (effect.code = 0 ↔ found = []) := by
  unfold Cli.verdict
  rw [h]
  cases found with
  | nil => exact ⟨_, rfl, .inl rfl, by simp [Cli.Effect.success]⟩
  | cons problem rest => exact ⟨_, rfl, .inr rfl, by simp [Cli.Effect.failure]⟩

theorem effect_validate {environment : Cli.Environment} {path : String} {bytes : List Nat}
    {text : String} {graph : Graph} (found : environment.tree.find path = .file bytes)
    (decoded : textOfBytes bytes = .ok text) (h : deserialize text = .ok graph) :
    (Cli.Command.validate path).effect environment = Cli.verdict graph := by
  have hpath : ¬path.contains '\x00' := by
    intro hnull
    unfold FileTree.find at found
    rw [if_pos hnull] at found
    exact nomatch found
  have hread : (textOfBytes bytes).bind deserialize = .ok graph := by
    rw [decoded]
    exact h
  change Cli.validateFile environment path = _
  rw [Cli.validateFile, if_neg hpath, found]
  dsimp only
  rw [Cli.validateBytes, hread]

/-- A graph that was read is judged exactly if the error path of its document gives names, and the
program then ends with a verdict; otherwise both end with the fault of the error path. -/
theorem problems_of_deserialize {text : String} {graph : Graph}
    (h : deserialize text = .ok graph) :
    ∃ members, Json.parse text = .ok (.obj members) ∧
      graph.metadata.lookup "errorPath" = errorPathOf members ∧
      (∀ found, graph.problems = .ok found ↔
        ∃ roots, GivesRoots (errorPathOf members) roots ∧ found = graph.problemsWith roots) ∧
      (∀ fault, graph.problems = .error fault ↔ RefusesRoots (errorPathOf members) fault) ∧
      ∀ (environment : Cli.Environment) (path : String) (bytes : List Nat),
        environment.tree.find path = .file bytes → textOfBytes bytes = .ok text →
        (∀ roots, GivesRoots (errorPathOf members) roots →
          ∃ effect, (Cli.Command.validate path).effect environment = .ok effect ∧
            (effect.code = 0 ∨ effect.code = 1) ∧
            (effect.code = 0 ↔ graph.WellFormed roots)) ∧
        ∀ fault, RefusesRoots (errorPathOf members) fault →
          (Cli.Command.validate path).effect environment = .error fault := by
  obtain ⟨members, hparse, describes⟩ := deserializeWithin_eq_ok_iff.mp h
  have hpath := describes.lookup_errorPath
  have keyed : Keyed graph.connections :=
    (describes.sound (Json.held_of_parseWithin hparse)).connections
  refine ⟨members, hparse, hpath, fun found => ?_, fun fault => ?_,
    fun environment path bytes found decoded => ⟨fun roots gives => ?_, fun fault refuses => ?_⟩⟩
  · rw [← hpath]
    exact problems_eq_ok_iff
  · rw [← hpath]
    exact problems_eq_error_iff
  · obtain ⟨effect, heffect, hcode, hzero⟩ := effect_of_problems
      (problems_of_givesRoots (hpath ▸ gives))
    rw [problemsWith_eq_nil_iff keyed] at hzero
    exact ⟨effect, (effect_validate found decoded h).trans heffect, hcode, hzero⟩
  · rw [effect_validate found decoded h, Cli.verdict, problems_of_refusesRoots (hpath ▸ refuses)]
    rfl

/-- A graph with a trigger alone, and a value under its error path. -/
def flagged (json : Json) : Graph where
  id := "1"
  name := "Flagged"
  nodes := [⟨"1", "Start", "n8n-nodes-base.cron", 1, (0, 0), [], none⟩]
  connections := []
  active := false
  settings := []
  tags := []
  version := "1"
  metadata := [("errorPath", json)]

theorem deserialize_flagged {json : Json} (sound : json.Sound)
    (settled : (flagged json).joined = flagged json)
    (fits : (flagged json).document.excess? Text.mostDigits 990 = none) :
    deserialize (flagged json).text = .ok (flagged json) := by
  have hnode : ∀ node ∈ (flagged json).nodes, node.Sound := by
    simp only [flagged, List.forall_mem_singleton]
    exact ⟨by decide, by decide, ⟨List.nodup_nil, trivial⟩, by simp⟩
  have hgraph : (flagged json).Sound := {
    nodes := hnode
    connections := List.nodup_nil
    settings := ⟨List.nodup_nil, trivial⟩
    metadata := ⟨List.nodup_singleton _, sound, trivial⟩ }
  have closed : (flagged json).Closed := by simp [Closed, flagged]
  have hread := deserializeWithin_text hgraph closed .standard
  rw [show (flagged json).document.excess? Json.Limits.standard.digits
    Json.Limits.standard.nesting = none from fits, settled] at hread
  exact hread

/-- An error path that mixes a number, a name and a list. -/
def mixedPath : Json :=
  .arr [.int 1, .str "Start", .arr []]

theorem problems_of_deserialize_mixedPath :
    deserialize (flagged mixedPath).text = .ok (flagged mixedPath) ∧
      (flagged mixedPath).problems = .error (.unhashable "list") := by
  have hread : deserialize (flagged mixedPath).text = .ok (flagged mixedPath) :=
    deserialize_flagged (by simp [mixedPath, Json.Sound, Json.SoundItems]) rfl rfl
  obtain ⟨members, -, hpath, -, hrefuses, -⟩ := problems_of_deserialize hread
  have refuses : RefusesRoots (some (.arr ([.int 1, .str "Start"] ++ .arr [] :: [])))
      (.unhashable (Json.arr []).kind) := .list (by decide) rfl
  exact ⟨hread, (hrefuses _).mpr (hpath ▸ refuses)⟩

/-- Not every graph that was read is judged: an error path may be null. -/
theorem problems_flagged_null :
    deserialize (flagged .null).text = .ok (flagged .null) ∧
      (flagged .null).problems = .error (.notIterable "NoneType") ∧
      ∀ found, (flagged .null).problems ≠ .ok found := by
  have h : (flagged .null).problems = .error (.notIterable "NoneType") :=
    problems_of_refusesRoots .null
  exact ⟨deserialize_flagged trivial rfl rfl, h, fun found => by simp [h]⟩

end Graph

end Flowplan
