import Flowplan.Blueprint.Report
import Flowplan.Blueprint.Synthesis
import Flowplan.Conversation.Router
import Flowplan.Graph.Document
import Flowplan.Graph.Lowering
import Flowplan.Graph.Slug

namespace Flowplan

/-- What leads from messages to workflows: a router, and the hours that the automation saves. -/
structure Pipeline where
  router : Router
  hours : Estimate
  recommendationLimit : Int

/-- What a completed run gives. -/
structure Run where
  phase : Phase
  completeness : Rat
  requirements : List Requirement
  summary : String
  blueprint : Blueprint
  graphs : List Graph
  recommendations : List Template

/-- A run either completes, or fails for a reason that it reports. -/
inductive RunResult where
  | completed (run : Run)
  | failed (fault : Fault)

namespace Pipeline

/-- The text of a message, and the message itself if it is a record that states its category.
Blank messages and records without a text say nothing. -/
def readMessage (index : Nat) : Json → Outcome (Option (RawText × Option Json))
  | .obj members =>
    let categorized := (members.lookup "category").any fun category => category ≠ .null
    .ok ((Requirement.recordText? members).map fun text =>
      (text, if categorized then some (.obj members) else none))
  | json =>
    match json.raw? with
    | some text => .ok (if text.allBlank then none else some (text, none))
    | none => .error (.precondition (.notMessage index json.kind))

def hear (pipeline : Pipeline) (text : RawText) (record : Option Json) : Work Session Unit := do
  record.forM fun record => Router.addFeed (.arr [record])
  let _ ← pipeline.router.handle text

/-- Takes in what a message says, if it says anything. -/
def takeIn (pipeline : Pipeline) (index : Nat) (message : Json) : Work Session Unit := do
  let said ← readMessage index message
  said.forM fun (text, record) => pipeline.hear text record

/-- Takes the messages in, one after the other; `index` is the number of the first one. -/
def converseFrom (pipeline : Pipeline) (index : Nat) : List Json → Work Session Unit
  | [] => pure ()
  | message :: rest => do
    pipeline.takeIn index message
    converseFrom pipeline (index + 1) rest

def converse (pipeline : Pipeline) (messages : Json) : Work Session Unit := do
  pipeline.converseFrom 0 (← requireList "messages" messages)

/-- From the messages to a blueprint and its workflows. -/
def execute (pipeline : Pipeline) (messages : Json) (config : BlueprintConfig)
    (options : GraphOptions) (ids : Ids) : Outcome Run := do
  let ((), session) ← (pipeline.converse messages).finish ⟨.start, ids⟩
  let requirements := session.conversation.requirements
  let (blueprint, ids) ← Blueprint.ofRequirements requirements config pipeline.hours session.ids
  let (graphs, _) := blueprint.compile requirements options ids
  let conversation := Router.markImplementation session.conversation
  pure {
    phase := conversation.phase
    completeness := conversation.completeness
    requirements
    summary := conversation.summary
    blueprint
    graphs
    recommendations := pipeline.router.recommended conversation pipeline.recommendationLimit }

/-- Runs the pipeline and reports the faults that a caller can mend. -/
def run (pipeline : Pipeline) (messages : Json) (config : BlueprintConfig)
    (options : GraphOptions) (ids : Ids) : Outcome RunResult :=
  match pipeline.execute messages config options ids with
  | .ok run => .ok (.completed run)
  | .error fault => if fault.isReported then .ok (.failed fault) else .error fault

/-- The pipeline with the usual rules for intents. -/
def standard (store : TemplateStore) (hours : Estimate) (limit : Nat) : Pipeline where
  router := { store, rules := IntentRule.standard, relatedLimit := limit }
  hours
  recommendationLimit := limit

end Pipeline

namespace Run

def toJson (run : Run) : Json :=
  .obj [
    ("status", .str "completed"),
    ("phase", .str (label run.phase)),
    ("completeness", .float (.ofRat run.completeness)),
    ("requirements", .arr (run.requirements.map Requirement.toJson)),
    ("requirements_summary", .str run.summary),
    ("blueprint", run.blueprint.toJson),
    ("graphs", .arr (run.graphs.map Graph.document)),
    ("recommendations", .arr (run.recommendations.map fun template =>
      .obj [("id", .str template.id), ("name", .str template.name)]))]

/-- The workflows of a run, each under the name of its file. -/
def graphFiles (run : Run) : List (String × Graph) :=
  run.graphs.mapIdx fun i graph => (s!"{i + 1}_{Graph.slug graph.name.shown}.json", graph)

def summaryJson (run : Run) : Json :=
  .obj [
    ("status", .str "completed"),
    ("phase", .str (label run.phase)),
    ("completeness", .float (.ofRat run.completeness)),
    ("blueprint_title", .str run.blueprint.title),
    ("three_year_roi", .int run.blueprint.projection.percent),
    ("requirement_count", .int run.requirements.length),
    ("graph_files", .strings (run.graphFiles.map (·.1)))]

/-- The report and the workflows as files. -/
def documents (run : Run) : List (String × String) :=
  ("blueprint.md", run.blueprint.reportText)
    :: run.graphFiles.map fun entry => (entry.1, entry.2.text)

/-- All files that a run leaves behind. -/
def artifacts (run : Run) : List (String × String) :=
  [("blueprint.json", run.blueprint.toJson.indented)] ++ run.documents
    ++ [("run_summary.json", run.summaryJson.indented)]

end Run

def RunResult.toJson : RunResult → Json
  | completed run => run.toJson
  | failed fault =>
    .obj [
      ("status", .str "error"),
      ("error", .str fault.message),
      ("error_type", .str fault.name)]

end Flowplan
