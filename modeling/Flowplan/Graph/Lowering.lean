import Flowplan.Blueprint.Basic
import Flowplan.Graph.Drafts
import Flowplan.Graph.Options
import Flowplan.Ids

namespace Flowplan

inductive Trigger where
  | webhook
  | schedule
  | email
  | manual
  deriving DecidableEq

namespace Trigger

def name : Trigger → String
  | webhook => "webhook"
  | schedule => "schedule"
  | email => "email"
  | manual => "manual"

/-- The triggers in the order in which they are tried. -/
def rules : List (Trigger × List String) := [
  (webhook, ["webhook", "api", "real-time"]),
  (schedule, ["schedule", "daily", "hourly"]),
  (email, ["email", "imap"])]

def ofText (text : String) : Trigger :=
  (Signal.firstChoice? rules text).getD manual

def draft : Trigger → Graph.Draft
  | webhook => .webhookTrigger
  | schedule => .defaultSchedule
  | email => .emailTrigger
  | manual => .manualTrigger

end Trigger

namespace Graph

def baseTags : List RawText := ["automation", "flowsmith"]

/-- Keywords in the title, and the tags for them. -/
def titleTagRules : List (List String × List RawText) := [
  (["ecommerce"], ["ecommerce"]),
  (["crm", "sales"], ["crm", "sales"]),
  (["data"], ["data-processing"])]

def titleTags (title : String) : List RawText :=
  let folded := Text.fold title
  baseTags ++ (titleTagRules.filter fun rule => Text.mentionsAny folded rule.1).flatMap (·.2)

/-- The tags for a title, and further ones that are not among them. -/
def tagsOf (title : String) (extra : List RawText) : List RawText :=
  extra.foldl (fun tags tag => if tag ∈ tags then tags else tags ++ [tag]) (titleTags title)

def textKeywords : List String := ["text", "content", "message"]

def classificationKeywords : List String := ["classify", "categorize", "analyze"]

def aiDraft (text : String) : Draft :=
  .aiProcessing
    (.str (if Text.mentionsAny text textKeywords then "text" else "chat"))
    (.str (if Text.mentionsAny text classificationKeywords then "classify" else "complete"))

def processingDraft (text : String) (component : Component) : Draft :=
  if Text.mentions component.name "AI" then aiDraft text
  else if Text.mentions component.name "Data" then .transformData
  else .processData

/-- The default stands in for an empty list. -/
def orDefault (drafts : List Draft) (draft : Draft) : List Draft :=
  if drafts.isEmpty then [draft] else drafts

/-- A node for each processor, or a general one. -/
def processingDrafts (architecture : Architecture) (text : String) : List Draft :=
  orDefault ((architecture.componentsOf .processor).map (processingDraft text)) .processData

/-- Keywords in the name of a service, and the nodes for them, in the order in which they are
tried. -/
def serviceRules : List (Draft × List String) := [
  (.hubspot, ["hubspot"]),
  (.salesforce, ["salesforce"]),
  (.stripe, ["stripe"]),
  (.databaseInsert, ["database"]),
  (.databaseInsert, ["postgres"])]

def integrationDraft (spec : IntegrationSpec) : Draft :=
  (Signal.firstChoice? serviceRules (Text.fold spec.service)).getD .httpRequest

/-- A node for each integration, or a general one. -/
def integrationDrafts (specs : List IntegrationSpec) : List Draft :=
  orDefault (specs.map integrationDraft) .httpRequest

/-- A failed call is tried again. -/
def Draft.retrying (draft : Draft) : Draft :=
  { draft with
    parameters := draft.parameters ++ [("retryOnFail", .bool true), ("maxTries", .int 3)] }

/-- The nodes of the main path; those of a group are added at the same place. -/
def mainGroups (blueprint : Blueprint) (text : String) (options : GraphOptions) :
    List (List Draft) :=
  [[(Trigger.ofText text).draft]]
    ++ (if options.security = .basic then [] else [[.validation]])
    ++ [processingDrafts blueprint.architecture text]
    ++ [(integrationDrafts blueprint.architecture.integrations).map fun draft =>
      if options.retries then draft.retrying else draft]
    ++ [[.notification blueprint.title]]

/-- Edges from each node to the next. -/
def chain : List Node → List (String × List Edge)
  | first :: second :: rest => (first.name, [.main second.name]) :: chain (second :: rest)
  | _ => []

/-- The main path and the error path of a workflow, on one canvas. -/
def mainNodes (blueprint : Blueprint) (text : String) (options : GraphOptions) :
    List Node × List Node :=
  let (path, canvas) := Canvas.empty.addGroups (mainGroups blueprint text options)
  if options.errorHandling then
    (path, (canvas.addAll [.errorHandler canvas.cursor, .errorNotification canvas.cursor]).1)
  else (path, [])

def mainGraph (blueprint : Blueprint) (text : String) (options : GraphOptions) (id : String) :
    Graph :=
  let (path, aside) := mainNodes blueprint text options
  { id
    name := blueprint.title ++ " - Main Workflow"
    nodes := path ++ aside
    connections := chain path ++ chain aside
    active := false
    settings := [("executionOrder", .str "v1")]
      ++ (if options.logging then [("saveExecutionProgress", .bool true)] else [])
    tags := tagsOf blueprint.title []
    version := "1"
    metadata := aside.head?.toList.map fun handler => ("errorPath", .strings [handler.name]) }

/-- A workflow that is one path and runs by itself. -/
def supportingGraph (blueprint : Blueprint) (suffix tag : String) (path : List Node)
    (id : String) : Graph where
  id
  name := blueprint.title ++ " - " ++ suffix
  nodes := path
  connections := chain path
  active := true
  settings := [("executionOrder", .str "v1")]
  tags := tagsOf blueprint.title [tag]
  version := "1"
  metadata := []

def dataProcessingPath : List Node :=
  (Canvas.empty.addGroups [
    [.scheduleTrigger "Data Processing Schedule" (.str "0 */4 * * *")],
    [.fetchPending],
    [.processBatch],
    [.updateStatus]]).1

def dataProcessingGraph (blueprint : Blueprint) (id : String) : Graph :=
  supportingGraph blueprint "Data Processing" "data-processing" dataProcessingPath id

def monitoringPath : List Node :=
  (Canvas.empty.addGroups [
    [.scheduleTrigger "Monitoring Schedule" (.str "*/15 * * * *")],
    [.healthCheck]]).1

def monitoringGraph (blueprint : Blueprint) (id : String) : Graph :=
  supportingGraph blueprint "Monitoring" "monitoring" monitoringPath id

def needsDataProcessing (blueprint : Blueprint) : Bool :=
  blueprint.architecture.has .storage

def needsMonitoring (blueprint : Blueprint) (options : GraphOptions) : Bool :=
  options.monitoring || 3 < blueprint.architecture.components.length

/-- The graphs to build, each waiting for its id. -/
def pending (blueprint : Blueprint) (text : String) (options : GraphOptions) :
    List (String → Graph) :=
  [mainGraph blueprint text options]
    ++ (if needsDataProcessing blueprint then [dataProcessingGraph blueprint] else [])
    ++ (if needsMonitoring blueprint options then [monitoringGraph blueprint] else [])

def identified (ids : Ids) : List (String → Graph) → List Graph × Ids
  | [] => ([], ids)
  | graph :: rest =>
    let (id, ids) := ids.fresh
    let (graphs, ids) := identified ids rest
    (graph id :: graphs, ids)

end Graph

namespace Blueprint

/-- The main workflow of a blueprint, and the supporting ones that it calls for. -/
def compile (blueprint : Blueprint) (requirements : List Requirement) (options : GraphOptions)
    (ids : Ids) : List Graph × Ids :=
  Graph.identified ids
    (Graph.pending blueprint (Requirement.combinedText requirements) options)

/-- The workflows for the fewest and for the most options. -/
def variations (blueprint : Blueprint) (requirements : List Requirement) (ids : Ids) :
    List Graph × Ids :=
  let (basic, ids) := blueprint.compile requirements .basic ids
  let (advanced, ids) := blueprint.compile requirements .advanced ids
  (basic ++ advanced, ids)

end Blueprint

end Flowplan
