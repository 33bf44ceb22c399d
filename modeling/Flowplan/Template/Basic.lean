import Flowplan.Record.Field
import Flowplan.Template.Label

namespace Flowplan

namespace Template

structure Node where
  id : String
  name : String
  type : String
  description : String
  parameters : Record.Members
  position : Int × Int
  notes : Option String
  deriving DecidableEq

/-- A directed edge between two nodes, which it names by their ids. -/
structure Connection where
  source : String
  target : String
  sourceIndex : Nat
  targetIndex : Nat
  channel : Channel
  deriving DecidableEq

/-- A setting that the user of a template has to provide. -/
structure Variable where
  name : String
  description : String
  type : String
  required : Bool
  default : Json
  sample : Json
  deriving DecidableEq

/-- An external service that a template talks to. -/
structure Service where
  name : String
  kind : ServiceKind
  authentication : Authentication
  rateLimit : Option Nat
  documentation : String
  deriving DecidableEq

end Template

/-- A reusable workflow. -/
structure Template where
  id : String
  name : String
  description : String
  category : Template.Category
  subcategory : String
  tags : List String
  difficulty : Template.Difficulty
  estimatedTime : String
  nodes : List Template.Node
  connections : List Template.Connection
  inputs : List Template.Variable
  services : List Template.Service
  useCase : String
  businessValue : String
  requirements : List String
  popularity : Nat
  lastUpdated : Option String
  deriving DecidableEq

namespace Template

def pairJson (position : Int × Int) : Json :=
  .arr [.int position.1, .int position.2]

def Node.ofJson : Json → Checked Node :=
  Record.record fun members =>
    Node.mk
      <$> Record.required members "id" Record.text
      <*> Record.required members "name" Record.text
      <*> Record.required members "type" Record.text
      <*> Record.optional members "description" Record.text ""
      <*> Record.optional members "parameters" Record.object []
      <*> Record.optional members "position" Record.pair (0, 0)
      <*> Record.optional members "notes" (Record.nullable Record.text) none

def Node.toJson (node : Node) : Json :=
  .obj [
    ("id", .str node.id),
    ("name", .str node.name),
    ("type", .str node.type),
    ("description", .str node.description),
    ("parameters", .ofFree node.parameters),
    ("position", pairJson node.position),
    ("notes", .ofOption .str node.notes)]

def Connection.ofJson : Json → Checked Connection :=
  Record.record fun members =>
    Connection.mk
      <$> Record.required members "source" Record.text
      <*> Record.required members "target" Record.text
      <*> Record.optional members "source_index" Record.natural 0
      <*> Record.optional members "target_index" Record.natural 0
      <*> Record.optional members "type" Record.choice .main

def Connection.toJson (connection : Connection) : Json :=
  .obj [
    ("source", .str connection.source),
    ("target", .str connection.target),
    ("source_index", .int connection.sourceIndex),
    ("target_index", .int connection.targetIndex),
    ("type", .str (label connection.channel))]

def Variable.ofJson : Json → Checked Variable :=
  Record.record fun members =>
    Variable.mk
      <$> Record.required members "name" Record.text
      <*> Record.optional members "description" Record.text ""
      <*> Record.optional members "type" Record.text "string"
      <*> Record.optional members "required" Record.flag true
      <*> Record.optional members "default" Record.free .null
      <*> Record.optional members "example" Record.free .null

def Variable.toJson (setting : Variable) : Json :=
  .obj [
    ("name", .str setting.name),
    ("description", .str setting.description),
    ("type", .str setting.type),
    ("required", .bool setting.required),
    ("default", setting.default.finite),
    ("example", setting.sample.finite)]

def Service.ofJson : Json → Checked Service :=
  Record.record fun members =>
    Service.mk
      <$> Record.required members "service" Record.text
      <*> Record.optional members "type" Record.choice .api
      <*> Record.optional members "auth_method" Record.choice .apiKey
      <*> Record.optional members "rate_limit" (Record.nullable Record.natural) none
      <*> Record.optional members "documentation" Record.text ""

def Service.toJson (service : Service) : Json :=
  .obj [
    ("service", .str service.name),
    ("type", .str (label service.kind)),
    ("auth_method", .str (label service.authentication)),
    ("rate_limit", .ofOption (fun limit : Nat => .int limit) service.rateLimit),
    ("documentation", .str service.documentation)]

def readPopularity (json : Json) : Checked Nat :=
  ((Record.whole json).guard fun n => 0 ≤ n && n ≤ 100).map Int.toNat

def ofJson : Json → Checked Template :=
  Record.record fun members =>
    Template.mk
      <$> Record.required members "id" Record.nonempty
      <*> Record.required members "name" Record.nonempty
      <*> Record.optional members "description" Record.text ""
      <*> Record.required members "category" Record.choice
      <*> Record.optional members "subcategory" Record.text ""
      <*> Record.optional members "tags" (Record.list Record.text) []
      <*> Record.optional members "difficulty" Record.choice .intermediate
      <*> Record.optional members "estimated_time" Record.text ""
      <*> Record.optional members "nodes" (Record.list Node.ofJson) []
      <*> Record.optional members "connections" (Record.list Connection.ofJson) []
      <*> Record.optional members "variables" (Record.list Variable.ofJson) []
      <*> Record.optional members "integrations" (Record.list Service.ofJson) []
      <*> Record.optional members "use_case" Record.text ""
      <*> Record.optional members "business_value" Record.text ""
      <*> Record.optional members "requirements" (Record.list Record.text) []
      <*> Record.optional members "popularity" readPopularity 0
      <*> Record.optional members "last_updated" (Record.nullable Record.text) none

def toJson (template : Template) : Json :=
  .obj [
    ("id", .str template.id),
    ("name", .str template.name),
    ("description", .str template.description),
    ("category", .str (label template.category)),
    ("subcategory", .str template.subcategory),
    ("tags", .strings template.tags),
    ("difficulty", .str (label template.difficulty)),
    ("estimated_time", .str template.estimatedTime),
    ("nodes", .arr (template.nodes.map Node.toJson)),
    ("connections", .arr (template.connections.map Connection.toJson)),
    ("variables", .arr (template.inputs.map Variable.toJson)),
    ("integrations", .arr (template.services.map Service.toJson)),
    ("use_case", .str template.useCase),
    ("business_value", .str template.businessValue),
    ("requirements", .strings template.requirements),
    ("popularity", .int template.popularity),
    ("last_updated", .ofOption .str template.lastUpdated)]

def serviceNames (template : Template) : List String :=
  template.services.map (·.name)

end Template

end Flowplan
