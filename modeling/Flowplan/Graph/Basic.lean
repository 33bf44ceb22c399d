import Flowplan.Record.Field

namespace Flowplan

namespace Graph

structure Node where
  id : RawText
  name : String
  type : RawText
  typeVersion : Nat
  position : Int × Int
  parameters : Record.Members
  credentials : Option (List (String × RawText))
  deriving DecidableEq

/-- The end of a connection: an input of the node that it names. -/
structure Edge where
  target : String
  channel : RawText
  input : Nat
  deriving DecidableEq

end Graph

/-- A workflow. The connections list the edges that leave each node, under the node's name. -/
structure Graph where
  id : RawText
  name : RawText
  nodes : List Graph.Node
  connections : List (String × List Graph.Edge)
  active : Bool
  settings : Record.Members
  tags : List RawText
  version : RawText
  metadata : Record.Members
  deriving DecidableEq

namespace Graph

/-- The types of the nodes that start a workflow. -/
def triggerTypes : List RawText := [
  "n8n-nodes-base.webhook",
  "n8n-nodes-base.cron",
  "n8n-nodes-base.emailReadImap",
  "n8n-nodes-base.manualTrigger"]

def Node.isTrigger (node : Node) : Bool :=
  node.type ∈ triggerTypes

/-- An edge to the first input of a node. -/
def Edge.main (target : String) : Edge := ⟨target, "main", 0⟩

def names (graph : Graph) : List String :=
  graph.nodes.map (·.name)

def types (graph : Graph) : List RawText :=
  graph.nodes.map (·.type)

def node? (graph : Graph) (name : String) : Option Node :=
  graph.nodes.find? (·.name = name)

def trigger? (graph : Graph) : Option Node :=
  graph.nodes.find? (·.isTrigger)

def edges (graph : Graph) : List Edge :=
  graph.connections.flatMap (·.2)

def edgeCount (graph : Graph) : Nat :=
  graph.edges.length

/-- The number of edges that lead to a name. -/
def inboundCount (graph : Graph) (name : String) : Nat :=
  graph.edges.countP (·.target = name)

def Node.ofMembers (members : Record.Members) : Checked Node :=
  Node.mk
    <$> Record.required members "id" Record.raw
    <*> Record.required members "name" Record.nonempty
    <*> Record.required members "type" Record.raw
    <*> Record.optional members "type_version"
      (fun json => (Record.wholeFrom 1 json).map Int.toNat) 1
    <*> Record.optional members "position" Record.pair (0, 0)
    <*> Record.optional members "parameters" Record.object []
    <*> Record.optional members "credentials" (Record.nullable (Record.table Record.raw)) none

def Node.ofJson : Json → Checked Node :=
  Record.record Node.ofMembers

def positionJson (position : Int × Int) : Json :=
  .arr [.int position.1, .int position.2]

def credentialsJson (credentials : List (String × RawText)) : Json :=
  .obj (credentials.map fun entry => (entry.1, .ofRaw entry.2))

def Node.toJson (node : Node) : Json :=
  .obj [
    ("id", .ofRaw node.id),
    ("name", .str node.name),
    ("type", .ofRaw node.type),
    ("type_version", .int node.typeVersion),
    ("position", positionJson node.position),
    ("parameters", .ofFree node.parameters),
    ("credentials", .ofOption credentialsJson node.credentials)]

def Edge.ofMembers (members : Record.Members) : Checked Edge :=
  Edge.mk
    <$> Record.required members "node" Record.text
    <*> Record.optional members "type" Record.raw "main"
    <*> Record.optional members "index" Record.natural 0

def Edge.ofJson : Json → Checked Edge :=
  Record.record Edge.ofMembers

def Edge.toJson (edge : Edge) : Json :=
  .obj [("node", .str edge.target), ("type", .ofRaw edge.channel), ("index", .int edge.input)]

def ofJson : Json → Checked Graph :=
  Record.record fun members =>
    Graph.mk
      <$> Record.required members "id" Record.raw
      <*> Record.required members "name" Record.raw
      <*> Record.optional members "nodes" (Record.list Node.ofJson) []
      <*> Record.optional members "connections" (Record.table (Record.list Edge.ofJson)) []
      <*> Record.optional members "active" Record.flag false
      <*> Record.optional members "settings" Record.object []
      <*> Record.optional members "tags" (Record.list Record.raw) []
      <*> Record.optional members "version_id" Record.raw "1"
      <*> Record.optional members "meta" Record.object []

def toJson (graph : Graph) : Json :=
  .obj [
    ("id", .ofRaw graph.id),
    ("name", .ofRaw graph.name),
    ("nodes", .arr (graph.nodes.map Node.toJson)),
    ("connections", .obj (graph.connections.map fun entry =>
      (entry.1, .arr (entry.2.map Edge.toJson)))),
    ("active", .bool graph.active),
    ("settings", .ofFree graph.settings),
    ("tags", .rawTexts graph.tags),
    ("version_id", .ofRaw graph.version),
    ("meta", .ofFree graph.metadata)]

end Graph

end Flowplan
