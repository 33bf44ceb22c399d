import Flowplan.Fault
import Flowplan.Graph.Basic
import Flowplan.Json.Display
import Flowplan.Json.Writer

/-!
The document that a workflow engine imports. Each edge fills an output slot of its own; a reader
also accepts slots that hold several edges.
-/

namespace Flowplan

namespace Graph

def Node.document (node : Node) : Json :=
  .obj ([
    ("id", .ofRaw node.id),
    ("name", .str node.name),
    ("type", .ofRaw node.type),
    ("typeVersion", .int node.typeVersion),
    ("position", positionJson node.position),
    ("parameters", .obj node.parameters)]
    ++ (node.credentials.map fun credentials =>
      ("credentials", credentialsJson credentials)).toList)

/-- The slots of the main channel of a node. -/
def channelsJson (edges : List Edge) : Json :=
  .obj [("main", .arr (edges.map fun edge => .arr [edge.toJson]))]

def document (graph : Graph) : Json :=
  .obj ([
    ("id", .ofRaw graph.id),
    ("name", .ofRaw graph.name),
    ("nodes", .arr (graph.nodes.map Node.document)),
    ("connections", .obj (graph.connections.map fun entry => (entry.1, channelsJson entry.2))),
    ("active", .bool graph.active),
    ("settings", .obj graph.settings),
    ("tags", .rawTexts graph.tags),
    ("versionId", .ofRaw graph.version)]
    ++ (if graph.metadata.isEmpty then [] else [("meta", .obj graph.metadata)]))

/-- The text of the document. -/
def text (graph : Graph) : String :=
  graph.document.indented

/-- The text of the document, if nothing in it is beyond the limits. -/
def serializeWithin (limits : Json.Limits) (graph : Graph) : Outcome String :=
  (graph.document.indentedWithin limits).mapError .unwritten

def serialize (graph : Graph) : Outcome String :=
  graph.serializeWithin .standard

def refuse (cause : DocumentFault) : Outcome α :=
  .error (.document cause)

def accept : Checked α → Outcome α
  | .value a => .ok a
  | .flaws count => refuse (.invalid count)

def key (members : Record.Members) (name : String) : Outcome Json :=
  match members.lookup name with
  | some json => .ok json
  | none => refuse (.missingKey name)

def parts (json : Json) : Outcome (List Json) :=
  match json.parts? with
  | some items => .ok items
  | none => refuse (.notIterable json.kind)

/-- A member of a document under the name that the graph gives it. -/
def renamed (members : Record.Members) (name newName : String) : Record.Members :=
  ((members.lookup name).map fun json => (newName, json)).toList

def readPosition (members : Record.Members) : Outcome Record.Members :=
  match members.lookup "position" with
  | none => .ok []
  | some json => (parts json).map fun items => [("position", .arr items)]

def readNodeMembers (members : Record.Members) : Outcome Node := do
  let id ← key members "id"
  let name ← key members "name"
  let type ← key members "type"
  let position ← readPosition members
  accept (Node.ofMembers ([("id", id), ("name", name), ("type", type)]
    ++ renamed members "typeVersion" "type_version"
    ++ position
    ++ renamed members "parameters" "parameters"
    ++ renamed members "credentials" "credentials"))

def readNode : Json → Outcome Node
  | .obj members => readNodeMembers members
  | .str _ => refuse .textNode
  | .arr _ => refuse .listNode
  | json => refuse (.notSubscriptable json.kind)

def readNodes (members : Record.Members) : Outcome (List Node) :=
  match members.lookup "nodes" with
  | some (.arr items) => items.mapM readNode
  | _ => refuse .nodesNotList

/-- No node has a name in which a half stands alone. -/
def readEdge (source : String) : Json → Outcome Edge
  | .obj members =>
    match members.lookup "node" with
    | some (.torn target) => refuse (.unknownNode target.raw.shown)
    | _ => accept (Edge.ofMembers members)
  | _ => refuse (.edgeNotObject source)

def readSlot (source : String) : Json → Outcome (List Edge)
  | .arr items => items.mapM (readEdge source)
  | _ => refuse (.slotNotList source)

def readChannels (source : String) : Json → Outcome (List Edge)
  | .obj channels => do
    let slots ← parts ((channels.lookup "main").getD (.arr []))
    (slots.mapM (readSlot source)).map List.flatten
  | _ => refuse (.channelsNotObject source)

def readConnections : Json → Outcome (List (String × List Edge))
  | .obj members => members.mapM fun (source, channels) =>
    (readChannels source channels).map fun edges => (source, edges)
  | _ => refuse .connectionsNotObject

/-- An absent or empty value stands for no data. -/
def readMetadata (members : Record.Members) : Checked Record.Members :=
  match members.lookup "meta" with
  | some json => if json.isPresent then Record.object json else .value []
  | none => .value []

/-- A version may be any value; the graph keeps its text. -/
def readVersion (members : Record.Members) : RawText :=
  match members.lookup "versionId" with
  | some json => json.display
  | none => "1"

/-- The first name in the connections that is no node's. -/
def unknownName? (graph : Graph) : Option String :=
  graph.connections.findSome? fun (source, edges) =>
    (source :: edges.map (·.target)).find? fun name => name ∉ graph.names

def readMembers (members : Record.Members) : Outcome Graph := do
  let nodes ← readNodes members
  let id ← key members "id"
  let name ← key members "name"
  let connections ← readConnections ((members.lookup "connections").getD (.obj []))
  let graph ← accept (Graph.mk
    <$> Record.raw id
    <*> Record.raw name
    <*> pure nodes
    <*> pure connections
    <*> Record.optional members "active" Record.flag false
    <*> Record.optional members "settings" Record.object []
    <*> Record.optional members "tags" (Record.list Record.raw) []
    <*> pure (readVersion members)
    <*> readMetadata members)
  match unknownName? graph with
  | some name => refuse (.unknownNode name)
  | none => pure graph

def ofDocument : Json → Outcome Graph
  | .obj members => readMembers members
  | _ => refuse .notObject

/-- The graph that a text describes, or the first reason why it describes none. -/
def deserializeWithin (limits : Json.Limits) (text : String) : Outcome Graph :=
  match Json.parseWithin limits text with
  | .ok json => ofDocument json
  | .error (.malformed fault) => refuse (.json fault)
  | .error (.beyond limit) => .error (.limit limit)

def deserialize (text : String) : Outcome Graph :=
  deserializeWithin .standard text

/-- A value that should be the text of a document. -/
def deserializeValue : Json → Outcome Graph
  | .str text => deserialize text
  | .torn text => deserialize text.raw.shown
  | json => refuse (.notDocumentText json.kind)

/-- The graph survives being written and read. -/
def roundTrips (graph : Graph) : Outcome Bool := do
  let back ← deserialize (← graph.serialize)
  pure (back = graph)

end Graph

end Flowplan
