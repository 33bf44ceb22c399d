import Flowplan.Graph.Document
import Flowplan.Graph.Search

namespace Flowplan.Graph

/-- What keeps a graph from being well formed. -/
inductive Problem where
  | duplicateNames
  | unknownSource (source : String)
  | unknownTarget (source target : String)
  | noTrigger
  | triggerInbound (name : String)
  | noInbound (name : String)
  | errorPathReachable (name : String)
  | cycle
  deriving DecidableEq

def Problem.message : Problem → String
  | duplicateNames => "duplicate node names"
  | unknownSource source => s!"edges from unknown node '{source}'"
  | unknownTarget source target => s!"edge from '{source}' to unknown node '{target}'"
  | noTrigger => "no trigger node"
  | triggerInbound name => s!"trigger '{name}' has inbound edges"
  | noInbound name => s!"node '{name}' has no inbound edge"
  | errorPathReachable name => s!"error path '{name}' is reachable from the main path"
  | cycle => "cycle along main connections"

/-- The parts of the error path: the nodes on it start a side path of their own. -/
def errorPath (graph : Graph) : Outcome (List Json) :=
  match graph.metadata.lookup "errorPath" with
  | none => .ok []
  | some json =>
    match json.parts? with
    | some items => .ok items
    | none => .error (.notIterable json.kind)

/-- The names among the parts of an error path; a list or an object cannot be a part. -/
def sideRoots : List Json → Outcome (List String)
  | [] => .ok []
  | .str name :: rest => (sideRoots rest).map (name :: ·)
  | .arr items :: _ => .error (.unhashable (Json.arr items).kind)
  | .obj members :: _ => .error (.unhashable (Json.obj members).kind)
  | _ :: rest => sideRoots rest

def nameProblems (graph : Graph) : List Problem :=
  if graph.names.Nodup then [] else [.duplicateNames]

def sourceProblems (graph : Graph) (entry : String × List Edge) : List Problem :=
  (if entry.1 ∈ graph.names then [] else [.unknownSource entry.1])
    ++ (entry.2.filter fun edge => edge.target ∉ graph.names).map fun edge =>
      .unknownTarget entry.1 edge.target

def connectionProblems (graph : Graph) : List Problem :=
  graph.connections.flatMap graph.sourceProblems

def triggerProblems (graph : Graph) : List Problem :=
  if graph.trigger?.isSome then [] else [.noTrigger]

def nodeProblems (graph : Graph) (roots : List String) (node : Node) : List Problem :=
  if node.isTrigger then
    if graph.inboundCount node.name = 0 then [] else [.triggerInbound node.name]
  else if node.name ∉ roots ∧ graph.inboundCount node.name = 0 then [.noInbound node.name]
  else []

/-- The side roots that the main path leads to, each once. -/
def reachableRoots (graph : Graph) (roots : List String) : List String :=
  match graph.trigger? with
  | some trigger =>
    let main := reachable graph.connections trigger.name
    (roots.filter (· ∈ main)).eraseDups
  | none => []

/-- The problems of an error path stand in the order of their messages. -/
def errorPathProblems (graph : Graph) (roots : List String) : List Problem :=
  ((graph.reachableRoots roots).map Problem.errorPathReachable).mergeSort fun a b =>
    a.message ≤ b.message

def cycleProblems (graph : Graph) : List Problem :=
  if hasCycle graph.connections then [.cycle] else []

def problemsWith (graph : Graph) (roots : List String) : List Problem :=
  graph.nameProblems
    ++ graph.connectionProblems
    ++ graph.triggerProblems
    ++ graph.nodes.flatMap (graph.nodeProblems roots)
    ++ graph.errorPathProblems roots
    ++ graph.cycleProblems

/-- All problems of a graph; a graph without any is well formed. -/
def problems (graph : Graph) : Outcome (List Problem) := do
  let roots ← sideRoots (← graph.errorPath)
  pure (graph.problemsWith roots)

end Flowplan.Graph
