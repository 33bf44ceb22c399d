import Flowplan.Graph.Basic

namespace Flowplan.Graph

/-- A node that waits for its id, its name and, unless it has one, its position. -/
structure Draft where
  name : String
  type : RawText
  typeVersion : Nat
  parameters : Record.Members
  credentials : Option (List (String × RawText))
  position : Option (Int × Int)
  deriving DecidableEq

def Draft.node (draft : Draft) (id name : String) (cursor : Int × Int) : Node where
  id
  name
  type := draft.type
  typeVersion := draft.typeVersion
  position := draft.position.getD cursor
  parameters := draft.parameters
  credentials := draft.credentials

/-- A graph under construction: the ids given out, the columns used, and the names taken. -/
structure Canvas where
  count : Nat
  column : Nat
  taken : List String
  deriving DecidableEq

namespace Canvas

def empty : Canvas := ⟨0, 0, []⟩

/-- Where the next node of the main path goes. -/
def cursor (canvas : Canvas) : Int × Int :=
  (300 + 400 * canvas.column, 300)

def nextId (canvas : Canvas) : String × Canvas :=
  (s!"node_{canvas.count + 1}", { canvas with count := canvas.count + 1 })

/-- Moves on by a number of columns. -/
def advance (canvas : Canvas) (columns : Nat) : Canvas :=
  { canvas with column := canvas.column + columns }

def numbered (name : String) (number : Nat) : String :=
  s!"{name} {number}"

/-- A name and its first numbered forms, one of which is free if `count` names are taken. -/
def candidates (name : String) (count : Nat) : List String :=
  name :: (List.range count).map fun i => numbered name (i + 2)

def freeName (taken : List String) (name : String) : String :=
  ((candidates name taken.length).find? fun candidate => candidate ∉ taken).getD name

/-- Takes the name, or its first numbered form that is free. -/
def uniqueName (canvas : Canvas) (name : String) : String × Canvas :=
  let free := freeName canvas.taken name
  (free, { canvas with taken := free :: canvas.taken })

def add (canvas : Canvas) (draft : Draft) : Node × Canvas :=
  let (id, canvas) := canvas.nextId
  let (name, canvas) := canvas.uniqueName draft.name
  (draft.node id name canvas.cursor, canvas)

def addAll (canvas : Canvas) : List Draft → List Node × Canvas
  | [] => ([], canvas)
  | draft :: rest =>
    let (node, canvas) := canvas.add draft
    let (nodes, canvas) := addAll canvas rest
    (node :: nodes, canvas)

/-- Adds nodes at the cursor, and then moves on by a column for each of them. -/
def addGroup (canvas : Canvas) (drafts : List Draft) : List Node × Canvas :=
  let (nodes, canvas) := canvas.addAll drafts
  (nodes, canvas.advance drafts.length)

def addGroups (canvas : Canvas) : List (List Draft) → List Node × Canvas
  | [] => ([], canvas)
  | group :: rest =>
    let (nodes, canvas) := canvas.addGroup group
    let (others, canvas) := addGroups canvas rest
    (nodes ++ others, canvas)

/-- Adds a node that a caller describes. A description with flaws still takes an id and a name. -/
def request (canvas : Canvas) (name : String) (body : Checked Draft) : Checked Node × Canvas :=
  let cursor := canvas.cursor
  let (id, canvas) := canvas.nextId
  let (name, canvas) := canvas.uniqueName name
  let named : Checked String := if name.isEmpty then .flaws 1 else .value name
  ((fun name (draft : Draft) => draft.node id name cursor) <$> named <*> body, canvas)

end Canvas

/-- A value that is absent or empty leaves the default in place. -/
def Draft.given (members : Record.Members) (field : String) : Option Json :=
  (members.lookup field).filter Json.isPresent

/-- A node as a caller describes it, without the name. -/
def Draft.ofMembers (members : Record.Members) : Checked Draft :=
  Draft.mk ""
    <$> Record.required members "node_type" Record.raw
    <*> Record.optional members "type_version"
      (fun json => (Record.wholeFrom 1 json).map Int.toNat) 1
    <*> (match Draft.given members "parameters" with
      | some json => Record.object json
      | none => .value [])
    <*> Record.optional members "credentials" (Record.nullable (Record.table Record.raw)) none
    <*> (match Draft.given members "position" with
      | some json => (Record.pair json).map some
      | none => .value none)

end Flowplan.Graph
