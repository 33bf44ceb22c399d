import Flowplan.Json.Finite
import Flowplan.Record.Moment

namespace Flowplan.Record

abbrev Members := List (String × Json)

def free (json : Json) : Checked Json :=
  .value json

def nullable (read : Json → Checked α) : Json → Checked (Option α)
  | .null => .value none
  | json => (read json).map some

def list (read : Json → Checked α) : Json → Checked (List α)
  | .arr items => .each read items
  | _ => .flaws 1

/-- An object whose values are all of one kind, in the order of its members. -/
def table (read : Json → Checked α) : Json → Checked (List (String × α))
  | .obj members => .each (fun m => (read m.2).map (m.1, ·)) members
  | _ => .flaws 1

def object : Json → Checked Members
  | .obj members => .value members
  | _ => .flaws 1

/-- A list of exactly two integers; a longer list is one flaw in all. -/
def pair : Json → Checked (Int × Int)
  | .arr [] => .flaws 2
  | .arr [x] => .seq (.map Prod.mk (whole x)) (.flaws 1)
  | .arr [x, y] => .seq (.map Prod.mk (whole x)) (whole y)
  | _ => .flaws 1

def record (read : Members → Checked α) : Json → Checked α
  | .obj members => read members
  | _ => .flaws 1

def required (members : Members) (name : String) (read : Json → Checked α) : Checked α :=
  match members.lookup name with
  | some json => read json
  | none => .flaws 1

/-- A field that has a default; null is no substitute for leaving it out. -/
def optional (members : Members) (name : String) (read : Json → Checked α) (default : α) :
    Checked α :=
  match members.lookup name with
  | some json => read json
  | none => .value default

end Flowplan.Record
