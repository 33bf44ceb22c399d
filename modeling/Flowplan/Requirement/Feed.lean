import Flowplan.Figure
import Flowplan.Intent.Classification
import Flowplan.Ids
import Flowplan.Json.Magnitude
import Flowplan.Text.Blank
import Flowplan.Work

namespace Flowplan.Requirement

/-- The text of a record, or its answer if it has no text. -/
def recordText? (members : Record.Members) : Option RawText :=
  (((members.lookup "text").or (members.lookup "answer")).bind Json.raw?).filter (!·.allBlank)

/-- The category of the classified intent, or the business process if it has none. -/
def categoryOfText (text : RawText) : Category :=
  match Classification.ofMessage IntentRule.standard text with
  | .ok classification => classification.category.getD .businessProcess
  | .error _ => .businessProcess

/-- The category that a record states, or else that of its text. -/
def recordCategory? (members : Record.Members) (text : RawText) : Option Category :=
  match members.lookup "category" with
  | none => some (categoryOfText text)
  | some .null => some (categoryOfText text)
  | some (.str name) => Labelled.ofLabel? name
  | some _ => none

/-- The id that a record states. -/
def ownId? (members : Record.Members) : Option Json :=
  (members.lookup "id").filter Json.isPresent

/-- The id that a record states, or else a fresh one. -/
def recordId (members : Record.Members) (ids : Ids) : RawText × Ids :=
  match ownId? members with
  | some json => (json.display, ids)
  | none => (ids.fresh.1, ids.fresh.2)

/-- Reads one record of a feed. A record with a flaw is dropped after it took its id. -/
def ofRecord (record : Json) (ids : Ids) : Option Requirement × Ids :=
  match record with
  | .obj members =>
    match recordText? members with
    | none => (none, ids)
    | some text =>
      match recordCategory? members text with
      | none => (none, ids)
      | some category =>
        let (id, ids) := recordId members ids
        let requirement? := do
          let id ← id.text?
          let answer ← text.text?
          let details ← (Details.ofMembers members).value?
          pure (ofDetails id category answer details)
        (requirement?, ids)
  | _ => (none, ids)

/-- What a feed may hold: a requirement, or data that may state one. -/
inductive Item where
  | held (requirement : Requirement)
  | data (json : Json)

def Item.read (ids : Ids) : Item → Option Requirement × Ids
  | held requirement => (some requirement, ids)
  | data json => ofRecord json ids

/-- What the items state. All that is written out of a record is taken to be writable. -/
def ofItems (ids : Ids) : List Item → List Requirement × Ids
  | [] => ([], ids)
  | item :: rest =>
    let (requirement?, ids) := item.read ids
    let (requirements, ids) := ofItems ids rest
    (requirement?.toList ++ requirements, ids)

def ofRecords (ids : Ids) (records : List Json) : List Requirement × Ids :=
  ofItems ids (records.map .data)

/-- The value that is written out when a record is read: a category that there is not, or its own
id. -/
def writtenOut? : Json → Option Json
  | .obj members => do
    let text ← recordText? members
    match recordCategory? members text with
    | none => members.lookup "category"
    | some _ => ownId? members
  | _ => none

/-- The record can be read: no integer in what is written out of it has too many digits. -/
def isWritable (record : Json) : Bool :=
  (writtenOut? record).all fun json => json.magnitudes.all Figure.isPrintable

/-- The requirements of a feed; records that state none are skipped. -/
def ofFeed (feed : Json) : Work Ids (List Requirement) := do
  let records ← requireList "requirements" feed
  let (requirements, ids) := ofRecords (← get) (records.takeWhile isWritable)
  set ids
  if records.all isWritable then pure requirements else throw (.figure .tooManyDigits)

end Flowplan.Requirement
