import Flowplan.Ids
import Flowplan.Requirement.Basic
import Flowplan.Text.Fold
import Flowplan.Text.Occurrence
import Flowplan.Work

namespace Flowplan.Requirement

def automationTriggers : List String := ["automate", "automation"]

def integrationTriggers : List String := ["integrate", "connect", "sync", "api", "webhook"]

/-- Equality up to ASCII case, in which `i` also equals its dotted and its dotless relative. -/
def equalLetter (letter : Char) : Text.Point → Bool
  | .char c => c.toLower = letter || (letter = 'i' && (c = 'İ' || c = 'ı'))
  | .half _ => false

/-- The text begins with a trigger word, whatever its case. -/
def beginsWith : (word : List Char) → (text : List Text.Point) → Bool
  | [], _ => true
  | _ :: _, [] => false
  | letter :: word, point :: text => equalLetter letter point && beginsWith word text

/-- A trigger word and what follows it: up to a hundred characters of the same line. -/
def phraseAt? (triggers : List String) (text : List Text.Point) : Option (List Text.Point) :=
  (triggers.find? fun trigger => beginsWith trigger.toList text).map fun trigger =>
    text.take trigger.length
      ++ ((text.drop trigger.length).takeWhile (· ≠ .char '\n')).take 100

def firstPhrase? (triggers : List String) : List Text.Point → Option (List Text.Point)
  | [] => none
  | point :: rest => (phraseAt? triggers (point :: rest)).or (firstPhrase? triggers rest)

/-- The phrase of a message that names what to automate. -/
def automationPhrase? (message : RawText) : Option RawText :=
  if message.fold.mentionsAny (automationTriggers.map .ofString) then
    (firstPhrase? automationTriggers message.points).map RawText.mk
  else none

/-- What a message states, before it has an id and before it is checked. -/
structure Draft where
  category : Category
  answer : RawText
  details : Details

namespace Draft

def automation (phrase : RawText) : Draft where
  category := .businessProcess
  answer := phrase
  details :=
    { question := "What process needs automation?"
      priority := .critical
      confidence := .ofDecimal false 8 (-1)
      followUpNeeded := true
      tags := ["automation", "process"] }

def integration (message : RawText) (keyword : String) : Draft where
  category := .integrations
  answer := message
  details :=
    { question := s!"What integration is needed for {keyword}?"
      priority := .high
      confidence := .ofDecimal false 7 (-1)
      followUpNeeded := true
      tags := ["integration", keyword] }

/-- The requirement with an id, which is checked like one that comes from a record. -/
def identify (draft : Draft) (id : String) : Checked Requirement :=
  ofJson (recordOf id draft.category draft.answer draft.details)

/-- Makes the requirement with the next id. The id is gone even if the requirement is refused. -/
def make (draft : Draft) : Work Ids Requirement := do
  let id ← modifyGet Ids.fresh
  (draft.identify id).outcome

end Draft

/-- The requirements that a message states, each waiting for an id. -/
def drafts (message : RawText) : List Draft :=
  (automationPhrase? message).toList.map .automation
    ++ (integrationTriggers.filter fun (keyword : String) => message.fold.mentions keyword).map
      (.integration message)

/-- At most one requirement from an automation phrase, then one per integration keyword. -/
def extract (message : RawText) : Work Ids (List Requirement) :=
  (drafts message).mapM Draft.make

end Flowplan.Requirement
