import Flowplan.Record.Field
import Flowplan.Text.Capital

namespace Flowplan

inductive Requirement.Category where
  | businessProcess
  | technicalSpecs
  | integrations
  | scaleVolume
  | securityCompliance
  | userExperience
  | budgetTimeline
  | successMetrics
  deriving DecidableEq

inductive Priority where
  | critical
  | high
  | medium
  | low
  deriving DecidableEq

instance : Labelled Requirement.Category where
  all := [.businessProcess, .technicalSpecs, .integrations, .scaleVolume, .securityCompliance,
    .userExperience, .budgetTimeline, .successMetrics]
  label
    | .businessProcess => "business-process"
    | .technicalSpecs => "technical-specs"
    | .integrations => "integrations"
    | .scaleVolume => "scale-volume"
    | .securityCompliance => "security-compliance"
    | .userExperience => "user-experience"
    | .budgetTimeline => "budget-timeline"
    | .successMetrics => "success-metrics"
  title := "RequirementCategory"

instance : Labelled Priority where
  all := [.critical, .high, .medium, .low]
  label
    | .critical => "critical"
    | .high => "high"
    | .medium => "medium"
    | .low => "low"
  title := "Priority"

/-- The words of the label, each capitalized. -/
def Requirement.Category.displayName (category : Requirement.Category) : String :=
  " ".intercalate ((Text.runsFrom (· = '-') [] (label category).toList).map
    fun word => Text.capitalize (String.ofList word))

/-- One fact that the user stated, filed under a category. -/
structure Requirement where
  id : String
  category : Requirement.Category
  question : RawText
  answer : String
  priority : Priority
  confidence : Binary64
  followUpNeeded : Bool
  tags : List RawText
  deriving DecidableEq

namespace Requirement

/-- The fields that a record may leave out. -/
structure Details where
  question : RawText
  priority : Priority
  confidence : Binary64
  followUpNeeded : Bool
  tags : List RawText

def Details.ofMembers (members : Record.Members) : Checked Details :=
  Details.mk
    <$> Record.optional members "question" Record.raw ""
    <*> Record.optional members "priority" Record.choice .medium
    <*> Record.optional members "confidence" Record.share (.finite (1 / 2))
    <*> Record.optional members "follow_up_needed" Record.flag false
    <*> Record.optional members "tags" (Record.list Record.raw) []

def ofDetails (id : String) (category : Category) (answer : String) (details : Details) :
    Requirement :=
  { id, category, answer
    question := details.question
    priority := details.priority
    confidence := details.confidence
    followUpNeeded := details.followUpNeeded
    tags := details.tags }

def ofJson : Json → Checked Requirement :=
  Record.record fun members =>
    ofDetails
      <$> Record.required members "id" Record.nonempty
      <*> Record.required members "category" Record.choice
      <*> Record.required members "answer" Record.nonempty
      <*> Details.ofMembers members

def details (requirement : Requirement) : Details where
  question := requirement.question
  priority := requirement.priority
  confidence := requirement.confidence
  followUpNeeded := requirement.followUpNeeded
  tags := requirement.tags

/-- The record of a requirement, whose answer may be none that a requirement can have. -/
def recordOf (id : String) (category : Category) (answer : RawText) (details : Details) : Json :=
  .obj [
    ("id", .str id),
    ("category", .str (label category)),
    ("question", .ofRaw details.question),
    ("answer", .ofRaw answer),
    ("priority", .str (label details.priority)),
    ("confidence", .float details.confidence),
    ("follow_up_needed", .bool details.followUpNeeded),
    ("tags", .rawTexts details.tags)]

def toJson (requirement : Requirement) : Json :=
  recordOf requirement.id requirement.category requirement.answer requirement.details

end Requirement

end Flowplan
