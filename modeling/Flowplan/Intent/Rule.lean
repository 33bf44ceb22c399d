import Flowplan.Fault
import Flowplan.Requirement.Basic
import Flowplan.Template.Label
import Flowplan.Text.Occurrence

namespace Flowplan

/-- What a message is about if it holds one of the keywords. A flaw in the other details of a rule
shows only when the rule applies. -/
structure IntentRule where
  name : Checked (Option RawText)
  keywords : List RawText
  /-- The kind of the value that stands after the keywords and cannot be sought. -/
  misfit : Option String
  intent : Checked RawText
  category : Requirement.Category
  confidence : Checked Binary64
  labels : Checked (List RawText)
  templateCategory : Option Template.Category

namespace IntentRule

def businessProcess : RawText := "business-process"

def technicalRequirement : RawText := "technical-requirement"

def scaleRequirement : RawText := "scale-requirement"

def generalInquiry : RawText := "general-inquiry"

/-- The keywords are sought in a case-folded text. -/
def applies (rule : IntentRule) (text : RawText) : Bool :=
  text.mentionsAny rule.keywords

def isNamed (rule : IntentRule) (name : Option RawText) : Bool :=
  rule.name = .value name

/-- A rule without flaws. -/
def ofDetails (name : String) (keywords : List String) (intent : RawText)
    (category : Requirement.Category) (confidence : Binary64) (labels : List String)
    (templateCategory : Option Template.Category) : IntentRule where
  name := .value (some name)
  keywords := keywords.map .ofString
  misfit := none
  intent := .value intent
  category
  confidence := .value confidence
  labels := .value (labels.map .ofString)
  templateCategory

/-- The rules in the order in which they are tried. -/
def standard : List IntentRule := [
  ofDetails "ecommerce"
    ["ecommerce", "e-commerce", "online store", "shop", "orders", "products"]
    businessProcess .businessProcess (.ofDecimal false 9 (-1)) ["ecommerce"]
    (some .eCommerce),
  ofDetails "crm-sales"
    ["lead", "leads", "crm", "sales", "prospects", "customers"]
    businessProcess .businessProcess (.ofDecimal false 85 (-2)) ["crm", "sales"]
    (some .crmSales),
  ofDetails "marketing"
    ["marketing", "email", "social media", "content", "campaigns"]
    businessProcess .businessProcess (.ofDecimal false 8 (-1)) ["marketing"]
    (some .marketingAutomation),
  ofDetails "support"
    ["support", "tickets", "customer service", "helpdesk"]
    businessProcess .businessProcess (.ofDecimal false 8 (-1)) ["support"]
    (some .customerSupport),
  ofDetails "technical"
    ["api", "database", "integration", "webhook", "data"]
    technicalRequirement .technicalSpecs (.ofDecimal false 7 (-1)) ["technical"]
    (some .dataProcessing),
  ofDetails "scale"
    ["scale", "volume", "performance", "load", "capacity"]
    scaleRequirement .scaleVolume (.ofDecimal false 7 (-1)) ["scale"]
    none]

/-- The first rule that applies to a text. -/
def firstMatch (text : RawText) : List IntentRule → Outcome (Option IntentRule)
  | [] => .ok none
  | rule :: rest =>
    if rule.applies text then .ok (some rule)
    else
      match rule.misfit with
      | some kind => .error (.notSought kind)
      | none => firstMatch text rest

/-- The texts at the beginning of a list, and the value that comes after them. -/
def leadingTexts : List Json → List RawText × Option Json
  | [] => ([], none)
  | json :: rest =>
    match json.raw? with
    | some text => (text :: (leadingTexts rest).1, (leadingTexts rest).2)
    | none => ([], some json)

/-- The parts of a field, which is a list or something that can be walked through like one. -/
def partsOf (members : Record.Members) (name : String) : Outcome (List Json) :=
  let json := (members.lookup name).getD .null
  match json.parts? with
  | some items => .ok items
  | none => .error (.notIterable json.kind)

/-- The category that a field names; an empty field names none. -/
def hintOf (members : Record.Members) : Outcome (Option Template.Category) :=
  match (members.lookup "template_category").filter Json.isPresent with
  | none => .ok none
  | some json => (Labelled.member Template.Category json).map some

/-- A rule of a custom table. -/
def ofJson (json : Json) : Outcome IntentRule := do
  let members ← (Record.object json).outcome
  let (keywords, misfit) := leadingTexts (← partsOf members "keywords")
  let category ← Labelled.member Requirement.Category ((members.lookup "category").getD .null)
  let labels ← partsOf members "labels"
  let templateCategory ← hintOf members
  pure {
    name := Record.required members "name" (Record.nullable Record.raw)
    keywords
    misfit := misfit.map Json.kind
    intent := Record.required members "intent" Record.raw
    category
    confidence := Record.required members "confidence" Record.share
    labels := .each Record.raw labels
    templateCategory }

end IntentRule

end Flowplan
