import Flowplan.Intent.Rule
import Flowplan.Text.Fold

namespace Flowplan

/-- What one message is about. -/
structure Classification where
  intent : RawText
  category : Option Requirement.Category
  confidence : Binary64
  keywords : List RawText
  rule : Option RawText
  extracted : List Requirement
  deriving DecidableEq

namespace Classification

def ofJson : Json → Checked Classification :=
  Record.record fun members =>
    Classification.mk
      <$> Record.required members "intent" Record.raw
      <*> Record.optional members "category" (Record.nullable Record.choice) none
      <*> Record.required members "confidence" Record.share
      <*> Record.optional members "keywords" (Record.list Record.raw) []
      <*> Record.optional members "rule" (Record.nullable Record.raw) none
      <*> Record.optional members "extracted_requirements" (Record.list Requirement.ofJson) []

def toJson (classification : Classification) : Json :=
  .obj [
    ("intent", .ofRaw classification.intent),
    ("category", .ofOption (fun category => .str (label category)) classification.category),
    ("confidence", .float classification.confidence),
    ("keywords", .rawTexts classification.keywords),
    ("rule", .ofOption .ofRaw classification.rule),
    ("extracted_requirements", .arr (classification.extracted.map Requirement.toJson))]

/-- The longer words of a folded text, which single spaces separate. -/
def longWords (text : RawText) : List RawText :=
  ((Text.runsFrom (· = .char ' ') [] text.points).filter fun word => 3 < word.length).map RawText.mk

/-- A message that no rule applies to is a general inquiry about its longer words. -/
def general (text : RawText) : Classification :=
  { intent := IntentRule.generalInquiry
    category := none
    confidence := .finite (1 / 2)
    keywords := longWords text
    rule := none
    extracted := [] }

def ofRule (rule : IntentRule) : Checked Classification :=
  Classification.mk
    <$> rule.intent
    <*> pure (some rule.category)
    <*> rule.confidence
    <*> rule.labels
    <*> rule.name
    <*> pure []

/-- The classification by the first rule that applies. -/
def ofMessage (rules : List IntentRule) (message : RawText) : Outcome Classification := do
  match ← IntentRule.firstMatch message.fold rules with
  | none => .ok (general message.fold)
  | some rule => (ofRule rule).outcome

end Classification

end Flowplan
