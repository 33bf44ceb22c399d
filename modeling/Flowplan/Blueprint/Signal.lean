import Flowplan.Blueprint.Label
import Flowplan.Text.Occurrence

/-!
What a text signals about the automation that it asks for. Every test looks for keywords, in any
position and be it inside a longer word, except for the word `ai`, which has to stand alone.
-/

namespace Flowplan.Signal

def integrationKeywords : List String :=
  ["api", "integration", "connect", "sync", "webhook", "database"]

def aiKeywords : List String := ["intelligent", "smart", "learning"]

def complexLogicKeywords : List String := ["complex", "multiple conditions", "decision tree"]

def complianceKeywords : List String := ["compliance", "regulation", "audit"]

def dataProcessingKeywords : List String := ["transform", "validate", "process data"]

def storageKeywords : List String := ["store", "database", "save", "history"]

/-- The domains in the order in which they are tried. -/
def domainRules : List (String × List String) := [
  ("ecommerce", ["ecommerce", "e-commerce", "shop", "orders"]),
  ("sales", ["crm", "sales", "leads"]),
  ("data", ["data", "analytics", "reporting"]),
  ("support", ["support", "customer service", "tickets"]),
  ("marketing", ["marketing", "email", "campaigns"])]

/-- The volumes in the order in which they are tried, the highest first. -/
def volumeRules : List (DataVolume × List String) := [
  (.veryHigh, ["million", "thousands per hour", "big data"]),
  (.high, ["thousands", "hundreds per hour"]),
  (.medium, ["hundreds", "dozens per hour"])]

def criticalFactorRules : List (String × List String) := [
  ("real-time-processing", ["real-time", "immediate"]),
  ("scalability", ["scale", "volume"]),
  ("security-compliance", ["security", "compliance"]),
  ("reliability", ["reliable", "uptime"])]

/-- The first choice of which the text holds a keyword. -/
def firstChoice? (rules : List (α × List String)) (text : String) : Option α :=
  (rules.find? fun rule => Text.mentionsAny text rule.2).map (·.1)

def integrations (text : String) : List String :=
  integrationKeywords.filter (Text.mentions text)

def integrationCount (text : String) : Nat :=
  (integrations text).length

def needsAi (text : String) : Bool :=
  Text.mentionsWord text "ai" || Text.mentionsAny text aiKeywords

def needsDataProcessing (text : String) : Bool :=
  Text.mentionsAny text dataProcessingKeywords

def needsStorage (text : String) : Bool :=
  Text.mentionsAny text storageKeywords

def hasComplexLogic (text : String) : Bool :=
  Text.mentionsAny text complexLogicKeywords

def needsCompliance (text : String) : Bool :=
  Text.mentionsAny text complianceKeywords

/-- Points for more than two and more than five integrations, for AI, for complex logic, and twice
for compliance. -/
def complexityScore (text : String) : Nat :=
  (if 5 < integrationCount text then 2 else if 2 < integrationCount text then 1 else 0)
    + (if needsAi text then 1 else 0)
    + (if hasComplexLogic text then 1 else 0)
    + (if needsCompliance text then 2 else 0)

def domain (text : String) : String :=
  (firstChoice? domainRules text).getD "general"

def dataVolume (text : String) : DataVolume :=
  (firstChoice? volumeRules text).getD .low

def criticalFactors (text : String) : List String :=
  (criticalFactorRules.filter fun rule => Text.mentionsAny text rule.2).map (·.1)

end Flowplan.Signal

namespace Flowplan

/-- The complexity of a score, of which it is known which bounds it reaches. -/
def Complexity.ofReached (reaches : Int → Bool) : Complexity :=
  if reaches 5 then .enterprise
  else if reaches 3 then .complex
  else if reaches 2 then .moderate
  else .simple

def Complexity.ofScore (score : Int) : Complexity :=
  ofReached fun bound => bound ≤ score

end Flowplan
