import Flowplan.Blueprint.Label
import Flowplan.Blueprint.Signal
import Flowplan.Number.Binary64
import Flowplan.Number.Total
import Flowplan.Record.Field

namespace Flowplan

/-- Something that may go wrong. Its probability is never critical. -/
structure Risk where
  id : String
  description : String
  impact : RiskLevel
  probability : RiskLevel
  category : RiskCategory
  mitigation : String
  contingency : String
  deriving DecidableEq

structure RiskAssessment where
  risks : List Risk
  level : RiskLevel
  mitigation : String
  deriving DecidableEq

/-- The level of a mean score. -/
def RiskLevel.ofMean (mean : Binary64) : RiskLevel :=
  if mean.atLeast 9 then .critical
  else if mean.atLeast 6 then .high
  else if mean.atLeast 3 then .medium
  else .low

namespace Risk

def readProbability (json : Json) : Checked RiskLevel :=
  (Record.choice json).guard fun level => level ≠ .critical

def ofJson : Json → Checked Risk :=
  Record.record fun members =>
    Risk.mk
      <$> Record.required members "id" Record.text
      <*> Record.required members "description" Record.text
      <*> Record.required members "impact" Record.choice
      <*> Record.required members "probability" readProbability
      <*> Record.required members "category" Record.choice
      <*> Record.optional members "mitigation" Record.text ""
      <*> Record.optional members "contingency" Record.text ""

def toJson (risk : Risk) : Json :=
  .obj [
    ("id", .str risk.id),
    ("description", .str risk.description),
    ("impact", .str (label risk.impact)),
    ("probability", .str (label risk.probability)),
    ("category", .str (label risk.category)),
    ("mitigation", .str risk.mitigation),
    ("contingency", .str risk.contingency)]

def score (risk : Risk) : Nat :=
  risk.impact.score * risk.probability.score

/-- The level of the mean score of all risks. -/
def overallLevel (risks : List Risk) : RiskLevel :=
  if risks.isEmpty then .low
  else .ofMean (.ofRat (Number.total (risks.map score) / risks.length))

def integrationDelay : Risk where
  id := "tech-001"
  description := "Integration complexity may cause delays"
  impact := .high
  probability := .medium
  category := .technical
  mitigation := "Prototype key integrations early in development"
  contingency := "Implement simplified workflows as fallback"

def slowAdoption : Risk where
  id := "bus-001"
  description := "User adoption may be slower than expected"
  impact := .medium
  probability := .medium
  category := .business
  mitigation := "Comprehensive training and change management program"
  contingency := "Phased rollout with support for legacy processes"

def externalFailure : Risk where
  id := "ops-001"
  description := "External API failures could disrupt workflows"
  impact := .high
  probability := .low
  category := .operational
  mitigation := "Implement circuit breaker patterns and fallback mechanisms"
  contingency := "Manual process procedures for critical operations"

/-- The risks of a project that a text describes. -/
def ofProject (text : String) (complexity : Complexity) : List Risk :=
  (if complexity = .complex ∨ complexity = .enterprise then [integrationDelay] else [])
    ++ [slowAdoption]
    ++ (if 3 < Signal.integrationCount text then [externalFailure] else [])

end Risk

namespace RiskAssessment

def ofJson : Json → Checked RiskAssessment :=
  Record.record fun members =>
    RiskAssessment.mk
      <$> Record.optional members "risks" (Record.list Risk.ofJson) []
      <*> Record.optional members "overall_risk_level" Record.choice .low
      <*> Record.optional members "mitigation_strategy" Record.text ""

def toJson (assessment : RiskAssessment) : Json :=
  .obj [
    ("risks", .arr (assessment.risks.map Risk.toJson)),
    ("overall_risk_level", .str (label assessment.level)),
    ("mitigation_strategy", .str assessment.mitigation)]

def ofProject (text : String) (complexity : Complexity) : RiskAssessment where
  risks := Risk.ofProject text complexity
  level := Risk.overallLevel (Risk.ofProject text complexity)
  mitigation := "Proactive risk monitoring with automated alerts and clearly defined escalation "
    ++ "procedures"

end RiskAssessment

end Flowplan
