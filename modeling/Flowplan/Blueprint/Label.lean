import Flowplan.Record.Label

namespace Flowplan

inductive Complexity where
  | simple
  | moderate
  | complex
  | enterprise
  deriving DecidableEq

inductive DataVolume where
  | low
  | medium
  | high
  | veryHigh
  deriving DecidableEq

inductive ProjectType where
  | automation
  | integration
  | transformation
  | analytics
  | hybrid
  deriving DecidableEq

inductive Timeline where
  | urgent
  | normal
  | extended
  deriving DecidableEq

inductive Budget where
  | minimal
  | standard
  | premium
  | enterprise
  deriving DecidableEq

inductive RiskTolerance where
  | low
  | medium
  | high
  deriving DecidableEq

inductive RiskLevel where
  | low
  | medium
  | high
  | critical
  deriving DecidableEq

inductive RiskCategory where
  | technical
  | business
  | operational
  | compliance
  deriving DecidableEq

/-- The role of a component in an architecture. -/
inductive ComponentType where
  | trigger
  | processor
  | integrator
  | storage
  | notifier
  deriving DecidableEq

instance : Labelled Complexity where
  all := [.simple, .moderate, .complex, .enterprise]
  label
    | .simple => "simple"
    | .moderate => "moderate"
    | .complex => "complex"
    | .enterprise => "enterprise"
  title := "Complexity"

instance : Labelled DataVolume where
  all := [.low, .medium, .high, .veryHigh]
  label
    | .low => "low"
    | .medium => "medium"
    | .high => "high"
    | .veryHigh => "very-high"
  title := "DataVolume"

instance : Labelled ProjectType where
  all := [.automation, .integration, .transformation, .analytics, .hybrid]
  label
    | .automation => "automation"
    | .integration => "integration"
    | .transformation => "transformation"
    | .analytics => "analytics"
    | .hybrid => "hybrid"
  title := "ProjectType"

instance : Labelled Timeline where
  all := [.urgent, .normal, .extended]
  label
    | .urgent => "urgent"
    | .normal => "normal"
    | .extended => "extended"
  title := "Timeline"

instance : Labelled Budget where
  all := [.minimal, .standard, .premium, .enterprise]
  label
    | .minimal => "minimal"
    | .standard => "standard"
    | .premium => "premium"
    | .enterprise => "enterprise"
  title := "Budget"

instance : Labelled RiskTolerance where
  all := [.low, .medium, .high]
  label
    | .low => "low"
    | .medium => "medium"
    | .high => "high"
  title := "RiskTolerance"

instance : Labelled RiskLevel where
  all := [.low, .medium, .high, .critical]
  label
    | .low => "low"
    | .medium => "medium"
    | .high => "high"
    | .critical => "critical"
  title := "RiskLevel"

instance : Labelled RiskCategory where
  all := [.technical, .business, .operational, .compliance]
  label
    | .technical => "technical"
    | .business => "business"
    | .operational => "operational"
    | .compliance => "compliance"
  title := "RiskCategory"

instance : Labelled ComponentType where
  all := [.trigger, .processor, .integrator, .storage, .notifier]
  label
    | .trigger => "trigger"
    | .processor => "processor"
    | .integrator => "integrator"
    | .storage => "storage"
    | .notifier => "notifier"
  title := "ComponentType"

def RiskLevel.score : RiskLevel → Nat
  | .low => 1
  | .medium => 2
  | .high => 3
  | .critical => 4

end Flowplan
