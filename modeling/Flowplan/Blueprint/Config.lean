import Flowplan.Blueprint.Label
import Flowplan.Record.Field

namespace Flowplan

/-- What a caller may fix about a blueprint. -/
structure BlueprintConfig where
  projectType : ProjectType
  complexity : Option Complexity
  timeline : Timeline
  budget : Budget
  riskTolerance : RiskTolerance
  deriving DecidableEq

namespace BlueprintConfig

def standard : BlueprintConfig := ⟨.automation, none, .normal, .standard, .medium⟩

def ofJson : Json → Checked BlueprintConfig :=
  Record.record fun members =>
    BlueprintConfig.mk
      <$> Record.optional members "project_type" Record.choice .automation
      <*> Record.optional members "complexity" (Record.nullable Record.choice) none
      <*> Record.optional members "timeline" Record.choice .normal
      <*> Record.optional members "budget" Record.choice .standard
      <*> Record.optional members "risk_tolerance" Record.choice .medium

def toJson (config : BlueprintConfig) : Json :=
  .obj [
    ("project_type", .str (label config.projectType)),
    ("complexity", .ofOption (fun complexity => .str (label complexity)) config.complexity),
    ("timeline", .str (label config.timeline)),
    ("budget", .str (label config.budget)),
    ("risk_tolerance", .str (label config.riskTolerance))]

end BlueprintConfig

end Flowplan
