import Flowplan.Blueprint.Signal
import Flowplan.Requirement.Basic
import Flowplan.Text.Fold

namespace Flowplan

/-- What the requirements have in common. -/
structure Analysis where
  categories : List (String × Int)
  complexity : Complexity
  domain : String
  integrationCount : Nat
  dataVolume : DataVolume
  primaryFocus : String
  criticalFactors : List String
  complexityScore : Nat
  deriving DecidableEq

/-- The folded answers, joined by single spaces. -/
def Requirement.combinedText (requirements : List Requirement) : String :=
  " ".intercalate (requirements.map fun requirement => Text.fold requirement.answer)

namespace Analysis

def ofJson : Json → Checked Analysis :=
  Record.record fun members =>
    Analysis.mk
      <$> Record.optional members "categories" (Record.table Record.whole) []
      <*> Record.optional members "complexity" Record.choice .simple
      <*> Record.optional members "domain" Record.text "general"
      <*> Record.optional members "integration_count" Record.natural 0
      <*> Record.optional members "data_volume" Record.choice .low
      <*> Record.optional members "primary_focus" Record.text "automation"
      <*> Record.optional members "critical_factors" (Record.list Record.text) []
      <*> Record.optional members "complexity_score" Record.natural 0

def toJson (analysis : Analysis) : Json :=
  .obj [
    ("categories", .obj (analysis.categories.map fun entry => (entry.1, .int entry.2))),
    ("complexity", .str (label analysis.complexity)),
    ("domain", .str analysis.domain),
    ("integration_count", .int analysis.integrationCount),
    ("data_volume", .str (label analysis.dataVolume)),
    ("primary_focus", .str analysis.primaryFocus),
    ("critical_factors", .strings analysis.criticalFactors),
    ("complexity_score", .int analysis.complexityScore)]

/-- Counts one more for a category; a new one comes last. -/
def countCategory (name : String) : List (String × Int) → List (String × Int)
  | [] => [(name, 1)]
  | (n, count) :: rest =>
    if n = name then (n, count + 1) :: rest else (n, count) :: countCategory name rest

def ofRequirements (requirements : List Requirement) : Analysis :=
  let text := Requirement.combinedText requirements
  let score := Signal.complexityScore text
  { categories := requirements.foldl (fun counts r => countCategory (label r.category) counts) []
    complexity := Complexity.ofScore score
    domain := Signal.domain text
    integrationCount := Signal.integrationCount text
    dataVolume := Signal.dataVolume text
    primaryFocus := "automation"
    criticalFactors := Signal.criticalFactors text
    complexityScore := score }

end Analysis

end Flowplan
