import Flowplan.Blueprint.Analysis
import Flowplan.Blueprint.Architecture
import Flowplan.Blueprint.Config
import Flowplan.Blueprint.Return
import Flowplan.Blueprint.Risk

namespace Flowplan

structure BusinessCase where
  problem : String
  solution : String
  benefits : List String
  criteria : List String
  stakeholders : List String
  deriving DecidableEq

/-- The complete plan of an automation project. -/
structure Blueprint where
  id : String
  title : String
  overview : String
  businessCase : BusinessCase
  analysis : Analysis
  architecture : Architecture
  plan : Plan
  risks : RiskAssessment
  metrics : List SuccessMetric
  cost : Cost
  projection : Return
  config : BlueprintConfig
  metadata : Record.Members
  deriving DecidableEq

namespace BusinessCase

def ofJson : Json → Checked BusinessCase :=
  Record.record fun members =>
    BusinessCase.mk
      <$> Record.required members "problem_statement" Record.text
      <*> Record.optional members "proposed_solution" Record.text ""
      <*> Record.optional members "expected_benefits" (Record.list Record.text) []
      <*> Record.optional members "success_criteria" (Record.list Record.text) []
      <*> Record.optional members "stakeholders" (Record.list Record.text) []

def toJson (businessCase : BusinessCase) : Json :=
  .obj [
    ("problem_statement", .str businessCase.problem),
    ("proposed_solution", .str businessCase.solution),
    ("expected_benefits", .strings businessCase.benefits),
    ("success_criteria", .strings businessCase.criteria),
    ("stakeholders", .strings businessCase.stakeholders)]

end BusinessCase

namespace Blueprint

def ofMembers (members : Record.Members) : Checked Blueprint :=
  Blueprint.mk
    <$> Record.required members "id" Record.text
    <*> Record.required members "title" Record.text
    <*> Record.optional members "overview" Record.text ""
    <*> Record.required members "business_case" BusinessCase.ofJson
    <*> Record.required members "analysis" Analysis.ofJson
    <*> Record.required members "architecture" Architecture.ofJson
    <*> Record.required members "implementation_plan" Plan.ofJson
    <*> Record.required members "risk_assessment" RiskAssessment.ofJson
    <*> Record.optional members "success_metrics" (Record.list SuccessMetric.ofJson) []
    <*> Record.required members "cost_estimation" Cost.ofJson
    <*> Record.required members "roi_projection" Return.ofJson
    <*> Record.optional members "config" BlueprintConfig.ofJson .standard
    <*> Record.optional members "metadata" Record.object []
    <* Record.optional members "created_at" Record.moment ()

def ofJson : Json → Checked Blueprint :=
  Record.record ofMembers

def members (blueprint : Blueprint) : Record.Members := [
  ("id", .str blueprint.id),
  ("title", .str blueprint.title),
  ("overview", .str blueprint.overview),
  ("business_case", blueprint.businessCase.toJson),
  ("analysis", blueprint.analysis.toJson),
  ("architecture", blueprint.architecture.toJson),
  ("implementation_plan", blueprint.plan.toJson),
  ("risk_assessment", blueprint.risks.toJson),
  ("success_metrics", .arr (blueprint.metrics.map SuccessMetric.toJson)),
  ("cost_estimation", blueprint.cost.toJson),
  ("roi_projection", blueprint.projection.toJson),
  ("config", blueprint.config.toJson),
  ("metadata", .ofFree blueprint.metadata)]

def toJson (blueprint : Blueprint) : Json :=
  .obj blueprint.members

/-- The blueprint with some of its fields replaced, checked anew. -/
def override (blueprint : Blueprint) (fields : Record.Members) : Checked Blueprint :=
  ofMembers (fields.foldl (fun members field => Json.put members field.1 field.2)
    blueprint.members)

end Blueprint

end Flowplan
