import Flowplan.Blueprint.Basic

namespace Flowplan

namespace Report

/-- A section that is left out where it has nothing to say. -/
def unlessEmpty (items : List α) (lines : List String) : List String :=
  if items.isEmpty then [] else lines

def businessCase (businessCase : BusinessCase) : List String :=
  ["## Business Case", "", s!"**Problem:** {businessCase.problem}", "",
    s!"**Proposed solution:** {businessCase.solution}", ""]
    ++ unlessEmpty businessCase.benefits
      (["**Expected benefits:**"] ++ businessCase.benefits.map ("- " ++ ·) ++ [""])
    ++ unlessEmpty businessCase.stakeholders
      ["**Stakeholders:** " ++ ", ".intercalate businessCase.stakeholders, ""]

def component (component : Component) : String :=
  s!"| {component.name} | {label component.type} | {component.description} |"

def integration (spec : IntegrationSpec) : String :=
  let limit := match spec.rateLimit with
    | some (n + 1) => s!" ({n + 1} req/min)"
    | _ => ""
  s!"- **{spec.service}**{limit}: {spec.purpose}"

def architecture (architecture : Architecture) : List String :=
  ["## Architecture", "", "| Component | Type | Description |", "|---|---|---|"]
    ++ architecture.components.map component
    ++ [""]
    ++ unlessEmpty architecture.dataFlow
      (["### Data Flow", ""]
        ++ architecture.dataFlow.map (fun step => s!"{step.step}. {step.description}") ++ [""])
    ++ unlessEmpty architecture.integrations
      (["### Integrations", ""] ++ architecture.integrations.map integration ++ [""])
    ++ ["### Security", ""]
    ++ architecture.security.map ("- " ++ ·)
    ++ ["", s!"**Scalability:** {architecture.scalability}", ""]

def phase (number : Nat) (phase : Plan.Phase) : List String :=
  [s!"### Phase {number}: {phase.name} ({phase.duration}, risk {label phase.riskLevel})", ""]
    ++ phase.tasks.map (fun task => s!"- {task.id} {task.name}: {task.hours}h")
    ++ [""]

def plan (plan : Plan) : List String :=
  ["## Implementation Plan", "", s!"**Total:** {plan.totalTime} ({plan.totalHours} hours)", ""]
    ++ (plan.phases.mapIdx fun i item => phase (i + 1) item).flatten

def risk (risk : Risk) : String :=
  s!"- [{label risk.category}] {risk.description} "
    ++ s!"(impact {label risk.impact}, probability {label risk.probability}). "
    ++ s!"Mitigation: {risk.mitigation}"

def risks (assessment : RiskAssessment) : List String :=
  ["## Risks", "", s!"**Overall risk level:** {label assessment.level}", ""]
    ++ assessment.risks.map risk ++ [""]

def figures (cost : Cost) (projection : Return) : List String := [
  "## Cost and ROI", "",
  s!"- Development: {cost.development.hours}h x ${cost.development.rate} = "
    ++ s!"${Number.grouped cost.development.total}",
  s!"- Infrastructure: ${cost.infrastructure.monthly}/month",
  s!"- Maintenance: ${cost.maintenance.monthly}/month",
  s!"- First year total: ${Number.grouped cost.total.firstYear}",
  s!"- Time savings: {projection.hoursPerWeek} hours/week",
  s!"- Payback period: {projection.paybackMonths} months",
  s!"- Three-year ROI: {projection.percent}%",
  ""]

def metrics (metrics : List SuccessMetric) : List String :=
  unlessEmpty metrics
    (["## Success Metrics", ""]
      ++ metrics.map (fun metric => s!"- **{metric.name}**: {metric.target} ({metric.frequency})")
      ++ [""])

/-- The magnitudes of the integers that the report shows. -/
def magnitudes (blueprint : Blueprint) : List Nat :=
  let cost := blueprint.cost
  let projection := blueprint.projection
  blueprint.architecture.dataFlow.map (·.step)
    ++ blueprint.architecture.integrations.filterMap (·.rateLimit)
    ++ [blueprint.plan.totalHours]
    ++ blueprint.plan.phases.flatMap (fun phase => phase.tasks.map (·.hours))
    ++ [cost.development.hours, cost.development.rate, cost.development.total,
      cost.infrastructure.monthly, cost.maintenance.monthly, cost.total.firstYear,
      projection.hoursPerWeek, projection.paybackMonths, projection.percent.natAbs]

end Report

/-- The report, its lines joined by line feeds. -/
def Blueprint.reportText (blueprint : Blueprint) : String :=
  "\n".intercalate <|
    [s!"# {blueprint.title}", "", blueprint.overview, ""]
      ++ Report.businessCase blueprint.businessCase
      ++ Report.architecture blueprint.architecture
      ++ Report.plan blueprint.plan
      ++ Report.risks blueprint.risks
      ++ Report.figures blueprint.cost blueprint.projection
      ++ Report.metrics blueprint.metrics

/-- The report, if its integers can be written. -/
def Blueprint.report (blueprint : Blueprint) : Outcome String :=
  Figure.written (Report.magnitudes blueprint) blueprint.reportText

end Flowplan
