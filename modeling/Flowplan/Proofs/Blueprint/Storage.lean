import Flowplan.Blueprint.Basic
import Flowplan.Proofs.Json.Values
import Flowplan.Proofs.Record.Scalars

namespace Flowplan

open Record (Short)

section Records

variable (room : Nat)

theorem BusinessCase.held_toJson (businessCase : BusinessCase) :
    Json.Held Text.mostDigits (room + 2) businessCase.toJson := by
  refine Json.held_obj (by simp [Keyed]) ?_
  simp

theorem Analysis.held_toJson {analysis : Analysis} (keyed : Keyed analysis.categories)
    (counts : ∀ entry ∈ analysis.categories, Short entry.2)
    (count : Short analysis.integrationCount) (score : Short analysis.complexityScore) :
    Json.Held Text.mostDigits (room + 2) analysis.toJson := by
  have hcategories : Json.Held Text.mostDigits (room + 1)
      (.obj (analysis.categories.map fun entry => (entry.1, .int entry.2))) :=
    Json.held_table keyed fun entry hm => Record.held_int (counts entry hm)
  refine Json.held_obj (by simp [Keyed]) ?_
  simp [hcategories, count, score]

theorem Component.held_toJson {component : Component} (keyed : Keyed component.configuration) :
    Json.Held Text.mostDigits (room + 2) component.toJson := by
  have hconfiguration : Json.Held Text.mostDigits (room + 1) (.texts component.configuration) :=
    Json.held_table keyed fun entry _ => Json.held_str entry.2
  refine Json.held_obj (by simp [Keyed]) ?_
  simp [hconfiguration]

theorem DataFlowStep.held_toJson {step : DataFlowStep} (short : Short step.step) :
    Json.Held Text.mostDigits (room + 1) step.toJson := by
  refine Json.held_obj (by simp [Keyed]) ?_
  simp [short]

theorem IntegrationSpec.held_toJson {spec : IntegrationSpec}
    (short : ∀ limit ∈ spec.rateLimit, Short limit) :
    Json.Held Text.mostDigits (room + 2) spec.toJson := by
  have hlimit : Json.Held Text.mostDigits (room + 1)
      (.ofOption (fun limit : Nat => .int limit) spec.rateLimit) :=
    Json.held_ofOption _ fun limit hm => Record.held_int (short limit hm)
  have hfallback : Json.Held Text.mostDigits (room + 1) (.ofOption .str spec.fallback) :=
    Json.held_ofOption _ fun text _ => Json.held_str text
  refine Json.held_obj (by simp [Keyed]) ?_
  simp [hlimit, hfallback]

theorem Architecture.held_toJson {architecture : Architecture}
    (components : ∀ component ∈ architecture.components, Keyed component.configuration)
    (steps : ∀ step ∈ architecture.dataFlow, Short step.step)
    (limits : ∀ spec ∈ architecture.integrations, ∀ limit ∈ spec.rateLimit, Short limit) :
    Json.Held Text.mostDigits (room + 4) architecture.toJson := by
  have hcomponents := Json.held_map fun component hm =>
    Component.held_toJson room (components component hm)
  have hsteps := Json.held_map fun step hm =>
    DataFlowStep.held_toJson (room + 1) (steps step hm)
  have hintegrations := Json.held_map fun spec hm =>
    IntegrationSpec.held_toJson room (limits spec hm)
  refine Json.held_obj (by simp [Keyed]) ?_
  simp [hcomponents, hsteps, hintegrations]

theorem Plan.Task.held_toJson {task : Task} (short : Short task.hours) :
    Json.Held Text.mostDigits (room + 2) task.toJson := by
  refine Json.held_obj (by simp [Keyed]) ?_
  simp [short]

theorem Plan.Phase.held_toJson {phase : Phase} (short : ∀ task ∈ phase.tasks, Short task.hours) :
    Json.Held Text.mostDigits (room + 4) phase.toJson := by
  have htasks := Json.held_map fun task hm => Task.held_toJson room (short task hm)
  refine Json.held_obj (by simp [Keyed]) ?_
  simp [htasks]

theorem Plan.held_toJson {plan : Plan}
    (short : ∀ phase ∈ plan.phases, ∀ task ∈ phase.tasks, Short task.hours) :
    Json.Held Text.mostDigits (room + 6) plan.toJson := by
  have hphases := Json.held_map fun phase hm => Phase.held_toJson room (short phase hm)
  refine Json.held_obj (by simp [Keyed]) ?_
  simp [hphases]

theorem Risk.held_toJson (risk : Risk) :
    Json.Held Text.mostDigits (room + 1) risk.toJson := by
  refine Json.held_obj (by simp [Keyed]) ?_
  simp

theorem RiskAssessment.held_toJson (assessment : RiskAssessment) :
    Json.Held Text.mostDigits (room + 3) assessment.toJson := by
  have hrisks := Json.held_map fun risk (_ : risk ∈ assessment.risks) =>
    risk.held_toJson room
  refine Json.held_obj (by simp [Keyed]) ?_
  simp [hrisks]

theorem SuccessMetric.held_toJson (metric : SuccessMetric) :
    Json.Held Text.mostDigits (room + 1) metric.toJson := by
  refine Json.held_obj (by simp [Keyed]) ?_
  simp

/-- The integers of an estimation of costs are short. -/
structure Cost.AreShort (cost : Cost) : Prop where
  hours : Short cost.development.hours
  rate : Short cost.development.rate
  development : Short cost.development.total
  infrastructure : Short cost.infrastructure.monthly ∧ Short cost.infrastructure.annually
  maintenance : Short cost.maintenance.monthly ∧ Short cost.maintenance.annually
  initial : Short cost.total.initial
  firstYear : Short cost.total.firstYear

theorem Cost.AreShort.held_toJson {cost : Cost} (short : cost.AreShort) :
    Json.Held Text.mostDigits (room + 2) cost.toJson := by
  have hdevelopment : Json.Held Text.mostDigits (room + 1) cost.development.toJson := by
    refine Json.held_obj (by simp [Keyed]) ?_
    simp [short.hours, short.rate, short.development]
  have hrecurring : ∀ recurring : Recurring,
      Short recurring.monthly ∧ Short recurring.annually →
        Json.Held Text.mostDigits (room + 1) recurring.toJson := by
    intro recurring h
    refine Json.held_obj (by simp [Keyed]) ?_
    simp [h]
  have htotal : Json.Held Text.mostDigits (room + 1) cost.total.toJson := by
    refine Json.held_obj (by simp [Keyed]) ?_
    simp [short.initial, short.firstYear]
  refine Json.held_obj (by simp [Keyed]) ?_
  simp [hdevelopment, hrecurring _ short.infrastructure, hrecurring _ short.maintenance, htotal]

/-- The integers of a projection are short. -/
structure Return.AreShort (projection : Return) : Prop where
  hours : Short projection.hoursPerWeek
  savings : Short projection.savingsPerMonth
  productivity : Short projection.productivityGain
  errors : Short projection.errorReduction
  payback : Short projection.paybackMonths
  percent : Short projection.percent

theorem Return.AreShort.held_toJson {projection : Return} (short : projection.AreShort) :
    Json.Held Text.mostDigits (room + 1) projection.toJson := by
  refine Json.held_obj (by simp [Keyed]) ?_
  simp [short.hours, short.savings, short.productivity, short.errors,
    short.payback, short.percent]

theorem BlueprintConfig.held_toJson (config : BlueprintConfig) :
    Json.Held Text.mostDigits (room + 1) config.toJson := by
  have hcomplexity : Json.Held Text.mostDigits room
      (.ofOption (fun complexity => .str (label complexity)) config.complexity) :=
    Json.held_ofOption _ fun complexity _ => Json.held_str (label complexity)
  refine Json.held_obj (by simp [Keyed]) ?_
  simp [hcomplexity]

end Records

namespace Blueprint

/-- What the text of a blueprint takes to be read again. -/
structure IsWritable (blueprint : Blueprint) : Prop where
  categories : Keyed blueprint.analysis.categories
  counts : ∀ entry ∈ blueprint.analysis.categories, Short entry.2
  integrationCount : Short blueprint.analysis.integrationCount
  complexityScore : Short blueprint.analysis.complexityScore
  components : ∀ component ∈ blueprint.architecture.components, Keyed component.configuration
  steps : ∀ step ∈ blueprint.architecture.dataFlow, Short step.step
  limits : ∀ spec ∈ blueprint.architecture.integrations, ∀ limit ∈ spec.rateLimit, Short limit
  tasks : ∀ phase ∈ blueprint.plan.phases, ∀ task ∈ phase.tasks, Short task.hours
  cost : blueprint.cost.AreShort
  projection : blueprint.projection.AreShort
  metadata : Json.Held Text.mostDigits 989 (.ofFree blueprint.metadata)

end Blueprint

end Flowplan
