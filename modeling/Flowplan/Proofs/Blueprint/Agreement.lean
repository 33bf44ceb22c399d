import Flowplan.Proofs.Blueprint.Generation
import Flowplan.Proofs.Number.Sums
import Flowplan.Proofs.Text.Words

namespace Flowplan

theorem Plan.totalHours_eq_sum (plan : Plan) :
    plan.totalHours = ((plan.phases.flatMap (·.tasks)).map (·.hours)).sum := by
  have hphase : ∀ phase : Plan.Phase, phase.totalHours = (phase.tasks.map (·.hours)).sum :=
    fun phase => Number.total_eq_sum _
  rw [totalHours, Number.total_eq_sum, List.map_flatMap, List.flatMap_def, List.sum_flatten,
    List.map_map]
  exact congrArg List.sum (List.map_congr_left fun phase _ => hphase phase)

namespace Analysis

theorem sum_countCategory (name : String) (counts : List (String × Int)) :
    ((countCategory name counts).map (·.2)).sum = (counts.map (·.2)).sum + 1 := by
  induction counts with
  | nil => rfl
  | cons entry rest ih =>
    obtain ⟨n, count⟩ := entry
    unfold countCategory
    split
    · simp only [List.map_cons, List.sum_cons]
      omega
    · simp only [List.map_cons, List.sum_cons, ih]
      omega

/-- Every requirement counts for one category. -/
theorem sum_categories (requirements : List Requirement) :
    ((ofRequirements requirements).categories.map (·.2)).sum = requirements.length := by
  have hfold : ∀ counts : List (String × Int),
      ((requirements.foldl (fun counts r => countCategory (label r.category) counts) counts).map
        (·.2)).sum = (counts.map (·.2)).sum + requirements.length := by
    induction requirements with
    | nil => simp
    | cons requirement rest ih =>
      intro counts
      rw [List.foldl_cons, ih, sum_countCategory, List.length_cons]
      omega
  exact (hfold []).trans (Int.zero_add _)

end Analysis

namespace Design

theorem names_components (text : String) :
    (components text).map (·.name) = ["Trigger System"]
      ++ (if Signal.needsDataProcessing text then ["Data Processing Engine"] else [])
      ++ (if Signal.needsAi text then ["AI Decision Engine"] else [])
      ++ ["Integration Layer"]
      ++ (if Signal.needsStorage text then ["Data Storage"] else [])
      ++ ["Notification System"] := by
  unfold components
  cases Signal.needsDataProcessing text <;> cases Signal.needsAi text <;>
    cases Signal.needsStorage text <;> rfl

theorem descriptions_dataFlow (text : String) :
    (dataFlow text).map (·.description) = ["Initial trigger receives data or event"]
      ++ (if Signal.needsDataProcessing text then ["Data transformation and enrichment"] else [])
      ++ (if Signal.needsAi text then ["AI-powered analysis and decision making"] else [])
      ++ ["External system integration", "Result notification and logging"] := by
  unfold dataFlow stages
  cases Signal.needsDataProcessing text <;> cases Signal.needsAi text <;> rfl

theorem steps_dataFlow (text : String) :
    (dataFlow text).map (·.step) = List.range' 1 (dataFlow text).length := by
  unfold dataFlow stages
  cases Signal.needsDataProcessing text <;> cases Signal.needsAi text <;> rfl

/-- The data are transformed on their way exactly if there is a component for it. -/
theorem transformation_mem_dataFlow_iff (text : String) :
    "Data transformation and enrichment" ∈ (dataFlow text).map (·.description)
      ↔ "Data Processing Engine" ∈ (components text).map (·.name) := by
  rw [descriptions_dataFlow, names_components]
  cases Signal.needsDataProcessing text <;> cases Signal.needsAi text <;>
    cases Signal.needsStorage text <;> decide

theorem ai_mem_dataFlow_iff (text : String) :
    "AI-powered analysis and decision making" ∈ (dataFlow text).map (·.description)
      ↔ "AI Decision Engine" ∈ (components text).map (·.name) := by
  rw [descriptions_dataFlow, names_components]
  cases Signal.needsDataProcessing text <;> cases Signal.needsAi text <;>
    cases Signal.needsStorage text <;> decide

end Design

namespace Schedule

/-- The prerequisite of an integration. -/
def credentialsLine (spec : IntegrationSpec) : String :=
  s!"{spec.service} API access and credentials"

theorem credentialsLine_ne (spec : IntegrationSpec) {line : String}
    (h : ¬" API access and credentials".toList <:+ line.toList) : credentialsLine spec ≠ line := by
  rintro rfl
  refine h ⟨spec.service.toList, ?_⟩
  simp [credentialsLine, ToString.toString]

theorem credentialsLine_ne_database (spec : IntegrationSpec) :
    credentialsLine spec ≠ "Database setup and configuration" :=
  credentialsLine_ne spec (by decide)

/-- There is one line for each integration, in the order of the integrations. -/
theorem exists_prerequisites_eq (architecture : Architecture) :
    ∃ before after, prerequisites architecture
        = before ++ architecture.integrations.map credentialsLine ++ after ∧
      ∀ spec, credentialsLine spec ∉ before ++ after := by
  refine ⟨["n8n instance access", "Project requirements approval"], _, rfl, fun spec => ?_⟩
  have haccess : credentialsLine spec ≠ "n8n instance access" :=
    credentialsLine_ne spec (by decide)
  have happroval : credentialsLine spec ≠ "Project requirements approval" :=
    credentialsLine_ne spec (by decide)
  simp [haccess, happroval, credentialsLine_ne_database]

theorem database_mem_prerequisites_iff (architecture : Architecture) :
    "Database setup and configuration" ∈ prerequisites architecture
      ↔ architecture.has .storage := by
  have hcredentials : "Database setup and configuration"
      ∉ architecture.integrations.map credentialsLine := by
    intro hm
    obtain ⟨spec, _, he⟩ := List.mem_map.mp hm
    exact credentialsLine_ne_database spec he
  change _ ∈ _ ++ architecture.integrations.map credentialsLine ++ _ ↔ _
  simp [hcredentials]

theorem administrator_mem_resources_iff (architecture : Architecture) :
    "Database Administrator" ∈ resources architecture ↔ architecture.has .storage := by
  simp [resources]

theorem loadTesting_mentioned_iff (complexity : Complexity) :
    Text.mentions (testingStrategy (some complexity)) "load testing"
      ↔ complexity ∈ [Complexity.complex, .enterprise] := by
  -- Piece by piece: joining the texts and then reading their characters is slow to compute.
  have hpieces : ∀ {a b c d e : List Char}, (String.ofList a ++ String.ofList b ++ String.ofList c
      ++ String.ofList d ++ String.ofList e).toList = a ++ b ++ c ++ d ++ e := by
    simp
  cases complexity <;>
    exact (Text.mentions_iff_of_toList hpieces String.toList_ofList).trans (by decide +kernel)

theorem plan_eq_ok {architecture : Architecture} {config : BlueprintConfig}
    {complexity : Option Complexity} {made : Plan}
    (h : plan architecture config complexity = .ok made) :
    made.resources = resources architecture ∧ made.prerequisites = prerequisites architecture ∧
      made.testing = testingStrategy complexity := by
  obtain ⟨totalTime, _, h⟩ := bind_eq_ok_iff.mp h
  cases h
  exact ⟨rfl, rfl, rfl⟩

end Schedule

namespace Risk

theorem categories_ofProject (text : String) (complexity : Complexity) :
    (ofProject text complexity).map (·.category)
      = (if complexity ∈ [Complexity.complex, .enterprise] then [.technical] else [])
        ++ [.business]
        ++ if 3 < Signal.integrationCount text then [.operational] else [] := by
  unfold ofProject
  cases complexity <;> by_cases h : 3 < Signal.integrationCount text <;> simp only [h] <;> rfl

end Risk

namespace Blueprint

/-- The sections of a blueprint say the same about what they have in common. -/
structure Agrees (blueprint : Blueprint) : Prop where
  hours : blueprint.cost.development.hours
    = ((blueprint.plan.phases.flatMap (·.tasks)).map (·.hours)).sum
  initial : blueprint.cost.total.initial = 100 * blueprint.cost.development.hours
  firstYear : blueprint.cost.total.firstYear = blueprint.cost.total.initial
    + blueprint.cost.infrastructure.annually + blueprint.cost.maintenance.annually
  steps : blueprint.architecture.dataFlow.map (·.step)
    = List.range' 1 blueprint.architecture.dataFlow.length
  transformation :
    "Data transformation and enrichment" ∈ blueprint.architecture.dataFlow.map (·.description)
      ↔ "Data Processing Engine" ∈ blueprint.architecture.components.map (·.name)
  ai :
    "AI-powered analysis and decision making" ∈ blueprint.architecture.dataFlow.map (·.description)
      ↔ "AI Decision Engine" ∈ blueprint.architecture.components.map (·.name)
  credentials : ∃ before after, blueprint.plan.prerequisites
      = before ++ blueprint.architecture.integrations.map Schedule.credentialsLine ++ after ∧
    ∀ spec, Schedule.credentialsLine spec ∉ before ++ after
  database : "Database setup and configuration" ∈ blueprint.plan.prerequisites
    ↔ ∃ component ∈ blueprint.architecture.components, component.type = .storage
  administrator : "Database Administrator" ∈ blueprint.plan.resources
    ↔ ∃ component ∈ blueprint.architecture.components, component.type = .storage
  technical : RiskCategory.technical ∈ blueprint.risks.risks.map (·.category)
    ↔ effectiveComplexity blueprint.config blueprint.analysis ∈ [Complexity.complex, .enterprise]
  loadTesting : Text.mentions blueprint.plan.testing "load testing"
    ↔ effectiveComplexity blueprint.config blueprint.analysis ∈ [Complexity.complex, .enterprise]
  operational : RiskCategory.operational ∈ blueprint.risks.risks.map (·.category)
    ↔ 3 < blueprint.analysis.integrationCount
  counted : blueprint.metadata.lookup "requirement_count"
    = some (.int (blueprint.analysis.categories.map (·.2)).sum)
  benefits : blueprint.businessCase.benefits = [
    s!"{blueprint.projection.hoursPerWeek} hours saved per week",
    s!"{blueprint.projection.productivityGain}% productivity improvement",
    s!"{blueprint.projection.errorReduction}% reduction in process errors",
    s!"${blueprint.projection.savingsPerMonth} monthly cost savings",
    s!"ROI of {blueprint.projection.percent}% over 3 years"]
  targets : blueprint.metrics.map (·.target) = [
    s!"{blueprint.projection.hoursPerWeek} hours per week",
    s!"Less than {Number.fixedPlaces 1 (100 - blueprint.projection.errorReduction)}% error rate",
    s!"${blueprint.projection.savingsPerMonth} per month",
    "85% or higher satisfaction rate",
    "99.5% uptime"]

theorem MadeFrom.agrees {blueprint : Blueprint} {requirements : List Requirement}
    {config : BlueprintConfig} (made : blueprint.MadeFrom requirements config) :
    blueprint.Agrees := by
  obtain ⟨hresources, hprerequisites, htesting⟩ := Schedule.plan_eq_ok made.plan_eq
  have hhas : blueprint.architecture.has .storage
      ↔ ∃ component ∈ blueprint.architecture.components, component.type = .storage := by
    simp [Architecture.has]
  constructor
  case hours =>
    rw [made.cost_eq]
    exact Plan.totalHours_eq_sum blueprint.plan
  case initial =>
    rw [made.cost_eq]
    exact Nat.mul_comm ..
  case firstYear =>
    rw [made.cost_eq]
    rfl
  case steps =>
    rw [made.architecture_eq]
    exact Design.steps_dataFlow _
  case transformation =>
    rw [made.architecture_eq]
    exact Design.transformation_mem_dataFlow_iff _
  case ai =>
    rw [made.architecture_eq]
    exact Design.ai_mem_dataFlow_iff _
  case credentials =>
    rw [hprerequisites]
    exact Schedule.exists_prerequisites_eq _
  case database =>
    rw [hprerequisites, Schedule.database_mem_prerequisites_iff, hhas]
  case administrator =>
    rw [hresources, Schedule.administrator_mem_resources_iff, hhas]
  case technical =>
    rw [made.risks_eq, made.config_eq, RiskAssessment.ofProject, Risk.categories_ofProject]
    simp
  case loadTesting =>
    rw [htesting, made.config_eq]
    exact Schedule.loadTesting_mentioned_iff _
  case operational =>
    rw [made.risks_eq, RiskAssessment.ofProject, Risk.categories_ofProject, made.analysis_eq]
    simp [Analysis.ofRequirements]
  case counted =>
    rw [made.metadata_eq, made.analysis_eq, Analysis.sum_categories]
    rfl
  case benefits =>
    rw [made.businessCase_eq]
    rfl
  case targets =>
    have hmetrics := made.metrics_eq
    unfold SuccessMetric.ofReturn Figure.written at hmetrics
    split at hmetrics
    · rw [← Except.ok.inj hmetrics]
      rfl
    · cases hmetrics

end Blueprint

end Flowplan
