import Flowplan.Blueprint.Basic
import Flowplan.Proofs.Record.Writing

namespace Flowplan

open Record (list_map natural_int natural_eq_value_iff nullable_ofOption record_obj table_map
  text_str choice_label whole_int)

section Labels

instance : LawfulLabelled Complexity := ⟨fun a => by cases a <;> rfl⟩

instance : LawfulLabelled DataVolume := ⟨fun a => by cases a <;> rfl⟩

instance : LawfulLabelled ProjectType := ⟨fun a => by cases a <;> rfl⟩

instance : LawfulLabelled Timeline := ⟨fun a => by cases a <;> rfl⟩

instance : LawfulLabelled Budget := ⟨fun a => by cases a <;> rfl⟩

instance : LawfulLabelled RiskTolerance := ⟨fun a => by cases a <;> rfl⟩

instance : LawfulLabelled RiskLevel := ⟨fun a => by cases a <;> rfl⟩

instance : LawfulLabelled RiskCategory := ⟨fun a => by cases a <;> rfl⟩

instance : LawfulLabelled ComponentType := ⟨fun a => by cases a <;> rfl⟩

instance : LawfulLabelled Priority := ⟨fun a => by cases a <;> rfl⟩

end Labels

@[simp]
theorem BusinessCase.ofJson_toJson (businessCase : BusinessCase) :
    ofJson businessCase.toJson = .value businessCase := by
  simp [ofJson, toJson]

@[simp]
theorem Analysis.ofJson_toJson (analysis : Analysis) :
    ofJson analysis.toJson = .value analysis := by
  have hcategories := table_map (fun n => whole_int n) analysis.categories
  simp [ofJson, toJson, hcategories]

@[simp]
theorem Component.ofJson_toJson (component : Component) :
    ofJson component.toJson = .value component := by
  have hconfiguration : Record.table Record.text (.texts component.configuration)
      = .value component.configuration := table_map text_str component.configuration
  simp [ofJson, toJson, hconfiguration]

theorem DataFlowStep.ofJson_toJson {step : DataFlowStep} (h : 1 ≤ step.step) :
    ofJson step.toJson = .value step := by
  have hstep : (Record.wholeFrom 1 (.int step.step)).map Int.toNat = .value step.step :=
    natural_eq_value_iff.mpr ⟨rfl, h⟩
  simp [ofJson, toJson, hstep]

@[simp]
theorem IntegrationSpec.ofJson_toJson (spec : IntegrationSpec) :
    ofJson spec.toJson = .value spec := by
  have hlimit := nullable_ofOption (by simp) natural_int spec.rateLimit
  have hfallback := nullable_ofOption (by simp) text_str spec.fallback
  simp [ofJson, toJson, hlimit, hfallback]

theorem Architecture.ofJson_toJson {architecture : Architecture}
    (h : ∀ step ∈ architecture.dataFlow, 1 ≤ step.step) :
    ofJson architecture.toJson = .value architecture := by
  have hcomponents := list_map fun component (_ : component ∈ architecture.components) =>
    component.ofJson_toJson
  have hsteps := list_map fun step hm => DataFlowStep.ofJson_toJson (h step hm)
  have hintegrations := list_map fun spec (_ : spec ∈ architecture.integrations) =>
    spec.ofJson_toJson
  simp [ofJson, toJson, hcomponents, hsteps, hintegrations]

@[simp]
theorem Plan.Task.ofJson_toJson (task : Task) : ofJson task.toJson = .value task := by
  simp [ofJson, toJson]

@[simp]
theorem Plan.Phase.ofJson_toJson (phase : Phase) : ofJson phase.toJson = .value phase := by
  have htasks := list_map fun task (_ : task ∈ phase.tasks) => task.ofJson_toJson
  simp [ofJson, toJson, htasks]

@[simp]
theorem Plan.ofJson_toJson (plan : Plan) : ofJson plan.toJson = .value plan := by
  have hphases := list_map fun phase (_ : phase ∈ plan.phases) => phase.ofJson_toJson
  simp [ofJson, toJson, hphases]

theorem Risk.ofJson_toJson {risk : Risk} (h : risk.probability ≠ .critical) :
    ofJson risk.toJson = .value risk := by
  have hprobability : readProbability (.str (label risk.probability))
      = .value risk.probability :=
    Checked.guard_eq_value_iff.mpr ⟨choice_label _, decide_eq_true h⟩
  simp [ofJson, toJson, hprobability]

theorem RiskAssessment.ofJson_toJson {assessment : RiskAssessment}
    (h : ∀ risk ∈ assessment.risks, risk.probability ≠ .critical) :
    ofJson assessment.toJson = .value assessment := by
  have hrisks := list_map fun risk hm => Risk.ofJson_toJson (h risk hm)
  simp [ofJson, toJson, hrisks]

@[simp]
theorem SuccessMetric.ofJson_toJson (metric : SuccessMetric) :
    ofJson metric.toJson = .value metric := by
  simp [ofJson, toJson]

@[simp]
theorem Cost.ofJson_toJson (cost : Cost) : ofJson cost.toJson = .value cost := by
  simp [ofJson, toJson, Development.ofJson, Development.toJson, Recurring.ofJson,
    Recurring.toJson, Total.ofJson, Total.toJson]

@[simp]
theorem Return.ofJson_toJson (projection : Return) :
    ofJson projection.toJson = .value projection := by
  simp [ofJson, toJson]

@[simp]
theorem BlueprintConfig.ofJson_toJson (config : BlueprintConfig) :
    ofJson config.toJson = .value config := by
  have hcomplexity := nullable_ofOption (by simp) choice_label config.complexity
  simp [ofJson, toJson, hcomplexity]

namespace Blueprint

/-- What the records of a blueprint ask for beyond the types of its parts. -/
structure InBounds (blueprint : Blueprint) : Prop where
  steps : ∀ step ∈ blueprint.architecture.dataFlow, 1 ≤ step.step
  probabilities : ∀ risk ∈ blueprint.risks.risks, risk.probability ≠ .critical
  metadata : Json.ofFree blueprint.metadata = .obj blueprint.metadata

variable {blueprint : Blueprint}

/-- The members of a blueprint are read again, with the moment of its creation or without. -/
theorem ofMembers_append (bounds : blueprint.InBounds) {more : Record.Members}
    (hmore : Record.optional more "created_at" Record.moment () = .value ()) :
    ofMembers (blueprint.members ++ more) = .value blueprint := by
  have harchitecture := Architecture.ofJson_toJson bounds.steps
  have hrisks := RiskAssessment.ofJson_toJson bounds.probabilities
  have hmetrics := list_map fun metric (_ : metric ∈ blueprint.metrics) => metric.ofJson_toJson
  simp [ofMembers, members, bounds.metadata, harchitecture, hrisks, hmetrics, hmore]

theorem ofJson_toJson (bounds : blueprint.InBounds) :
    ofJson blueprint.toJson = .value blueprint := by
  rw [toJson, ofJson, record_obj, ← List.append_nil blueprint.members]
  exact ofMembers_append bounds rfl

end Blueprint

end Flowplan
