import Flowplan.Proofs.Blueprint.Agreement
import Flowplan.Proofs.Blueprint.Range
import Flowplan.Proofs.Blueprint.Rereading
import Flowplan.Proofs.Blueprint.Storage
import Flowplan.Blueprint.Report

namespace Flowplan

open Record (Short)

theorem Record.short_of_isPrintable {n : Int} (h : Figure.isPrintable n.natAbs) : Short n := by
  have hpow : ∀ count, Nat.pow 10 count = 10 ^ count := fun _ => rfl
  rw [Figure.isPrintable, decide_eq_true_eq, hpow] at h
  exact short_of_lt Text.mostDigits (by decide) le_rfl h

namespace Figure

/-- All figures but those of a return are far below this. -/
theorem isPrintable_of_few {n : Nat} (h : n ≤ 2 ^ 16) : isPrintable n :=
  isPrintable_of_le (by decide) h

theorem isPrintable_mono {n m : Nat} (h : n ≤ m) (few : isPrintable m) : isPrintable n :=
  decide_eq_true (h.trans_lt (of_decide_eq_true few))

end Figure

namespace Analysis

theorem names_countCategory (name : String) (counts : List (String × Int)) :
    (countCategory name counts).map (·.1)
      = if name ∈ counts.map (·.1) then counts.map (·.1) else counts.map (·.1) ++ [name] := by
  induction counts with
  | nil => rfl
  | cons entry rest ih =>
    obtain ⟨n, count⟩ := entry
    unfold countCategory
    by_cases h : n = name
    · simp [h]
    · simp only [if_neg h, List.map_cons, ih, List.mem_cons, Ne.symm h, false_or]
      split <;> rfl

theorem keyed_countCategory (name : String) {counts : List (String × Int)} (keyed : Keyed counts) :
    Keyed (countCategory name counts) := by
  rw [Keyed, names_countCategory]
  split
  next => exact keyed
  next h =>
    refine List.nodup_append.mpr ⟨keyed, List.nodup_cons.mpr ⟨by simp, List.nodup_nil⟩, ?_⟩
    intro first hfirst second hsecond he
    rw [he, List.mem_singleton.mp hsecond] at hfirst
    exact h hfirst

theorem countCategory_nonneg (name : String) {counts : List (String × Int)}
    (h : ∀ entry ∈ counts, 0 ≤ entry.2) : ∀ entry ∈ countCategory name counts, 0 ≤ entry.2 := by
  induction counts with
  | nil => simp [countCategory]
  | cons entry rest ih =>
    obtain ⟨hfirst, hrest⟩ := List.forall_mem_cons.mp h
    unfold countCategory
    split
    · exact List.forall_mem_cons.mpr ⟨by simpa using by omega, hrest⟩
    · exact List.forall_mem_cons.mpr ⟨hfirst, ih hrest⟩

/-- Each category stands once, and no more often than there are requirements. -/
theorem categories_ofRequirements (requirements : List Requirement) :
    Keyed (ofRequirements requirements).categories ∧
      ∀ entry ∈ (ofRequirements requirements).categories,
        0 ≤ entry.2 ∧ entry.2 ≤ requirements.length := by
  have hfold : Keyed (ofRequirements requirements).categories ∧
      ∀ entry ∈ (ofRequirements requirements).categories, 0 ≤ entry.2 := by
    refine List.foldlRecOn requirements _ (motive := fun counts : List (String × Int) =>
      Keyed counts ∧ ∀ entry ∈ counts, 0 ≤ entry.2) ⟨List.nodup_nil, by simp⟩ ?_
    rintro counts ⟨keyed, nonneg⟩ requirement -
    exact ⟨keyed_countCategory _ keyed, countCategory_nonneg _ nonneg⟩
  refine ⟨hfold.1, fun entry hm => ⟨hfold.2 entry hm, ?_⟩⟩
  rw [← sum_categories]
  refine List.single_le_sum (fun count hcount => ?_) _ (List.mem_map_of_mem hm)
  obtain ⟨other, hother, rfl⟩ := List.mem_map.mp hcount
  exact hfold.2 other hother

end Analysis

namespace Signal

theorem integrationCount_le_six (text : String) : integrationCount text ≤ 6 :=
  List.length_filter_le _ _

theorem complexityScore_le_six (text : String) : complexityScore text ≤ 6 := by
  unfold complexityScore
  split_ifs <;> omega

end Signal

namespace Design

theorem length_dataFlow_le (text : String) : (dataFlow text).length ≤ 5 := by
  unfold dataFlow stages
  cases Signal.needsDataProcessing text <;> cases Signal.needsAi text <;> decide

theorem step_bounds {text : String} {step : DataFlowStep} (hm : step ∈ dataFlow text) :
    1 ≤ step.step ∧ step.step ≤ 5 := by
  have hstep : step.step ∈ (dataFlow text).map (·.step) := List.mem_map_of_mem hm
  have hlength := length_dataFlow_le text
  rw [steps_dataFlow, List.mem_range'_1] at hstep
  omega

theorem rateLimit_le {text : String} {spec : IntegrationSpec} (hm : spec ∈ integrations text) :
    ∀ limit ∈ spec.rateLimit, limit ≤ 100 := by
  unfold integrations at hm
  split at hm
  · rw [List.mem_singleton.mp hm]
    simp [externalApi]
  · obtain ⟨service, -, rfl⟩ := List.mem_map.mp hm
    unfold serviceSpec
    split <;> simp

theorem keyed_configuration {text : String} {component : Component}
    (hm : component ∈ components text) : Keyed component.configuration := by
  have hall : ∀ component ∈ [triggerSystem, dataProcessingEngine, aiDecisionEngine,
      dataStorage, notificationSystem], Keyed component.configuration := by
    decide
  have hlayer : Keyed (integrationLayer text).configuration := by
    simp [Keyed, integrationLayer]
  have hcases : component = integrationLayer text ∨ component ∈ [triggerSystem,
      dataProcessingEngine, aiDecisionEngine, dataStorage, notificationSystem] := by
    unfold components at hm
    revert hm
    cases Signal.needsDataProcessing text <;> cases Signal.needsAi text <;>
      cases Signal.needsStorage text <;> simp <;> tauto
  rcases hcases with rfl | hm
  · exact hlayer
  · exact hall component hm

end Design

theorem Risk.probability_ofProject {text : String} {complexity : Complexity} {risk : Risk}
    (hm : risk ∈ ofProject text complexity) : risk.probability ≠ .critical := by
  have hcases : risk ∈ [integrationDelay, slowAdoption, externalFailure] := by
    unfold ofProject at hm
    revert hm
    split <;> split <;> simp <;> tauto
  have hall : ∀ risk ∈ [integrationDelay, slowAdoption, externalFailure],
      risk.probability ≠ .critical := by
    decide
  exact hall risk hcases

theorem Plan.hours_le_total {plan : Plan} {phase : Phase} {task : Task}
    (hphase : phase ∈ plan.phases)
    (htask : task ∈ phase.tasks) : task.hours ≤ plan.totalHours := by
  rw [totalHours_eq_sum]
  exact List.le_sum_of_mem
    (List.mem_map_of_mem (List.mem_flatMap.mpr ⟨phase, hphase, htask⟩))

theorem SuccessMetric.isPrintable_of_ofReturn {projection : Return} {metrics : List SuccessMetric}
    (h : ofReturn projection = .ok metrics) :
    Figure.isPrintable projection.hoursPerWeek ∧
      Figure.isPrintable projection.savingsPerMonth := by
  unfold ofReturn Figure.written at h
  split at h
  next hall => simpa using hall
  next => cases h

namespace Blueprint

section MadeFrom

variable {blueprint : Blueprint} {requirements : List Requirement} {config : BlueprintConfig}
  (made : blueprint.MadeFrom requirements config)
include made

theorem MadeFrom.dataFlow_eq : blueprint.architecture.dataFlow
    = Design.dataFlow (Requirement.combinedText requirements) :=
  congrArg Architecture.dataFlow made.architecture_eq

theorem MadeFrom.integrations_eq : blueprint.architecture.integrations
    = Design.integrations (Requirement.combinedText requirements) :=
  congrArg Architecture.integrations made.architecture_eq

theorem MadeFrom.components_eq : blueprint.architecture.components
    = Design.components (Requirement.combinedText requirements) :=
  congrArg Architecture.components made.architecture_eq

theorem MadeFrom.totalHours_le : blueprint.plan.totalHours ≤ 205 := by
  obtain ⟨plan, hplan, htotal⟩ := Schedule.exists_plan blueprint.architecture config
    (some (effectiveComplexity config blueprint.analysis))
  obtain rfl := Except.ok.inj (hplan.symm.trans made.plan_eq)
  exact htotal

theorem MadeFrom.inBounds : blueprint.InBounds where
  steps step hm := (Design.step_bounds (made.dataFlow_eq ▸ hm)).1
  probabilities risk hm := Risk.probability_ofProject (made.risks_eq ▸ hm)
  metadata := by
    rw [made.metadata_eq]
    rfl

theorem MadeFrom.isPrintable_task {phase : Plan.Phase} {task : Plan.Task}
    (hphase : phase ∈ blueprint.plan.phases) (htask : task ∈ phase.tasks) :
    Figure.isPrintable task.hours := by
  have hle := Plan.hours_le_total hphase htask
  have htotal := made.totalHours_le
  exact Figure.isPrintable_of_few (by omega)

theorem MadeFrom.isPrintable_cost : ∀ n ∈ [blueprint.cost.development.hours,
    blueprint.cost.development.rate, blueprint.cost.development.total,
    blueprint.cost.infrastructure.monthly, blueprint.cost.infrastructure.annually,
    blueprint.cost.maintenance.monthly, blueprint.cost.maintenance.annually,
    blueprint.cost.total.initial, blueprint.cost.total.firstYear], Figure.isPrintable n := by
  intro n hm
  have htotal := made.totalHours_le
  refine Figure.isPrintable_of_few ?_
  rw [made.cost_eq] at hm
  simp only [Cost.ofPlan, Cost.ofHours, Cost.Recurring.ofMonth, Cost.developerRate,
    Cost.infrastructurePerMonth, Cost.maintenancePerMonth, List.mem_cons, List.not_mem_nil,
    or_false] at hm
  omega

variable {hours : Amount}
  (projected : Return.ofHours blueprint.cost hours = .ok blueprint.projection)
include projected

/-- A blueprint for as many requirements as can be counted in a text. -/
theorem MadeFrom.isWritable (few : Figure.isPrintable requirements.length) :
    blueprint.IsWritable := by
  have hcategories := Analysis.categories_ofRequirements requirements
  have hprintable : ∀ n : Nat, Figure.isPrintable n → Short n := fun n h =>
    Record.short_of_isPrintable (by simpa using h)
  have hfew : ∀ n : Nat, n ≤ 2 ^ 16 → Short n := fun n h =>
    hprintable n (Figure.isPrintable_of_few h)
  have hcost := made.isPrintable_cost
  simp only [List.forall_mem_cons] at hcost
  obtain ⟨hhours, hrate, hdevelopment, hinfrastructure, hinfrastructure', hmaintenance,
    hmaintenance', hinitial, hyear, -⟩ := hcost
  have hmetrics := SuccessMetric.isPrintable_of_ofReturn made.metrics_eq
  have hfigures := Return.isPrintable_of_ofHours projected
  obtain ⟨-, -, -, -, -, -, hproductivity, herrors⟩ := Return.exists_of_ofHours projected
  constructor
  case categories =>
    rw [made.analysis_eq]
    exact hcategories.1
  case counts =>
    rw [made.analysis_eq]
    intro entry hm
    obtain ⟨hleast, hmost⟩ := hcategories.2 entry hm
    refine Record.short_of_isPrintable (Figure.isPrintable_mono (m := requirements.length) ?_ few)
    omega
  case integrationCount =>
    rw [made.analysis_eq]
    exact hfew _ ((Signal.integrationCount_le_six _).trans (by norm_num))
  case complexityScore =>
    rw [made.analysis_eq]
    exact hfew _ ((Signal.complexityScore_le_six _).trans (by norm_num))
  case components =>
    intro component hm
    exact Design.keyed_configuration (made.components_eq ▸ hm)
  case steps =>
    intro step hm
    have := (Design.step_bounds (made.dataFlow_eq ▸ hm)).2
    exact hfew _ (by omega)
  case limits =>
    intro spec hm limit hlimit
    have := Design.rateLimit_le (made.integrations_eq ▸ hm) limit hlimit
    exact hfew _ (by omega)
  case tasks =>
    intro phase hphase task htask
    exact hprintable _ (made.isPrintable_task hphase htask)
  case cost =>
    exact ⟨hprintable _ hhours, hprintable _ hrate, hprintable _ hdevelopment,
      ⟨hprintable _ hinfrastructure, hprintable _ hinfrastructure'⟩,
      ⟨hprintable _ hmaintenance, hprintable _ hmaintenance'⟩, hprintable _ hinitial,
      hprintable _ hyear⟩
  case projection =>
    refine ⟨hprintable _ hmetrics.1, hprintable _ hmetrics.2, ?_, ?_, hprintable _ hfigures.2,
      Record.short_of_isPrintable hfigures.1⟩
    · rw [hproductivity]
      exact hfew 45 (by norm_num)
    · rw [herrors]
      exact hfew 85 (by norm_num)
  case metadata =>
    rw [made.inBounds.metadata, made.metadata_eq]
    refine Json.held_obj (by simp [Keyed, metadataOf]) ?_
    simp [metadataOf, hprintable _ few]

end MadeFrom

section Generation

variable {requirements : List Requirement} {config : BlueprintConfig} {ids used : Ids}

end Generation

end Blueprint

end Flowplan
