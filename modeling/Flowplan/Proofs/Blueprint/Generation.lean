import Flowplan.Blueprint.Synthesis
import Flowplan.Proofs.Blueprint.Projection

namespace Flowplan

theorem exists_eq_ok_of_isOk {ε α : Type} {x : Except ε α} (h : x.isOk) : ∃ a, x = .ok a := by
  cases x with
  | error fault => cases h
  | ok a => exact ⟨a, rfl⟩

namespace Design

/-- A text that asks for no processing and no storage gives three components. -/
theorem components_of_plain {text : String} (hdata : Signal.needsDataProcessing text = false)
    (hai : Signal.needsAi text = false) (hstorage : Signal.needsStorage text = false) :
    components text = [triggerSystem, integrationLayer text, notificationSystem] := by
  rw [components, hdata, hai, hstorage]
  rfl

end Design

namespace Schedule

theorem duration_setup (config : BlueprintConfig) :
    (setup config).duration ∈ ["2-3 days", "3-5 days"] := by
  simp only [setup]
  split <;> decide

theorem coreDuration_mem (complexity : Option Complexity) :
    coreDuration complexity ∈ ["1 week", "2-3 weeks", "1-2 weeks"] := by
  unfold coreDuration
  split <;> decide

theorem exists_weeks (config : BlueprintConfig) (complexity : Option Complexity) :
    ∃ count, weeks ((phases config complexity).map (·.duration)) = .ok count := by
  have hdurations : ∀ first ∈ ["2-3 days", "3-5 days"],
      ∀ second ∈ ["1 week", "2-3 weeks", "1-2 weeks"],
        (weeks [first, second, testing.duration, deployment.duration]).isOk := by
    decide +kernel
  exact exists_eq_ok_of_isOk (hdurations _ (duration_setup config) _ (coreDuration_mem complexity))

theorem workflowHours_le (complexity : Option Complexity) : workflowHours complexity ≤ 120 := by
  unfold workflowHours
  split <;> decide

theorem total_phases_le (config : BlueprintConfig) (complexity : Option Complexity) :
    Number.total ((phases config complexity).map Plan.Phase.totalHours) ≤ 205 := by
  have hsetup : (setup config).totalHours ≤ 15 := by
    unfold setup
    cases config.timeline <;> decide
  have hcore : (core complexity).totalHours ≤ 134 := by
    have hhours := workflowHours_le complexity
    change workflowHours complexity + (8 + (6 + 0)) ≤ 134
    omega
  change (setup config).totalHours + ((core complexity).totalHours + (36 + (20 + 0))) ≤ 205
  omega

theorem exists_plan (architecture : Architecture) (config : BlueprintConfig)
    (complexity : Option Complexity) :
    ∃ plan, Schedule.plan architecture config complexity = .ok plan ∧ plan.totalHours ≤ 205 := by
  obtain ⟨count, hcount⟩ := exists_weeks config complexity
  simp only [Schedule.plan, totalTime, hcount]
  exact ⟨_, rfl, total_phases_le config complexity⟩

end Schedule

namespace Return

variable {cost : Cost} {hours : Int}

/-- The bound on the hours is far above those of any week. -/
theorem hours_le_of_le (h : hours ≤ 2 ^ 10) : hours ≤ 2 ^ 1000 :=
  h.trans (pow_le_pow_right₀ (by decide) (by decide))

/-- The hours have a bound up to which the savings of years still fit into a double. -/
theorem abs_balance_le (hpos : 0 < hours) (hmost : (hours : Rat) ≤ 2 ^ 1000)
    (hfew : totalCosts cost ≤ 2 ^ 16) :
    |((hours * 4 * 50 * 12 * 3 - (totalCosts cost : Int) : Int) : Rat)| ≤ 2 ^ 1013 := by
  have hpow : (2 : Rat) ^ 1013 = 2 ^ 13 * 2 ^ 1000 := pow_add 2 13 1000
  have hlarge : (2 : Rat) ^ 16 ≤ 2 ^ 1000 := pow_le_pow_right₀ (by norm_num) (by norm_num)
  have hpos' : (0 : Rat) < hours := by exact_mod_cast hpos
  have hfew' : (totalCosts cost : Rat) ≤ 2 ^ 16 := by exact_mod_cast hfew
  rw [hpow]
  generalize (2 : Rat) ^ 1000 = most at hmost hlarge
  push_cast
  rw [abs_le]
  constructor
  · linarith
  · linarith [Nat.cast_nonneg (α := Rat) (totalCosts cost)]

theorem exists_payback (hpos : 0 < hours) (hfew : cost.total.initial ≤ 2 ^ 16) :
    ∃ months : Nat, payback cost.total.initial (monthlySavings (.whole hours)) = .ok months := by
  have hmonthly : 0 < hours * 4 * 50 := by omega
  have hquotient :
      |((cost.total.initial : Int) : Rat) / ((hours * 4 * 50 : Int) : Rat)| ≤ 2 ^ 16 := by
    refine abs_div_le_of_abs_le hmonthly ?_
    rw [abs_of_nonneg (by positivity)]
    exact_mod_cast hfew
  have hnonneg : 0 ≤ ((cost.total.initial : Int) : Rat) / ((hours * 4 * 50 : Int) : Rat) :=
    div_nonneg (by positivity) (by exact_mod_cast hmonthly.le)
  have hvalue := Binary64.value?_ofRat (by norm_num) hquotient
  have hceil := (Number.nearest_nonneg hnonneg).trans Rat.le_ceil
  obtain ⟨months, hmonths⟩ := Int.eq_ofNat_of_zero_le (Int.cast_nonneg_iff.mp hceil)
  refine ⟨months, ?_⟩
  have hzero : ¬(monthlySavings (.whole hours)).isZero := by
    simpa [monthlySavings, Amount.times, Amount.isZero] using hpos.ne'
  rw [payback, if_neg hzero]
  refine bind_eq_ok_iff.mpr ⟨_, Figure.quotient_eq_ok (by norm_num) hquotient, ?_⟩
  rw [Figure.ceiling, Figure.exact_eq_ok_iff.mpr hvalue]
  exact congrArg Except.ok hmonths

/-- The projection for whole hours has them as they are, and is made unless they are too many. -/
theorem exists_ofHours (hpos : 0 < hours) (hmost : (hours : Rat) ≤ 2 ^ 1000)
    (hcosts : 0 < totalCosts cost) (hfew : totalCosts cost ≤ 2 ^ 16) :
    ∃ projection, ofHours cost (.whole hours) = .ok projection ∧
      projection.hoursPerWeek = hours.toNat ∧
      projection.savingsPerMonth = (hours * 4 * 50).toNat := by
  have hinitial : cost.total.initial ≤ 2 ^ 16 := (Nat.le_add_right _ _).trans hfew
  obtain ⟨months, hmonths⟩ := exists_payback hpos hinitial
  exact ⟨_, ofHours_eq hpos hcosts (abs_balance_le hpos hmost hfew) (by norm_num) hmonths,
    rfl, rfl⟩

end Return

theorem SuccessMetric.exists_ofReturn {projection : Return}
    (hhours : Figure.isPrintable projection.hoursPerWeek)
    (hsavings : Figure.isPrintable projection.savingsPerMonth) :
    ∃ metrics, SuccessMetric.ofReturn projection = .ok metrics := by
  have hall : [projection.hoursPerWeek, projection.savingsPerMonth].all Figure.isPrintable := by
    simp [hhours, hsavings]
  rw [ofReturn, Figure.written, if_pos hall]
  exact ⟨_, rfl⟩

namespace Blueprint

/-- What a blueprint for some requirements is made of: each section from them, and from the sections
before it. -/
structure MadeFrom (blueprint : Blueprint) (requirements : List Requirement)
    (config : BlueprintConfig) : Prop where
  config_eq : blueprint.config = config
  analysis_eq : blueprint.analysis = Analysis.ofRequirements requirements
  architecture_eq : blueprint.architecture = Design.architecture
    (Requirement.combinedText requirements) blueprint.analysis
    (some (Skeleton.ofDomain blueprint.analysis.domain))
  plan_eq : Schedule.plan blueprint.architecture config
    (some (effectiveComplexity config blueprint.analysis)) = .ok blueprint.plan
  risks_eq : blueprint.risks = .ofProject (Requirement.combinedText requirements)
    (effectiveComplexity config blueprint.analysis)
  cost_eq : blueprint.cost = .ofPlan blueprint.plan
  metrics_eq : SuccessMetric.ofReturn blueprint.projection = .ok blueprint.metrics
  businessCase_eq : blueprint.businessCase
    = .ofProject requirements blueprint.architecture blueprint.projection
  metadata_eq : blueprint.metadata = metadataOf requirements
    (Skeleton.ofDomain blueprint.analysis.domain) (effectiveComplexity config blueprint.analysis)

theorem madeFrom_of_ofRequirements {requirements : List Requirement} {config : BlueprintConfig}
    {hours : Estimate} {ids used : Ids} {blueprint : Blueprint}
    (h : ofRequirements requirements config hours ids = .ok (blueprint, used)) :
    blueprint.MadeFrom requirements config := by
  obtain ⟨plan, hplan, h⟩ := bind_eq_ok_iff.mp h
  obtain ⟨projection, _, h⟩ := bind_eq_ok_iff.mp h
  obtain ⟨metrics, hmetrics, h⟩ := bind_eq_ok_iff.mp h
  cases h
  exact ⟨rfl, rfl, rfl, hplan, rfl, rfl, hmetrics, rfl, rfl⟩

theorem ofRequirements_eq_ok {requirements : List Requirement} {config : BlueprintConfig}
    {hours : Estimate} {ids used : Ids} {blueprint : Blueprint}
    (h : ofRequirements requirements config hours ids = .ok (blueprint, used)) :
    blueprint.config = config ∧
      blueprint.analysis = Analysis.ofRequirements requirements ∧
      blueprint.architecture = Design.architecture (Requirement.combinedText requirements)
        blueprint.analysis (some (Skeleton.ofDomain blueprint.analysis.domain)) :=
  have made := madeFrom_of_ofRequirements h
  ⟨made.config_eq, made.analysis_eq, made.architecture_eq⟩

/-- A blueprint is made for all requirements if the hours are a whole number above zero and below
an astronomical one. -/
theorem exists_ofRequirements (requirements : List Requirement) (config : BlueprintConfig)
    (ids : Ids) {hours : Int} (hpos : 0 < hours) (hmost : hours ≤ 2 ^ 1000) :
    ∃ blueprint used,
      ofRequirements requirements config (.amount (.whole hours)) ids = .ok (blueprint, used) := by
  unfold ofRequirements
  obtain ⟨plan, hplan, htotal⟩ := Schedule.exists_plan
    (Design.architecture (Requirement.combinedText requirements)
      (Analysis.ofRequirements requirements)
      (some (Skeleton.ofDomain (Analysis.ofRequirements requirements).domain))) config
    (some (effectiveComplexity config (Analysis.ofRequirements requirements)))
  have hcosts := Return.totalCosts_ofPlan plan
  have hmost' : (hours : Rat) ≤ 2 ^ 1000 := by
    have := Int.cast_le (R := Rat).mpr hmost
    rwa [Int.cast_pow, Int.cast_ofNat] at this
  have hpositive : 0 < Return.totalCosts (Cost.ofPlan plan) := by omega
  have hfew : Return.totalCosts (Cost.ofPlan plan) ≤ 2 ^ 16 := by omega
  obtain ⟨projection, hprojection, hhours, hsavings⟩ :=
    Return.exists_ofHours hpos hmost' hpositive hfew
  have hprintable : ∀ magnitude : Nat, (magnitude : Int) ≤ hours * 4 * 50 →
      Figure.isPrintable magnitude := by
    intro magnitude h
    refine Figure.isPrintable_of_le (k := 8 + 1000) (by decide) ?_
    rw [pow_add]
    zify
    omega
  obtain ⟨metrics, hmetrics⟩ := SuccessMetric.exists_ofReturn
    (hprintable projection.hoursPerWeek (by omega))
    (hprintable projection.savingsPerMonth (by omega))
  exact ⟨_, _, bind_eq_ok_iff.mpr ⟨plan, hplan, bind_eq_ok_iff.mpr ⟨projection, hprojection,
    bind_eq_ok_iff.mpr ⟨metrics, hmetrics, rfl⟩⟩⟩⟩

/-- The components and the services of the blueprint for a feed are those of its text. -/
theorem exists_ofItems (items : List Requirement.Item) (config : BlueprintConfig) (ids : Ids)
    {hours : Int} (hpos : 0 < hours) (hmost : hours ≤ 2 ^ 1000) :
    ∃ blueprint used, ofItems items config (.amount (.whole hours)) ids = .ok (blueprint, used) ∧
      blueprint.architecture.components
        = Design.components (Requirement.combinedText (Requirement.ofItems ids items).1) ∧
      blueprint.architecture.integrations
        = Design.integrations (Requirement.combinedText (Requirement.ofItems ids items).1) := by
  obtain ⟨blueprint, used, h⟩ :=
    exists_ofRequirements (Requirement.ofItems ids items).1 config (Requirement.ofItems ids items).2
      hpos hmost
  obtain ⟨-, -, harchitecture⟩ := ofRequirements_eq_ok h
  exact ⟨blueprint, used, h, by rw [harchitecture]; rfl, by rw [harchitecture]; rfl⟩

end Blueprint

end Flowplan
