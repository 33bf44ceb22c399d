import Flowplan.Blueprint.Return
import Flowplan.Blueprint.Schedule
import Flowplan.Proofs.Number.Bounds
import Flowplan.Proofs.Record.Reading

namespace Flowplan

open Number

theorem abs_div_le_of_abs_le {a b : Int} {bound : Rat} (hb : 0 < b) (h : |(a : Rat)| ≤ bound) :
    |(a : Rat) / b| ≤ bound := by
  have hb' : (1 : Rat) ≤ b := by exact_mod_cast hb
  rw [abs_div, abs_of_pos (zero_lt_one.trans_le hb')]
  exact (div_le_self (abs_nonneg _) hb').trans h

namespace Return

variable {cost : Cost}

/-- What savings exceed costs by, in proportion to the costs. -/
def excess (savings : Int) (costs : Nat) : Rat :=
  (savings - costs) / costs

/-- A ratio in percent, divided and multiplied in doubles. -/
def percentOf (ratio : Rat) : Rat :=
  nearest (nearest ratio * 100)

/-- A ratio in whole percent, a half going up; the half is added in doubles. -/
def roundedPercent (ratio : Rat) : Int :=
  (nearest (percentOf ratio + 1 / 2)).floor

theorem percentOf_mono : Monotone percentOf :=
  fun _ _ h => nearest_mono (mul_le_mul_of_nonneg_right (nearest_mono h) (by norm_num))

theorem roundedPercent_le {ratio more : Rat} (h : ratio ≤ more) :
    roundedPercent ratio ≤ roundedPercent more :=
  Int.floor_mono (nearest_mono (add_le_add_left (percentOf_mono h) _))

theorem excess_mono {savings more : Int} (costs : Nat) (h : savings ≤ more) :
    excess savings costs ≤ excess more costs := by
  have h' : (savings : Rat) ≤ more := by exact_mod_cast h
  unfold excess
  gcongr

theorem excess_anti {savings : Int} {fewer costs : Nat} (hsavings : 0 ≤ savings)
    (hfewer : 0 < fewer) (h : fewer ≤ costs) : excess savings costs ≤ excess savings fewer := by
  have hsavings' : (0 : Rat) ≤ savings := by exact_mod_cast hsavings
  have hfewer' : (0 : Rat) < fewer := by exact_mod_cast hfewer
  have h' : (fewer : Rat) ≤ costs := by exact_mod_cast h
  rw [excess, excess, sub_div, sub_div, div_self (hfewer'.trans_le h').ne',
    div_self hfewer'.ne']
  gcongr

/-- The percentage is computed as long as it does not come near the greatest double. -/
theorem rate_eq {savings : Int} {costs k : Nat} (hcosts : 0 < costs)
    (hbalance : |((savings - costs : Int) : Rat)| ≤ 2 ^ k) (hk : k + 8 < 1024) :
    ∃ percent, rate (.whole savings) costs = .ok percent ∧
      Figure.roundHalfUp percent = .ok (roundedPercent (excess savings costs)) := by
  have hquotient := abs_div_le_of_abs_le (b := costs) (by exact_mod_cast hcosts) hbalance
  have hratio := Binary64.value?_ofRat (by omega) hquotient
  have hproduct : |nearest (((savings - costs : Int) : Rat) / (costs : Int)) * 100|
      ≤ 2 ^ (k + 7) := by
    rw [abs_mul, pow_add]
    have := abs_nearest_le_two_pow hquotient
    gcongr
    norm_num [abs_of_pos]
  have he : nearest (nearest (((savings - costs : Int) : Rat) / (costs : Int)) * 100)
      = percentOf (excess savings costs) := by
    rw [percentOf, excess, Int.cast_sub, Int.cast_natCast]
  have hpercent := Binary64.value?_mul hratio (y := .finite 100) rfl (by omega) hproduct
  have hlarge := abs_nearest_le_two_pow hproduct
  rw [he] at hpercent hlarge
  have hsum : |percentOf (excess savings costs) + 1 / 2| ≤ 2 ^ (k + 8) := by
    have hhalf : |(1 : Rat) / 2| ≤ 2 ^ (k + 7) := by
      rw [abs_of_pos (by norm_num)]
      exact le_trans (by norm_num) (one_le_pow₀ (by norm_num))
    calc |percentOf (excess savings costs) + 1 / 2|
        ≤ |percentOf (excess savings costs)| + |1 / 2| := abs_add_le _ _
      _ ≤ 2 ^ (k + 7) + 2 ^ (k + 7) := add_le_add hlarge hhalf
      _ = 2 ^ (k + 8) := by rw [pow_succ (2 : Rat) (k + 7), mul_two]
  refine ⟨_, ?_, Figure.roundHalfUp_eq hpercent hk hsum⟩
  rw [rate, if_neg hcosts.ne']
  exact bind_eq_ok_iff.mpr ⟨.whole _, rfl,
    bind_eq_ok_iff.mpr ⟨_, Figure.quotient_eq_ok (by omega) hquotient, rfl⟩⟩

/-- The projection for whole hours, from what is computed of them. -/
theorem ofHours_eq_of {hours : Int} {percent : Binary64} {months : Nat} {rounded : Int}
    (hpos : 0 < hours)
    (hrate : rate (totalSavings (.whole hours)) (totalCosts cost) = .ok percent)
    (hmonths : payback cost.total.initial (monthlySavings (.whole hours)) = .ok months)
    (hrounded : Figure.roundHalfUp percent = .ok rounded) :
    ofHours cost (.whole hours)
      = .ok ⟨hours.toNat, (hours * 4 * 50).toNat, 45, 85, months, rounded⟩ := by
  have hnatural : ∀ n : Int, 0 ≤ n → Record.natural (.int n) = .value n.toNat := by
    intro n hn
    simp [Record.natural, Record.wholeFrom, Record.whole, Checked.guard, Checked.map, hn]
  refine bind_eq_ok_iff.mpr ⟨percent, hrate, bind_eq_ok_iff.mpr ⟨months, hmonths,
    bind_eq_ok_iff.mpr ⟨_, hrounded, ?_⟩⟩⟩
  simp only [monthlySavings, Amount.times, Amount.toJson]
  rw [hnatural hours hpos.le, hnatural _ (by omega), hnatural months (Int.natCast_nonneg _)]
  rfl

/-- The projection for whole hours above zero whose figures can be computed. -/
theorem ofHours_eq {hours : Int} {months k : Nat} (hpos : 0 < hours) (hcosts : 0 < totalCosts cost)
    (hbalance : |((hours * 4 * 50 * 12 * 3 - totalCosts cost : Int) : Rat)| ≤ 2 ^ k)
    (hk : k + 8 < 1024)
    (hmonths : payback cost.total.initial (monthlySavings (.whole hours)) = .ok months) :
    ofHours cost (.whole hours) = .ok {
      hoursPerWeek := hours.toNat
      savingsPerMonth := (hours * 4 * 50).toNat
      productivityGain := 45
      errorReduction := 85
      paybackMonths := months
      percent := roundedPercent (excess (hours * 4 * 50 * 12 * 3) (totalCosts cost)) } := by
  obtain ⟨percent, hpercent, hrounded⟩ := rate_eq hcosts hbalance hk
  exact ofHours_eq_of hpos hpercent hmonths hrounded

/-- The months that have the savings of an initial cost, and no month more. -/
def MonthsFor (initial monthly count : Nat) : Prop :=
  IsLeast {months : Nat | initial ≤ months * monthly} count

theorem MonthsFor.le {initial greater monthly less count more : Nat}
    (h : MonthsFor initial monthly count) (h' : MonthsFor greater less more)
    (hinitial : initial ≤ greater) (hmonthly : less ≤ monthly) : count ≤ more :=
  h.2 (hinitial.trans (h'.1.trans (Nat.mul_le_mul_left more hmonthly)))

theorem exists_payback_of_lt {initial hours : Nat} (hpos : 0 < hours)
    (hmost : 7200 * hours < 2 ^ 53) (hfew : initial < 2 ^ 53) :
    ∃ months : Nat, payback initial (monthlySavings (.whole hours)) = .ok months ∧
      MonthsFor initial (200 * hours) months := by
  obtain ⟨months, hmonths, hleast⟩ := Figure.exists_ceiling_quotient (b := 200 * hours)
    (by omega) (by omega) hfew
  have hmonthly : monthlySavings (.whole hours) = .whole ((200 * hours : Nat) : Int) := by
    simp only [monthlySavings, Amount.times, Amount.whole.injEq]
    omega
  refine ⟨months, ?_, hleast⟩
  have hzero : ¬(Amount.whole ((200 * hours : Nat) : Int)).isZero := by
    simp only [Amount.isZero, decide_eq_true_eq]
    omega
  rw [hmonthly, payback, if_neg hzero]
  exact hmonths

/-- The projection for whole hours, if its amounts are doubles. -/
theorem exists_project {hours : Nat} (hpos : 0 < hours) (hmost : 7200 * hours < 2 ^ 53)
    (hcosts : 0 < totalCosts cost) (hfew : totalCosts cost < 2 ^ 53) :
    ∃ projection, project cost (.amount (.whole hours)) = .ok projection ∧
      projection.savingsPerMonth = 200 * hours ∧
      MonthsFor cost.total.initial (200 * hours) projection.paybackMonths ∧
      projection.percent = roundedPercent (excess (7200 * hours : Nat) (totalCosts cost)) := by
  have hinitial : cost.total.initial ≤ totalCosts cost := Nat.le_add_right _ _
  obtain ⟨months, hmonths, hleast⟩ := exists_payback_of_lt hpos hmost (hinitial.trans_lt hfew)
  have hsavings : (hours * 4 * 50 * 12 * 3 : Int) = (7200 * hours : Nat) := by omega
  have hbalance : |((hours * 4 * 50 * 12 * 3 - totalCosts cost : Int) : Rat)| ≤ 2 ^ 53 := by
    have hbalance : |(hours * 4 * 50 * 12 * 3 - totalCosts cost : Int)| ≤ 2 ^ 53 := by
      rw [hsavings, abs_le]
      omega
    exact_mod_cast hbalance
  refine ⟨_, ofHours_eq (by omega) hcosts hbalance (by norm_num) hmonths, ?_, hleast, ?_⟩
  · change (hours * 4 * 50 : Int).toNat = 200 * hours
    omega
  · exact congrArg (fun savings => roundedPercent (excess savings (totalCosts cost))) hsavings

theorem totalCosts_ofPlan (plan : Plan) :
    totalCosts (Cost.ofPlan plan) = plan.totalHours * 100 + 25200 := by
  simp only [totalCosts, Cost.ofPlan, Cost.ofHours, Cost.developerRate, Cost.Recurring.ofMonth,
    Cost.infrastructurePerMonth, Cost.maintenancePerMonth]

/-- The payback of a plan is the least number of months that save its initial cost. More hours saved
in a week neither lower the percentage nor raise the payback, and more hours of work neither raise
the percentage nor lower the payback. -/
theorem project_ofPlan (plan : Plan) (hours : Nat) (hpos : 0 < hours)
    (hmost : 7200 * hours < 2 ^ 53) (hfew : totalCosts (Cost.ofPlan plan) < 2 ^ 53) :
    ∃ projection, project (Cost.ofPlan plan) (.amount (.whole hours)) = .ok projection ∧
      projection.savingsPerMonth = 200 * hours ∧
      IsLeast {months : Nat |
        (Cost.ofPlan plan).total.initial ≤ months * projection.savingsPerMonth}
        projection.paybackMonths ∧
      (∀ more : Nat, hours ≤ more → 7200 * more < 2 ^ 53 →
        ∃ other, project (Cost.ofPlan plan) (.amount (.whole more)) = .ok other ∧
          projection.percent ≤ other.percent ∧
          other.paybackMonths ≤ projection.paybackMonths) ∧
      ∀ larger : Plan, plan.totalHours ≤ larger.totalHours →
        totalCosts (Cost.ofPlan larger) < 2 ^ 53 →
        ∃ other, project (Cost.ofPlan larger) (.amount (.whole hours)) = .ok other ∧
          other.percent ≤ projection.percent ∧
          projection.paybackMonths ≤ other.paybackMonths := by
  have hcosts : ∀ plan : Plan, 0 < totalCosts (Cost.ofPlan plan) := by
    intro plan
    rw [totalCosts_ofPlan]
    omega
  obtain ⟨projection, hprojection, hmonthly, hleast, hpercent⟩ :=
    exists_project hpos hmost (hcosts plan) hfew
  refine ⟨projection, hprojection, hmonthly, by rwa [hmonthly], ?_, ?_⟩
  · intro more hle hmost'
    obtain ⟨other, hother, -, hless, hgreater⟩ :=
      exists_project (hpos.trans_le hle) hmost' (hcosts plan) hfew
    refine ⟨other, hother, ?_, hless.le hleast le_rfl (Nat.mul_le_mul_left 200 hle)⟩
    rw [hpercent, hgreater]
    exact roundedPercent_le (excess_mono _ (by omega))
  · intro larger hle hfew'
    obtain ⟨other, hother, -, hmore, hless⟩ :=
      exists_project hpos hmost (hcosts larger) hfew'
    have hinitial : (Cost.ofPlan plan).total.initial ≤ (Cost.ofPlan larger).total.initial :=
      Nat.mul_le_mul_right _ hle
    refine ⟨other, hother, ?_, hleast.le hmore hinitial le_rfl⟩
    rw [hpercent, hless]
    refine roundedPercent_le (excess_anti (Int.natCast_nonneg _) (hcosts plan) ?_)
    rw [totalCosts_ofPlan, totalCosts_ofPlan]
    omega

/-- The last phases of every plan, on their own. -/
def closing : Plan where
  phases := [Schedule.testing, Schedule.deployment]
  totalTime := "3 weeks"
  resources := []
  prerequisites := []
  testing := ""
  deployment := ""

theorem project_ofPlan_closing :
    0 < 20 ∧ 7200 * 20 < 2 ^ 53 ∧ totalCosts (Cost.ofPlan closing) < 2 ^ 53 ∧
      project (Cost.ofPlan closing) (.amount (.whole 20)) = .ok ⟨20, 4000, 45, 85, 2, 368⟩ ∧
      IsLeast {months : Nat | 5600 ≤ months * 4000} 2 ∧
      ∃ other, project (Cost.ofPlan closing) (.amount (.whole 40)) = .ok other ∧
        368 ≤ other.percent ∧ other.paybackMonths ≤ 2 := by
  have hfigures : (project (Cost.ofPlan closing) (.amount (.whole (20 : Nat)))).toOption
      = some ⟨20, 4000, 45, 85, 2, 368⟩ := by
    decide +kernel
  obtain ⟨projection, hprojection, -, hleast, hmore, -⟩ :=
    project_ofPlan closing 20 (by decide) (by decide) (by decide)
  rw [hprojection] at hfigures
  cases hfigures
  exact ⟨by decide, by decide, by decide, hprojection, hleast, hmore 40 (by decide) (by decide)⟩

end Return

end Flowplan
