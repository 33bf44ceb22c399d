import Flowplan.Proofs.Blueprint.Projection
import Flowplan.Proofs.Number.Halves

namespace Flowplan.Return

open Number

/-- The exact percentage by which savings exceed costs, times twice the costs. -/
def scaledPercent (savings costs : Nat) : Int :=
  200 * (savings - costs)

/-- The exact percentage rounded to an integer, a half going up. -/
def IsNearestPercent (savings costs : Nat) (percent : Int) : Prop :=
  2 * percent * costs - costs ≤ scaledPercent savings costs ∧
    scaledPercent savings costs < 2 * percent * costs + costs

/-- The half after a whole percentage is lost where it is computed in doubles. -/
def LosesHalf (percent : Int) : Prop :=
  percentOf ((2 * percent + 1) / 200) < percent + 1 / 2

instance : DecidablePred LosesHalf :=
  fun _ => inferInstanceAs (Decidable (_ < _))

/-- The exact percentage ends on a half that is lost. -/
def MeetsLostHalf (savings costs : Nat) : Prop :=
  ∃ percent : Int, LosesHalf percent ∧ scaledPercent savings costs = (2 * percent + 1) * costs

theorem abs_mul_hundred (q : Rat) : |q * 100| = |q| * 100 := by
  rw [abs_mul, abs_of_pos (by norm_num : (0 : Rat) < 100)]

/-- What a ratio loses where it is led to percent in doubles. -/
theorem abs_percentOf_sub_le (ratio : Rat) :
    |percentOf ratio - ratio * 100|
      ≤ |ratio * 100| * (1 / 2 ^ 52 + 1 / 2 ^ 106) + 2 ^ (-1060 : Int) := by
  have hratio := abs_sub_nearest_le_add ratio
  have hproduct := abs_sub_nearest_le_add (nearest ratio * 100)
  have htiny : (2 : Rat) ^ (-1060 : Int) = 2 ^ (-1075 : Int) * 2 ^ 15 := by
    rw [show (-1060 : Int) = -1075 + 15 by norm_num, zpow_add₀ (by norm_num)]
    norm_num
  have hnear : |nearest ratio * 100| ≤ |ratio * 100| + |ratio - nearest ratio| * 100 := by
    have hclose := abs_sub_abs_le_abs_sub (nearest ratio) ratio
    rw [abs_sub_comm] at hclose
    rw [abs_mul_hundred, abs_mul_hundred]
    linarith
  have hsplit : |percentOf ratio - ratio * 100|
      ≤ |nearest ratio * 100 - percentOf ratio| + |ratio - nearest ratio| * 100 := by
    calc |percentOf ratio - ratio * 100|
        ≤ |percentOf ratio - nearest ratio * 100| + |nearest ratio * 100 - ratio * 100| :=
          abs_sub_le _ _ _
      _ = |nearest ratio * 100 - percentOf ratio| + |ratio - nearest ratio| * 100 := by
        rw [abs_sub_comm, ← sub_mul, abs_mul_hundred, abs_sub_comm (nearest ratio) ratio]
  have hscaled := abs_mul_hundred ratio
  have hpos := two_zpow_pos (-1075)
  change |nearest ratio * 100 - percentOf ratio| ≤ _ at hproduct
  rw [htiny]
  linarith

variable {savings costs : Nat}

theorem excess_mul (hcosts : 0 < costs) :
    excess savings costs * 100 * (2 * costs) = (scaledPercent savings costs : Rat) := by
  have hcosts' : (costs : Rat) ≠ 0 := by exact_mod_cast hcosts.ne'
  unfold excess scaledPercent
  push_cast
  field_simp
  ring

theorem two_zpow_mul_le (hfew : costs < 2 ^ 53) :
    (2 : Rat) ^ (-1060 : Int) * (2 * costs) ≤ 1 / 2 ^ 60 := by
  have hfew' : (2 * costs : Rat) ≤ 2 ^ (54 : Int) := by
    exact_mod_cast (by omega : 2 * costs ≤ 2 ^ 54)
  calc (2 : Rat) ^ (-1060 : Int) * (2 * costs)
      ≤ 2 ^ (-1060 : Int) * 2 ^ (54 : Int) :=
        mul_le_mul_of_nonneg_left hfew' (two_zpow_pos _).le
    _ = 2 ^ (-1006 : Int) := by rw [← zpow_add₀ (by norm_num)]; norm_num
    _ ≤ 2 ^ (-60 : Int) := zpow_le_zpow_right₀ (by norm_num) (by norm_num)
    _ = 1 / 2 ^ 60 := by norm_num

/-- The same, with the percentage taken times twice the costs. -/
theorem abs_scaled_sub_le (savings : Nat) (hcosts : 0 < costs) (hfew : costs < 2 ^ 53) :
    |percentOf (excess savings costs) * (2 * costs) - scaledPercent savings costs|
      ≤ |(scaledPercent savings costs : Rat)| * (1 / 2 ^ 52 + 1 / 2 ^ 106) + 1 / 2 ^ 60 := by
  have hpos : (0 : Rat) < 2 * costs := by exact_mod_cast Nat.mul_pos two_pos hcosts
  have hlost := two_zpow_mul_le hfew
  have herror := mul_le_mul_of_nonneg_right (abs_percentOf_sub_le (excess savings costs)) hpos.le
  have hleft : |percentOf (excess savings costs) - excess savings costs * 100| * (2 * costs)
      = |percentOf (excess savings costs) * (2 * costs) - scaledPercent savings costs| := by
    rw [← excess_mul hcosts, ← sub_mul, abs_mul, abs_of_pos hpos]
  have hright : |excess savings costs * 100| * (2 * costs)
      = |(scaledPercent savings costs : Rat)| := by
    rw [← excess_mul hcosts, abs_mul _ (2 * (costs : Rat)), abs_of_pos hpos]
  rw [hleft, add_mul, mul_right_comm, hright] at herror
  linarith

/-- Halves and integers are told apart by the multiples of twice the costs. -/
theorem abs_scaled_sub_lt_one (hcosts : 0 < costs) (hfew : costs < 2 ^ 53)
    (hnear : |scaledPercent savings costs| < 2 ^ 51) :
    |percentOf (excess savings costs) * (2 * costs) - scaledPercent savings costs| < 1 := by
  have hnear' : |(scaledPercent savings costs : Rat)| < 2 ^ 51 := by exact_mod_cast hnear
  have herror := abs_scaled_sub_le savings hcosts hfew
  linarith

theorem exists_isNearestPercent (savings : Nat) (hcosts : 0 < costs) :
    ∃ percent, IsNearestPercent savings costs percent := by
  have hpos : (0 : Int) < 2 * costs := by omega
  refine ⟨(scaledPercent savings costs + costs) / (2 * costs), ?_, ?_⟩
  · have := Int.ediv_mul_le (scaledPercent savings costs + costs) hpos.ne'
    linarith
  · have := Int.lt_ediv_add_one_mul_self (scaledPercent savings costs + costs) hpos
    linarith

theorem IsNearestPercent.eq {percent other : Int} (hcosts : 0 < costs)
    (h : IsNearestPercent savings costs percent) (h' : IsNearestPercent savings costs other) :
    percent = other := by
  have hcosts' : (0 : Int) < costs := by exact_mod_cast hcosts
  have hle : ∀ {percent other : Int}, IsNearestPercent savings costs percent →
      IsNearestPercent savings costs other → percent < other + 1 := by
    intro percent other h h'
    refine lt_of_mul_lt_mul_right (a := (costs : Int)) ?_ hcosts'.le
    linarith [h.1, h'.2]
  have := hle h h'
  have := hle h' h
  omega

/-- Cutting off gives the nearest percentage, unless that ends on a half and the number is below. -/
theorem floor_add_half_cases {p : Rat} {percent : Int} (hcosts : 0 < costs)
    (close : |p * (2 * costs) - scaledPercent savings costs| < 1)
    (h : IsNearestPercent savings costs percent) :
    (p + 1 / 2).floor = percent ∧ percent ≤ p + 1 / 2 ∨
      (p + 1 / 2).floor = percent - 1 ∧ p + 1 / 2 < percent ∧
        scaledPercent savings costs = (2 * (percent - 1) + 1) * costs := by
  obtain ⟨hl, hu⟩ := h
  obtain ⟨hbelow, habove⟩ := abs_lt.mp close
  generalize scaledPercent savings costs = exact at *
  have hone : (1 : Rat) ≤ costs := by exact_mod_cast hcosts
  have hpos : (0 : Rat) < 2 * costs := by linarith
  have hu' : (exact : Rat) + 1 ≤ 2 * percent * costs + costs := by exact_mod_cast hu
  have hmost : p + 1 / 2 < percent + 1 := by
    have : p * (2 * costs) < (percent + 1 / 2) * (2 * costs) := by linarith
    linarith [lt_of_mul_lt_mul_right this hpos.le]
  rcases le_or_gt (percent : Rat) (p + 1 / 2) with hreached | hlost
  · exact .inl ⟨Int.floor_eq_iff.mpr ⟨hreached, hmost⟩, hreached⟩
  · have htie : exact = (2 * (percent - 1) + 1) * costs := by
      have hscaled := mul_lt_mul_of_pos_right hlost hpos
      have : (exact : Rat) < (2 * percent * costs - costs + 1 : Int) := by
        push_cast
        linarith
      have : exact < 2 * percent * costs - costs + 1 := by exact_mod_cast this
      linarith
    have hleast : (percent : Rat) - 1 ≤ p + 1 / 2 := by
      have htie' : (exact : Rat) = (2 * (percent - 1) + 1) * costs := by exact_mod_cast htie
      have : (percent - 3 / 2) * (2 * costs) < p * (2 * costs) := by linarith
      linarith [lt_of_mul_lt_mul_right this hpos.le]
    refine .inr ⟨(Int.floor_eq_iff (a := p + 1 / 2)).mpr ⟨?_, ?_⟩, hlost, htie⟩
    · push_cast
      exact hleast
    · push_cast
      linarith

theorem excess_of_half {percent : Int} (hcosts : 0 < costs)
    (h : scaledPercent savings costs = (2 * percent + 1) * costs) :
    excess savings costs = (2 * percent + 1) / 200 := by
  have hcosts' : (costs : Rat) ≠ 0 := by exact_mod_cast hcosts.ne'
  have h' : 200 * ((savings : Rat) - costs) = (2 * percent + 1) * costs := by
    unfold scaledPercent at h
    exact_mod_cast h
  rw [excess, Int.cast_natCast, div_eq_div_iff hcosts' (by norm_num)]
  linarith

/-- The last double before a half is not met. -/
theorem percentOf_excess_lt_half (hcosts : 0 < costs) (hfew : costs < 2 ^ 53)
    (hnear : |scaledPercent savings costs| < 2 ^ 51)
    (h : percentOf (excess savings costs) < 1 / 2) :
    percentOf (excess savings costs) < 1 / 2 - 2 ^ (-54 : Int) := by
  have hpos : (0 : Rat) < costs := by exact_mod_cast hcosts
  have hless : excess savings costs < 1 / 200 := by
    by_contra hge
    have hhalf : percentOf (1 / 200) = 1 / 2 := by decide +kernel
    have := percentOf_mono (not_lt.mp hge)
    linarith
  have hexact : scaledPercent savings costs < costs := by
    rw [excess, div_lt_div_iff₀ hpos (by norm_num)] at hless
    rw [scaledPercent, ← Int.cast_lt (R := Rat)]
    push_cast at hless ⊢
    linarith
  have hexact' : (scaledPercent savings costs : Rat) + 1 ≤ costs := by exact_mod_cast hexact
  have hnear' : |(scaledPercent savings costs : Rat)| < 2 ^ 51 := by exact_mod_cast hnear
  have hone : (1 : Rat) ≤ costs := by exact_mod_cast hcosts
  have herror := (abs_le.mp (abs_scaled_sub_le savings hcosts hfew)).2
  have hscaled : percentOf (excess savings costs) * (2 * costs)
      < (1 / 2 - 2 ^ (-54 : Int)) * (2 * costs) := by
    generalize (scaledPercent savings costs : Rat) = exact at *
    norm_num
    rcases abs_cases exact with ⟨habs, _⟩ | ⟨habs, _⟩
    · rw [habs] at herror hnear'
      linarith
    · rw [habs] at herror hnear'
      linarith
  exact lt_of_mul_lt_mul_right hscaled (by linarith)

theorem roundedPercent_eq_floor (hcosts : 0 < costs) (hfew : costs < 2 ^ 53)
    (hnear : |scaledPercent savings costs| < 2 ^ 51) :
    roundedPercent (excess savings costs) = (percentOf (excess savings costs) + 1 / 2).floor := by
  refine floor_nearest_add_half (onGrid_nearest _) ?_ (percentOf_excess_lt_half hcosts hfew hnear)
  have hnear' : |(scaledPercent savings costs : Rat)| ≤ 2 ^ 51 - 1 := by
    have := Int.le_sub_one_of_lt hnear
    exact_mod_cast this
  have hone : (1 : Rat) ≤ 2 * costs := by exact_mod_cast (by omega : 1 ≤ 2 * costs)
  have hclose := (abs_sub_abs_le_abs_sub _ _).trans (abs_scaled_sub_lt_one hcosts hfew hnear).le
  calc |percentOf (excess savings costs)|
      ≤ |percentOf (excess savings costs)| * (2 * costs) :=
        le_mul_of_one_le_right (abs_nonneg _) hone
    _ = |percentOf (excess savings costs) * (2 * costs)| := by
        rw [abs_mul, abs_of_pos (zero_lt_one.trans_le hone)]
    _ ≤ 2 ^ 51 := by linarith

/-- Within the bound, the only wrong percentages are those of the lost halves. -/
theorem isNearestPercent_cases (hcosts : 0 < costs) (hfew : costs < 2 ^ 53)
    (hnear : |scaledPercent savings costs| < 2 ^ 51) :
    IsNearestPercent savings costs (roundedPercent (excess savings costs)) ∧
        ¬MeetsLostHalf savings costs ∨
      IsNearestPercent savings costs (roundedPercent (excess savings costs) + 1) ∧
        MeetsLostHalf savings costs := by
  obtain ⟨percent, hpercent⟩ := exists_isNearestPercent savings hcosts
  rw [roundedPercent_eq_floor hcosts hfew hnear]
  have hcases := floor_add_half_cases hcosts (abs_scaled_sub_lt_one hcosts hfew hnear) hpercent
  rcases hcases with ⟨hfloor, hreached⟩ | ⟨hfloor, hlost, htie⟩
  · refine .inl ⟨by rwa [hfloor], ?_⟩
    rintro ⟨half, hlost, htie⟩
    have hnext : IsNearestPercent savings costs (half + 1) := by
      have hcosts' : (0 : Int) < costs := by exact_mod_cast hcosts
      constructor <;> linarith
    rw [hpercent.eq hcosts hnext, excess_of_half hcosts htie] at hreached
    rw [LosesHalf] at hlost
    push_cast at hreached
    linarith
  · refine .inr ⟨by rwa [hfloor, sub_add_cancel], percent - 1, ?_, htie⟩
    rw [LosesHalf, ← excess_of_half hcosts htie]
    push_cast
    linarith

/-- The error of all the steps, with the percentage taken times twice the costs. -/
theorem abs_scaled_nearest_sub_lt (hcosts : 0 < costs) (hfew : costs < 2 ^ 53)
    (hmost : savings < 2 ^ 53) :
    |nearest (percentOf (excess savings costs) + 1 / 2) * (2 * costs)
        - (scaledPercent savings costs + costs)| < 602 := by
  have hexact : |(scaledPercent savings costs : Rat)| ≤ 200 * 2 ^ 53 := by
    have : |scaledPercent savings costs| ≤ 200 * 2 ^ 53 := by
      unfold scaledPercent
      exact abs_le.mpr ⟨by omega, by omega⟩
    exact_mod_cast this
  have hfew' : (costs : Rat) ≤ 2 ^ 53 := by exact_mod_cast hfew.le
  have hpos : (0 : Rat) < 2 * costs := by exact_mod_cast Nat.mul_pos two_pos hcosts
  have hproduct := abs_scaled_sub_le savings hcosts hfew
  generalize (scaledPercent savings costs : Rat) = exact at *
  generalize percentOf (excess savings costs) = p at *
  have hsum : |(p + 1 / 2) * (2 * costs)| ≤ |exact| + |p * (2 * costs) - exact| + costs := by
    have hsplit : (p + 1 / 2) * (2 * costs) = exact + (p * (2 * costs) - exact) + costs := by ring
    have hnonneg : |(costs : Rat)| = costs := abs_of_nonneg (Nat.cast_nonneg _)
    rw [hsplit]
    refine (abs_add_le _ _).trans ?_
    rw [hnonneg]
    exact add_le_add_left (abs_add_le _ _) _
  have hhalf : |nearest (p + 1 / 2) - (p + 1 / 2)| * (2 * costs)
      ≤ |(p + 1 / 2) * (2 * costs)| / 2 ^ 53 + 1 / 2 ^ 60 := by
    have herror := mul_le_mul_of_nonneg_right (abs_sub_nearest_le_add (p + 1 / 2)) hpos.le
    have htiny : (2 : Rat) ^ (-1075 : Int) * (2 * costs) ≤ 2 ^ (-1060 : Int) * (2 * costs) :=
      mul_le_mul_of_nonneg_right (zpow_le_zpow_right₀ (by norm_num) (by norm_num)) hpos.le
    rw [add_mul, div_mul_eq_mul_div, abs_sub_comm] at herror
    rw [abs_mul _ (2 * (costs : Rat)), abs_of_pos hpos]
    linarith [two_zpow_mul_le hfew]
  have hsplit : nearest (p + 1 / 2) * (2 * costs) - (exact + costs)
      = (nearest (p + 1 / 2) - (p + 1 / 2)) * (2 * costs) + (p * (2 * costs) - exact) := by ring
  calc |nearest (p + 1 / 2) * (2 * costs) - (exact + costs)|
      ≤ |nearest (p + 1 / 2) - (p + 1 / 2)| * (2 * costs) + |p * (2 * costs) - exact| := by
        rw [hsplit]
        refine (abs_add_le _ _).trans_eq ?_
        rw [abs_mul _ (2 * (costs : Rat)), abs_of_pos hpos]
    _ < 602 := by linarith

/-- Whatever the amounts, the percentage errs by little more than a half. -/
theorem abs_roundedPercent_sub_le (hcosts : 0 < costs) (hfew : costs < 2 ^ 53)
    (hmost : savings < 2 ^ 53) :
    |2 * roundedPercent (excess savings costs) * costs - scaledPercent savings costs|
      ≤ costs + 601 := by
  have hpos : (0 : Rat) < 2 * costs := by exact_mod_cast Nat.mul_pos two_pos hcosts
  obtain ⟨hl, hu⟩ := abs_lt.mp (abs_scaled_nearest_sub_lt hcosts hfew hmost)
  have hfloor : (roundedPercent (excess savings costs) : Rat)
      ≤ nearest (percentOf (excess savings costs) + 1 / 2) := Int.floor_le _
  have hnext : nearest (percentOf (excess savings costs) + 1 / 2)
      < roundedPercent (excess savings costs) + 1 := Int.lt_floor_add_one _
  have hfloor' := mul_le_mul_of_nonneg_right hfloor hpos.le
  have hnext' := mul_lt_mul_of_pos_right hnext hpos
  generalize roundedPercent (excess savings costs) = percent at *
  generalize scaledPercent savings costs = exact at *
  have habove : 2 * percent * costs - exact < costs + 602 := by
    rw [← Int.cast_lt (R := Rat)]
    push_cast
    linarith
  have hbelow : exact - 2 * percent * costs < costs + 602 := by
    rw [← Int.cast_lt (R := Rat)]
    push_cast
    linarith
  exact abs_le.mpr ⟨by omega, by omega⟩

/-- The percentage of a projection errs by little more than a half. If the savings and the costs do
not lie too far apart, it is the exact one rounded half up, unless that ends on a half that is lost:
then it is one too low. -/
theorem project_percent (cost : Cost) (hours : Nat) (hpos : 0 < hours)
    (hcosts : 0 < totalCosts cost) (hmost : 7200 * hours < 2 ^ 53)
    (hfew : totalCosts cost < 2 ^ 53) :
    ∃ projection, project cost (.amount (.whole hours)) = .ok projection ∧
      |2 * projection.percent * totalCosts cost - scaledPercent (7200 * hours) (totalCosts cost)|
        ≤ totalCosts cost + 601 ∧
      (|scaledPercent (7200 * hours) (totalCosts cost)| < 2 ^ 51 →
        (IsNearestPercent (7200 * hours) (totalCosts cost) projection.percent ↔
          ¬MeetsLostHalf (7200 * hours) (totalCosts cost)) ∧
        (MeetsLostHalf (7200 * hours) (totalCosts cost) →
          IsNearestPercent (7200 * hours) (totalCosts cost) (projection.percent + 1))) := by
  obtain ⟨projection, hprojection, -, -, hpercent⟩ := exists_project hpos hmost hcosts hfew
  refine ⟨projection, hprojection, ?_, fun hnear => ?_⟩
  · rw [hpercent]
    exact abs_roundedPercent_sub_le hcosts hfew hmost
  · rw [hpercent]
    rcases isNearestPercent_cases hcosts hfew hnear with ⟨hright, hno⟩ | ⟨hnext, hlost⟩
    · exact ⟨iff_of_true hright hno, fun hlost => absurd hlost hno⟩
    · refine ⟨iff_of_false (fun h => ?_) (not_not_intro hlost), fun _ => hnext⟩
      have := h.eq hcosts hnext
      omega

theorem project_percent_keptHalf :
    0 < 5 ∧ 0 < totalCosts (Cost.ofHours 68) ∧ 7200 * 5 < 2 ^ 53 ∧
      totalCosts (Cost.ofHours 68) < 2 ^ 53 ∧
      |scaledPercent (7200 * 5) (totalCosts (Cost.ofHours 68))| < 2 ^ 51 ∧
      ¬MeetsLostHalf (7200 * 5) (totalCosts (Cost.ofHours 68)) ∧
      ∃ projection, project (Cost.ofHours 68) (.amount (.whole 5)) = .ok projection ∧
        IsNearestPercent (7200 * 5) (totalCosts (Cost.ofHours 68)) projection.percent := by
  have hkept : ¬MeetsLostHalf (7200 * 5) (totalCosts (Cost.ofHours 68)) := by
    rintro ⟨half, hlost, h⟩
    have hcosts : totalCosts (Cost.ofHours 68) = 32000 := rfl
    rw [hcosts, scaledPercent] at h
    obtain rfl : half = 12 := by omega
    exact absurd hlost (by decide +kernel)
  obtain ⟨projection, hprojection, -, hnear⟩ :=
    project_percent (Cost.ofHours 68) 5 (by decide) (by decide) (by decide) (by decide)
  exact ⟨by decide, by decide, by decide, by decide, by decide, hkept, projection, hprojection,
    (hnear (by decide)).1.mpr hkept⟩

/-- Not every percentage is the exact one rounded half up: here that is 57 and a half. -/
theorem project_percent_lostHalf :
    ∃ projection, project (Cost.ofHours 68) (.amount (.whole 7)) = .ok projection ∧
      projection.percent = 57 ∧
      scaledPercent (7200 * 7) (totalCosts (Cost.ofHours 68))
        = (2 * 57 + 1) * totalCosts (Cost.ofHours 68) ∧
      ¬IsNearestPercent (7200 * 7) (totalCosts (Cost.ofHours 68)) projection.percent ∧
      IsNearestPercent (7200 * 7) (totalCosts (Cost.ofHours 68)) 58 := by
  have hfigures : (project (Cost.ofHours 68) (.amount (.whole 7))).toOption
      = some ⟨7, 1400, 45, 85, 5, 57⟩ := by
    decide +kernel
  cases hprojection : project (Cost.ofHours 68) (.amount (.whole 7)) with
  | error fault =>
    rw [hprojection] at hfigures
    cases hfigures
  | ok projection =>
    rw [hprojection] at hfigures
    cases hfigures
    exact ⟨_, rfl, rfl, rfl, fun h => absurd h.2 (by decide), by decide, by decide⟩

end Flowplan.Return
