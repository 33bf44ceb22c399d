import Flowplan.Proofs.Blueprint.Generation
import Flowplan.Proofs.Number.Overflow

namespace Flowplan

open Number

namespace Return

variable {cost : Cost} {hours : Int}

/-- What a projection is made of. -/
theorem exists_of_ofHours {hours : Amount} {projection : Return}
    (h : ofHours cost hours = .ok projection) :
    ∃ percent months, rate (totalSavings hours) (totalCosts cost) = .ok percent ∧
      payback cost.total.initial (monthlySavings hours) = .ok months ∧
      Figure.roundHalfUp percent = .ok projection.percent ∧
      Record.natural (.int months) = .value projection.paybackMonths ∧
      projection.productivityGain = 45 ∧ projection.errorReduction = 85 := by
  obtain ⟨percent, hpercent, h⟩ := bind_eq_ok_iff.mp h
  obtain ⟨months, hmonths, h⟩ := bind_eq_ok_iff.mp h
  obtain ⟨rounded, hrounded, h⟩ := bind_eq_ok_iff.mp h
  simp only [Checked.outcome_eq_ok_iff, Checked.apply_eq_value_iff, Checked.fmap_eq_value_iff,
    Checked.pure_eq_value_iff] at h
  obtain ⟨_, _, ⟨_, natural, ⟨_, _, ⟨_, _, ⟨_, _, ⟨_, -, rfl⟩, -, rfl⟩, rfl, rfl⟩, rfl, rfl⟩,
    hnatural, rfl⟩, rfl, rfl⟩ := h
  exact ⟨percent, months, hpercent, hmonths, hrounded, hnatural, rfl, rfl⟩

theorem isPrintable_of_payback {initial : Nat} {monthly : Amount} {months : Int}
    (h : payback initial monthly = .ok months) : Figure.isPrintable months.natAbs := by
  unfold payback at h
  split at h
  · cases h
    exact Figure.isPrintable_of_le (k := 0) (by decide) (by decide)
  · obtain ⟨quotient, hquotient, h⟩ := bind_eq_ok_iff.mp h
    obtain ⟨v, hv, rfl⟩ := map_eq_ok_iff.mp h
    have hv := Figure.exact_eq_ok_iff.mp hv
    refine Figure.isPrintable_of_abs_le (Figure.abs_ceil_le ?_)
    cases monthly with
    | whole value => exact Figure.abs_lt_of_quotient hquotient hv
    | real value =>
      obtain ⟨dividend, -, rfl⟩ := map_eq_ok_iff.mp hquotient
      exact Binary64.abs_lt_of_value?_div hv

/-- The figures that are made of doubles are no longer than those are. -/
theorem isPrintable_of_ofHours {hours : Amount} {projection : Return}
    (h : ofHours cost hours = .ok projection) :
    Figure.isPrintable projection.percent.natAbs ∧
      Figure.isPrintable projection.paybackMonths := by
  obtain ⟨percent, months, -, hmonths, hpercent, hnatural, -⟩ := exists_of_ofHours h
  refine ⟨Figure.isPrintable_of_roundHalfUp hpercent, ?_⟩
  have hcast : months = projection.paybackMonths :=
    Checked.value.inj (Record.natural_eq_value_iff.mp hnatural).1
  have hprintable := isPrintable_of_payback hmonths
  rwa [hcast, Int.natAbs_natCast] at hprintable

section Percentage

variable {ratio : Rat} {savings : Int} {costs : Nat}

end Percentage

end Return

end Flowplan
