import Flowplan.Figure
import Flowplan.Proofs.Number.Doubles
import Flowplan.Proofs.Number.Nearest
import Mathlib.Order.Bounds.Basic

namespace Flowplan

namespace Number

theorem onGrid_two_pow (k : Nat) : OnGrid (2 ^ k) :=
  ⟨1, k, by norm_num, by omega, by rw [Int.cast_one, one_mul, zpow_natCast]⟩

/-- Rounding leads no number beyond a power of two that it has not passed. -/
theorem abs_nearest_le_two_pow {q : Rat} {k : Nat} (h : |q| ≤ 2 ^ k) : |nearest q| ≤ 2 ^ k := by
  obtain ⟨hl, hu⟩ := abs_le.mp h
  exact abs_le.mpr ⟨(onGrid_two_pow k).neg.le_nearest hl, (onGrid_two_pow k).nearest_le hu⟩

theorem two_pow_lt_ten_pow_of_lt {k n : Nat} (h : k < n) : 2 ^ k < Nat.pow 10 n :=
  (Nat.pow_le_pow_left (by decide) k).trans_lt (Nat.pow_lt_pow_right (by decide) h)

end Number

namespace Binary64

open Number

theorem value?_ofRat {q : Rat} {k : Nat} (hk : k < 1024) (h : |q| ≤ 2 ^ k) :
    (ofRat q).value? = some (nearest q) := by
  have hfinite : ¬infinite ≤ |nearest q| := by
    refine not_le.mpr ((abs_nearest_le_two_pow h).trans_lt ?_)
    exact pow_lt_pow_right₀ (by norm_num) hk
  rw [ofRat]
  simp only [ratAbs_eq]
  rw [if_neg hfinite]
  split
  next hzero => exact congrArg some hzero.1.symm
  next => rfl

theorem value?_mul {x y : Binary64} {a b : Rat} {k : Nat} (hx : x.value? = some a)
    (hy : y.value? = some b) (hk : k < 1024) (h : |a * b| ≤ 2 ^ k) :
    (x.mul y).value? = some (nearest (a * b)) := by
  simp only [Binary64.mul, hx, hy]
  split
  next hzero =>
    rw [mul_eq_zero.mpr hzero, nearest_zero]
    cases x.isNegative != y.isNegative <;> rfl
  next => exact value?_ofRat hk h

theorem value?_add {x y : Binary64} {a b : Rat} {k : Nat} (hx : x.value? = some a)
    (hy : y.value? = some b) (hk : k < 1024) (h : |a + b| ≤ 2 ^ k) :
    (x.add y).value? = some (nearest (a + b)) := by
  simp only [Binary64.add, hx, hy]
  split
  next hzero =>
    obtain ⟨rfl, rfl⟩ := hzero
    cases hx
    cases hy
    rw [add_zero, nearest_zero]
    rfl
  next => exact value?_ofRat hk h

end Binary64

namespace Figure

theorem isPrintable_of_le {magnitude k : Nat} (hk : k < Text.mostDigits) (h : magnitude ≤ 2 ^ k) :
    isPrintable magnitude := by
  rw [isPrintable, decide_eq_true_eq]
  exact h.trans_lt (Number.two_pow_lt_ten_pow_of_lt hk)

theorem exact_eq_ok_iff {x : Binary64} {q : Rat} : exact x = .ok q ↔ x.value? = some q := by
  cases x <;> simp [exact, Binary64.value?]

theorem quotient_eq_ok {a b : Int} {k : Nat} (hk : k < 1024) (h : |(a : Rat) / b| ≤ 2 ^ k) :
    quotient a b = .ok (.ofRat (a / b)) := by
  have hvalue := Binary64.value?_ofRat hk h
  unfold quotient
  split
  next negative hx => rw [hx] at hvalue; cases hvalue
  next => rfl

/-- The quotient of two numbers that are doubles is rounded up as if it were exact. -/
theorem exists_ceiling_quotient {a b : Nat} (hb : 0 < b) (hmost : b ≤ 2 ^ 53) (ha : a < 2 ^ 53) :
    ∃ n : Nat, (quotient a b >>= ceiling) = .ok (n : Int) ∧ IsLeast {m : Nat | a ≤ m * b} n := by
  have hle : |((a : Int) : Rat) / ((b : Int) : Rat)| ≤ 2 ^ 53 := by
    push_cast
    rw [abs_of_nonneg (by positivity)]
    exact (div_le_self (Nat.cast_nonneg a) (by exact_mod_cast hb)).trans (by exact_mod_cast ha.le)
  have hquotient := quotient_eq_ok (by norm_num) hle
  have hvalue := Binary64.value?_ofRat (by norm_num) hle
  push_cast at hquotient hvalue
  have hnonneg : (0 : Rat) ≤ Number.nearest (a / b) := Number.nearest_nonneg (by positivity)
  obtain ⟨n, hn⟩ := Int.eq_ofNat_of_zero_le
    (Int.cast_nonneg_iff.mp (hnonneg.trans Rat.le_ceil))
  have hleast : ∀ m : Nat, n ≤ m ↔ a ≤ m * b := by
    intro m
    rw [← Number.ceil_nearest_div_le_iff hb hmost ha, hn, Nat.cast_le]
  refine ⟨n, ?_, (hleast n).mp le_rfl, fun m hm => (hleast m).mpr hm⟩
  rw [hquotient]
  change ceiling _ = _
  rw [ceiling, exact_eq_ok_iff.mpr hvalue]
  exact congrArg Except.ok hn

theorem roundHalfUp_eq {x : Binary64} {q : Rat} {k : Nat} (hx : x.value? = some q)
    (hk : k < 1024) (h : |q + 1 / 2| ≤ 2 ^ k) :
    roundHalfUp x = .ok (Number.nearest (q + 1 / 2)).floor := by
  have hsum := Binary64.value?_add hx (y := .finite (1 / 2)) rfl hk h
  rw [roundHalfUp, exact_eq_ok_iff.mpr hsum]
  rfl

end Figure

end Flowplan
