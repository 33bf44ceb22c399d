import Flowplan.Number.Rounding
import Mathlib.Algebra.Order.Field.Rat
import Mathlib.Algebra.Order.Floor.Ring
import Mathlib.Data.Rat.Floor
import Mathlib.Tactic.FieldSimp
import Mathlib.Tactic.Linarith
import Mathlib.Tactic.NormNum
import Mathlib.Tactic.Positivity
import Mathlib.Tactic.Ring

namespace Flowplan.Number

theorem ratAbs_eq (q : Rat) : q.abs = |q| := by
  unfold Rat.abs
  split
  · rw [abs_of_nonneg ‹_›]
  · rw [abs_of_neg (not_le.mp ‹_›)]

theorem two_zpow_pos (k : Int) : (0 : Rat) < 2 ^ k :=
  zpow_pos (by norm_num) k

theorem two_zpow_natCast_sub (m n : Nat) : (2 : Rat) ^ ((m : Int) - n) = 2 ^ m / 2 ^ n := by
  rw [zpow_sub₀ (by norm_num), zpow_natCast, zpow_natCast]

/-- The floor of the binary logarithm lies between those of the numerator and the denominator. -/
theorem two_zpow_floorLog2_bounds {q : Rat} (hq : q ≠ 0) :
    (2 : Rat) ^ floorLog2 q ≤ |q| ∧ |q| < 2 ^ (floorLog2 q + 1) := by
  have hnum : q.num.natAbs ≠ 0 := by simpa using hq
  have hden : q.den ≠ 0 := q.den_nz
  have hvalue : |q| * q.den = q.num.natAbs := by
    have h := congrArg abs (Rat.mul_den_eq_num q)
    rw [abs_mul, Nat.abs_cast] at h
    rw [h, ← Int.cast_abs, Int.abs_eq_natAbs]
    simp
  have hn1 : (2 : Rat) ^ q.num.natAbs.log2 ≤ q.num.natAbs := by
    exact_mod_cast Nat.log2_self_le hnum
  have hn2 : (q.num.natAbs : Rat) < 2 ^ (q.num.natAbs.log2 + 1) := by
    exact_mod_cast Nat.lt_log2_self
  have hd1 : (2 : Rat) ^ q.den.log2 ≤ q.den := by
    exact_mod_cast Nat.log2_self_le hden
  have hd2 : (q.den : Rat) < 2 ^ (q.den.log2 + 1) := by
    exact_mod_cast Nat.lt_log2_self
  have hpos : (0 : Rat) < q.den := by
    exact_mod_cast Nat.pos_of_ne_zero hden
  have hupper : |q| < 2 ^ ((q.num.natAbs.log2 : Int) - q.den.log2 + 1) := by
    rw [zpow_add₀ (by norm_num), two_zpow_natCast_sub, zpow_one, div_mul_eq_mul_div,
      lt_div_iff₀ (by positivity), ← pow_succ]
    calc |q| * 2 ^ q.den.log2 ≤ |q| * q.den := by gcongr
      _ = q.num.natAbs := hvalue
      _ < 2 ^ (q.num.natAbs.log2 + 1) := hn2
  have hlower : (2 : Rat) ^ ((q.num.natAbs.log2 : Int) - q.den.log2 - 1) ≤ |q| := by
    rw [zpow_sub₀ (by norm_num), two_zpow_natCast_sub, zpow_one, div_div, ← pow_succ,
      div_le_iff₀ (by positivity)]
    calc (2 : Rat) ^ q.num.natAbs.log2 ≤ q.num.natAbs := hn1
      _ = |q| * q.den := hvalue.symm
      _ ≤ |q| * 2 ^ (q.den.log2 + 1) := by gcongr
  unfold floorLog2
  rw [ratAbs_eq]
  dsimp only
  split
  next h => exact ⟨h, hupper⟩
  next h =>
    rw [sub_add_cancel]
    exact ⟨hlower, not_le.mp h⟩

theorem floorLog2_lt {q : Rat} (hq : q ≠ 0) {k : Int} (h : |q| < 2 ^ k) : floorLog2 q < k :=
  (zpow_lt_zpow_iff_right₀ (by norm_num : (1 : Rat) < 2)).mp
    ((two_zpow_floorLog2_bounds hq).1.trans_lt h)

theorem le_floorLog2 {q : Rat} (hq : q ≠ 0) {k : Int} (h : 2 ^ k ≤ |q|) : k ≤ floorLog2 q := by
  have := (zpow_lt_zpow_iff_right₀ (by norm_num : (1 : Rat) < 2)).mp
    (h.trans_lt (two_zpow_floorLog2_bounds hq).2)
  omega

theorem roundEven_bounds (x : Rat) : x.floor ≤ roundEven x ∧ roundEven x ≤ x.floor + 1 := by
  unfold roundEven
  dsimp only
  split
  · omega
  split
  · omega
  split <;> omega

theorem roundEven_intCast (n : Int) : roundEven n = n := by
  simp [roundEven]

theorem le_roundEven {x : Rat} {n : Int} (h : (n : Rat) ≤ x) : n ≤ roundEven x :=
  (Rat.le_floor_iff.mpr h).trans (roundEven_bounds x).1

theorem roundEven_le {x : Rat} {n : Int} (h : x ≤ n) : roundEven x ≤ n := by
  rcases h.eq_or_lt with rfl | hlt
  · rw [roundEven_intCast]
  · have hfloor : x.floor < n := Int.floor_lt.mpr hlt
    have := (roundEven_bounds x).2
    omega

theorem abs_roundEven_le {x : Rat} {n : Int} (h : |x| ≤ n) : |roundEven x| ≤ n := by
  obtain ⟨hl, hu⟩ := abs_le.mp h
  refine abs_le.mpr ⟨le_roundEven ?_, roundEven_le hu⟩
  exact_mod_cast hl

theorem le_abs_roundEven {x : Rat} {n : Int} (h : (n : Rat) ≤ |x|) : n ≤ |roundEven x| := by
  rcases le_abs.mp h with hp | hn
  · exact (le_roundEven hp).trans (le_abs_self _)
  · have hx : x ≤ ((-n : Int) : Rat) := by
      push_cast
      linarith
    have := roundEven_le hx
    exact le_abs.mpr (.inr (by omega))

theorem roundEven_eq_zero {x : Rat} (h : |x| < 1 / 2) : roundEven x = 0 := by
  obtain ⟨hl, hu⟩ := abs_lt.mp h
  rcases le_or_gt 0 x with hx | hx
  · have hfloor : x.floor = 0 := Int.floor_eq_zero_iff.mpr ⟨hx, by linarith⟩
    have hrest : x - ((0 : Int) : Rat) < 1 / 2 := by simpa using hu
    simp only [roundEven, hfloor, if_pos hrest]
  · have hfloor : x.floor = -1 := by
      refine (Int.floor_eq_iff (a := x)).mpr ⟨?_, ?_⟩ <;> push_cast <;> linarith
    have hrest : ¬x - ((-1 : Int) : Rat) < 1 / 2 := by
      push_cast
      linarith
    have hmore : 1 / 2 < x - ((-1 : Int) : Rat) := by
      push_cast
      linarith
    simp only [roundEven, hfloor, if_neg hrest, if_pos hmore]
    rfl

/-- The exponent of the spacing around a number. -/
def gridExponent (q : Rat) : Int :=
  max (floorLog2 q - 52) (-1074)

theorem spacing_eq (q : Rat) : spacing q = 2 ^ gridExponent q := rfl

@[simp]
theorem nearest_zero : nearest 0 = 0 :=
  if_pos rfl

theorem nearest_eq {q : Rat} (hq : q ≠ 0) :
    nearest q = roundEven (q / 2 ^ gridExponent q) * 2 ^ gridExponent q := by
  rw [nearest, if_neg hq, spacing_eq]

/-- The numbers that doubles stand for, if their size had no bound. -/
def OnGrid (q : Rat) : Prop :=
  ∃ m k : Int, |m| ≤ 2 ^ 53 ∧ -1074 ≤ k ∧ q = m * 2 ^ k

theorem OnGrid.neg {q : Rat} (grid : OnGrid q) : OnGrid (-q) := by
  obtain ⟨m, k, hm, hk, rfl⟩ := grid
  exact ⟨-m, k, by rwa [abs_neg], hk, by push_cast; ring⟩

theorem onGrid_nearest (q : Rat) : OnGrid (nearest q) := by
  by_cases hq : q = 0
  · exact ⟨0, 0, by norm_num, by norm_num, by simp [hq]⟩
  refine ⟨_, gridExponent q, abs_roundEven_le ?_, le_max_right _ _, nearest_eq hq⟩
  have hpos := two_zpow_pos (gridExponent q)
  rw [abs_div, abs_of_pos hpos, div_le_iff₀ hpos]
  have hle : floorLog2 q + 1 ≤ 53 + gridExponent q := by
    unfold gridExponent
    omega
  calc |q| ≤ 2 ^ (floorLog2 q + 1) := (two_zpow_floorLog2_bounds hq).2.le
    _ ≤ 2 ^ (53 + gridExponent q) := zpow_le_zpow_right₀ (by norm_num) hle
    _ = ((2 ^ 53 : Int) : Rat) * 2 ^ gridExponent q := by
      rw [zpow_add₀ (by norm_num)]
      norm_num

theorem exists_multiple_of_le (m : Int) {j k : Int} (h : j ≤ k) :
    ∃ n : Int, (m : Rat) * 2 ^ k = n * 2 ^ j := by
  refine ⟨m * 2 ^ (k - j).toNat, ?_⟩
  have hsplit : (2 : Rat) ^ k = 2 ^ (k - j).toNat * 2 ^ j := by
    rw [← zpow_natCast, ← zpow_add₀ (by norm_num)]
    congr 1
    omega
  push_cast
  rw [mul_assoc, ← hsplit]

/-- A number on the grid is a multiple of the spacing around it. -/
theorem OnGrid.exists_multiple {q : Rat} (grid : OnGrid q) (hq : q ≠ 0) :
    ∃ n : Int, q = n * 2 ^ gridExponent q := by
  obtain ⟨m, k, hm, hk, he⟩ := grid
  by_cases hle : gridExponent q ≤ k
  · obtain ⟨n, hn⟩ := exists_multiple_of_le m hle
    exact ⟨n, he.trans hn⟩
  -- The spacing is wider than the last place of `m` only if `m` is a power of two.
  · have hexp : gridExponent q = floorLog2 q - 52 := by
      unfold gridExponent at hle ⊢
      omega
    have hpos := two_zpow_pos k
    have habs : |q| = |(m : Rat)| * 2 ^ k := by
      rw [he, abs_mul, abs_of_pos hpos]
    have hlow : (2 : Rat) ^ (k + 53) ≤ |q| :=
      (zpow_le_zpow_right₀ (by norm_num) (by omega)).trans (two_zpow_floorLog2_bounds hq).1
    have hfull : |m| = 2 ^ 53 := by
      refine le_antisymm hm ?_
      rw [habs, zpow_add₀ (by norm_num), mul_comm] at hlow
      have := le_of_mul_le_mul_right hlow hpos
      exact_mod_cast this
    have hlog : floorLog2 q < k + 54 := by
      refine floorLog2_lt hq ?_
      rw [habs, ← Int.cast_abs, hfull, zpow_add₀ (by norm_num), mul_comm]
      refine mul_lt_mul_of_pos_left ?_ hpos
      norm_num
    have hnext : gridExponent q = k + 1 := by omega
    rw [hnext, zpow_add₀ (by norm_num)]
    rcases abs_eq (by norm_num : (0 : Int) ≤ 2 ^ 53) |>.mp hfull with hm | hm
    · refine ⟨2 ^ 52, ?_⟩
      rw [he, hm]
      push_cast
      ring
    · refine ⟨-2 ^ 52, ?_⟩
      rw [he, hm]
      push_cast
      ring

theorem OnGrid.nearest_eq_self {q : Rat} (grid : OnGrid q) : nearest q = q := by
  by_cases hq : q = 0
  · simp [hq]
  obtain ⟨n, hn⟩ := grid.exists_multiple hq
  have hpos := two_zpow_pos (gridExponent q)
  have hdiv : q / 2 ^ gridExponent q = n := by
    rw [div_eq_iff hpos.ne']
    exact hn
  rw [nearest_eq hq, hdiv, roundEven_intCast]
  exact hn.symm

/-- Rounding leads no number below a power of two that it has reached. -/
theorem two_pow_le_abs_nearest {q : Rat} {k : Nat} (h : (2 : Rat) ^ k ≤ |q|) :
    (2 : Rat) ^ k ≤ |nearest q| := by
  have hq : q ≠ 0 := by
    rintro rfl
    have : (0 : Rat) < 2 ^ k := by positivity
    rw [abs_zero] at h
    linarith
  have hk : (k : Int) ≤ floorLog2 q := le_floorLog2 hq (by rwa [zpow_natCast])
  have hexp : gridExponent q = floorLog2 q - 52 := by
    unfold gridExponent
    omega
  have hpos := two_zpow_pos (gridExponent q)
  have hquot : ((2 ^ 52 : Int) : Rat) ≤ |q / 2 ^ gridExponent q| := by
    rw [abs_div, abs_of_pos hpos, le_div_iff₀ hpos]
    refine le_trans (le_of_eq ?_) (two_zpow_floorLog2_bounds hq).1
    rw [hexp, zpow_sub₀ (by norm_num)]
    push_cast
    field_simp
  have hround : ((2 ^ 52 : Int) : Rat) ≤ |((roundEven (q / 2 ^ gridExponent q) : Int) : Rat)| := by
    rw [← Int.cast_abs]
    exact_mod_cast le_abs_roundEven hquot
  calc (2 : Rat) ^ k = 2 ^ (k : Int) := (zpow_natCast _ _).symm
    _ ≤ 2 ^ floorLog2 q := zpow_le_zpow_right₀ (by norm_num) hk
    _ = ((2 ^ 52 : Int) : Rat) * 2 ^ gridExponent q := by
      rw [hexp, zpow_sub₀ (by norm_num)]
      push_cast
      field_simp
    _ ≤ |((roundEven (q / 2 ^ gridExponent q) : Int) : Rat)| * 2 ^ gridExponent q := by gcongr
    _ = |nearest q| := by rw [nearest_eq hq, abs_mul, abs_of_pos hpos]

theorem nearest_nonneg {q : Rat} (h : 0 ≤ q) : 0 ≤ nearest q := by
  by_cases hq : q = 0
  · simp [hq]
  have hpos := two_zpow_pos (gridExponent q)
  have hround : 0 ≤ roundEven (q / 2 ^ gridExponent q) :=
    le_roundEven (by exact_mod_cast div_nonneg h hpos.le)
  rw [nearest_eq hq]
  exact mul_nonneg (by exact_mod_cast hround) hpos.le

theorem nearest_eq_zero {q : Rat} (h : |q| < 2 ^ (-1075 : Int)) : nearest q = 0 := by
  by_cases hq : q = 0
  · simp [hq]
  have hlog := floorLog2_lt hq h
  have hexp : gridExponent q = -1074 := by
    unfold gridExponent
    omega
  rw [nearest_eq hq, roundEven_eq_zero, Int.cast_zero, zero_mul]
  have hpos := two_zpow_pos (-1074)
  rw [hexp, abs_div, abs_of_pos hpos, div_lt_iff₀ hpos]
  refine h.trans_le (le_of_eq ?_)
  rw [show (-1075 : Int) = -1 + -1074 by norm_num, zpow_add₀ (by norm_num)]
  norm_num

end Flowplan.Number
