import Flowplan.Proofs.Number.Rounding

namespace Flowplan.Number

theorem roundEven_cases (x : Rat) :
    roundEven x = x.floor ∧ x - x.floor ≤ 1 / 2 ∨
      roundEven x = x.floor + 1 ∧ 1 / 2 ≤ x - x.floor := by
  unfold roundEven
  dsimp only
  split
  next h => exact .inl ⟨rfl, h.le⟩
  next hmost =>
    split
    next h => exact .inr ⟨rfl, h.le⟩
    next hleast =>
      split
      · exact .inl ⟨rfl, not_lt.mp hleast⟩
      · exact .inr ⟨rfl, not_lt.mp hmost⟩

theorem abs_sub_roundEven_le_half (x : Rat) : |x - roundEven x| ≤ 1 / 2 := by
  have hfloor : (x.floor : Rat) ≤ x := Int.floor_le x
  have hnext : x < x.floor + 1 := Int.lt_floor_add_one x
  rcases roundEven_cases x with ⟨he, h⟩ | ⟨he, h⟩
  · rw [he, abs_of_nonneg (by linarith)]
    exact h
  · rw [he, abs_of_nonpos (by push_cast; linarith)]
    push_cast
    linarith

/-- No integer is closer than the one that is rounded to. -/
theorem abs_sub_roundEven_le (x : Rat) (n : Int) : |x - roundEven x| ≤ |x - n| := by
  by_cases hfar : 1 / 2 ≤ |x - n|
  · exact (abs_sub_roundEven_le_half x).trans hfar
  · -- Only one integer is closer than a half.
    have hnear := abs_sub_roundEven_le_half x
    obtain ⟨hl, hu⟩ := abs_lt.mp (not_le.mp hfar)
    obtain ⟨hl', hu'⟩ := abs_le.mp hnear
    have hlt : roundEven x < n + 1 := by
      have : (roundEven x : Rat) < (n + 1 : Int) := by push_cast; linarith
      exact_mod_cast this
    have hgt : n - 1 < roundEven x := by
      have : ((n - 1 : Int) : Rat) < roundEven x := by push_cast; linarith
      exact_mod_cast this
    have hsame : roundEven x = n := by omega
    rw [hsame]

theorem abs_sub_mul_two_zpow (q : Rat) (n k : Int) :
    |q - n * 2 ^ k| = |q / 2 ^ k - n| * 2 ^ k := by
  have hpos := two_zpow_pos k
  have hsplit : q - n * 2 ^ k = (q / 2 ^ k - n) * 2 ^ k := by
    rw [sub_mul, div_mul_cancel₀ q hpos.ne']
  rw [hsplit, abs_mul, abs_of_pos hpos]

theorem abs_sub_nearest_le_multiple {q : Rat} (hq : q ≠ 0) (n : Int) :
    |q - nearest q| ≤ |q - n * 2 ^ gridExponent q| := by
  have hpos := two_zpow_pos (gridExponent q)
  rw [nearest_eq hq, abs_sub_mul_two_zpow, abs_sub_mul_two_zpow]
  exact mul_le_mul_of_nonneg_right (abs_sub_roundEven_le _ n) hpos.le

/-- The power of two below a number is a multiple of the spacing around it, if numbers of a lesser
exponent are doubles at all. -/
theorem exists_multiple_floorLog2 {q : Rat} (hexp : gridExponent q = floorLog2 q - 52) :
    ∃ n : Int, |q - n * 2 ^ gridExponent q| = |(|q| - 2 ^ floorLog2 q)| := by
  have hpower : ((2 ^ 52 : Int) : Rat) * 2 ^ gridExponent q = 2 ^ floorLog2 q := by
    rw [hexp, zpow_sub₀ (by norm_num)]
    push_cast
    field_simp
  rcases le_total 0 q with hq | hq
  · exact ⟨2 ^ 52, by rw [hpower, abs_of_nonneg hq]⟩
  · refine ⟨-2 ^ 52, ?_⟩
    rw [Int.cast_neg, neg_mul, hpower, abs_of_nonpos hq, ← abs_neg]
    congr 1
    ring

/-- No double is closer than the one that is rounded to. -/
theorem abs_sub_nearest_le {q g : Rat} (grid : OnGrid g) : |q - nearest q| ≤ |q - g| := by
  by_cases hq : q = 0
  · simp [hq]
  obtain ⟨m, k, hm, hk, rfl⟩ := grid
  by_cases hle : gridExponent q ≤ k
  · obtain ⟨n, hn⟩ := exists_multiple_of_le m hle
    rw [hn]
    exact abs_sub_nearest_le_multiple hq n
  -- A double on a finer grid is no larger than the power of two below the number.
  · have hexp : gridExponent q = floorLog2 q - 52 := by
      unfold gridExponent at hle ⊢
      omega
    have hpos := two_zpow_pos k
    have hsmall : |(m : Rat) * 2 ^ k| ≤ 2 ^ floorLog2 q := by
      have hm' : |(m : Rat)| ≤ 2 ^ (53 : Int) := by
        rw [← Int.cast_abs]
        exact_mod_cast hm
      calc |(m : Rat) * 2 ^ k| = |(m : Rat)| * 2 ^ k := by rw [abs_mul, abs_of_pos hpos]
        _ ≤ 2 ^ (53 : Int) * 2 ^ k := mul_le_mul_of_nonneg_right hm' hpos.le
        _ = 2 ^ (53 + k) := (zpow_add₀ (by norm_num) _ _).symm
        _ ≤ 2 ^ floorLog2 q := zpow_le_zpow_right₀ (by norm_num) (by omega)
    obtain ⟨n, hn⟩ := exists_multiple_floorLog2 hexp
    have hbelow := (two_zpow_floorLog2_bounds hq).1
    calc |q - nearest q| ≤ |q - n * 2 ^ gridExponent q| := abs_sub_nearest_le_multiple hq n
      _ = |q| - 2 ^ floorLog2 q := by rw [hn, abs_of_nonneg (sub_nonneg.mpr hbelow)]
      _ ≤ |q| - |(m : Rat) * 2 ^ k| := by linarith
      _ ≤ |q - m * 2 ^ k| := abs_sub_abs_le_abs_sub _ _

theorem add_le_two_mul_of_closer {q a b : Rat} (hab : a < b) (closer : |q - b| ≤ |q - a|) :
    a + b ≤ 2 * q := by
  have hsq := sq_le_sq.mpr closer
  nlinarith

theorem two_mul_le_add_of_closer {q a b : Rat} (hab : a < b) (closer : |q - a| ≤ |q - b|) :
    2 * q ≤ a + b := by
  have hsq := sq_le_sq.mpr closer
  nlinarith

/-- Were the order reversed, the two numbers would lie on the wrong sides of the middle of what they
are rounded to. -/
theorem nearest_mono : Monotone nearest := by
  intro p q hpq
  by_contra hreversed
  have hlt := not_le.mp hreversed
  have hp := add_le_two_mul_of_closer hlt (abs_sub_nearest_le (q := p) (onGrid_nearest q))
  have hq := two_mul_le_add_of_closer hlt (abs_sub_nearest_le (q := q) (onGrid_nearest p))
  have hsame : p = q := by linarith
  rw [hsame] at hlt
  exact lt_irrefl _ hlt

theorem OnGrid.le_nearest {g q : Rat} (grid : OnGrid g) (h : g ≤ q) : g ≤ nearest q := by
  rw [← grid.nearest_eq_self]
  exact nearest_mono h

theorem OnGrid.nearest_le {g q : Rat} (grid : OnGrid g) (h : q ≤ g) : nearest q ≤ g := by
  rw [← grid.nearest_eq_self]
  exact nearest_mono h

theorem onGrid_intCast {n : Int} (h : |n| ≤ 2 ^ 53) : OnGrid n :=
  ⟨n, 0, h, by norm_num, by simp⟩

theorem abs_sub_nearest_le_spacing (q : Rat) : |q - nearest q| ≤ spacing q / 2 := by
  have hpos : 0 < spacing q := two_zpow_pos _
  by_cases hq : q = 0
  · rw [hq, nearest_zero, sub_self, abs_zero]
    exact (half_pos (hq ▸ hpos)).le
  · have hround := mul_le_mul_of_nonneg_right (abs_sub_roundEven_le_half (q / spacing q)) hpos.le
    rw [nearest_eq hq, abs_sub_mul_two_zpow, ← spacing_eq]
    linarith

/-- The error below a power of two that is no tiny one. -/
theorem abs_sub_nearest_le_of_lt {q : Rat} {k : Int} (hk : -1021 ≤ k) (h : |q| < 2 ^ k) :
    |q - nearest q| ≤ 2 ^ (k - 54) := by
  by_cases hq : q = 0
  · rw [hq, nearest_zero, sub_self, abs_zero]
    exact (two_zpow_pos _).le
  have hlog := floorLog2_lt hq h
  have hexp : gridExponent q ≤ k - 53 := by
    unfold gridExponent
    omega
  have hspacing : spacing q ≤ 2 ^ (k - 53) := zpow_le_zpow_right₀ (by norm_num) hexp
  have hdouble : (2 : Rat) ^ (k - 53) = 2 ^ (k - 54) * 2 := by
    rw [show k - 53 = k - 54 + 1 by ring, zpow_add₀ (by norm_num), zpow_one]
  have := abs_sub_nearest_le_spacing q
  linarith

/-- The error in proportion to the number, and what may be lost below the least double. -/
theorem abs_sub_nearest_le_add (q : Rat) : |q - nearest q| ≤ |q| / 2 ^ 53 + 2 ^ (-1075 : Int) := by
  have htiny : (2 : Rat) ^ (-1074 : Int) = 2 ^ (-1075 : Int) * 2 := by
    rw [show (-1074 : Int) = -1075 + 1 by norm_num, zpow_add₀ (by norm_num), zpow_one]
  have hpos := two_zpow_pos (-1075)
  by_cases hq : q = 0
  · rw [hq, nearest_zero, sub_self, abs_zero, zero_div, zero_add]
    exact hpos.le
  have hspacing : spacing q ≤ |q| / 2 ^ 52 + 2 ^ (-1074 : Int) := by
    have hlog := (two_zpow_floorLog2_bounds hq).1
    have hnormal : (2 : Rat) ^ (floorLog2 q - 52) ≤ |q| / 2 ^ 52 := by
      rw [zpow_sub₀ (by norm_num)]
      exact div_le_div_of_nonneg_right hlog (by norm_num)
    rw [spacing_eq, gridExponent]
    rcases max_cases (floorLog2 q - 52) (-1074) with ⟨hmax, _⟩ | ⟨hmax, _⟩
    · rw [hmax]
      linarith
    · rw [hmax]
      linarith [div_nonneg (abs_nonneg q) (by norm_num : (0 : Rat) ≤ 2 ^ 52)]
  have hhalf := abs_sub_nearest_le_spacing q
  have hpower : |q| / 2 ^ 52 = |q| / 2 ^ 53 * 2 := by ring
  linarith

theorem onGrid_natCast {n : Nat} (h : n ≤ 2 ^ 53) : OnGrid n := by
  have hn : |(n : Int)| ≤ 2 ^ 53 := by
    rw [abs_of_nonneg (Int.natCast_nonneg n)]
    exact_mod_cast h
  exact_mod_cast onGrid_intCast hn

section Quotients

variable {a b n : Nat}

/-- A quotient that is no integer lies off the next ones by at least the inverse of its divisor. -/
theorem nearest_div_lt_iff (hb : 0 < b) (hn : n ≤ 2 ^ 53)
    (close : |(a : Rat) / b - nearest (a / b)| * b < 1) :
    nearest ((a : Rat) / b) < n ↔ a < n * b := by
  have hb' : (0 : Rat) < b := by exact_mod_cast hb
  constructor
  · intro hlt
    by_contra hge
    have hle : (n : Rat) ≤ a / b := by
      rw [le_div_iff₀ hb']
      exact_mod_cast not_lt.mp hge
    exact absurd ((onGrid_natCast hn).le_nearest hle) (not_le.mpr hlt)
  · intro hlt
    have hgap : (a : Rat) + 1 ≤ n * b := by exact_mod_cast hlt
    have hrise := neg_abs_le ((a : Rat) / b - nearest (a / b))
    have hscaled : nearest ((a : Rat) / b) * b < n * b := by
      have hquot : (a : Rat) / b * b = a := div_mul_cancel₀ _ hb'.ne'
      nlinarith
    exact lt_of_mul_lt_mul_right hscaled hb'.le

theorem lt_nearest_div_iff (hb : 0 < b) (hn : n ≤ 2 ^ 53)
    (close : |(a : Rat) / b - nearest (a / b)| * b < 1) :
    (n : Rat) < nearest (a / b) ↔ n * b < a := by
  have hb' : (0 : Rat) < b := by exact_mod_cast hb
  constructor
  · intro hlt
    by_contra hge
    have hle : (a : Rat) / b ≤ n := by
      rw [div_le_iff₀ hb']
      exact_mod_cast not_lt.mp hge
    exact absurd ((onGrid_natCast hn).nearest_le hle) (not_le.mpr hlt)
  · intro hlt
    have hgap : (n : Rat) * b + 1 ≤ a := by exact_mod_cast hlt
    have hfall := le_abs_self ((a : Rat) / b - nearest (a / b))
    have hscaled : (n : Rat) * b < nearest (a / b) * b := by
      have hquot : (a : Rat) / b * b = a := div_mul_cancel₀ _ hb'.ne'
      nlinarith
    exact lt_of_mul_lt_mul_right hscaled hb'.le

/-- Numbers that are doubles have quotients that stay on their side of every integer. -/
theorem close_of_lt (hb : 0 < b) (hmost : b ≤ 2 ^ 53) (ha : a < 2 ^ 53) :
    |(a : Rat) / b - nearest (a / b)| * b < 1 := by
  have hb' : (0 : Rat) < b := by exact_mod_cast hb
  have hmost' : (b : Rat) ≤ 2 ^ (53 : Int) := by exact_mod_cast hmost
  have ha' : (a : Rat) ≤ 2 ^ 53 - 1 := by
    rw [le_sub_iff_add_le]
    exact_mod_cast ha
  have hlost : (2 : Rat) ^ (-1075 : Int) * b < 1 / 2 ^ 53 := by
    calc (2 : Rat) ^ (-1075 : Int) * b ≤ 2 ^ (-1075 : Int) * 2 ^ (53 : Int) :=
          mul_le_mul_of_nonneg_left hmost' (two_zpow_pos _).le
      _ = 2 ^ (-1022 : Int) := by rw [← zpow_add₀ (by norm_num)]; norm_num
      _ < 2 ^ (-53 : Int) := zpow_lt_zpow_right₀ (by norm_num) (by norm_num)
      _ = 1 / 2 ^ 53 := by norm_num
  have hkept : |(a : Rat) / b| / 2 ^ 53 * b ≤ (2 ^ 53 - 1) / 2 ^ 53 := by
    rw [abs_of_nonneg (by positivity), div_right_comm, div_mul_cancel₀ _ hb'.ne']
    exact div_le_div_of_nonneg_right ha' (by norm_num)
  calc |(a : Rat) / b - nearest (a / b)| * b
      ≤ (|(a : Rat) / b| / 2 ^ 53 + 2 ^ (-1075 : Int)) * b :=
        mul_le_mul_of_nonneg_right (abs_sub_nearest_le_add _) hb'.le
    _ = |(a : Rat) / b| / 2 ^ 53 * b + 2 ^ (-1075 : Int) * b := add_mul _ _ _
    _ < (2 ^ 53 - 1) / 2 ^ 53 + 1 / 2 ^ 53 := add_lt_add_of_le_of_lt hkept hlost
    _ = 1 := by norm_num

/-- What a quotient is rounded up to is not disturbed by rounding it to a double before. -/
theorem ceil_nearest_div_le_iff (hb : 0 < b) (hmost : b ≤ 2 ^ 53) (ha : a < 2 ^ 53) :
    (nearest ((a : Rat) / b)).ceil ≤ n ↔ a ≤ n * b := by
  rw [Rat.ceil_le_iff, Int.cast_natCast]
  by_cases hn : n ≤ 2 ^ 53
  · have hreached := lt_nearest_div_iff hb hn (close_of_lt hb hmost ha)
    rw [← not_lt, hreached, not_lt]
  · -- Beyond the doubles that stand for integers both sides hold.
    have hle : (a : Rat) / b ≤ ((2 ^ 53 : Nat) : Rat) :=
      (div_le_self (Nat.cast_nonneg a) (by exact_mod_cast hb)).trans (by exact_mod_cast ha.le)
    have hnear := (onGrid_natCast le_rfl).nearest_le hle
    have hfar : ((2 ^ 53 : Nat) : Rat) ≤ n := by exact_mod_cast (not_le.mp hn).le
    exact iff_of_true (hnear.trans hfar)
      (ha.le.trans ((not_le.mp hn).le.trans (Nat.le_mul_of_pos_right n hb)))

end Quotients

end Flowplan.Number
