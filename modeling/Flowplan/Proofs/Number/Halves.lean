import Flowplan.Proofs.Number.Nearest

namespace Flowplan.Number

/-- A number is rounded below a bound if it is on the near side of the middle between that bound and
a double below. -/
theorem OnGrid.nearest_lt {below bound q : Rat} (grid : OnGrid below) (hlt : below < bound)
    (h : 2 * q < below + bound) : nearest q < bound := by
  by_contra hge
  have hle := not_lt.mp hge
  have hmiddle := add_le_two_mul_of_closer (hlt.trans_le hle) (abs_sub_nearest_le (q := q) grid)
  linarith

theorem onGrid_add_half {n : Int} (h : |n| ≤ 2 ^ 51) : OnGrid (n + 1 / 2) := by
  obtain ⟨hl, hu⟩ := abs_le.mp h
  refine ⟨2 * n + 1, -1, abs_le.mpr ⟨by omega, by omega⟩, by norm_num, ?_⟩
  push_cast
  ring

/-- Where the sum of a double and a half is no double, a power of two lies between the two. -/
theorem OnGrid.add_half_cases {z : Rat} (grid : OnGrid z) (hz : |z| ≤ 2 ^ 51) :
    OnGrid (z + 1 / 2) ∨ ∃ k : Int, z ≤ 2 ^ k ∧ 2 ^ k < z + 1 / 2 := by
  obtain ⟨m, k, hm, hk, rfl⟩ := grid
  rcases le_or_gt 0 k with hwhole | hpart
  · obtain ⟨n, hn⟩ := exists_multiple_of_le m hwhole
    rw [zpow_zero, mul_one] at hn
    rw [hn] at hz ⊢
    exact .inl (onGrid_add_half (by exact_mod_cast hz))
  obtain ⟨half, hhalf⟩ := exists_multiple_of_le 1 (by omega : k ≤ -1)
  have hpos := two_zpow_pos k
  have hhalf' : (1 : Rat) / 2 = half * 2 ^ k := by
    rw [← hhalf]
    norm_num
  have hsum : (m : Rat) * 2 ^ k + 1 / 2 = ((m + half : Int) : Rat) * 2 ^ k := by
    rw [hhalf', Int.cast_add, add_mul]
  have hpower : (2 : Rat) ^ (53 + k) = ((2 ^ 53 : Int) : Rat) * 2 ^ k := by
    rw [zpow_add₀ (by norm_num)]
    norm_num
  by_cases hfits : |m + half| ≤ 2 ^ 53
  · exact .inl ⟨m + half, k, hfits, hk, hsum⟩
  · have hmore : 0 < half := by
      have : (0 : Rat) < half * 2 ^ k := by rw [← hhalf']; norm_num
      exact_mod_cast pos_of_mul_pos_left this hpos.le
    obtain ⟨hl, hu⟩ := abs_le.mp hm
    have hbeyond : 2 ^ 53 < m + half := by
      rcases lt_abs.mp (not_le.mp hfits) with h | h
      · exact h
      · omega
    refine .inr ⟨53 + k, ?_, ?_⟩
    · rw [hpower]
      exact mul_le_mul_of_nonneg_right (by exact_mod_cast hu) hpos.le
    · rw [hpower, hsum]
      exact mul_lt_mul_of_pos_right (by exact_mod_cast hbeyond) hpos

theorem floor_nearest_add_half {z : Rat} (grid : OnGrid z) (hz : |z| ≤ 2 ^ 51)
    (apart : z < 1 / 2 → z < 1 / 2 - 2 ^ (-54 : Int)) :
    (nearest (z + 1 / 2)).floor = (z + 1 / 2).floor := by
  rcases grid.add_half_cases hz with exact | ⟨k, hle, hlt⟩
  · rw [exact.nearest_eq_self]
  rcases le_or_gt 0 k with hwhole | hpart
  -- The sum lies between an integer and the half after it.
  · obtain ⟨n, hn⟩ := exists_multiple_of_le 1 hwhole
    rw [Int.cast_one, one_mul, zpow_zero, mul_one] at hn
    have hpos := two_zpow_pos k
    rw [hn] at hle hlt hpos
    have hsmall : |n| ≤ 2 ^ 51 := by
      have hmost : (n : Rat) < (2 ^ 51 + 1 : Int) := by
        push_cast
        linarith [le_abs_self z]
      rw [abs_of_pos (by exact_mod_cast hpos)]
      have : n < 2 ^ 51 + 1 := by exact_mod_cast hmost
      omega
    have hleast := (onGrid_intCast (hsmall.trans (by norm_num))).le_nearest hlt.le
    have hmost := (onGrid_add_half hsmall).nearest_le (q := z + 1 / 2) (by linarith)
    have hexact : (z + 1 / 2).floor = n := Int.floor_eq_iff.mpr ⟨hlt.le, by linarith⟩
    exact (Int.floor_eq_iff.mpr ⟨hleast, by linarith⟩).trans hexact.symm
  · have hhalf : (2 : Rat) ^ k ≤ 1 / 2 := by
      refine (zpow_le_zpow_right₀ (by norm_num) (by omega : k ≤ -1)).trans ?_
      norm_num
    have hpos : 0 < z + 1 / 2 := (two_zpow_pos k).trans hlt
    rcases (hle.trans hhalf).lt_or_eq with hless | heq
    · have hfar := apart hless
      have hlast : OnGrid (1 - 2 ^ (-53 : Int)) :=
        ⟨2 ^ 53 - 1, -53, by norm_num, by norm_num, by norm_num⟩
      have hbelow : nearest (z + 1 / 2) < 1 := by
        refine hlast.nearest_lt (by norm_num) ?_
        norm_num at hfar ⊢
        linarith
      have hexact : (z + 1 / 2).floor = 0 := Int.floor_eq_zero_iff.mpr ⟨hpos.le, by linarith⟩
      exact (Int.floor_eq_zero_iff.mpr ⟨nearest_nonneg hpos.le, hbelow⟩).trans hexact.symm
    · have hone : z + 1 / 2 = (1 : Int) := by
        rw [heq]
        norm_num
      rw [hone, (onGrid_intCast (by norm_num)).nearest_eq_self]

end Flowplan.Number
