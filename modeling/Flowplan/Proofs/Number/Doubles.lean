import Flowplan.Number.Shortest
import Flowplan.Proofs.Number.Rounding
import Mathlib.Data.Nat.Prime.Basic

namespace Flowplan

namespace Binary64

open Number

/-- The finite values are multiples of the spacing of doubles and below their bound. -/
def IsDouble : Binary64 → Prop
  | finite q => OnGrid q ∧ |q| < infinite
  | _ => True

theorem infinite_pos : 0 < infinite :=
  pow_pos (by norm_num) _

theorem ofRat_of_isDouble {q : Rat} (double : (finite q).IsDouble) : ofRat q = finite q := by
  obtain ⟨grid, bound⟩ := double
  have hzero : ¬(q = 0 ∧ q < 0) := by
    rintro ⟨rfl, hq⟩
    exact lt_irrefl _ hq
  rw [ofRat]
  simp only [grid.nearest_eq_self, ratAbs_eq]
  rw [if_neg (not_le.mpr bound), if_neg hzero]

theorem isDouble_ofRat (q : Rat) : (ofRat q).IsDouble := by
  unfold ofRat
  dsimp only
  split
  · trivial
  next h =>
    split
    · trivial
    · rw [ratAbs_eq] at h
      exact ⟨onGrid_nearest q, not_le.mp h⟩

theorem IsDouble.signed {x : Binary64} (double : x.IsDouble) (negative : Bool) :
    (x.signed negative).IsDouble := by
  cases negative with
  | false => exact double
  | true =>
    cases x with
    | nan => trivial
    | infinity negative => trivial
    | negativeZero =>
      exact ⟨⟨0, 0, by norm_num, by norm_num, by simp⟩, abs_zero.trans_lt infinite_pos⟩
    | finite q =>
      by_cases hq : q = 0
      · simp [Binary64.signed, hq, IsDouble]
      · simp only [Binary64.signed, if_neg hq]
        exact ⟨double.1.neg, by rw [abs_neg]; exact double.2⟩

theorem ten_zpow_pos (k : Int) : (0 : Rat) < 10 ^ k :=
  zpow_pos (by norm_num) k

theorem two_pow_lt_ten_pow : (2 : Rat) ^ 1075 < 10 ^ 401 := by
  calc (2 : Rat) ^ 1075 < 2 ^ (3 * 401) := pow_lt_pow_right₀ (by norm_num) (by norm_num)
    _ = 8 ^ 401 := by
      rw [pow_mul]
      norm_num only
    _ ≤ 10 ^ 401 := pow_le_pow_left₀ (by norm_num) (by norm_num) _

theorem ofRat_of_infinite_le {q : Rat} (h : infinite ≤ q) : ofRat q = infinity false := by
  have hpos := infinite_pos.trans_le h
  have habs : infinite ≤ |nearest q| := two_pow_le_abs_nearest (by rwa [abs_of_pos hpos])
  have hsign : ¬nearest q < 0 := not_lt.mpr (nearest_nonneg hpos.le)
  rw [ofRat]
  simp only [ratAbs_eq]
  rw [if_pos habs, decide_eq_false hsign]

theorem ofRat_of_tiny {q : Rat} (hq : 0 ≤ q) (h : q < 2 ^ (-1075 : Int)) :
    ofRat q = finite 0 := by
  have hzero : nearest q = 0 := nearest_eq_zero (by rwa [abs_of_nonneg hq])
  rw [ofRat]
  simp only [hzero, ratAbs_eq, abs_zero, true_and]
  rw [if_neg (not_le.mpr infinite_pos), if_neg (not_lt.mpr hq)]

/-- The exponents that are settled at once lie beyond the doubles. -/
theorem ofDecimal_eq (negative : Bool) (digits : Nat) (exponent : Int) :
    ofDecimal negative digits exponent = signed negative (ofRat (digits * 10 ^ exponent)) := by
  rw [ofDecimal]
  congr 1
  split
  next h =>
    rw [h, Nat.cast_zero, zero_mul, ofRat_of_tiny le_rfl (two_zpow_pos _)]
  next hdigits =>
    have hone : (1 : Rat) ≤ digits := by exact_mod_cast Nat.pos_of_ne_zero hdigits
    split
    next h =>
      symm
      refine ofRat_of_infinite_le ?_
      calc infinite ≤ 2 ^ 1075 := pow_le_pow_right₀ (by norm_num) (by norm_num)
        _ ≤ 10 ^ 401 := two_pow_lt_ten_pow.le
        _ = 10 ^ (401 : Int) := (zpow_natCast _ 401).symm
        _ ≤ 10 ^ exponent := zpow_le_zpow_right₀ (by norm_num) (by omega)
        _ ≤ digits * 10 ^ exponent := le_mul_of_one_le_left (ten_zpow_pos _).le hone
    split
    next h =>
      symm
      have hpos := ten_zpow_pos exponent
      refine ofRat_of_tiny (by positivity) ?_
      have hlog : (digits : Rat) < 10 ^ (digits.log2 + 1) := by
        have : digits < 10 ^ (digits.log2 + 1) :=
          Nat.lt_log2_self.trans_le (Nat.pow_le_pow_left (by norm_num) _)
        exact_mod_cast this
      calc (digits : Rat) * 10 ^ exponent < 10 ^ (digits.log2 + 1) * 10 ^ exponent :=
            mul_lt_mul_of_pos_right hlog hpos
        _ = 10 ^ (exponent + (digits.log2 + 1)) := by
          rw [add_comm exponent, zpow_add₀ (by norm_num)]
          norm_cast
        _ ≤ 10 ^ (-401 : Int) := zpow_le_zpow_right₀ (by norm_num) (by omega)
        _ ≤ 2 ^ (-1075 : Int) := by
          rw [zpow_neg, zpow_neg]
          refine inv_anti₀ (two_zpow_pos _) ?_
          exact (zpow_natCast 2 1075).trans_le
            (two_pow_lt_ten_pow.le.trans_eq (zpow_natCast 10 401).symm)
    · rfl

theorem isDouble_ofDecimal (negative : Bool) (digits : Nat) (exponent : Int) :
    (ofDecimal negative digits exponent).IsDouble := by
  rw [ofDecimal_eq]
  exact (isDouble_ofRat _).signed negative

end Binary64

namespace Number

open Binary64

def Decimal.value (d : Decimal) : Rat :=
  d.digits * 10 ^ d.exponent

theorem Decimal.toBinary64_eq (d : Decimal) : d.toBinary64 = ofRat d.value :=
  ofDecimal_eq false d.digits d.exponent

theorem OnGrid.exists_den {q : Rat} (grid : OnGrid q) : ∃ j, q.den = 2 ^ j := by
  obtain ⟨m, k, -, -, rfl⟩ := grid
  obtain ⟨n, rfl | rfl⟩ := k.eq_nat_or_neg
  · exact ⟨0, by exact_mod_cast Rat.den_intCast (m * 2 ^ n)⟩
  · have hdvd : ((m : Rat) * 2 ^ (-n : Int)).den ∣ 2 ^ n := by
      have h := Rat.den_dvd m (2 ^ n)
      rw [Rat.divInt_eq_div] at h
      push_cast at h
      rw [zpow_neg, zpow_natCast, ← div_eq_mul_inv]
      exact_mod_cast h
    obtain ⟨j, -, hj⟩ := (Nat.dvd_prime_pow Nat.prime_two).mp hdvd
    exact ⟨j, hj⟩

theorem expansion_value {q : Rat} (grid : OnGrid q) (hq : 0 < q) : (expansion q).value = q := by
  obtain ⟨j, hj⟩ := grid.exists_den
  have hnum : (q.num.natAbs : Rat) = q * 2 ^ j := by
    have h := Rat.mul_den_eq_num q
    rw [hj] at h
    push_cast at h
    rw [h, ← Int.cast_natCast, Int.natAbs_of_nonneg (Rat.num_pos.mpr hq).le]
  have hten : (10 : Rat) ^ j = 5 ^ j * 2 ^ j := by
    rw [← mul_pow]
    norm_num
  simp only [Decimal.value, expansion, hj, Nat.log2_two_pow, Nat.pow_eq]
  push_cast
  rw [hnum, zpow_neg, zpow_natCast, hten]
  field_simp

theorem shortest_toBinary64 {q : Rat} (double : (finite q).IsDouble) (hq : 0 < q) :
    (shortest q).toBinary64 = finite q := by
  unfold shortest
  dsimp only
  cases hfind : ((List.range 17).flatMap fun count => neighbours q (count + 1)).find?
      fun d => d.toBinary64 = finite q with
  | some d => simpa using List.find?_some hfind
  | none =>
    rw [Option.getD_none, Decimal.toBinary64_eq, expansion_value double.1 hq]
    exact ofRat_of_isDouble double

theorem dropZeros_value (fuel : Nat) (d : Decimal) : (dropZeros fuel d).value = d.value := by
  induction fuel generalizing d with
  | zero => rfl
  | succ fuel ih =>
    unfold dropZeros
    split
    next h =>
      have hten : (d.digits : Rat) = (d.digits / 10 : Nat) * 10 := by
        exact_mod_cast (Nat.div_mul_cancel (Nat.dvd_of_mod_eq_zero h.2)).symm
      rw [ih]
      simp only [Decimal.value]
      rw [hten, zpow_add₀ (by norm_num), zpow_one]
      ring
    · rfl

theorem dropZeros_digits_ne_zero (fuel : Nat) {d : Decimal} (hd : d.digits ≠ 0) :
    (dropZeros fuel d).digits ≠ 0 := by
  induction fuel generalizing d with
  | zero => exact hd
  | succ fuel ih =>
    unfold dropZeros
    split
    · refine ih ?_
      dsimp only
      omega
    · exact hd

end Number

end Flowplan
