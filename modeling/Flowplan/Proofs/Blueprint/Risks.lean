import Flowplan.Blueprint.Risk
import Flowplan.Proofs.Number.Bounds
import Flowplan.Proofs.Number.Nearest
import Flowplan.Proofs.Number.Sums
import Mathlib.Algebra.Order.BigOperators.Group.List

namespace Flowplan

theorem Binary64.atLeast_iff {x : Binary64} {q : Rat} (h : x.value? = some q) (bound : Rat) :
    x.atLeast bound ↔ bound ≤ q := by
  cases x with
  | nan => cases h
  | infinity negative => cases h
  | negativeZero => cases h; simp [atLeast]
  | finite value => cases h; simp [atLeast]

/-- The level whose bounds a score lies within. -/
def RiskLevel.ofScore (score : Rat) : RiskLevel :=
  if 9 ≤ score then .critical
  else if 6 ≤ score then .high
  else if 3 ≤ score then .medium
  else .low

theorem RiskLevel.ofScore_mono : Monotone fun score => (ofScore score).score := by
  intro p q hpq
  dsimp only [ofScore]
  split_ifs <;> first | decide | linarith

theorem RiskLevel.score_le (level : RiskLevel) : level.score ≤ 4 := by
  cases level <;> decide

namespace Risk

open Number

def scoreSum (risks : List Risk) : Nat :=
  (risks.map score).sum

/-- The mean score, which is zero if there are no risks. -/
def meanScore (risks : List Risk) : Rat :=
  scoreSum risks / risks.length

/-- The level of the exact mean score, without a division. -/
def exactLevel (risks : List Risk) : RiskLevel :=
  if 9 * risks.length ≤ scoreSum risks then .critical
  else if 6 * risks.length ≤ scoreSum risks then .high
  else if 3 * risks.length ≤ scoreSum risks then .medium
  else .low

theorem score_le (risk : Risk) : risk.score ≤ 16 :=
  Nat.mul_le_mul risk.impact.score_le risk.probability.score_le

theorem scoreSum_cons (risk : Risk) (risks : List Risk) :
    scoreSum (risk :: risks) = risk.score + scoreSum risks :=
  List.sum_cons

theorem scoreSum_append (risks others : List Risk) :
    scoreSum (risks ++ others) = scoreSum risks + scoreSum others := by
  rw [scoreSum, List.map_append, List.sum_append]
  rfl

theorem scoreSum_le {risks : List Risk} {most : Nat} (h : ∀ risk ∈ risks, risk.score ≤ most) :
    scoreSum risks ≤ risks.length * most := by
  have hsum := List.sum_le_card_nsmul (risks.map score) most (by simpa using h)
  simpa [scoreSum] using hsum

theorem le_scoreSum {risks : List Risk} {least : Nat} (h : ∀ risk ∈ risks, least ≤ risk.score) :
    risks.length * least ≤ scoreSum risks := by
  have hsum := List.card_nsmul_le_sum (risks.map score) least (by simpa using h)
  simpa [scoreSum] using hsum

theorem length_pos_cast {risks : List Risk} (h : risks ≠ []) : (0 : Rat) < risks.length := by
  exact_mod_cast List.length_pos_iff.mpr h

theorem meanScore_nil : meanScore [] = 0 := by
  simp [meanScore]

theorem meanScore_singleton (risk : Risk) : meanScore [risk] = risk.score := by
  simp [meanScore, scoreSum]

theorem meanScore_nonneg (risks : List Risk) : 0 ≤ meanScore risks :=
  div_nonneg (Nat.cast_nonneg _) (Nat.cast_nonneg _)

theorem meanScore_mul_length (risks : List Risk) :
    meanScore risks * risks.length = scoreSum risks := by
  by_cases h : risks = []
  · simp [h, scoreSum]
  · exact div_mul_cancel₀ _ (length_pos_cast h).ne'

theorem meanScore_le {risks : List Risk} (h : risks ≠ []) {most : Nat}
    (hm : ∀ risk ∈ risks, risk.score ≤ most) : meanScore risks ≤ most := by
  rw [meanScore, div_le_iff₀ (length_pos_cast h), mul_comm]
  exact_mod_cast scoreSum_le hm

theorem le_meanScore {risks : List Risk} (h : risks ≠ []) {least : Nat}
    (hm : ∀ risk ∈ risks, least ≤ risk.score) : least ≤ meanScore risks := by
  rw [meanScore, le_div_iff₀ (length_pos_cast h), mul_comm]
  exact_mod_cast le_scoreSum hm

theorem abs_meanScore_le (risks : List Risk) : |meanScore risks| ≤ 2 ^ 4 := by
  rw [abs_of_nonneg (meanScore_nonneg risks)]
  by_cases h : risks = []
  · rw [h, meanScore_nil]
    norm_num
  · exact_mod_cast meanScore_le h fun risk _ => score_le risk

theorem overallLevel_eq (risks : List Risk) :
    overallLevel risks = .ofScore (nearest (meanScore risks)) := by
  by_cases h : risks = []
  · rw [h, meanScore_nil, nearest_zero]
    rfl
  · have hvalue := Binary64.value?_ofRat (by norm_num) (abs_meanScore_le risks)
    have hmean : (total (risks.map score) : Rat) / risks.length = meanScore risks := by
      rw [meanScore, scoreSum, total_eq_sum]
    rw [overallLevel, if_neg (by simpa using h), hmean]
    simp only [RiskLevel.ofMean, RiskLevel.ofScore, Binary64.atLeast_iff hvalue]

theorem overallLevel_le_of_meanScore_le {risks others : List Risk}
    (h : meanScore risks ≤ meanScore others) :
    (overallLevel risks).score ≤ (overallLevel others).score := by
  rw [overallLevel_eq, overallLevel_eq]
  exact RiskLevel.ofScore_mono (nearest_mono h)

/-- Below the highest bound, doubles are finer than the means of so few risks. -/
theorem close_meanScore {risks : List Risk} (h : risks ≠ []) (few : risks.length < 2 ^ 50)
    (hlow : meanScore risks < 9) :
    |meanScore risks - nearest (meanScore risks)| * risks.length < 1 := by
  have hpos := length_pos_cast h
  have few' : (risks.length : Rat) < 2 ^ 50 := by exact_mod_cast few
  have hbelow : |meanScore risks| < 2 ^ (4 : Int) := by
    rw [abs_of_nonneg (meanScore_nonneg risks)]
    norm_num
    linarith
  have herror := abs_sub_nearest_le_of_lt (by norm_num) hbelow
  calc |meanScore risks - nearest (meanScore risks)| * risks.length
      ≤ 2 ^ ((4 : Int) - 54) * risks.length := mul_le_mul_of_nonneg_right herror hpos.le
    _ < 2 ^ ((4 : Int) - 54) * 2 ^ 50 := mul_lt_mul_of_pos_left few' (two_zpow_pos _)
    _ = 1 := by norm_num

theorem le_nearest_meanScore_iff {risks : List Risk} (h : risks ≠ [])
    (few : risks.length < 2 ^ 50) {bound : Nat} (hbound : bound ≤ 9) :
    (bound : Rat) ≤ nearest (meanScore risks) ↔ bound * risks.length ≤ scoreSum risks := by
  have hpos := List.length_pos_iff.mpr h
  constructor
  · intro hreached
    by_contra hlow
    have hlt : meanScore risks < bound := by
      rw [meanScore, div_lt_iff₀ (length_pos_cast h)]
      exact_mod_cast not_le.mp hlow
    have hnine : (bound : Rat) ≤ 9 := by exact_mod_cast hbound
    have hstays := (nearest_div_lt_iff hpos (by omega)
      (close_meanScore h few (hlt.trans_le hnine))).mpr (not_le.mp hlow)
    exact absurd hreached (not_le.mpr hstays)
  · intro hle
    refine (onGrid_natCast (by omega)).le_nearest ?_
    rw [meanScore, le_div_iff₀ (length_pos_cast h)]
    exact_mod_cast hle

theorem overallLevel_eq_exactLevel {risks : List Risk} (h : risks ≠ [])
    (few : risks.length < 2 ^ 50) : overallLevel risks = exactLevel risks := by
  have hbound : ∀ bound : Nat, bound ≤ 9 → ((bound : Rat) ≤ nearest (meanScore risks) ↔
      bound * risks.length ≤ scoreSum risks) := fun _ => le_nearest_meanScore_iff h few
  have hnine := hbound 9 (by norm_num)
  have hsix := hbound 6 (by norm_num)
  have hthree := hbound 3 (by norm_num)
  push_cast at hnine hsix hthree
  rw [overallLevel_eq]
  simp only [RiskLevel.ofScore, exactLevel, hnine, hsix, hthree]

theorem meanScore_perm {risks others : List Risk} (perm : others.Perm risks) :
    meanScore others = meanScore risks := by
  rw [meanScore, meanScore, scoreSum, scoreSum, (perm.map score).sum_eq, perm.length_eq]

theorem meanScore_replicate (risks : List Risk) {count : Nat} (hcount : 0 < count) :
    meanScore (List.replicate count risks).flatten = meanScore risks := by
  have hsum : scoreSum (List.replicate count risks).flatten = count * scoreSum risks := by
    simp [scoreSum, List.map_flatten, List.sum_flatten]
  have hlength : (List.replicate count risks).flatten.length = count * risks.length := by
    simp [List.length_flatten]
  have hpos : (count : Rat) ≠ 0 := by exact_mod_cast hcount.ne'
  rw [meanScore, hsum, hlength]
  push_cast
  exact mul_div_mul_left _ _ hpos

/-- A risk that is at least as grave in its impact and as likely. -/
def RaisedTo (risk raised : Risk) : Prop :=
  risk.impact.score ≤ raised.impact.score ∧ risk.probability.score ≤ raised.probability.score

theorem meanScore_le_of_raised {risks raised : List Risk}
    (h : List.Forall₂ RaisedTo risks raised) : meanScore risks ≤ meanScore raised := by
  have hsum : scoreSum risks ≤ scoreSum raised := by
    induction h with
    | nil => exact le_rfl
    | cons hrisk _ ih =>
      rw [scoreSum_cons, scoreSum_cons]
      exact Nat.add_le_add (Nat.mul_le_mul hrisk.1 hrisk.2) ih
  have hsum' : (scoreSum risks : Rat) ≤ scoreSum raised := by exact_mod_cast hsum
  rw [meanScore, meanScore, h.length_eq]
  exact div_le_div_of_nonneg_right hsum' (Nat.cast_nonneg _)

/-- The mean of two lists together is a weighted mean of their means. -/
theorem meanScore_append_mul (risks others : List Risk) :
    meanScore (risks ++ others) * (risks.length + others.length)
      = meanScore risks * risks.length + meanScore others * others.length := by
  have h := meanScore_mul_length (risks ++ others)
  rw [scoreSum_append, List.length_append] at h
  push_cast at h
  rw [h, meanScore_mul_length, meanScore_mul_length]

theorem meanScore_append_bounds {risks others : List Risk}
    (h : meanScore risks ≤ meanScore others) :
    meanScore risks ≤ meanScore (risks ++ others) ∧
      meanScore (risks ++ others) ≤ meanScore others := by
  by_cases hnil : risks ++ others = []
  · obtain ⟨rfl, rfl⟩ := List.append_eq_nil_iff.mp hnil
    exact ⟨le_rfl, le_rfl⟩
  · have hpos : (0 : Rat) < risks.length + others.length := by
      exact_mod_cast List.length_append ▸ List.length_pos_iff.mpr hnil
    have hweighted := meanScore_append_mul risks others
    have hrisks := mul_le_mul_of_nonneg_right h (Nat.cast_nonneg (α := Rat) risks.length)
    have hothers := mul_le_mul_of_nonneg_right h (Nat.cast_nonneg (α := Rat) others.length)
    constructor
    · refine le_of_mul_le_mul_right ?_ hpos
      linarith
    · refine le_of_mul_le_mul_right ?_ hpos
      linarith

theorem overallLevel_append_between (risks others : List Risk) :
    min (overallLevel risks).score (overallLevel others).score
        ≤ (overallLevel (risks ++ others)).score ∧
      (overallLevel (risks ++ others)).score
        ≤ max (overallLevel risks).score (overallLevel others).score := by
  rcases le_total (meanScore risks) (meanScore others) with h | h
  · obtain ⟨hl, hu⟩ := meanScore_append_bounds h
    exact ⟨(min_le_left _ _).trans (overallLevel_le_of_meanScore_le hl),
      (overallLevel_le_of_meanScore_le hu).trans (le_max_right _ _)⟩
  · obtain ⟨hl, hu⟩ := meanScore_append_bounds h
    rw [meanScore_perm List.perm_append_comm] at hl hu
    exact ⟨(min_le_right _ _).trans (overallLevel_le_of_meanScore_le hl),
      (overallLevel_le_of_meanScore_le hu).trans (le_max_left _ _)⟩

/-- The level of fewer than 2 ^ 50 risks is that of their exact mean score. However many there are,
the level depends neither on their order nor on how often the list of them is repeated; it does not
drop when risks become graver or more likely; it lies between the levels of a risk of the lowest and
one of the highest score alone, and that of two lists together between the levels of the two. -/
theorem overallLevel_of_mean :
    (∀ risks : List Risk, risks ≠ [] → risks.length < 2 ^ 50 →
      overallLevel risks = exactLevel risks) ∧
    (∀ risks others : List Risk, others.Perm risks → overallLevel others = overallLevel risks) ∧
    (∀ (risks : List Risk) (count : Nat), 0 < count →
      overallLevel (List.replicate count risks).flatten = overallLevel risks) ∧
    (∀ risks raised : List Risk, List.Forall₂ RaisedTo risks raised →
      (overallLevel risks).score ≤ (overallLevel raised).score) ∧
    (∀ risks : List Risk, ∀ lowest ∈ risks, ∀ highest ∈ risks,
      (∀ risk ∈ risks, lowest.score ≤ risk.score ∧ risk.score ≤ highest.score) →
      (overallLevel [lowest]).score ≤ (overallLevel risks).score ∧
        (overallLevel risks).score ≤ (overallLevel [highest]).score) ∧
    (∀ risks others : List Risk,
      min (overallLevel risks).score (overallLevel others).score
          ≤ (overallLevel (risks ++ others)).score ∧
        (overallLevel (risks ++ others)).score
          ≤ max (overallLevel risks).score (overallLevel others).score) := by
  refine ⟨fun risks => overallLevel_eq_exactLevel, ?_, ?_, ?_, ?_, overallLevel_append_between⟩
  · intro risks others perm
    rw [overallLevel_eq, overallLevel_eq, meanScore_perm perm]
  · intro risks count hcount
    rw [overallLevel_eq, overallLevel_eq, meanScore_replicate risks hcount]
  · intro risks raised h
    exact overallLevel_le_of_meanScore_le (meanScore_le_of_raised h)
  · intro risks lowest hl highest _ hbetween
    have hne := List.ne_nil_of_mem hl
    constructor
    · refine overallLevel_le_of_meanScore_le ?_
      rw [meanScore_singleton]
      exact le_meanScore hne fun risk hm => (hbetween risk hm).1
    · refine overallLevel_le_of_meanScore_le ?_
      rw [meanScore_singleton]
      exact meanScore_le hne fun risk hm => (hbetween risk hm).2

theorem overallLevel_of_mean_project :
    let risks := [integrationDelay, slowAdoption, externalFailure]
    let reordered := [externalFailure, integrationDelay, slowAdoption]
    let graver := { externalFailure with impact := .critical, probability := .high }
    (risks ≠ [] ∧ risks.length < 2 ^ 50 ∧ exactLevel risks = .medium ∧
      overallLevel risks = exactLevel risks) ∧
    (reordered.Perm risks ∧ overallLevel reordered = overallLevel risks) ∧
    (0 < 1000 ∧ overallLevel (List.replicate 1000 risks).flatten = overallLevel risks) ∧
    (List.Forall₂ RaisedTo risks [integrationDelay, slowAdoption, graver] ∧
      (overallLevel risks).score
        ≤ (overallLevel [integrationDelay, slowAdoption, graver]).score) ∧
    (externalFailure ∈ risks ∧ integrationDelay ∈ risks ∧
      (∀ risk ∈ risks,
        externalFailure.score ≤ risk.score ∧ risk.score ≤ integrationDelay.score) ∧
      (overallLevel [externalFailure]).score ≤ (overallLevel risks).score ∧
        (overallLevel risks).score ≤ (overallLevel [integrationDelay]).score) := by
  intro risks reordered graver
  obtain ⟨exact, order, repeated, raised, between, -⟩ := overallLevel_of_mean
  have hne : risks ≠ [] := by decide
  have few : risks.length < 2 ^ 50 := by decide
  have perm : reordered.Perm risks := by decide
  have hraised : List.Forall₂ RaisedTo risks [integrationDelay, slowAdoption, graver] :=
    .cons ⟨le_rfl, le_rfl⟩ (.cons ⟨le_rfl, le_rfl⟩ (.cons ⟨by decide, by decide⟩ .nil))
  have hbetween : ∀ risk ∈ risks,
      externalFailure.score ≤ risk.score ∧ risk.score ≤ integrationDelay.score := by decide
  have hleast : externalFailure ∈ risks := by decide
  have hmost : integrationDelay ∈ risks := by decide
  exact ⟨⟨hne, few, by decide, exact risks hne few⟩, ⟨perm, order risks reordered perm⟩,
    ⟨by decide, repeated risks 1000 (by decide)⟩, ⟨hraised, raised risks _ hraised⟩,
    hleast, hmost, hbetween, between risks _ hleast _ hmost hbetween⟩

end Risk

end Flowplan
