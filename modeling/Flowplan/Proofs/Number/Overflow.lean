import Flowplan.Proofs.Number.Bounds
import Flowplan.Proofs.Record.Reading

namespace Flowplan

open Number

namespace Binary64

/-- A double is the nearest one to a number, or infinite where none is near. -/
inductive Rounds (x : Binary64) (q : Rat) : Prop
  | within (small : |nearest q| < infinite) (value : x.value? = some (nearest q))
  | beyond (large : infinite ≤ |nearest q|) (negative : Bool) (he : x = infinity negative)

variable {x y : Binary64} {a b q v : Rat}

theorem Rounds.abs_lt (rounds : x.Rounds q) (h : x.value? = some v) : |v| < infinite := by
  cases rounds with
  | within small value =>
    obtain rfl := Option.some.inj (value.symm.trans h)
    exact small
  | beyond large negative he =>
    rw [he] at h
    contradiction

theorem rounds_ofRat (q : Rat) : (ofRat q).Rounds q := by
  by_cases h : infinite ≤ |nearest q|
  · refine .beyond h (nearest q < 0) ?_
    rw [ofRat]
    simp only [ratAbs_eq]
    rw [if_pos h]
  · refine .within (not_le.mp h) ?_
    rw [ofRat]
    simp only [ratAbs_eq]
    rw [if_neg h]
    split
    next hzero => exact congrArg some hzero.1.symm
    next => rfl

theorem rounds_zero (h : x.value? = some 0) : x.Rounds 0 :=
  .within (by simp [infinite_pos]) (by rw [h, nearest_zero])

theorem value?_signed_zero (negative : Bool) : (signed negative (finite 0)).value? = some 0 := by
  cases negative <;> rfl

theorem rounds_add (hx : x.value? = some a) (hy : y.value? = some b) :
    (x.add y).Rounds (a + b) := by
  simp only [add, hx, hy]
  split
  next hzero =>
    obtain ⟨rfl, rfl⟩ := hzero
    cases hx
    cases hy
    rw [add_zero]
    exact rounds_zero rfl
  next => exact rounds_ofRat _

theorem abs_lt_of_value?_add (h : (x.add y).value? = some v) : |v| < infinite := by
  cases hx : x.value? with
  | some a =>
    cases hy : y.value? with
    | some b => exact (rounds_add hx hy).abs_lt h
    | none => simp [add, hx, hy] at h
  | none =>
    cases hy : y.value? with
    | some b => simp [add, hx, hy] at h
    | none =>
      simp only [add, hx, hy] at h
      split at h
      · simp [hx] at h
      · cases h

theorem abs_lt_of_value?_div (h : (x.div y).value? = some v) : |v| < infinite := by
  have hzero : ∀ negative, (signed negative (finite 0)).value? = some v → |v| < infinite := by
    intro negative hv
    obtain rfl := Option.some.inj ((value?_signed_zero negative).symm.trans hv)
    simpa using infinite_pos
  unfold div at h
  split at h
  · split at h
    · exact hzero _ h
    · exact (rounds_ofRat _).abs_lt h
  · split at h
    · cases h
    · exact hzero _ h
  · split at h <;> cases h
  · cases h

end Binary64

namespace Figure

/-- A quotient that no double can hold is refused. -/
theorem quotient_cases (a b : Int) :
    (quotient a b = .ok (.ofRat (a / b)) ∧
      (Binary64.ofRat (a / b)).value? = some (nearest (a / b)) ∧
      |nearest ((a : Rat) / b)| < Binary64.infinite) ∨
    (quotient a b = .error (.figure .quotientTooLarge) ∧
      Binary64.infinite ≤ |nearest ((a : Rat) / b)|) := by
  cases Binary64.rounds_ofRat ((a : Rat) / b) with
  | within small value =>
    refine .inl ⟨?_, value, small⟩
    unfold quotient
    split
    next he =>
      rw [he] at value
      contradiction
    next => rfl
  | beyond large negative he =>
    refine .inr ⟨?_, large⟩
    unfold quotient
    split
    next => rfl
    next hfinite => exact absurd he (hfinite negative)

theorem abs_lt_of_quotient {a b : Int} {x : Binary64} {v : Rat} (h : quotient a b = .ok x)
    (hv : x.value? = some v) : |v| < Binary64.infinite := by
  rcases quotient_cases a b with ⟨hok, -, -⟩ | ⟨herror, -⟩
  · obtain rfl := Except.ok.inj (hok.symm.trans h)
    exact (Binary64.rounds_ofRat _).abs_lt hv
  · rw [herror] at h
    contradiction

theorem isPrintable_of_abs_le {n : Int} (h : |n| ≤ 2 ^ 1024) : isPrintable n.natAbs := by
  refine isPrintable_of_le (k := 1024) (by decide) ?_
  zify
  exact h

theorem abs_floor_le {v : Rat} (h : |v| < Binary64.infinite) : |v.floor| ≤ 2 ^ 1024 := by
  obtain ⟨hl, hu⟩ := abs_lt.mp h
  refine abs_le.mpr ⟨Rat.le_floor_iff.mpr ?_, ?_⟩
  · rw [Int.cast_neg, Int.cast_pow, Int.cast_ofNat]
    exact hl.le
  · refine (Int.floor_lt (a := v).mpr ?_).le
    rw [Int.cast_pow, Int.cast_ofNat]
    exact hu

theorem abs_ceil_le {v : Rat} (h : |v| < Binary64.infinite) : |v.ceil| ≤ 2 ^ 1024 := by
  rw [Rat.ceil_eq_neg_floor_neg, abs_neg]
  exact abs_floor_le (by rwa [abs_neg])

theorem isPrintable_of_roundHalfUp {x : Binary64} {n : Int} (h : roundHalfUp x = .ok n) :
    isPrintable n.natAbs := by
  obtain ⟨v, hv, rfl⟩ := map_eq_ok_iff.mp h
  exact isPrintable_of_abs_le
    (abs_floor_le (Binary64.abs_lt_of_value?_add (exact_eq_ok_iff.mp hv)))

end Figure

end Flowplan
