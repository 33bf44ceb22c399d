import Flowplan.Number.Total
import Mathlib.Algebra.Ring.Nat

namespace Flowplan.Number

theorem total_eq_sum (numbers : List Nat) : total numbers = numbers.sum := by
  induction numbers with
  | nil => rfl
  | cons n rest ih => rw [total, ih, List.sum_cons]

end Flowplan.Number
