namespace Flowplan.Number

/-- The sum of the numbers. -/
def total : List Nat → Nat
  | [] => 0
  | n :: rest => n + total rest

end Flowplan.Number
