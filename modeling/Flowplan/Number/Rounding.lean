namespace Flowplan.Number

/-- The exponent `k` with `2 ^ k ≤ |q| < 2 ^ (k + 1)`, for a `q` other than zero. -/
def floorLog2 (q : Rat) : Int :=
  let guess := (q.num.natAbs.log2 : Int) - q.den.log2
  if (2 : Rat) ^ guess ≤ q.abs then guess else guess - 1

/-- The nearest integer; of two equally near ones, the even one. -/
def roundEven (q : Rat) : Int :=
  let below := q.floor
  let rest := q - below
  if rest < 1 / 2 then below
  else if 1 / 2 < rest then below + 1
  else if below % 2 = 0 then below else below + 1

/-- The distance of neighbouring doubles around `q`: 53 significant bits, but never less than the
least double. -/
def spacing (q : Rat) : Rat :=
  (2 : Rat) ^ max (floorLog2 q - 52) (-1074)

/-- The nearest multiple of the spacing, with no bound on its size. -/
def nearest (q : Rat) : Rat :=
  if q = 0 then 0 else roundEven (q / spacing q) * spacing q

end Flowplan.Number
