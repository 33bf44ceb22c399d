import Flowplan.Number.Binary64

namespace Flowplan.Number

/-- The number `digits * 10 ^ exponent`. -/
structure Decimal where
  digits : Nat
  exponent : Int

def Decimal.toBinary64 (d : Decimal) : Binary64 :=
  Binary64.ofDecimal false d.digits d.exponent

/-- The exponent `p` with `10 ^ p ≤ q < 10 ^ (p + 1)`, for a positive `q`. -/
def floorLog10 (q : Rat) : Int :=
  let guess := floorLog2 q * 30103 / 100000
  if (10 : Rat) ^ (guess + 1) ≤ q then guess + 1
  else if (10 : Rat) ^ guess ≤ q then guess
  else guess - 1

/-- The neighbours of `q` among the numbers of `count` significant digits, the nearer one first and,
at equal distance, the even one. -/
def neighbours (q : Rat) (count : Nat) : List Decimal :=
  let exponent := floorLog10 q - count + 1
  let scaled := q / (10 : Rat) ^ exponent
  let below := scaled.floor.toNat
  let rest := scaled - below
  if rest < 1 / 2 ∨ (rest = 1 / 2 ∧ below % 2 = 0) then
    [⟨below, exponent⟩, ⟨below + 1, exponent⟩]
  else [⟨below + 1, exponent⟩, ⟨below, exponent⟩]

/-- The decimal expansion of a fraction whose denominator is a power of two. -/
def expansion (q : Rat) : Decimal :=
  ⟨q.num.natAbs * Nat.pow 5 q.den.log2, -(q.den.log2 : Int)⟩

/-- The decimal with the fewest digits that reads back as the double `q`, the nearest of those. -/
def shortest (q : Rat) : Decimal :=
  let candidates := (List.range 17).flatMap fun count => neighbours q (count + 1)
  (candidates.find? fun d => d.toBinary64 = .finite q).getD (expansion q)

/-- Drops trailing zeros; `fuel` bounds their number. -/
def dropZeros : Nat → Decimal → Decimal
  | 0, d => d
  | fuel + 1, d =>
    if d.digits ≠ 0 ∧ d.digits % 10 = 0 then dropZeros fuel ⟨d.digits / 10, d.exponent + 1⟩ else d

def zeros (count : Nat) : String :=
  String.ofList (List.replicate count '0')

/-- Positional from `10 ^ -4` up to `10 ^ 16`, else with an exponent of two digits or more. -/
def Decimal.text (d : Decimal) : String :=
  let d := dropZeros d.digits.log2 d
  let digits := toString d.digits
  let point := d.exponent + digits.length
  if -4 < point ∧ point ≤ 16 then
    if point ≤ 0 then "0." ++ zeros (-point).toNat ++ digits
    else if digits.length ≤ point.toNat then digits ++ zeros (point.toNat - digits.length) ++ ".0"
    else (digits.take point.toNat).toString ++ "." ++ (digits.drop point.toNat).toString
  else
    let fraction := (digits.drop 1).toString
    let mantissa := (digits.take 1).toString ++ (if fraction.isEmpty then "" else "." ++ fraction)
    let power := (point - 1).natAbs
    mantissa ++ (if point < 1 then "e-" else "e+") ++ (if power < 10 then "0" else "")
      ++ toString power

theorem Decimal.text_ne_empty (d : Decimal) : d.text ≠ "" := by
  unfold text
  dsimp only
  -- Whichever form is chosen, it holds a zero, a point or an exponent.
  split
  · split
    · simp
    · split <;> simp
  · split <;> simp

end Flowplan.Number

namespace Flowplan.Binary64

def text : Binary64 → String
  | nan => "nan"
  | infinity negative => if negative then "-inf" else "inf"
  | negativeZero => "-0.0"
  | finite q =>
    if q = 0 then "0.0"
    else (if q < 0 then "-" else "") ++ (Number.shortest q.abs).text

theorem text_ne_empty (x : Binary64) : x.text ≠ "" := by
  cases x with
  | nan | negativeZero => decide
  | infinity negative => cases negative <;> decide
  | finite q =>
    rw [text]
    split
    · decide
    · simp [Number.Decimal.text_ne_empty]

end Flowplan.Binary64
