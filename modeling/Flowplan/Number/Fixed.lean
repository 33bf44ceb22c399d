import Flowplan.Number.Rounding

namespace Flowplan.Number

/-- A number with a fixed count of places after the point; a tie goes to the even neighbour. -/
def fixedPlaces (places : Nat) (q : Rat) : String :=
  let scaled := (roundEven (q.abs * 10 ^ places)).toNat
  let digits := toString scaled
  let padded := String.ofList (List.replicate (places + 1 - digits.length) '0') ++ digits
  let whole := (padded.take (padded.length - places)).toString
  let fraction := (padded.drop (padded.length - places)).toString
  (if q < 0 then "-" else "") ++ whole ++ (if places = 0 then "" else "." ++ fraction)

/-- Puts a comma before every group of three digits; the digits come last first. -/
def groupedReverse : List Char → List Char
  | a :: b :: c :: d :: rest => a :: b :: c :: ',' :: groupedReverse (d :: rest)
  | digits => digits

/-- An integer with commas between the thousands. -/
def grouped (n : Int) : String :=
  (if n < 0 then "-" else "")
    ++ String.ofList (groupedReverse (toString n.natAbs).toList.reverse).reverse

end Flowplan.Number
