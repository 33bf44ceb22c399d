import Flowplan.Calendar
import Flowplan.Record.Scalar

namespace Flowplan.Record

/-- Beyond this count, a timestamp counts milliseconds and not seconds. -/
def mostSeconds : Int := 20000000000

/-- The seconds from the beginning of 1970 to the beginning of the year 1. -/
def earliestSecond : Int := -62135596800

/-- The seconds from the beginning of 1970 to the last second of 9999. -/
def latestSecond : Int := 253402300799

def isSecond (second : Int) : Bool :=
  earliestSecond ≤ second && second ≤ latestSecond

/-- The second in which a timestamp falls. -/
def secondOf (count : Int) : Int :=
  if count.natAbs ≤ mostSeconds then count else count / 1000

/-- The second in which a timestamp that is a double falls; milliseconds are divided in doubles. -/
def secondOfReal (count : Binary64) : Option Int :=
  count.value?.bind fun q =>
    if q.abs ≤ mostSeconds then some q.floor
    else (count.div (.finite 1000)).value?.map Rat.floor

/-- The second of a timestamp that a text spells: an integer of 64 bits in digits, or a double with
digits of such an integer before its point. -/
def secondOfText? (text : String) : Option Int :=
  let (negative, body) := Numeral.splitSign text.toList
  let (digits, rest) := Json.spanDigits body
  let n : Int := Text.ofDigits digits
  if wordBound ≤ n then none
  else if rest.head? = some '.' then (Numeral.plainReal? text.toList).bind secondOfReal
  else if digits.isEmpty ∨ ¬rest.isEmpty then none
  else some (secondOf (if negative then -n else n))

/-- A moment: a date with or without a time of day, or a timestamp. -/
def isMoment : Json → Bool
  | .str text => Calendar.isMoment text || (secondOfText? text).any isSecond
  | .int count => isSecond (secondOf count)
  | .float count => (secondOfReal count).any isSecond
  | _ => false

/-- Moments are checked and not kept. -/
def moment (json : Json) : Checked Unit :=
  if isMoment json then .value () else .flaws 1

end Flowplan.Record
