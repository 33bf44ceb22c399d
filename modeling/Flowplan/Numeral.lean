import Flowplan.Json.Reader
import Flowplan.Text.Blank

namespace Flowplan.Numeral

def splitSign : List Char → Bool × List Char
  | '-' :: rest => (true, rest)
  | '+' :: rest => (false, rest)
  | chars => (false, chars)

/-- The number behind zeros and underscores, which may have a minus of its own. If none comes before
the point or the end, the last of the zeros and underscores stays. -/
def behindZeros (last : Char) : List Char → Option (List Char)
  | [] => some [last]
  | c :: rest =>
    if c = '0' ∨ c = '_' then behindZeros c rest
    else if c = '.' then some (last :: c :: rest)
    else if c.isDigit ∨ c = '-' then some (c :: rest)
    else none

/-- A number without the zeros in front of it; it begins with a digit. -/
def withoutZeros : List Char → Option (List Char)
  | [] => none
  | c :: rest =>
    if c = '0' then behindZeros c rest
    else if c.isDigit then some (c :: rest)
    else none

/-- A number without a plus and without the zeros behind its sign. -/
def withoutPlus : List Char → Option (List Char)
  | '-' :: rest => (withoutZeros rest).map ('-' :: ·)
  | '+' :: rest => withoutZeros rest
  | chars => withoutZeros chars

/-- A number without its fraction, which is a point and at least one zero if there is any. -/
def withoutFraction (chars : List Char) : Option (List Char) :=
  match chars.dropWhile (· ≠ '.') with
  | [] => some chars
  | _ :: zeros =>
    if zeros.isEmpty ∨ ¬zeros.all (· = '0') then none else some (chars.takeWhile (· ≠ '.'))

/-- The characters without the underscores, none of which may follow an underscore or, as `barred`
tells for the first one, stand where no underscore may stand. -/
def joinedFrom (barred : Bool) : List Char → Option (List Char)
  | [] => if barred then none else some []
  | c :: rest =>
    if c = '_' then if barred then none else joinedFrom true rest
    else (joinedFrom false rest).map (c :: ·)

/-- The characters without the underscores, each of which stands alone between two others. -/
def joined (chars : List Char) : Option (List Char) :=
  joinedFrom true chars

/-- An integer in its only form: no plus, no zero in front of another digit. -/
def plainWhole? (chars : List Char) : Option Int :=
  let (negative, body) := match chars with
    | '-' :: rest => (true, rest)
    | _ => (false, chars)
  let (digits, rest) := Json.spanDigits body
  if digits.isEmpty ∨ ¬rest.isEmpty ∨ (digits.head? = some 0 ∧ 1 < digits.length) then none
  else
    let n : Int := Text.ofDigits digits
    some (if negative then -n else n)

/-- The integer a text spells. Blanks around it, a sign, zeros in front, underscores between the
digits and an empty fraction are allowed; what they leave may not be too long. -/
def whole? (text : String) : Option Int := do
  let chars ← withoutPlus (Text.trimmed Text.isWhiteSpace text.toList)
  let chars ← joined (← withoutFraction chars)
  if Text.mostDigits < chars.length then none else plainWhole? chars

/-- The double that characters spell: a sign and a bare point are allowed. -/
def plainReal? (chars : List Char) : Option Binary64 :=
  let (negative, body) := splitSign chars
  let word := String.ofList (body.map Char.toLower)
  if word = "nan" then some .nan
  else if word = "inf" ∨ word = "infinity" then some (.infinity negative)
  else
    let (digits, rest) := Json.spanDigits body
    let (fraction, rest) := match rest with
      | '.' :: rest => Json.spanDigits rest
      | rest => ([], rest)
    let (power, rest) := Json.readExponent rest
    if rest.isEmpty ∧ ¬(digits ++ fraction).isEmpty then
      some (.ofDecimal negative (Text.ofDigits (digits ++ fraction))
        (power.getD 0 - fraction.length))
    else none

/-- The double a text spells. Either blanks may stand around it or underscores within it. -/
def real? (text : String) : Option Binary64 :=
  match plainReal? (Text.trimmed Text.isWhiteSpace text.toList) with
  | some x => some x
  | none => (joined text.toList).bind plainReal?

end Flowplan.Numeral
