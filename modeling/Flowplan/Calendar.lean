import Flowplan.Text.Digit

namespace Flowplan.Calendar

/-- The number of days in a month; there is no month beyond the twelfth. -/
def daysIn (year month : Nat) : Nat :=
  if month ∈ [1, 3, 5, 7, 8, 10, 12] then 31
  else if month ∈ [4, 6, 9, 11] then 30
  else if month = 2 then
    if (year % 4 = 0 ∧ year % 100 ≠ 0) ∨ year % 400 = 0 then 29 else 28
  else 0

def isDate (year month day : Nat) : Bool :=
  1 ≤ year && 1 ≤ day && day ≤ daysIn year month

/-- A number of exactly that many digits, and what follows it. -/
def readDigits (count : Nat) (chars : List Char) : Option (Nat × List Char) := do
  let digits ← (chars.take count).mapM Text.asciiDigit?
  if digits.length = count then some (Text.ofDigits digits, chars.drop count) else none

def readMark (mark : Char) : List Char → Option (List Char)
  | [] => none
  | c :: rest => if c = mark then some rest else none

/-- Two digits below a bound, and what follows them. -/
def readPair (bound : Nat) (chars : List Char) : Option (List Char) :=
  (readDigits 2 chars).bind fun (n, rest) => if n < bound then some rest else none

/-- What follows a date: a year of four digits, a month and a day. -/
def readDate (chars : List Char) : Option (List Char) := do
  let (year, rest) ← readDigits 4 chars
  let (month, rest) ← readDigits 2 (← readMark '-' rest)
  let (day, rest) ← readDigits 2 (← readMark '-' rest)
  if isDate year month day then some rest else none

/-- What follows the fraction of a second, if there is one: a mark and at least one digit. -/
def readFraction : List Char → Option (List Char)
  | [] => some []
  | c :: rest =>
    if c = '.' ∨ c = ',' then
      if (rest.takeWhile Char.isDigit).isEmpty then none else some (rest.dropWhile Char.isDigit)
    else some (c :: rest)

/-- What follows the seconds of a time of day, which may be left out. -/
def readSeconds : List Char → Option (List Char)
  | ':' :: rest => (readPair 60 rest).bind readFraction
  | rest => some rest

/-- What follows a time of day. -/
def readClock (chars : List Char) : Option (List Char) := do
  readSeconds (← readPair 60 (← readMark ':' (← readPair 24 chars)))

/-- What follows the distance from universal time, which may be left out. The sign is a plus, a
hyphen or a minus sign. -/
def readZone : List Char → Option (List Char)
  | [] => some []
  | c :: rest =>
    if c = 'Z' ∨ c = 'z' then some rest
    else if c = '+' ∨ c = '-' ∨ c = '−' then
      (readPair 24 rest).bind fun minutes => readPair 60 ((readMark ':' minutes).getD minutes)
    else none

/-- A text names a moment by a date alone, or by a date and a time of day with a mark between. -/
def isMoment (text : String) : Bool :=
  match readDate text.toList with
  | some [] => true
  | some (c :: rest) =>
    ['T', 't', ' ', '_'].contains c && ((readClock rest).bind readZone).any List.isEmpty
  | none => false

end Flowplan.Calendar
