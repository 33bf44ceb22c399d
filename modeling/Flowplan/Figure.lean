import Flowplan.Fault
import Flowplan.Text.Digit

namespace Flowplan

/-- A number that is either exact or a double. -/
inductive Amount where
  | whole (value : Int)
  | real (value : Binary64)
  deriving DecidableEq

namespace Figure

def isPrintable (magnitude : Nat) : Bool :=
  magnitude < Nat.pow 10 Text.mostDigits

/-- What is written with integers of some magnitudes, if none of them has too many digits. -/
def written (magnitudes : List Nat) (result : α) : Outcome α :=
  if magnitudes.all isPrintable then .ok result else .error (.figure .tooManyDigits)

/-- The double nearest to a quotient of integers. -/
def quotient (a b : Int) : Outcome Binary64 :=
  match Binary64.ofRat ((a : Rat) / b) with
  | .infinity _ => .error (.figure .quotientTooLarge)
  | x => .ok x

/-- The double nearest to an integer. -/
def ofWhole (n : Int) : Outcome Binary64 :=
  match Binary64.ofInt n with
  | .infinity _ => .error (.figure .wholeTooLarge)
  | x => .ok x

/-- The number that a double stands for. -/
def exact : Binary64 → Outcome Rat
  | .nan => .error (.figure .undefinedWhole)
  | .infinity _ => .error (.figure .infiniteWhole)
  | .negativeZero => .ok 0
  | .finite q => .ok q

def ceiling (x : Binary64) : Outcome Int :=
  (exact x).map Rat.ceil

/-- The nearest integer, a half going up; the half is added in doubles. -/
def roundHalfUp (x : Binary64) : Outcome Int :=
  (exact (x.add (.finite (1 / 2)))).map Rat.floor

end Figure

namespace Amount

def toJson : Amount → Json
  | whole value => .int value
  | real value => .float value

def isZero : Amount → Bool
  | whole value => value = 0
  | real value => value.isZero

def times (amount : Amount) (factor : Int) : Amount :=
  match amount with
  | whole value => whole (value * factor)
  | real value => real (value.mul (.ofInt factor))

def minus (amount : Amount) (loss : Int) : Outcome Amount :=
  match amount with
  | whole value => .ok (whole (value - loss))
  | real value => (Figure.ofWhole loss).map fun y => real (value.sub y)

/-- The amount divided by an integer other than zero. -/
def dividedBy (amount : Amount) (divisor : Int) : Outcome Binary64 :=
  match amount with
  | whole value => Figure.quotient value divisor
  | real value => (Figure.ofWhole divisor).map value.div

/-- An integer divided by an amount other than zero. -/
def dividing (amount : Amount) (dividend : Int) : Outcome Binary64 :=
  match amount with
  | whole value => Figure.quotient dividend value
  | real value => (Figure.ofWhole dividend).map fun x => x.div value

def atLeast (amount : Amount) (bound : Int) : Bool :=
  match amount with
  | whole value => bound ≤ value
  | real value => value.atLeast bound

/-- The number that a value states; a truth value states one or zero. -/
def ofJson? : Json → Option Amount
  | .int value => some (whole value)
  | .bool value => some (whole (if value then 1 else 0))
  | .float value => some (real value)
  | _ => none

end Amount

end Flowplan
