import Flowplan.Number.Rounding

namespace Flowplan

/-- A double-precision number. The values of `finite` are rounded by `Number.nearest`. -/
inductive Binary64 where
  | nan
  | infinity (negative : Bool)
  | negativeZero
  | finite (value : Rat)
  deriving DecidableEq

namespace Binary64

instance : Inhabited Binary64 := ⟨finite 0⟩

def infinite : Rat :=
  (2 : Rat) ^ (1024 : Nat)

/-- The double nearest to a rational number; a value too large becomes infinite. -/
def ofRat (q : Rat) : Binary64 :=
  let r := Number.nearest q
  if infinite ≤ r.abs then infinity (r < 0)
  else if r = 0 ∧ q < 0 then negativeZero
  else finite r

def ofInt (n : Int) : Binary64 :=
  ofRat n

def value? : Binary64 → Option Rat
  | finite q => some q
  | negativeZero => some 0
  | _ => none

def isNegative : Binary64 → Bool
  | nan => false
  | infinity negative => negative
  | negativeZero => true
  | finite q => q < 0

def signed (negative : Bool) (x : Binary64) : Binary64 :=
  match negative, x with
  | false, x => x
  | true, nan => nan
  | true, infinity negative => infinity !negative
  | true, negativeZero => finite 0
  | true, finite q => if q = 0 then negativeZero else finite (-q)

/-- The number `digits * 10 ^ exponent` with a sign. Exponents beyond the range of doubles are
settled without computing the power. -/
def ofDecimal (negative : Bool) (digits : Nat) (exponent : Int) : Binary64 :=
  signed negative <|
    if digits = 0 then finite 0
    else if 400 < exponent then infinity false
    else if exponent + (digits.log2 + 1) < -400 then finite 0
    else ofRat (digits * (10 : Rat) ^ exponent)

/-- A double is compared as the rational number that it is; nothing compares to no number. -/
def atLeast (x : Binary64) (bound : Rat) : Bool :=
  match x with
  | nan => false
  | infinity negative => !negative
  | negativeZero => bound ≤ 0
  | finite q => bound ≤ q

def atMost (x : Binary64) (bound : Rat) : Bool :=
  match x with
  | nan => false
  | infinity negative => negative
  | negativeZero => 0 ≤ bound
  | finite q => q ≤ bound

def isZero : Binary64 → Bool
  | negativeZero => true
  | finite q => q = 0
  | _ => false

/-- The integer that the double is, if it is one. -/
def whole? (x : Binary64) : Option Int :=
  x.value?.bind fun q => if q.den = 1 then some q.num else none

def mul (x y : Binary64) : Binary64 :=
  match x.value?, y.value? with
  | some a, some b =>
    if a = 0 ∨ b = 0 then signed (x.isNegative != y.isNegative) (finite 0) else ofRat (a * b)
  | _, _ =>
    if x = nan ∨ y = nan ∨ x.isZero ∨ y.isZero then nan
    else infinity (x.isNegative != y.isNegative)

def add (x y : Binary64) : Binary64 :=
  match x.value?, y.value? with
  | some a, some b => if x = negativeZero ∧ y = negativeZero then negativeZero else ofRat (a + b)
  | some _, none => y
  | none, some _ => x
  | none, none => if x = y then x else nan

def sub (x y : Binary64) : Binary64 :=
  add x (signed true y)

/-- The quotient by a divisor that is not zero. -/
def div (x y : Binary64) : Binary64 :=
  match x.value?, y.value? with
  | some a, some b =>
    if a = 0 then signed (x.isNegative != y.isNegative) (finite 0) else ofRat (a / b)
  | some _, none =>
    if y = nan then nan else signed (x.isNegative != y.isNegative) (finite 0)
  | none, some _ => if x = nan then nan else infinity (x.isNegative != y.isNegative)
  | none, none => nan

end Binary64

end Flowplan
