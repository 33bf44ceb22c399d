import Flowplan.Json.Basic
import Flowplan.Json.Fault
import Flowplan.Text.Digit

namespace Flowplan.Json

/-- What the machine that reads and writes values can hold: containers inside each other, and the
digits of an integer. -/
structure Limits where
  nesting : Nat
  digits : Nat

def Limits.standard : Limits := ⟨990, Text.mostDigits⟩

mutual

/-- The first limit that the value is beyond where integers have at most `digits` digits and `room`
containers may still be opened inside each other. -/
def excess? (digits room : Nat) : Json → Option Limit
  | int value =>
    if digits < (Nat.toDigits 10 value.natAbs).length
    then some (.digits (Nat.toDigits 10 value.natAbs).length) else none
  | arr items => if room = 0 then some .arrays else excessOfItems? digits (room - 1) items
  | obj members => if room = 0 then some .objects else excessOfMembers? digits (room - 1) members
  | _ => none

def excessOfItems? (digits room : Nat) : List Json → Option Limit
  | [] => none
  | item :: items => (excess? digits room item).or (excessOfItems? digits room items)

def excessOfMembers? (digits room : Nat) : List (String × Json) → Option Limit
  | [] => none
  | (_, value) :: members => (excess? digits room value).or (excessOfMembers? digits room members)

end

end Flowplan.Json
