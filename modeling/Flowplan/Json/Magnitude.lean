import Flowplan.Json.Basic

namespace Flowplan.Json

mutual

/-- The magnitudes of the integers in a value. -/
def magnitudes : Json → List Nat
  | int value => [value.natAbs]
  | arr items => itemMagnitudes items
  | obj members => memberMagnitudes members
  | _ => []

def itemMagnitudes : List Json → List Nat
  | [] => []
  | item :: items => magnitudes item ++ itemMagnitudes items

def memberMagnitudes : List (String × Json) → List Nat
  | [] => []
  | (_, value) :: members => magnitudes value ++ memberMagnitudes members

end

end Flowplan.Json
