import Flowplan.Json.Basic

namespace Flowplan.Json

mutual

/-- The value with null in the place of each number that is not finite. -/
def finite : Json → Json
  | float value => if value.value?.isSome then float value else null
  | arr items => arr (finiteItems items)
  | obj members => obj (finiteMembers members)
  | value => value

def finiteItems : List Json → List Json
  | [] => []
  | item :: items => finite item :: finiteItems items

def finiteMembers : List (String × Json) → List (String × Json)
  | [] => []
  | (name, value) :: members => (name, finite value) :: finiteMembers members

end

/-- An object of free form, as answers show it. -/
def ofFree (members : List (String × Json)) : Json :=
  finite (obj members)

end Flowplan.Json
