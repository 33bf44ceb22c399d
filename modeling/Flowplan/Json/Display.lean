import Flowplan.Json.Basic
import Flowplan.Number.Shortest
import Flowplan.Text.Quoted

namespace Flowplan.Json

mutual

/-- The value as it stands inside a list: texts are quoted, and every integer is written out. -/
def inspect : Json → String
  | null => "None"
  | bool value => if value then "True" else "False"
  | int value => toString value
  | float value => value.text
  | str value => Text.quoted value
  | torn value => Text.quoted value.raw
  | arr items => "[" ++ ", ".intercalate (inspectItems items) ++ "]"
  | obj members => "\x7b" ++ ", ".intercalate (inspectMembers members) ++ "\x7d"

def inspectItems : List Json → List String
  | [] => []
  | item :: items => inspect item :: inspectItems items

def inspectMembers : List (String × Json) → List String
  | [] => []
  | (name, value) :: members =>
    (Text.quoted name ++ ": " ++ inspect value) :: inspectMembers members

end

/-- The value as text: a text stands for itself, and every integer is written out. -/
def display : Json → RawText
  | str value => value
  | torn value => value.raw
  | value => inspect value

@[simp] theorem display_ofRaw (raw : RawText) : (ofRaw raw).display = raw := by
  rcases ofRaw_cases raw with ⟨_, rfl, h⟩ | ⟨_, rfl, h⟩ <;> rw [h] <;> rfl

theorem inspect_ne_empty (json : Json) : json.inspect ≠ "" := by
  cases json with
  | bool value => cases value <;> simp [inspect]
  | int value => cases value <;> simp [inspect, Int.repr]
  | float value =>
    rw [inspect]
    exact value.text_ne_empty
  | str value => simp [inspect, Text.quoted]
  | torn value => simp [inspect, Text.quoted]
  | null | arr items | obj members => simp [inspect]

theorem display_ne_empty {json : Json} (present : json.isPresent) :
    json.display ≠ .ofString "" := by
  cases json with
  | str value => simpa [isPresent, display] using present
  | torn value => simp [display, TornText.raw, RawText.ofString]
  | _ => simpa [display] using inspect_ne_empty _

end Flowplan.Json
