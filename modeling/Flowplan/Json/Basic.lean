import Flowplan.Number.Binary64
import Flowplan.Text.Raw

namespace Flowplan

/-- A value of free form. A text in which halves of surrogate pairs stand alone is no string. The
members of an object keep their order and have distinct names. -/
inductive Json where
  | null
  | bool (value : Bool)
  | int (value : Int)
  | float (value : Binary64)
  | str (value : String)
  | torn (value : TornText)
  | arr (items : List Json)
  | obj (members : List (String × Json))

namespace Json

instance : Inhabited Json := ⟨null⟩

mutual

def same : Json → Json → Bool
  | null, null => true
  | bool a, bool b => a = b
  | int a, int b => a = b
  | float a, float b => a = b
  | str a, str b => a = b
  | torn a, torn b => a = b
  | arr a, arr b => sameItems a b
  | obj a, obj b => sameMembers a b
  | _, _ => false

def sameItems : List Json → List Json → Bool
  | [], [] => true
  | a :: as, b :: bs => same a b && sameItems as bs
  | _, _ => false

def sameMembers : List (String × Json) → List (String × Json) → Bool
  | [], [] => true
  | (m, a) :: as, (n, b) :: bs => m = n && same a b && sameMembers as bs
  | _, _ => false

end

mutual

theorem same_iff (a b : Json) : same a b = true ↔ a = b := by
  cases a with
  | arr as => cases b <;> simp [same, sameItems_iff]
  | obj as => cases b <;> simp [same, sameMembers_iff]
  | _ => cases b <;> simp [same]

theorem sameItems_iff (as bs : List Json) : sameItems as bs = true ↔ as = bs := by
  cases as with
  | nil => cases bs <;> simp [sameItems]
  | cons a as => cases bs <;> simp [sameItems, same_iff, sameItems_iff]

theorem sameMembers_iff (as bs : List (String × Json)) :
    sameMembers as bs = true ↔ as = bs := by
  cases as with
  | nil => cases bs <;> simp [sameMembers]
  | cons a as =>
    obtain ⟨m, a⟩ := a
    cases bs <;> simp [sameMembers, same_iff, sameMembers_iff, Prod.ext_iff]

end

instance : DecidableEq Json := fun a b => decidable_of_iff _ (same_iff a b)

/-- The name of a value's kind, as error texts spell it. -/
def kind : Json → String
  | null => "NoneType"
  | bool _ => "bool"
  | int _ => "int"
  | float _ => "float"
  | str _ => "str"
  | torn _ => "str"
  | arr _ => "list"
  | obj _ => "dict"

/-- Empty, zero and absent values are not present. -/
def isPresent : Json → Bool
  | null => false
  | bool value => value
  | int value => value ≠ 0
  | float value => !value.isZero
  | str value => !value.isEmpty
  | torn _ => true
  | arr items => !items.isEmpty
  | obj members => !members.isEmpty

/-- The value that holds the characters, which are given backwards, and the points behind them. -/
def ofPoints (before : List Char) : List Text.Point → Json
  | [] => str (String.ofList before.reverse)
  | .char c :: rest => ofPoints (c :: before) rest
  | .half half :: rest => torn ⟨String.ofList before.reverse, half, rest⟩

def ofRaw (raw : RawText) : Json :=
  ofPoints [] raw.points

def raw? : Json → Option RawText
  | str text => some text
  | torn text => some text.raw
  | _ => none

theorem ofPoints_append (before chars : List Char) (rest : List Text.Point) :
    ofPoints before (chars.map .char ++ rest) = ofPoints (chars.reverse ++ before) rest := by
  induction chars generalizing before with
  | nil => rfl
  | cons c chars ih => simp [ofPoints, ih]

@[simp] theorem ofRaw_ofString (text : String) : ofRaw (.ofString text) = str text := by
  have h := ofPoints_append [] text.toList []
  rw [List.append_nil] at h
  simp [ofRaw, RawText.ofString, h, ofPoints]

@[simp] theorem ofRaw_raw (torn : TornText) : ofRaw torn.raw = .torn torn := by
  simp [ofRaw, TornText.raw, ofPoints_append, ofPoints]

theorem raw?_ofPoints (before : List Char) (points : List Text.Point) :
    (ofPoints before points).raw? = some ⟨before.reverse.map .char ++ points⟩ := by
  induction points generalizing before with
  | nil => simp [ofPoints, raw?, RawText.ofString]
  | cons point points ih =>
    cases point with
    | char c =>
      rw [ofPoints, ih]
      simp
    | half half => simp [ofPoints, raw?, TornText.raw]

@[simp] theorem raw?_ofRaw (raw : RawText) : (ofRaw raw).raw? = some raw :=
  raw?_ofPoints [] raw.points

/-- A text stands in a value in one way only. -/
theorem raw?_eq_some_iff {json : Json} {raw : RawText} :
    json.raw? = some raw ↔ json = ofRaw raw := by
  constructor
  · intro h
    cases json <;> simp only [raw?, Option.some.injEq, reduceCtorEq] at h <;> subst h <;> simp
  · rintro rfl
    exact raw?_ofRaw raw

theorem ofRaw_cases (raw : RawText) :
    (∃ text, raw = .ofString text ∧ ofRaw raw = str text) ∨
      ∃ text : TornText, raw = text.raw ∧ ofRaw raw = torn text := by
  have hraw := raw?_ofRaw raw
  cases h : ofRaw raw <;> simp only [h, raw?, Option.some.injEq, reduceCtorEq] at hraw
  · exact .inl ⟨_, hraw.symm, rfl⟩
  · exact .inr ⟨_, hraw.symm, rfl⟩

/-- The parts of a value that can be walked through: the items of a list, the points of a text, or
the names in an object. -/
def parts? : Json → Option (List Json)
  | .arr items => some items
  | .str text => some (text.toList.map fun c => .str (String.singleton c))
  | .torn text => some (text.raw.points.map fun point => ofRaw ⟨[point]⟩)
  | .obj members => some (members.map fun member => .str member.1)
  | _ => none

def member? : Json → String → Option Json
  | obj members, name => members.lookup name
  | _, _ => none

/-- Replaces the value of a member in its place, or appends a new member. -/
def put (members : List (String × Json)) (name : String) (value : Json) : List (String × Json) :=
  if members.any (·.1 = name) then
    members.map fun m => if m.1 = name then (name, value) else m
  else members ++ [(name, value)]

/-- Of repeated names the last value stays, in the first one's place. -/
def mergeMembers (members : List (String × Json)) : List (String × Json) :=
  members.foldl (fun done m => put done m.1 m.2) []

def strings (texts : List String) : Json :=
  arr (texts.map str)

def rawTexts (texts : List RawText) : Json :=
  arr (texts.map ofRaw)

def ofOption (toJson : α → Json) : Option α → Json
  | none => null
  | some a => toJson a

end Json

end Flowplan
