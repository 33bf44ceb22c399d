namespace Flowplan

namespace Text

/-- A half of a surrogate pair, by its place among all of them. -/
abbrev Half := Fin 0x800

namespace Half

def code (half : Half) : Nat := 0xD800 + half

def isHigh (half : Half) : Bool := half.val < 0x400

/-- The character that a high and a low half make together. -/
def join (high low : Half) : Char :=
  Char.ofNat (0x10000 + 0x400 * high.val + (low.val - 0x400))

end Half

/-- A character, or a half of a surrogate pair that stands alone. -/
inductive Point where
  | char (c : Char)
  | half (half : Half)
  deriving DecidableEq

namespace Point

/-- The point of a code unit. -/
def ofUnit (code : Nat) : Point :=
  if h : 0xD800 ≤ code ∧ code < 0xE000 then .half ⟨code - 0xD800, by omega⟩
  else .char (Char.ofNat code)

def char? : Point → Option Char
  | char c => some c
  | half _ => none

/-- A replacement character stands for a half. -/
def shown : Point → Char
  | char c => c
  | half _ => '\uFFFD'

end Point

end Text

/-- A text as it may come in: halves of surrogate pairs may stand alone in it. -/
structure RawText where
  points : List Text.Point
  deriving DecidableEq

namespace RawText

def ofString (text : String) : RawText :=
  ⟨text.toList.map .char⟩

instance : Coe String RawText := ⟨ofString⟩

/-- The text, if no half stands alone in it. -/
def text? (raw : RawText) : Option String :=
  (raw.points.mapM Text.Point.char?).map String.ofList

/-- The text with a replacement character for each half. -/
def shown (raw : RawText) : String :=
  String.ofList (raw.points.map Text.Point.shown)

def isEmpty (raw : RawText) : Bool :=
  raw.points.isEmpty

theorem mapM_char?_eq_some_iff {points : List Text.Point} {chars : List Char} :
    points.mapM Text.Point.char? = some chars ↔ points = chars.map .char := by
  induction points generalizing chars with
  | nil => cases chars <;> simp
  | cons point points ih =>
    cases point <;> cases chars <;>
      simp [List.mapM_cons, Text.Point.char?, Option.bind_eq_some_iff, ih]
    exact and_comm

theorem text?_eq_some_iff {raw : RawText} {text : String} :
    raw.text? = some text ↔ raw = ofString text := by
  obtain ⟨points⟩ := raw
  simp only [text?, Option.map_eq_some_iff, mapM_char?_eq_some_iff, ofString, mk.injEq]
  constructor
  · rintro ⟨chars, h, rfl⟩
    rw [h, String.toList_ofList]
  · intro h
    exact ⟨text.toList, h, String.ofList_toList⟩

@[simp] theorem text?_ofString (text : String) : (ofString text).text? = some text :=
  text?_eq_some_iff.mpr rfl

@[simp] theorem ofString_inj {text other : String} :
    ofString text = ofString other ↔ text = other := by
  constructor
  · intro h
    simpa using congrArg text? h
  · rintro rfl
    rfl

@[simp] theorem shown_ofString (text : String) : (ofString text).shown = text := by
  simp [shown, ofString, Text.Point.shown, Function.comp_def]

end RawText

/-- A text in which a half stands alone: what comes before the first half, and what follows it. -/
structure TornText where
  before : String
  half : Text.Half
  after : List Text.Point
  deriving DecidableEq

def TornText.raw (torn : TornText) : RawText :=
  ⟨torn.before.toList.map .char ++ .half torn.half :: torn.after⟩

theorem TornText.text?_raw (torn : TornText) : torn.raw.text? = none := by
  rw [Option.eq_none_iff_forall_ne_some]
  intro text h
  have hpoints : torn.raw.points = text.toList.map .char :=
    congrArg RawText.points (RawText.text?_eq_some_iff.mp h)
  have hm : Text.Point.half torn.half ∈ text.toList.map Text.Point.char := by
    rw [← hpoints]
    simp [TornText.raw]
  simp at hm

end Flowplan
