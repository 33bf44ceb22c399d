import Flowplan.Text.Raw
import Mathlib.Data.List.Chain

namespace Flowplan

namespace Text

/-- A high half with a low half behind it, which read as one character. -/
def Point.joins : Point → Point → Bool
  | half high, half low => high.isHigh && !low.isHigh
  | _, _ => false

/-- The text in which each high half is joined with the low half behind it. -/
def joined : List Point → List Point
  | [] => []
  | .half high :: .half low :: rest =>
    if Point.joins (.half high) (.half low) then .char (high.join low) :: joined rest
    else .half high :: joined (.half low :: rest)
  | point :: rest => point :: joined rest

theorem joined_cons {point : Point} {rest : List Point}
    (h : ∀ next ∈ rest.head?, point.joins next = false) :
    joined (point :: rest) = point :: joined rest := by
  cases point with
  | char c => rw [joined]; simp
  | half high =>
    cases rest with
    | nil => simp [joined]
    | cons next rest =>
      cases next with
      | char c => simp [joined]
      | half low => rw [joined, if_neg (by simpa using h)]

theorem joined_pair {high low : Half} (h : Point.joins (.half high) (.half low))
    (rest : List Point) :
    joined (.half high :: .half low :: rest) = .char (high.join low) :: joined rest := by
  rw [joined, if_pos h]

theorem joined_char (c : Char) (rest : List Point) :
    joined (.char c :: rest) = .char c :: joined rest :=
  joined_cons fun _ _ => rfl

theorem joined_map_char (chars : List Char) :
    joined (chars.map .char) = chars.map .char := by
  induction chars with
  | nil => rfl
  | cons c chars ih => rw [List.map_cons, joined_char, ih]

/-- A text is empty, or begins with two halves that are joined, or with a point that is not. -/
theorem joined_induct {motive : List Point → Prop} (nil : motive [])
    (pair : ∀ high low rest, Point.joins (.half high) (.half low) → motive rest →
      motive (.half high :: .half low :: rest))
    (single : ∀ point rest, (∀ next ∈ rest.head?, point.joins next = false) → motive rest →
      motive (point :: rest)) (points : List Point) : motive points := by
  induction points using joined.induct with
  | case1 => exact nil
  | case2 high low rest joins ih => exact pair high low rest joins ih
  | case3 high low rest apart ih => exact single _ _ (by simpa using apart) ih
  | case4 point rest other ih =>
    refine single point rest (fun next hnext => ?_) ih
    obtain ⟨more, rfl⟩ := List.head?_eq_some_iff.mp hnext
    cases point <;> cases next <;> first | rfl | exact (other _ _ _ rfl rfl).elim

/-- Nothing is joined in a text in which no high half has a low half behind it. -/
theorem joined_eq_self_iff {points : List Point} :
    joined points = points ↔ points.IsChain fun a b => a.joins b = false := by
  induction points using joined_induct with
  | nil => simp [joined]
  | pair high low rest joins ih => simp [joined_pair joins, joins]
  | single point rest hnext ih =>
    rw [joined_cons hnext, List.cons.injEq, ih, List.isChain_cons]
    exact ⟨fun h => ⟨hnext, h.2⟩, fun h => ⟨rfl, h.2⟩⟩

end Text

namespace RawText

/-- The text as it is read back: each high half is joined with the low half behind it. -/
def joined (raw : RawText) : RawText :=
  ⟨Text.joined raw.points⟩

@[simp] theorem joined_ofString (text : String) : (ofString text).joined = ofString text := by
  rw [joined, ofString, Text.joined_map_char]

/-- No high half of the text has a low half behind it. -/
def IsApart (raw : RawText) : Prop :=
  raw.points.IsChain fun point next => point.joins next = false

instance (raw : RawText) : Decidable raw.IsApart :=
  inferInstanceAs (Decidable (List.IsChain _ _))

theorem joined_eq_self_iff {raw : RawText} : raw.joined = raw ↔ raw.IsApart := by
  obtain ⟨points⟩ := raw
  rw [joined, mk.injEq]
  exact Text.joined_eq_self_iff

end RawText

end Flowplan
