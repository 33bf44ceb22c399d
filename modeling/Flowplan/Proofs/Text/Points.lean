import Flowplan.Proofs.Text.Words
import Flowplan.Text.Fold

namespace Flowplan

namespace Text

theorem infix_append_cons_iff {α : Type} {piece before after : List α} {a : α} (h : a ∉ piece) :
    piece <:+: before ++ a :: after ↔ piece <:+: before ∨ piece <:+: after := by
  constructor
  · rintro ⟨left, right, he⟩
    rcases List.append_eq_append_iff.mp he with ⟨more, hbefore, -⟩ | ⟨more, hleft, hafter⟩
    · exact .inl ⟨left, more, hbefore.symm⟩
    -- The piece reaches beyond what stands before `a`, so it begins behind `a`.
    cases more with
    | nil => exact .inl ⟨left, [], by simpa using hleft⟩
    | cons b more =>
      obtain ⟨rfl, htail⟩ := List.cons.inj hafter
      rcases List.append_eq_append_iff.mp hleft with ⟨gap, -, hpiece⟩ | ⟨gap, -, hgap⟩
      · exact absurd (hpiece ▸ by simp) h
      · cases gap with
        | nil => exact absurd (show a ∈ [] ++ piece from hgap ▸ by simp) h
        | cons b gap => exact .inr ⟨gap, right, by rw [htail, (List.cons.inj hgap).2]; rfl⟩
  · rintro (hbefore | hafter)
    · exact hbefore.trans (List.prefix_append _ _).isInfix
    · exact hafter.trans ((List.suffix_cons _ _).trans (List.suffix_append _ _)).isInfix

/-- A text is one of characters, or there is a first half in it. -/
theorem exists_chars_eq (points : List Point) :
    ∃ chars : List Char, points = chars.map .char ∨
      ∃ half rest, points = chars.map .char ++ .half half :: rest := by
  induction points with
  | nil => exact ⟨[], .inl rfl⟩
  | cons point points ih =>
    cases point with
    | half half => exact ⟨[], .inr ⟨half, points, rfl⟩⟩
    | char c =>
      obtain ⟨chars, rfl | ⟨half, rest, rfl⟩⟩ := ih
      · exact ⟨c :: chars, .inl rfl⟩
      · exact ⟨c :: chars, .inr ⟨half, rest, rfl⟩⟩

theorem flatMap_foldPoint_map_char (chars : List Char) :
    (chars.map .char).flatMap foldPoint = (chars.flatMap foldChar).map .char := by
  rw [List.flatMap_map, List.map_flatMap]
  rfl

theorem infix_map_char_iff {piece chars : List Char} :
    piece.map Point.char <:+: chars.map .char ↔ piece <:+: chars := by
  refine ⟨fun h => ?_, fun h => h.map _⟩
  obtain ⟨found, hfound, he⟩ := List.infix_map_iff.mp h
  rwa [List.map_injective_iff.mpr (fun _ _ => Point.char.inj) he]

/-- A word that a folded text holds is in what folding makes of characters that stand together. -/
theorem exists_chars_of_infix_foldPoint {word : List Char} {points : List Point}
    (h : word.map .char <:+: points.flatMap foldPoint) :
    ∃ chars : List Char, chars.map .char <:+: points ∧ word <:+: chars.flatMap foldChar := by
  obtain ⟨chars, rfl | ⟨half, rest, rfl⟩⟩ := exists_chars_eq points
  · rw [flatMap_foldPoint_map_char, infix_map_char_iff] at h
    exact ⟨chars, List.infix_refl _, h⟩
  · rw [List.flatMap_append, List.flatMap_cons, flatMap_foldPoint_map_char, foldPoint,
      List.singleton_append, infix_append_cons_iff (by simp), infix_map_char_iff] at h
    rcases h with hfirst | hlater
    · exact ⟨chars, (List.prefix_append _ _).isInfix, hfirst⟩
    · obtain ⟨found, hfound, hword⟩ := exists_chars_of_infix_foldPoint hlater
      exact ⟨found, hfound.trans ((List.suffix_cons _ _).trans (List.suffix_append _ _)).isInfix,
        hword⟩
termination_by points.length

end Text

namespace RawText

/-- The keyword stands somewhere in the text. -/
def Holds (raw keyword : RawText) : Prop :=
  keyword.points <:+: raw.points

instance (raw keyword : RawText) : Decidable (Holds raw keyword) :=
  inferInstanceAs (Decidable (_ <:+: _))

def HoldsAny (raw : RawText) (keywords : List RawText) : Prop :=
  ∃ keyword ∈ keywords, raw.Holds keyword

instance (raw : RawText) (keywords : List RawText) : Decidable (HoldsAny raw keywords) :=
  inferInstanceAs (Decidable (∃ keyword ∈ keywords, Holds raw keyword))

theorem mentions_iff {raw keyword : RawText} : raw.mentions keyword ↔ raw.Holds keyword :=
  Text.occursIn_iff

theorem mentionsAny_iff {raw : RawText} {keywords : List RawText} :
    raw.mentionsAny keywords ↔ raw.HoldsAny keywords := by
  simp [mentionsAny, HoldsAny, mentions_iff]

end RawText

end Flowplan
