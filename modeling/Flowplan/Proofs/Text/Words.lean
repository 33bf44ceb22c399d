import Flowplan.Text.Occurrence
import Mathlib.Data.List.Basic

namespace Flowplan.Text

/-- The keyword stands somewhere in the text. -/
def Holds (text keyword : String) : Prop :=
  keyword.toList <:+: text.toList

instance (text keyword : String) : Decidable (Holds text keyword) :=
  inferInstanceAs (Decidable (_ <:+: _))

def HoldsAny (text : String) (keywords : List String) : Prop :=
  ∃ keyword ∈ keywords, Holds text keyword

instance (text : String) (keywords : List String) : Decidable (HoldsAny text keywords) :=
  inferInstanceAs (Decidable (∃ keyword ∈ keywords, Holds text keyword))

/-- The word stands somewhere in the text, with no word character beside it. -/
def HoldsWord (text word : String) : Prop :=
  ∃ before after, text.toList = before ++ word.toList ++ after ∧
    (∀ c ∈ before.getLast?, isWordChar c = false) ∧ ∀ c ∈ after.head?, isWordChar c = false

theorem mentions_iff {text keyword : String} : mentions text keyword ↔ Holds text keyword :=
  occursIn_iff

/-- A search in a text whose characters are known. -/
theorem mentions_iff_of_toList {text keyword : String} {chars word : List Char}
    (htext : text.toList = chars) (hword : keyword.toList = word) :
    mentions text keyword ↔ occursIn word chars := by
  rw [mentions, htext, hword]

theorem mentionsAny_iff {text : String} {keywords : List String} :
    mentionsAny text keywords ↔ HoldsAny text keywords := by
  simp [mentionsAny, HoldsAny, mentions_iff]

/-- Whether the last character belongs to a word; `inside` tells it of the one before the text. -/
def endsInWord (inside : Bool) (text : List Char) : Bool :=
  text.foldl (fun _ c => isWordChar c) inside

theorem endsInWord_false_iff {text : List Char} :
    endsInWord false text = false ↔ ∀ c ∈ text.getLast?, isWordChar c = false := by
  obtain rfl | ⟨start, c, rfl⟩ := text.eq_nil_or_concat
  · simp [endsInWord]
  · simp [endsInWord]

theorem startsInWord_false_iff {text : List Char} :
    startsInWord text = false ↔ ∀ c ∈ text.head?, isWordChar c = false := by
  cases text <;> simp [startsInWord]

/-- A word stands in a text with no word character beside it. -/
def StandsAlone (word : List Char) (inside : Bool) (text : List Char) : Prop :=
  ∃ before after, text = before ++ word ++ after ∧
    endsInWord inside before = false ∧ startsInWord after = false

theorem standsAlone_cons {word rest : List Char} {inside : Bool} {c : Char} :
    StandsAlone word inside (c :: rest) ↔
      (inside = false ∧ ∃ after, c :: rest = word ++ after ∧ startsInWord after = false)
        ∨ StandsAlone word (isWordChar c) rest := by
  constructor
  · rintro ⟨before, after, he, hbefore, hafter⟩
    cases before with
    | nil => exact .inl ⟨hbefore, after, he, hafter⟩
    | cons d before =>
      obtain ⟨rfl, hrest⟩ := List.cons.inj he
      exact .inr ⟨before, after, hrest, hbefore, hafter⟩
  · rintro (⟨hinside, after, he, hafter⟩ | ⟨before, after, rfl, hbefore, hafter⟩)
    · exact ⟨[], after, he, hinside, hafter⟩
    · exact ⟨c :: before, after, rfl, hbefore, hafter⟩

theorem occursAsWord_iff {word text : List Char} {inside : Bool} (hword : word ≠ []) :
    occursAsWord word inside text ↔ StandsAlone word inside text := by
  induction text generalizing inside with
  | nil =>
    refine ⟨nofun, ?_⟩
    rintro ⟨before, after, he, _, _⟩
    simp [hword] at he
  | cons c rest ih =>
    rw [standsAlone_cons, ← ih, occursAsWord]
    simp only [Bool.or_eq_true, Bool.and_eq_true, Bool.not_eq_true', List.isPrefixOf_iff_prefix]
    refine or_congr ?_ Iff.rfl
    constructor
    · rintro ⟨⟨hinside, after, he⟩, hafter⟩
      rw [← he, List.drop_left] at hafter
      exact ⟨hinside, after, he.symm, hafter⟩
    · rintro ⟨hinside, after, he, hafter⟩
      refine ⟨⟨hinside, after, he.symm⟩, ?_⟩
      rwa [he, List.drop_left]

theorem mentionsWord_iff {text word : String} (hword : word ≠ "") :
    mentionsWord text word ↔ HoldsWord text word := by
  have hlist : word.toList ≠ [] := by simpa using hword
  rw [mentionsWord, occursAsWord_iff hlist]
  simp only [StandsAlone, HoldsWord, endsInWord_false_iff, startsInWord_false_iff]

end Flowplan.Text
