import Flowplan.Proofs.Text.Words

namespace Flowplan.Text

/-- Whatever stands in the smaller text stands in the larger one, as a word if it does so in the
smaller one. -/
structure Covers (large small : String) : Prop where
  holds : ∀ {keyword : String}, Holds small keyword → Holds large keyword
  holdsWord : ∀ {word : String}, word ≠ "" → HoldsWord small word → HoldsWord large word

namespace Covers

variable {large middle small : String}

theorem refl (text : String) : Covers text text :=
  ⟨id, fun _ => id⟩

theorem trans (h : Covers large middle) (h' : Covers middle small) : Covers large small :=
  ⟨fun hk => h.holds (h'.holds hk), fun hne hw => h.holdsWord hne (h'.holdsWord hne hw)⟩

theorem holdsAny (h : Covers large small) {keywords : List String}
    (hany : HoldsAny small keywords) : HoldsAny large keywords := by
  obtain ⟨keyword, hm, hk⟩ := hany
  exact ⟨keyword, hm, h.holds hk⟩

/-- Nothing but the empty text stands in the empty text. -/
theorem of_empty (large : String) : Covers large "" := by
  constructor
  · intro keyword h
    have hnil : keyword.toList = [] := List.infix_nil.mp h
    exact ⟨[], large.toList, by rw [hnil]; rfl⟩
  · rintro word hne ⟨before, after, he, -⟩
    obtain ⟨hword, -⟩ := List.append_eq_nil_iff.mp he.symm
    exact absurd (String.toList_eq_nil_iff.mp (List.append_eq_nil_iff.mp hword).2) hne

end Covers

theorem isWordChar_blank : isWordChar ' ' = false := by decide +kernel

theorem toList_append_blank (a b : String) :
    (a ++ " " ++ b).toList = a.toList ++ ' ' :: b.toList := by
  simp

theorem covers_append_blank_left (a b : String) : Covers (a ++ " " ++ b) a := by
  constructor
  · intro keyword h
    unfold Holds
    rw [toList_append_blank]
    exact h.trans (List.prefix_append _ _).isInfix
  · rintro word - ⟨before, after, he, hbefore, hafter⟩
    refine ⟨before, after ++ ' ' :: b.toList, by simp [he], hbefore, ?_⟩
    cases after with
    | nil => simpa using isWordChar_blank
    | cons c after => simpa using hafter

theorem covers_append_blank_right (a b : String) : Covers (a ++ " " ++ b) b := by
  constructor
  · intro keyword h
    unfold Holds
    rw [toList_append_blank]
    exact h.trans ((List.suffix_cons _ _).trans (List.suffix_append _ _)).isInfix
  · rintro word - ⟨before, after, he, hbefore, hafter⟩
    refine ⟨a.toList ++ ' ' :: before, after, by simp [he], ?_, hafter⟩
    obtain rfl | ⟨start, c, rfl⟩ := before.eq_nil_or_concat
    · simpa using isWordChar_blank
    · have hlast : a.toList ++ ' ' :: start.concat c = (a.toList ++ ' ' :: start) ++ [c] := by simp
      rw [hlast, List.getLast?_concat]
      simpa using hbefore

theorem covers_joined_left (texts others : List String) :
    Covers (" ".intercalate (texts ++ others)) (" ".intercalate texts) := by
  by_cases htexts : texts = []
  · rw [htexts, String.intercalate_nil]
    exact .of_empty _
  by_cases hothers : others = []
  · rw [hothers, List.append_nil]
    exact .refl _
  · rw [String.intercalate_append_of_ne_nil htexts hothers]
    exact covers_append_blank_left _ _

theorem covers_joined_right (others texts : List String) :
    Covers (" ".intercalate (others ++ texts)) (" ".intercalate texts) := by
  by_cases htexts : texts = []
  · rw [htexts, String.intercalate_nil]
    exact .of_empty _
  by_cases hothers : others = []
  · rw [hothers, List.nil_append]
    exact .refl _
  · rw [String.intercalate_append_of_ne_nil hothers htexts]
    exact covers_append_blank_right _ _

/-- Texts that are joined cover those of them that stand side by side. -/
theorem covers_joined (earlier texts later : List String) :
    Covers (" ".intercalate (earlier ++ texts ++ later)) (" ".intercalate texts) :=
  (covers_joined_left (earlier ++ texts) later).trans (covers_joined_right earlier texts)

theorem covers_of_mem {texts : List String} {text : String} (hm : text ∈ texts) :
    Covers (" ".intercalate texts) text := by
  obtain ⟨earlier, later, rfl⟩ := List.append_of_mem hm
  have h := covers_joined earlier [text] later
  rwa [String.intercalate_singleton, List.append_assoc, List.singleton_append] at h

/-- The keyword is there and has no blank. -/
def Unbroken (keyword : String) : Prop :=
  keyword ≠ "" ∧ ' ' ∉ keyword.toList

instance (keyword : String) : Decidable (Unbroken keyword) :=
  inferInstanceAs (Decidable (_ ∧ _))

/-- The piece that stands between `before` and `after` in the joined texts belongs to one of
them. -/
def InsideOne (texts : List String) (before piece after : List Char) : Prop :=
  ∃ earlier text later start rest, texts = earlier ++ text :: later ∧
    text.toList = start ++ piece ++ rest ∧
    before = earlier.flatMap (·.toList ++ [' ']) ++ start ∧
    after = rest ++ later.flatMap (' ' :: ·.toList)

/-- A piece without the separator stands before it or after it. -/
theorem before_or_after_of_not_mem {c : Char} {left right before piece after : List Char}
    (hc : c ∉ piece) (h : left ++ c :: right = before ++ piece ++ after) :
    (∃ rest, left = before ++ piece ++ rest ∧ after = rest ++ c :: right) ∨
      ∃ start, before = left ++ c :: start ∧ right = start ++ piece ++ after := by
  rcases List.append_eq_append_iff.mp h with ⟨middle, hmiddle, hright⟩ | ⟨rest, hleft, hafter⟩
  -- The piece ends after the separator, so it begins after it too.
  · cases middle with
    | nil => exact .inl ⟨[], by simpa using hmiddle.symm, by simpa using hright.symm⟩
    | cons d middle =>
      obtain ⟨rfl, rfl⟩ := List.cons.inj hright
      rcases List.append_eq_append_iff.mp hmiddle with ⟨_, _, hpiece⟩ | ⟨start, hbefore, hpiece⟩
      · exact absurd (by simp [hpiece]) hc
      · cases start with
        | nil => exact absurd (List.mem_of_mem_head? (congrArg List.head? hpiece).symm) hc
        | cons e start =>
          obtain ⟨rfl, rfl⟩ := List.cons.inj hpiece
          exact .inr ⟨start, hbefore, rfl⟩
  · exact .inl ⟨rest, hleft, hafter⟩

theorem toList_intercalate_cons_cons (text next : String) (rest : List String) :
    (" ".intercalate (text :: next :: rest)).toList
      = text.toList ++ ' ' :: (" ".intercalate (next :: rest)).toList := by
  rw [String.intercalate_cons_cons, toList_append_blank]

theorem blank_cons_joined (text : String) (rest : List String) :
    ' ' :: (" ".intercalate (text :: rest)).toList
      = (text :: rest).flatMap (' ' :: ·.toList) := by
  induction rest generalizing text with
  | nil => simp
  | cons next rest ih =>
    rw [toList_intercalate_cons_cons, ih]
    rfl

/-- A piece that is there and has no blank belongs to one of the texts that are joined. -/
theorem insideOne_of_joined {texts : List String} {before piece after : List Char}
    (hne : piece ≠ []) (hblank : ' ' ∉ piece)
    (h : (" ".intercalate texts).toList = before ++ piece ++ after) :
    InsideOne texts before piece after := by
  induction texts generalizing before with
  | nil => simp [hne] at h
  | cons text rest ih =>
    cases rest with
    | nil =>
      rw [String.intercalate_singleton] at h
      exact ⟨[], text, [], before, after, rfl, h, by simp, by simp⟩
    | cons next rest =>
      rw [toList_intercalate_cons_cons] at h
      rcases before_or_after_of_not_mem hblank h with
        ⟨tail, htext, hafter⟩ | ⟨start, hbefore, hrest⟩
      · rw [blank_cons_joined] at hafter
        exact ⟨[], text, next :: rest, before, tail, rfl, htext, by simp, hafter⟩
      · obtain ⟨earlier, part, later, first, tail, he, hpart, hstart, hafter⟩ := ih hrest
        refine ⟨text :: earlier, part, later, first, tail, ?_, hpart, ?_, hafter⟩
        · rw [he, List.cons_append]
        · simp [hbefore, hstart]

theorem InsideOne.exists_text {texts : List String} {before piece after : List Char}
    (h : InsideOne texts before piece after) :
    ∃ text ∈ texts, ∃ start rest, text.toList = start ++ piece ++ rest ∧
      (∀ c ∈ start.getLast?, c ∈ before.getLast?) ∧ ∀ c ∈ rest.head?, c ∈ after.head? := by
  obtain ⟨earlier, text, later, start, rest, rfl, htext, rfl, rfl⟩ := h
  refine ⟨text, by simp, start, rest, htext, fun c hc => ?_, fun c hc => ?_⟩
  · simp_all [List.getLast?_append]
  · simp_all [List.head?_append]

theorem holds_joined_iff {texts : List String} {keyword : String} (unbroken : Unbroken keyword) :
    Holds (" ".intercalate texts) keyword ↔ ∃ text ∈ texts, Holds text keyword := by
  constructor
  · rintro ⟨before, after, he⟩
    have hne : keyword.toList ≠ [] := by simpa using unbroken.1
    obtain ⟨text, hm, start, rest, htext, -⟩ :=
      (insideOne_of_joined hne unbroken.2 he.symm).exists_text
    exact ⟨text, hm, start, rest, htext.symm⟩
  · rintro ⟨text, hm, h⟩
    exact (covers_of_mem hm).holds h

theorem holdsAny_joined_iff {texts keywords : List String}
    (unbroken : ∀ keyword ∈ keywords, Unbroken keyword) :
    HoldsAny (" ".intercalate texts) keywords ↔ ∃ text ∈ texts, HoldsAny text keywords := by
  constructor
  · rintro ⟨keyword, hm, h⟩
    obtain ⟨text, htext, hk⟩ := (holds_joined_iff (unbroken keyword hm)).mp h
    exact ⟨text, htext, keyword, hm, hk⟩
  · rintro ⟨text, hm, h⟩
    exact (covers_of_mem hm).holdsAny h

/-- A blank belongs to no word, so a word of the joined texts is one of a single text. -/
theorem holdsWord_joined_iff {texts : List String} {word : String} (unbroken : Unbroken word) :
    HoldsWord (" ".intercalate texts) word ↔ ∃ text ∈ texts, HoldsWord text word := by
  constructor
  · rintro ⟨before, after, he, hbefore, hafter⟩
    have hne : word.toList ≠ [] := by simpa using unbroken.1
    obtain ⟨text, hm, start, rest, htext, hstart, hrest⟩ :=
      (insideOne_of_joined hne unbroken.2 he).exists_text
    exact ⟨text, hm, start, rest, htext, fun c hc => hbefore c (hstart c hc),
      fun c hc => hafter c (hrest c hc)⟩
  · rintro ⟨text, hm, h⟩
    exact (covers_of_mem hm).holdsWord unbroken.1 h

end Flowplan.Text
