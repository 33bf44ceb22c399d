import Flowplan.Proofs.Text.Trimming
import Flowplan.Text.Line
import Mathlib.Data.List.Basic

namespace Flowplan.Text

/-- The characters of a text that are not blank. -/
def visible (chars : List Char) : List Char :=
  chars.filter fun c => !isBlank c

theorem visible_append (a b : List Char) : visible (a ++ b) = visible a ++ visible b :=
  List.filter_append _ _

theorem visible_eq_nil_iff {chars : List Char} : visible chars = [] ↔ ∀ c ∈ chars, isBlank c := by
  simp [visible, List.filter_eq_nil_iff]

theorem visible_cons_of_isBlank {c : Char} (h : isBlank c) (rest : List Char) :
    visible (c :: rest) = visible rest :=
  List.filter_cons_of_neg (by simp [h])

theorem isBlank_of_isLineBreak {c : Char} (h : isLineBreak c) : isBlank c := by
  simp only [isLineBreak, Bool.or_eq_true, Bool.and_eq_true, decide_eq_true_eq] at h
  simp only [isBlank, inRanges, blankRanges, List.any_cons, List.any_nil, Bool.or_eq_true,
    Bool.and_eq_true, decide_eq_true_eq]
  omega

theorem visible_trimmed (chars : List Char) : visible (trimmed isBlank chars) = visible chars := by
  obtain ⟨lead, trail, hlead, htrail, h⟩ := exists_trimmed_append isBlank chars
  conv_rhs => rw [h]
  rw [visible_append, visible_append, visible_eq_nil_iff.mpr hlead, visible_eq_nil_iff.mpr htrail,
    List.nil_append, List.append_nil]

theorem mem_of_mem_trimmed {drops : Char → Bool} {chars : List Char} {c : Char}
    (h : c ∈ trimmed drops chars) : c ∈ chars := by
  obtain ⟨lead, trail, -, -, he⟩ := exists_trimmed_append drops chars
  rw [he]
  exact List.mem_append_left _ (List.mem_append_right _ h)

theorem trim_trim (text : String) : trim (trim text) = trim text := by
  have htrim : trimmed isBlank ([] ++ trimmed isBlank text.toList ++ [])
      = trimmed isBlank text.toList :=
    (bare_trimmed isBlank text.toList).trimmed_append (by simp) (by simp)
  rw [List.nil_append, List.append_nil] at htrim
  simp only [trim, String.toList_ofList, htrim]

theorem visible_joinReturns (chars : List Char) : visible (joinReturns chars) = visible chars := by
  induction chars using joinReturns.induct with
  | case1 => rfl
  | case2 rest ih =>
    rw [joinReturns, visible_cons_of_isBlank (by decide), visible_cons_of_isBlank (by decide),
      visible_cons_of_isBlank (by decide), ih]
  | case3 c rest hne ih =>
    rw [joinReturns]
    · exact (List.filter_append [c] _).trans ((congrArg _ ih).trans (List.filter_append [c] _).symm)
    · exact hne

section Lines

variable {line text piece : List Char}

theorem visible_linesFrom (line text : List Char) :
    (linesFrom line text).flatMap visible = visible (line.reverse ++ text) := by
  induction text generalizing line with
  | nil =>
    unfold linesFrom
    split
    next h => simp [List.isEmpty_iff.mp h, visible]
    next => simp
  | cons c text ih =>
    unfold linesFrom
    split
    next h =>
      have hblank : isBlank c := isBlank_of_isLineBreak h
      rw [List.flatMap_cons, ih, List.reverse_nil, List.nil_append, visible_append,
        visible_cons_of_isBlank hblank]
    next => rw [ih, List.reverse_cons, List.append_assoc, List.singleton_append]

theorem not_isLineBreak_of_mem_linesFrom (hline : ∀ c ∈ line, isLineBreak c = false)
    (hm : piece ∈ linesFrom line text) : ∀ c ∈ piece, isLineBreak c = false := by
  induction text generalizing line with
  | nil =>
    unfold linesFrom at hm
    split at hm
    next => simp at hm
    next =>
      obtain rfl := List.mem_singleton.mp hm
      exact fun c hc => hline c (List.mem_reverse.mp hc)
  | cons c text ih =>
    unfold linesFrom at hm
    split at hm
    next =>
      rcases List.mem_cons.mp hm with rfl | hm
      · exact fun c hc => hline c (List.mem_reverse.mp hc)
      · exact ih (by simp) hm
    next h => exact ih (List.forall_mem_cons.mpr ⟨by simpa using h, hline⟩) hm

end Lines

theorem visible_lines (text : String) :
    (lines text).flatMap (fun line => visible line.toList) = visible text.toList := by
  rw [lines, List.flatMap_map]
  simp only [String.toList_ofList]
  rw [visible_linesFrom, List.reverse_nil, List.nil_append, visible_joinReturns]

theorem not_isLineBreak_of_mem_lines {text line : String} (hm : line ∈ lines text) {c : Char}
    (hc : c ∈ line.toList) : isLineBreak c = false := by
  obtain ⟨chars, hchars, rfl⟩ := List.mem_map.mp hm
  rw [String.toList_ofList] at hc
  exact not_isLineBreak_of_mem_linesFrom (by simp) hchars c hc

/-- Lines without the blanks around them, which hold the characters of a text that are not blank, in
their order. -/
structure Conserves (content : String) (texts : List String) : Prop where
  notBlank : ∀ text ∈ texts, allBlank text = false
  trimmed : ∀ text ∈ texts, trim text = text
  unbroken : ∀ text ∈ texts, ∀ c ∈ text.toList, isLineBreak c = false
  conserved : texts.flatMap (fun text => visible text.toList) = visible content.toList

theorem visible_eq_nil_of_allBlank {text : String} (h : allBlank text) :
    visible text.toList = [] :=
  visible_eq_nil_iff.mpr (List.all_eq_true.mp h)

theorem allBlank_trim (text : String) : allBlank (trim text) = allBlank text := by
  rw [Bool.eq_iff_iff, allBlank, allBlank, List.all_eq_true, List.all_eq_true, trim,
    String.toList_ofList, ← visible_eq_nil_iff, ← visible_eq_nil_iff, visible_trimmed]

theorem flatMap_visible_filter (texts : List String) :
    (texts.filter (!allBlank ·)).flatMap (fun text => visible text.toList)
      = texts.flatMap fun text => visible text.toList := by
  induction texts with
  | nil => rfl
  | cons text texts ih =>
    cases h : allBlank text with
    | true =>
      rw [List.filter_cons_of_neg (by simp [h]), List.flatMap_cons, visible_eq_nil_of_allBlank h,
        List.nil_append, ih]
    | false =>
      rw [List.filter_cons_of_pos (by simp [h]), List.flatMap_cons, List.flatMap_cons, ih]

/-- The trimmed lines of a text that are not blank. -/
theorem conserves_trim_lines (content : String) :
    Conserves content (((lines content).filter (!allBlank ·)).map trim) where
  notBlank := by
    intro text hm
    obtain ⟨line, hline, rfl⟩ := List.mem_map.mp hm
    rw [allBlank_trim]
    simpa using (List.mem_filter.mp hline).2
  trimmed := by
    intro text hm
    obtain ⟨line, -, rfl⟩ := List.mem_map.mp hm
    exact trim_trim line
  unbroken := by
    intro text hm c hc
    obtain ⟨line, hline, rfl⟩ := List.mem_map.mp hm
    rw [trim, String.toList_ofList] at hc
    exact not_isLineBreak_of_mem_lines (List.mem_filter.mp hline).1 (mem_of_mem_trimmed hc)
  conserved := by
    rw [List.flatMap_map]
    simp only [trim, String.toList_ofList, visible_trimmed]
    rw [flatMap_visible_filter, visible_lines]

/-- A text without blanks is its only line. -/
theorem conserves_word {word : String} (hne : word ≠ "")
    (hinside : ∀ c ∈ word.toList, isBlank c = false) : Conserves word [word] := by
  have hbare : Bare isBlank word.toList :=
    ⟨fun c hc => hinside c (List.mem_of_mem_head? hc),
      fun c hc => hinside c (List.mem_of_mem_getLast? hc)⟩
  have htrim : trimmed isBlank ([] ++ word.toList ++ []) = word.toList :=
    hbare.trimmed_append (by simp) (by simp)
  rw [List.nil_append, List.append_nil] at htrim
  obtain ⟨c, rest, hc⟩ := List.exists_cons_of_ne_nil (mt String.toList_eq_nil_iff.mp hne)
  constructor
  · simp only [List.mem_singleton, forall_eq, allBlank, List.all_eq_false]
    exact ⟨c, hc ▸ List.mem_cons_self, by simp [hinside c (hc ▸ List.mem_cons_self)]⟩
  · simp only [List.mem_singleton, forall_eq, trim, htrim, String.ofList_toList]
  · simp only [List.mem_singleton, forall_eq]
    intro d hd
    refine Bool.eq_false_iff.mpr fun hbreak => ?_
    have hblank := isBlank_of_isLineBreak hbreak
    rw [hinside d hd] at hblank
    contradiction
  · exact List.flatMap_singleton _ _

end Flowplan.Text
