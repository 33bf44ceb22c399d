import Flowplan.Proofs.Text.Folding

namespace Flowplan.Text

section Runs

variable {separates : Char → Bool}

theorem runsFrom_append {inside : List Char} (h : ∀ c ∈ inside, separates c = false)
    (run rest : List Char) :
    runsFrom separates run (inside ++ rest) = runsFrom separates (inside.reverse ++ run) rest := by
  induction inside generalizing run with
  | nil => rfl
  | cons c inside ih =>
    obtain ⟨hc, hinside⟩ := List.forall_mem_cons.mp h
    rw [List.cons_append, runsFrom, hc, if_neg Bool.false_ne_true, ih hinside]
    simp

/-- A separator ends the runs before it, whatever comes after. -/
theorem runsFrom_separator {c : Char} (hc : separates c = true) (run before after : List Char) :
    runsFrom separates run (before ++ c :: after)
      = runsFrom separates run before ++ runsFrom separates [] after := by
  induction before generalizing run with
  | nil =>
    rw [List.nil_append, runsFrom, runsFrom, if_pos hc]
    split <;> simp
  | cons d before ih =>
    rw [List.cons_append, runsFrom, runsFrom]
    split
    · split <;> simp [ih]
    · exact ih _

theorem infix_of_mem_runsFrom {piece run text : List Char}
    (h : piece ∈ runsFrom separates run text) : piece <:+: run.reverse ++ text := by
  induction text generalizing run with
  | nil =>
    unfold runsFrom at h
    split at h
    · simp at h
    · obtain rfl := List.mem_singleton.mp h
      exact (List.prefix_append _ _).isInfix
  | cons c text ih =>
    have hskip : piece ∈ runsFrom separates [] text → piece <:+: run.reverse ++ c :: text := by
      intro hm
      have hrest : piece <:+: text := by simpa using ih hm
      exact hrest.trans ((List.suffix_cons c text).trans (List.suffix_append _ _)).isInfix
    unfold runsFrom at h
    split at h
    · split at h
      · exact hskip h
      · rcases List.mem_cons.mp h with rfl | hm
        · exact (List.prefix_append _ _).isInfix
        · exact hskip hm
    · simpa using ih h

/-- Replacing the characters of a text, though no separator and none by a separator or by nothing,
replaces those of its runs. -/
theorem runsFrom_flatMap {f : Char → List Char} (nonempty : ∀ c, f c ≠ [])
    (kept : ∀ c, separates c = true → f c = [c])
    (inside : ∀ c, ∀ d ∈ f c, separates d = true → separates c = true) (run text : List Char) :
    runsFrom separates (run.reverse.flatMap f).reverse (text.flatMap f)
      = (runsFrom separates run text).map (·.flatMap f) := by
  -- The run being read is replaced as well, so that the induction goes on within a run.
  have hempty : ∀ run : List Char, (run.reverse.flatMap f).reverse.isEmpty = run.isEmpty := by
    intro run
    cases run with
    | nil => rfl
    | cons c run => simp [nonempty]
  induction text generalizing run with
  | nil =>
    rw [List.flatMap_nil, runsFrom, runsFrom, hempty]
    split <;> simp
  | cons c text ih =>
    rw [List.flatMap_cons]
    cases hc : separates c with
    | true =>
      have hstart : runsFrom separates [] (text.flatMap f)
          = (runsFrom separates [] text).map (·.flatMap f) := ih []
      rw [kept c hc, List.singleton_append, runsFrom, runsFrom, if_pos hc, if_pos hc, hempty,
        hstart]
      split <;> simp
    | false =>
      have hinside : ∀ d ∈ f c, separates d = false := by
        intro d hd
        by_contra hne
        have hsep := inside c d hd (by simpa using hne)
        exact Bool.false_ne_true (hc.symm.trans hsep)
      have hrun : (f c).reverse ++ (run.reverse.flatMap f).reverse
          = ((c :: run).reverse.flatMap f).reverse := by simp
      rw [runsFrom_append hinside, hrun, ih, runsFrom, hc, if_neg Bool.false_ne_true]

end Runs

theorem words_append_blank (a b : String) : words (a ++ " " ++ b) = words a ++ words b := by
  have hchars : (a ++ " " ++ b).toList = a.toList ++ ' ' :: b.toList := by simp
  unfold words
  rw [hchars, runsFrom_separator (by decide), List.map_append]

/-- Folding a text neither joins words nor parts them. -/
theorem words_fold (text : String) : words (fold text) = (words text).map fold := by
  have hruns : runsFrom isBlank [] (text.toList.flatMap foldChar)
      = (runsFrom isBlank [] text.toList).map (·.flatMap foldChar) :=
    runsFrom_flatMap foldChar_ne_nil (fun _ => foldChar_of_isBlank)
      (fun _ _ hd => isBlank_of_mem_foldChar hd) [] text.toList
  unfold words
  rw [toList_fold]
  refine (congrArg (List.map String.ofList) hruns).trans ?_
  rw [List.map_map, List.map_map]
  refine List.map_congr_left fun run _ => ?_
  rw [← String.toList_inj]
  simp [toList_fold]

theorem holds_of_mem_words {text word : String} (h : word ∈ words text) : Holds text word := by
  obtain ⟨run, hrun, rfl⟩ := List.mem_map.mp h
  rw [Holds, String.toList_ofList]
  exact infix_of_mem_runsFrom hrun

end Flowplan.Text
