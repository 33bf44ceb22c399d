import Flowplan.Text.Blank
import Mathlib.Data.List.DropRight
import Mathlib.Data.List.TakeWhile

namespace Flowplan.Text

/-- Neither the first nor the last character is one of the class. -/
structure Bare (drops : Char → Bool) (chars : List Char) : Prop where
  first : ∀ c ∈ chars.head?, drops c = false
  last : ∀ c ∈ chars.getLast?, drops c = false

section Trimming

variable {drops : Char → Bool} {chars : List Char}

theorem dropWhile_of_head (hne : chars ≠ []) (h : ∀ c ∈ chars.head?, drops c = false)
    (rest : List Char) : (chars ++ rest).dropWhile drops = chars ++ rest := by
  obtain ⟨c, tail, rfl⟩ := List.exists_cons_of_ne_nil hne
  exact List.dropWhile_cons_of_neg (by simp [h c rfl])

theorem Bare.trimmed_append (bare : Bare drops chars) {lead trail : List Char}
    (hlead : ∀ c ∈ lead, drops c) (htrail : ∀ c ∈ trail, drops c) :
    trimmed drops (lead ++ chars ++ trail) = chars := by
  rw [trimmed, List.append_assoc, List.dropWhile_append_of_pos hlead]
  by_cases hne : chars = []
  · subst hne
    rw [List.nil_append, List.dropWhile_eq_nil_iff.mpr htrail]
    rfl
  · have htrail' : ∀ c ∈ trail.reverse, drops c := fun c hc => htrail c (List.mem_reverse.mp hc)
    have hlast : ∀ c ∈ chars.reverse.head?, drops c = false := by
      rw [List.head?_reverse]
      exact bare.last
    have hdrop := dropWhile_of_head (by simpa using hne) hlast []
    rw [List.append_nil] at hdrop
    rw [dropWhile_of_head hne bare.first, List.reverse_append,
      List.dropWhile_append_of_pos htrail', hdrop, List.reverse_reverse]

theorem bare_trimmed (drops : Char → Bool) (chars : List Char) :
    Bare drops (trimmed drops chars) where
  first c hc := by
    obtain ⟨rest, hrest⟩ : trimmed drops chars <+: chars.dropWhile drops :=
      List.rdropWhile_prefix drops _
    have hhead : (chars.dropWhile drops).head? = some c := by
      rw [← hrest, List.head?_append_of_ne_nil _ (List.ne_nil_of_mem (List.mem_of_mem_head? hc))]
      exact hc
    have hnot := List.head?_dropWhile_not drops chars
    rwa [hhead] at hnot
  last c hc := by
    have hnot := List.head?_dropWhile_not drops (chars.dropWhile drops).reverse
    rw [trimmed, List.getLast?_reverse] at hc
    rwa [hc] at hnot

theorem exists_trimmed_append (drops : Char → Bool) (chars : List Char) :
    ∃ lead trail, (∀ c ∈ lead, drops c) ∧ (∀ c ∈ trail, drops c) ∧
      chars = lead ++ trimmed drops chars ++ trail := by
  refine ⟨chars.takeWhile drops, ((chars.dropWhile drops).reverse.takeWhile drops).reverse,
    fun c hc => List.mem_takeWhile_imp hc, fun c hc => ?_, ?_⟩
  · exact List.mem_takeWhile_imp (List.mem_reverse.mp hc)
  · rw [trimmed, List.append_assoc, ← List.reverse_append, List.takeWhile_append_dropWhile,
      List.reverse_reverse, List.takeWhile_append_dropWhile]

end Trimming

end Flowplan.Text
