import Flowplan.Proofs.Graph.Naming
import Mathlib.Order.Bounds.Basic

namespace Flowplan.Graph.Canvas

/-- The name itself unless it is taken, and else its numbered form with the least number from two on
that makes it free. -/
def FirstFree (taken : List String) (name free : String) : Prop :=
  (name ∉ taken ∧ free = name) ∨
    (name ∈ taken ∧ ∃ number,
      IsLeast {n | 2 ≤ n ∧ numbered name n ∉ taken} number ∧ free = numbered name number)

theorem FirstFree.unique {taken : List String} {name free other : String}
    (h : FirstFree taken name free) (h' : FirstFree taken name other) : free = other := by
  rcases h with ⟨hm, rfl⟩ | ⟨hm, number, least, rfl⟩
  · rcases h' with ⟨-, rfl⟩ | ⟨hm', -⟩
    · rfl
    · exact absurd hm' hm
  · rcases h' with ⟨hm', -⟩ | ⟨-, number', least', rfl⟩
    · exact absurd hm hm'
    · rw [least.unique least']

theorem firstFree_of_find? {taken : List String} {name free : String} {count : Nat}
    (h : (candidates name count).find? (fun candidate => candidate ∉ taken) = some free) :
    FirstFree taken name free := by
  by_cases hm : name ∈ taken
  · rw [candidates, List.find?_cons_of_neg (by simpa using hm), List.find?_map] at h
    obtain ⟨i, hi, rfl⟩ := Option.map_eq_some_iff.mp h
    obtain ⟨hfree, -, hlower⟩ := List.find?_range_eq_some.mp hi
    refine .inr ⟨hm, i + 2, ⟨⟨by omega, by simpa using hfree⟩, ?_⟩, rfl⟩
    -- A smaller number would have been tried before.
    rintro number ⟨htwo, hnumber⟩
    by_contra hlt
    have htaken := hlower (number - 2) (by omega)
    rw [Function.comp_apply, Nat.sub_add_cancel htwo] at htaken
    simp [hnumber] at htaken
  · rw [candidates, List.find?_cons_of_pos (by simpa using hm)] at h
    exact .inl ⟨hm, (Option.some.inj h).symm⟩

theorem firstFree_freeName (taken : List String) (name : String) :
    FirstFree taken name (freeName taken name) := by
  obtain ⟨free, hfree⟩ := exists_find?_candidates (Nat.le_refl taken.length) name
  rw [freeName, hfree, Option.getD_some]
  exact firstFree_of_find? hfree

/-- Tries a candidate, and then the numbered forms of the name from a number on, until one is free.
There is no answer if more than so many turns are needed. -/
def seek (taken : List String) (name : String) (turns : Nat) (candidate : String)
    (suffix : Nat) : Option String :=
  if candidate ∉ taken then some candidate
  else match turns with
  | 0 => none
  | turns + 1 => seek taken name turns (numbered name suffix) (suffix + 1)

theorem seek_eq_find? (taken : List String) (name : String) (turns : Nat) (candidate : String)
    (suffix : Nat) :
    seek taken name turns candidate suffix
      = (candidate :: (List.range' suffix turns).map (numbered name)).find?
        (fun candidate => candidate ∉ taken) := by
  induction turns generalizing candidate suffix with
  | zero =>
    by_cases hm : candidate ∈ taken <;> simp [seek, hm]
  | succ turns ih =>
    by_cases hm : candidate ∈ taken
    · rw [List.range'_succ, List.map_cons, List.find?_cons_of_neg (by simpa using hm), seek,
        if_neg (not_not_intro hm), ih]
    · rw [seek, if_pos hm, List.find?_cons_of_pos (by simpa using hm)]

/-- A search for a free name: the loop comes to an end with that name, and with no other. -/
structure Seeks (taken : List String) (name free : String) : Prop where
  ends : ∀ turns ≥ taken.length, seek taken name turns name 2 = some free
  exact : ∀ turns answer, seek taken name turns name 2 = some answer → answer = free
  first : FirstFree taken name free

theorem seeks_freeName (taken : List String) (name : String) :
    Seeks taken name (freeName taken name) := by
  have hfirst := firstFree_freeName taken name
  have hseek : ∀ turns, seek taken name turns name 2
      = (candidates name turns).find? (fun candidate => candidate ∉ taken) := by
    intro turns
    rw [seek_eq_find?, candidates, List.range'_eq_map_range, List.map_map]
    simp only [Function.comp_def, Nat.add_comm 2]
  refine ⟨fun turns h => ?_, fun turns answer h => ?_, hfirst⟩
  · obtain ⟨free, hfree⟩ := exists_find?_candidates h name
    rw [hseek, hfree, (firstFree_of_find? hfree).unique hfirst]
  · rw [hseek] at h
    exact (firstFree_of_find? h).unique hfirst

end Flowplan.Graph.Canvas
