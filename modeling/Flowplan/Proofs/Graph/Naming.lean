import Flowplan.Graph.Canvas
import Mathlib.Data.List.Nodup
import Mathlib.Data.List.Perm.Subperm

namespace Flowplan.Graph.Canvas

theorem toList_numbered (name : String) (number : Nat) :
    (numbered name number).toList = name.toList ++ ' ' :: Nat.toDigits 10 number := by
  have h : numbered name number = name ++ " " ++ toString number := by
    simp [numbered, ToString.toString, String.append_assoc]
  rw [h]
  simp

/-- The digits of a number give it back. -/
theorem eq_of_toDigits_eq {m n : Nat} (h : Nat.toDigits 10 m = Nat.toDigits 10 n) : m = n := by
  have hv := congrArg (Nat.ofDigitChars 10 · 0) h
  simpa using hv

theorem numbered_injective (name : String) : Function.Injective (numbered name) := by
  intro m n h
  have hl := congrArg String.toList h
  rw [toList_numbered, toList_numbered] at hl
  exact eq_of_toDigits_eq (List.cons.inj (List.append_cancel_left hl)).2

theorem numbered_ne (name : String) (number : Nat) : numbered name number ≠ name := by
  intro h
  have hl := congrArg (fun text => text.toList.length) h
  simp [toList_numbered] at hl

theorem candidates_nodup (name : String) (count : Nat) : (candidates name count).Nodup := by
  unfold candidates
  refine List.nodup_cons.mpr ⟨?_, ?_⟩
  · intro h
    obtain ⟨i, _, hi⟩ := List.mem_map.mp h
    exact numbered_ne name (i + 2) hi
  · refine List.nodup_range.map ?_
    intro i j h
    have := numbered_injective name h
    omega

/-- As many numbered forms as names are taken are enough for one of them, or the name, to be free.
-/
theorem exists_find?_candidates {taken : List String} {count : Nat} (h : taken.length ≤ count)
    (name : String) :
    ∃ free, (candidates name count).find? (fun candidate => candidate ∉ taken) = some free := by
  rw [← Option.isSome_iff_exists, ← Option.ne_none_iff_isSome]
  intro hf
  have hall : candidates name count ⊆ taken := by
    intro candidate hm
    simpa using List.find?_eq_none.mp hf candidate hm
  have hle := ((candidates_nodup name count).subperm hall).length_le
  simp only [candidates, List.length_cons, List.length_map, List.length_range] at hle
  omega

theorem freeName_not_mem (taken : List String) (name : String) : freeName taken name ∉ taken := by
  obtain ⟨free, hfree⟩ := exists_find?_candidates (Nat.le_refl taken.length) name
  rw [freeName, hfree]
  simpa using List.find?_some hfree

theorem taken_add (canvas : Canvas) (draft : Draft) :
    (canvas.add draft).2.taken = (canvas.add draft).1.name :: canvas.taken := rfl

theorem name_add_not_mem (canvas : Canvas) (draft : Draft) :
    (canvas.add draft).1.name ∉ canvas.taken :=
  freeName_not_mem canvas.taken draft.name

theorem taken_addAll (canvas : Canvas) (drafts : List Draft) :
    (canvas.addAll drafts).2.taken
      = ((canvas.addAll drafts).1.map (·.name)).reverse ++ canvas.taken := by
  induction drafts generalizing canvas with
  | nil => rfl
  | cons draft rest ih => simp [addAll, ih, taken_add]

theorem taken_addGroup (canvas : Canvas) (drafts : List Draft) :
    (canvas.addGroup drafts).2.taken
      = ((canvas.addGroup drafts).1.map (·.name)).reverse ++ canvas.taken :=
  taken_addAll canvas drafts

theorem taken_addGroups (canvas : Canvas) (groups : List (List Draft)) :
    (canvas.addGroups groups).2.taken
      = ((canvas.addGroups groups).1.map (·.name)).reverse ++ canvas.taken := by
  induction groups generalizing canvas with
  | nil => rfl
  | cons group rest ih => simp [addGroups, ih, taken_addGroup]

theorem taken_addAll_nodup {canvas : Canvas} (fresh : canvas.taken.Nodup) (drafts : List Draft) :
    (canvas.addAll drafts).2.taken.Nodup := by
  induction drafts generalizing canvas with
  | nil => exact fresh
  | cons draft rest ih =>
    have hadd : (canvas.add draft).2.taken.Nodup :=
      List.nodup_cons.mpr ⟨name_add_not_mem canvas draft, fresh⟩
    exact ih hadd

theorem taken_addGroups_nodup {canvas : Canvas} (fresh : canvas.taken.Nodup)
    (groups : List (List Draft)) : (canvas.addGroups groups).2.taken.Nodup := by
  induction groups generalizing canvas with
  | nil => exact fresh
  | cons group rest ih =>
    have hgroup : (canvas.addGroup group).2.taken.Nodup := taken_addAll_nodup fresh group
    exact ih hgroup

section

variable {α : Type} {f : Node → α} {g : Draft → α}
  (same : ∀ draft id name cursor, f (Draft.node draft id name cursor) = g draft)

include same

/-- What a node has from its draft alone does not depend on the canvas. -/
theorem map_addAll (canvas : Canvas) (drafts : List Draft) :
    (canvas.addAll drafts).1.map f = drafts.map g := by
  induction drafts generalizing canvas with
  | nil => rfl
  | cons draft rest ih =>
    exact congrArg₂ List.cons (same draft _ _ _) (ih (canvas.add draft).2)

theorem map_addGroups (canvas : Canvas) (groups : List (List Draft)) :
    (canvas.addGroups groups).1.map f = groups.flatten.map g := by
  induction groups generalizing canvas with
  | nil => rfl
  | cons group rest ih =>
    have hgroup : (canvas.addGroup group).1.map f = group.map g := map_addAll same canvas group
    simp [addGroups, ih, hgroup]

end

theorem types_addAll (canvas : Canvas) (drafts : List Draft) :
    (canvas.addAll drafts).1.map (·.type) = drafts.map (·.type) :=
  map_addAll (fun _ _ _ _ => rfl) canvas drafts

theorem types_addGroups (canvas : Canvas) (groups : List (List Draft)) :
    (canvas.addGroups groups).1.map (·.type) = groups.flatten.map (·.type) :=
  map_addGroups (fun _ _ _ _ => rfl) canvas groups

end Flowplan.Graph.Canvas
