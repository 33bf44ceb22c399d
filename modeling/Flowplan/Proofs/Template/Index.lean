import Flowplan.Template.Store
import Mathlib.Data.List.Induction
import Mathlib.Data.List.Nodup

namespace Flowplan

/-- One more element changes the list without repetitions only if it is new. -/
theorem eraseDups_append_singleton {α : Type} [DecidableEq α] (as : List α) (a : α) :
    (as ++ [a]).eraseDups = if a ∈ as.eraseDups then as.eraseDups else as.eraseDups ++ [a] := by
  rw [List.eraseDups_append]
  by_cases h : a ∈ as
  · simp [List.removeAll, h]
  · simp [List.removeAll, h, List.eraseDups_cons]

theorem nodup_eraseDups {α : Type} [DecidableEq α] (as : List α) : as.eraseDups.Nodup := by
  induction as using List.reverseRecOn with
  | nil => exact List.nodup_nil
  | append_singleton as a ih =>
    rw [eraseDups_append_singleton]
    split
    · exact ih
    next h => exact ih.append (List.nodup_singleton a) (by simpa using h)

/-- What is filed under keys of its own is all there, in the order of the keys. -/
theorem flatMap_filter_perm {α β : Type} [DecidableEq β] (f : α → β) {keys : List β}
    (distinct : keys.Nodup) {as : List α} (filed : ∀ a ∈ as, f a ∈ keys) :
    (keys.flatMap fun key => as.filter fun a => f a = key).Perm as := by
  induction keys generalizing as with
  | nil =>
    have hnil : as = [] := List.eq_nil_iff_forall_not_mem.mpr fun a ha => by simpa using filed a ha
    simp [hnil]
  | cons key rest ih =>
    obtain ⟨hkey, hrest⟩ := List.nodup_cons.mp distinct
    have hothers : (rest.flatMap fun k => as.filter fun a => f a = k)
        = rest.flatMap fun k =>
          (as.filter fun a => !decide (f a = key)).filter fun a => f a = k := by
      refine List.flatMap_congr fun k hk => ?_
      rw [List.filter_filter]
      refine List.filter_congr fun a _ => ?_
      by_cases ha : f a = k
      · have hne : f a ≠ key := fun he => hkey (he ▸ ha ▸ hk)
        simp [ha, ha ▸ hne]
      · simp [ha]
    have hleft : ∀ a ∈ as.filter fun a => !decide (f a = key), f a ∈ rest := by
      intro a ha
      obtain ⟨hm, hne⟩ := List.mem_filter.mp ha
      exact (List.mem_cons.mp (filed a hm)).resolve_left (by simpa using hne)
    rw [List.flatMap_cons, hothers]
    exact ((ih hrest hleft).append_left _).trans (List.filter_append_perm _ _)

/-- Copies of some elements are the elements that have one if none has a second. -/
theorem flatMap_replicate_eq_filter {α : Type} {copies : α → Nat} {as : List α}
    (once : ∀ a ∈ as, copies a ≤ 1) :
    (as.flatMap fun a => List.replicate (copies a) a) = as.filter fun a => 0 < copies a := by
  induction as with
  | nil => rfl
  | cons a rest ih =>
    obtain ⟨ha, hrest⟩ := List.forall_mem_cons.mp once
    rw [List.flatMap_cons, ih hrest]
    rcases Nat.le_one_iff_eq_zero_or_eq_one.mp ha with hnone | hone
    · simp [hnone]
    · simp [hone]

namespace Template.Index

variable {κ : Type} [DecidableEq κ]

theorem get_cons (key k : κ) (templates : List Template) (rest : Index κ) :
    get ((key, templates) :: rest) k = if k = key then templates else rest.get k := by
  unfold get
  rw [List.lookup_cons]
  by_cases h : k = key
  · simp [h]
  · rw [beq_eq_false_iff_ne.mpr h, if_neg h]

theorem get_add (index : Index κ) (key k : κ) (template : Template) :
    (index.add key template).get k
      = index.get k ++ if k = key then [template] else [] := by
  induction index with
  | nil => exact get_cons key k [template] []
  | cons entry rest ih =>
    obtain ⟨first, templates⟩ := entry
    unfold add
    by_cases hf : first = key
    · subst hf
      rw [if_pos rfl, get_cons, get_cons]
      by_cases hk : k = first <;> simp [hk]
    · rw [if_neg hf, get_cons, get_cons, ih]
      by_cases hk : k = first
      · simp [hk, hf]
      · simp [hk]

/-- A template that is filed several times under one key is found as often. -/
theorem get_addAll (index : Index κ) (keys : List κ) (k : κ) (template : Template) :
    (keys.foldl (fun index key => index.add key template) index).get k
      = index.get k ++ List.replicate (keys.count k) template := by
  induction keys generalizing index with
  | nil => simp
  | cons key rest ih =>
    rw [List.foldl_cons, ih, get_add, List.append_assoc, List.count_cons]
    by_cases h : k = key
    · simp [h, List.replicate_succ]
    · simp [h, Ne.symm h]

theorem get_build (keys : Template → List κ) (templates : List Template) (k : κ) :
    (build keys templates).get k
      = templates.flatMap fun template => List.replicate ((keys template).count k) template := by
  have hfold : ∀ index : Index κ,
      (templates.foldl (fun index template =>
        (keys template).foldl (fun index key => index.add key template) index) index).get k
        = index.get k
          ++ templates.flatMap fun template =>
            List.replicate ((keys template).count k) template := by
    induction templates with
    | nil => simp
    | cons template rest ih =>
      intro index
      rw [List.foldl_cons, ih, get_addAll, List.append_assoc, List.flatMap_cons]
  exact hfold []

/-- Where no template has a key twice, those with a key are found in their order, each once. -/
theorem get_build_of_nodup {keys : Template → List κ} (distinct : ∀ template, (keys template).Nodup)
    (templates : List Template) (k : κ) :
    (build keys templates).get k = templates.filter fun template => k ∈ keys template := by
  have once : ∀ template ∈ templates, (keys template).count k ≤ 1 :=
    fun template _ => List.nodup_iff_count_le_one.mp (distinct template) k
  rw [get_build, flatMap_replicate_eq_filter once]
  simp only [List.count_pos_iff]

theorem keys_add {index : Index κ} {seen : List κ} (h : index.map (·.1) = seen.eraseDups)
    (key : κ) (template : Template) :
    (index.add key template).map (·.1) = (seen ++ [key]).eraseDups := by
  have hadd : (index.add key template).map (·.1)
      = if key ∈ index.map (·.1) then index.map (·.1) else index.map (·.1) ++ [key] := by
    clear h
    induction index with
    | nil => rfl
    | cons entry rest ih =>
      obtain ⟨first, templates⟩ := entry
      unfold add
      by_cases hf : first = key
      · simp [hf]
      · rw [if_neg hf, List.map_cons, ih]
        by_cases hr : key ∈ rest.map (·.1)
        · simp [hr]
        · simp [hr, Ne.symm hf]
  rw [hadd, h, eraseDups_append_singleton]

theorem keys_addAll {index : Index κ} {seen : List κ} (h : index.map (·.1) = seen.eraseDups)
    (keys : List κ) (template : Template) :
    (keys.foldl (fun index key => index.add key template) index).map (·.1)
      = (seen ++ keys).eraseDups := by
  induction keys generalizing index seen with
  | nil => simpa using h
  | cons key rest ih => simpa using ih (keys_add h key template)

theorem keys_build (keys : Template → List κ) (templates : List Template) :
    (build keys templates).map (·.1) = (templates.flatMap keys).eraseDups := by
  have hfold : ∀ (index : Index κ) (seen : List κ), index.map (·.1) = seen.eraseDups →
      (templates.foldl (fun index template =>
        (keys template).foldl (fun index key => index.add key template) index) index).map (·.1)
        = (seen ++ templates.flatMap keys).eraseDups := by
    induction templates with
    | nil => simp
    | cons template rest ih =>
      intro index seen h
      simpa using ih _ _ (keys_addAll h (keys template) template)
  exact hfold [] [] rfl

end Template.Index

end Flowplan
