import Mathlib.Data.List.Basic

namespace Flowplan

/-- No name has two entries. -/
def Keyed {α : Type} (entries : List (String × α)) : Prop :=
  (entries.map (·.1)).Nodup

instance {α : Type} (entries : List (String × α)) : Decidable (Keyed entries) :=
  inferInstanceAs (Decidable (List.Nodup _))

theorem Keyed.lookup_eq_of_mem {α : Type} {entries : List (String × α)} {name : String} {value : α}
    (keyed : Keyed entries) (hm : (name, value) ∈ entries) : entries.lookup name = some value := by
  induction entries with
  | nil => simp at hm
  | cons entry rest ih =>
    obtain ⟨key, first⟩ := entry
    obtain ⟨hkey, hrest⟩ := List.nodup_cons.mp keyed
    rcases List.mem_cons.mp hm with he | hr
    · obtain ⟨rfl, rfl⟩ := Prod.mk.inj he
      simp
    · have hne : name ≠ key := by
        rintro rfl
        exact hkey (List.mem_map_of_mem (f := (·.1)) hr)
      rw [List.lookup_cons, beq_eq_false_iff_ne.mpr hne]
      exact ih hrest hr

theorem mem_of_lookup_eq_some {κ α : Type} [BEq κ] [LawfulBEq κ] {entries : List (κ × α)} {key : κ}
    {value : α} (h : entries.lookup key = some value) : (key, value) ∈ entries := by
  obtain ⟨before, after, he, _⟩ := List.lookup_eq_some_iff.mp h
  simp [he]

end Flowplan
