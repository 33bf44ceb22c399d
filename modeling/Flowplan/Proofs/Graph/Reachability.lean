import Flowplan.Graph.Search
import Flowplan.Proofs.Entries
import Mathlib.Logic.Relation

namespace Flowplan.Graph

/-- Some edge leads from the first name to the second. -/
def Leads (connections : Connections) (source target : String) : Prop :=
  ∃ edges, (source, edges) ∈ connections ∧ target ∈ edges.map (·.target)

theorem mem_successors_iff {connections : Connections} (keyed : Keyed connections)
    {source target : String} :
    target ∈ successors connections source ↔ Leads connections source target := by
  unfold successors Leads
  constructor
  · intro h
    cases hl : connections.lookup source with
    | none => simp [hl] at h
    | some edges =>
      rw [hl, Option.getD_some] at h
      exact ⟨edges, mem_of_lookup_eq_some hl, h⟩
  · rintro ⟨edges, hm, ht⟩
    rwa [keyed.lookup_eq_of_mem hm, Option.getD_some]

open Relation

/-- A search meets the names that it starts from, and then only what they lead to. -/
theorem reachFrom_sound (connections : Connections) (seen pending : List String) {name : String}
    (h : name ∈ reachFrom connections seen pending) :
    name ∈ seen ∨ ∃ start ∈ pending,
      ReflTransGen (fun a b => b ∈ successors connections a) start name := by
  fun_induction reachFrom connections seen pending with
  | case1 seen => exact .inl h
  | case2 seen first pending hs ih =>
    rcases ih h with hseen | ⟨start, hm, path⟩
    · exact .inl hseen
    · exact .inr ⟨start, List.mem_cons_of_mem _ hm, path⟩
  | case3 seen first pending hs ih =>
    rcases ih h with hseen | ⟨start, hm, path⟩
    · rcases List.mem_cons.mp hseen with rfl | hold
      · exact .inr ⟨name, List.mem_cons_self, .refl⟩
      · exact .inl hold
    · rcases List.mem_append.mp hm with hnext | hold
      · exact .inr ⟨first, List.mem_cons_self, .head hnext path⟩
      · exact .inr ⟨start, List.mem_cons_of_mem _ hold, path⟩

/-- A search keeps what it has seen and meets all that is pending. If whatever the names seen lead
to is seen or pending, the names met in the end are closed under the edges. -/
theorem reachFrom_closed (connections : Connections) (seen pending : List String)
    (covered : ∀ a ∈ seen, ∀ b ∈ successors connections a, b ∈ seen ∨ b ∈ pending) :
    (∀ a, a ∈ seen ∨ a ∈ pending → a ∈ reachFrom connections seen pending) ∧
      ∀ a ∈ reachFrom connections seen pending, ∀ b ∈ successors connections a,
        b ∈ reachFrom connections seen pending := by
  fun_induction reachFrom connections seen pending with
  | case1 seen =>
    have hseen : ∀ a ∈ seen, ∀ b ∈ successors connections a, b ∈ seen := fun a ha b hb =>
      (covered a ha b hb).resolve_right (by simp)
    exact ⟨fun a ha => ha.resolve_right (by simp), hseen⟩
  | case2 seen first pending hs ih =>
    have hcov : ∀ a ∈ seen, ∀ b ∈ successors connections a, b ∈ seen ∨ b ∈ pending := by
      intro a ha b hb
      rcases covered a ha b hb with hseen | hp
      · exact .inl hseen
      · rcases List.mem_cons.mp hp with rfl | hp
        · exact .inl hs
        · exact .inr hp
    obtain ⟨hall, hclosed⟩ := ih hcov
    refine ⟨fun a ha => ?_, hclosed⟩
    rcases ha with ha | ha
    · exact hall a (.inl ha)
    · rcases List.mem_cons.mp ha with rfl | ha
      · exact hall a (.inl hs)
      · exact hall a (.inr ha)
  | case3 seen first pending hs ih =>
    have hcov : ∀ a ∈ first :: seen, ∀ b ∈ successors connections a,
        b ∈ first :: seen ∨ b ∈ successors connections first ++ pending := by
      intro a ha b hb
      rcases List.mem_cons.mp ha with rfl | ha
      · exact .inr (List.mem_append_left _ hb)
      · rcases covered a ha b hb with hseen | hp
        · exact .inl (List.mem_cons_of_mem _ hseen)
        · rcases List.mem_cons.mp hp with rfl | hp
          · exact .inl List.mem_cons_self
          · exact .inr (List.mem_append_right _ hp)
    obtain ⟨hall, hclosed⟩ := ih hcov
    refine ⟨fun a ha => hall a ?_, hclosed⟩
    rcases ha with ha | ha
    · exact .inl (List.mem_cons_of_mem _ ha)
    · rcases List.mem_cons.mp ha with rfl | ha
      · exact .inl List.mem_cons_self
      · exact .inr (List.mem_append_right _ ha)

theorem mem_reachable_iff_path (connections : Connections) {start name : String} :
    name ∈ reachable connections start
      ↔ ReflTransGen (fun a b => b ∈ successors connections a) start name := by
  constructor
  · intro h
    rcases reachFrom_sound connections [] [start] h with hseen | ⟨first, hm, path⟩
    · simp at hseen
    · rwa [List.mem_singleton.mp hm] at path
  · intro path
    obtain ⟨hall, hclosed⟩ := reachFrom_closed connections [] [start] (by simp)
    induction path with
    | refl => exact hall start (.inr List.mem_cons_self)
    | tail _ edge ih => exact hclosed _ ih _ edge

theorem mem_reachable_iff {connections : Connections} (keyed : Keyed connections)
    {start name : String} :
    name ∈ reachable connections start ↔ ReflTransGen (Leads connections) start name := by
  have hstep : (fun a b => b ∈ successors connections a) = Leads connections := by
    funext a b
    exact propext (mem_successors_iff keyed)
  rw [mem_reachable_iff_path, hstep]

end Flowplan.Graph
