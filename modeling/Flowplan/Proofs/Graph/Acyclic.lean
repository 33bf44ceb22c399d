import Flowplan.Proofs.Graph.Reachability

namespace Flowplan.Graph

open Relation

section Visit

variable {connections : Connections}

/-- A walk gives up only if a name on the path leads back to itself. -/
theorem exists_cycle_of_visit_eq_none (keyed : Keyed connections) :
    (∀ path done name, (∀ p ∈ path, TransGen (Leads connections) p name) →
      visit connections path done name = none → ∃ a, TransGen (Leads connections) a a) ∧
    (∀ path done names, (∀ p ∈ path, ∀ n ∈ names, TransGen (Leads connections) p n) →
      visitAll connections path done names = none → ∃ a, TransGen (Leads connections) a a) := by
  apply visit.mutual_induct
  case case1 =>
    intro path done name hd _ h
    simp [visit, hd] at h
  case case2 =>
    intro path done name _ hp hpath _
    exact ⟨name, hpath name hp⟩
  case case3 =>
    intro path done name hd hp ih hpath h
    rw [visit, if_neg hd, dif_neg hp, Option.map_eq_none_iff] at h
    refine ih ?_ h
    intro p hm n hn
    have hnext : Leads connections name n := (mem_successors_iff keyed).mp hn
    rcases List.mem_cons.mp hm with rfl | hm
    · exact .single hnext
    · exact .tail (hpath p hm) hnext
  case case4 =>
    intro path done _ h
    simp [visitAll] at h
  case case5 =>
    intro path done name rest after hv _ ih hpath h
    rw [visitAll, hv] at h
    exact ih (fun p hp n hn => hpath p hp n (List.mem_cons_of_mem _ hn)) h
  case case6 =>
    intro path done name rest hv ih hpath _
    exact ih (fun p hp => hpath p hp name List.mem_cons_self) hv

/-- What a walk has done with: nothing outside can be reached from it, and it holds no cycle. -/
structure Settled (connections : Connections) (done : List String) : Prop where
  closed : ∀ a ∈ done, ∀ b, Leads connections a b → b ∈ done
  acyclic : ∀ a ∈ done, ¬TransGen (Leads connections) a a

theorem Settled.mem_of_path {done : List String} (settled : Settled connections done)
    {a b : String} (ha : a ∈ done) (path : ReflTransGen (Leads connections) a b) : b ∈ done := by
  induction path with
  | refl => exact ha
  | tail _ edge ih => exact settled.closed _ ih _ edge

/-- A name outside that leads to settled names only may be settled last. -/
theorem Settled.cons {done : List String} (settled : Settled connections done) {name : String}
    (fresh : name ∉ done) (hnext : ∀ b, Leads connections name b → b ∈ done) :
    Settled connections (name :: done) where
  closed a ha b edge := by
    rcases List.mem_cons.mp ha with rfl | ha
    · exact List.mem_cons_of_mem _ (hnext b edge)
    · exact List.mem_cons_of_mem _ (settled.closed a ha b edge)
  acyclic a ha cycle := by
    rcases List.mem_cons.mp ha with rfl | ha
    · obtain ⟨b, edge, path⟩ := TransGen.head'_iff.mp cycle
      exact fresh (settled.mem_of_path (hnext b edge) path)
    · exact settled.acyclic a ha cycle

/-- A walk that comes to its end has settled what it was to visit, and nothing on the path. -/
theorem settled_of_visit_eq_some (keyed : Keyed connections) :
    (∀ path done name, Settled connections done → (∀ p ∈ path, p ∉ done) →
      ∀ after, visit connections path done name = some after →
        Settled connections after ∧ (∀ p ∈ path, p ∉ after) ∧ done ⊆ after ∧ name ∈ after) ∧
    (∀ path done names, Settled connections done → (∀ p ∈ path, p ∉ done) →
      ∀ after, visitAll connections path done names = some after →
        Settled connections after ∧ (∀ p ∈ path, p ∉ after) ∧ done ⊆ after ∧ names ⊆ after) := by
  apply visit.mutual_induct
  case case1 =>
    intro path done name hd settled hpath after h
    obtain rfl : done = after := by simpa [visit, hd] using h
    exact ⟨settled, hpath, List.Subset.refl _, hd⟩
  case case2 =>
    intro path done name hd hp _ _ after h
    simp [visit, hd, hp] at h
  case case3 =>
    intro path done name hd hp ih settled hpath after h
    rw [visit, if_neg hd, dif_neg hp] at h
    obtain ⟨inner, hi, rfl⟩ := Option.map_eq_some_iff.mp h
    have hout : ∀ p ∈ name :: path, p ∉ done := by
      intro p hm
      rcases List.mem_cons.mp hm with rfl | hm
      · exact hd
      · exact hpath p hm
    obtain ⟨hsettled, hoff, hsub, hnext⟩ := ih settled hout inner hi
    have hfresh : name ∉ inner := hoff name List.mem_cons_self
    refine ⟨hsettled.cons hfresh fun b edge => hnext ((mem_successors_iff keyed).mpr edge), ?_, ?_,
      List.mem_cons_self⟩
    · intro p hm hin
      rcases List.mem_cons.mp hin with rfl | hin
      · exact hp hm
      · exact hoff p (List.mem_cons_of_mem _ hm) hin
    · exact fun a ha => List.mem_cons_of_mem _ (hsub ha)
  case case4 =>
    intro path done settled hpath after h
    obtain rfl : done = after := by simpa [visitAll] using h
    exact ⟨settled, hpath, List.Subset.refl _, List.nil_subset _⟩
  case case5 =>
    intro path done name rest middle hv ihv ih settled hpath after h
    rw [visitAll, hv] at h
    obtain ⟨hsettled, hoff, hsub, hname⟩ := ihv settled hpath middle hv
    obtain ⟨hsettled', hoff', hsub', hrest⟩ := ih hsettled hoff after h
    refine ⟨hsettled', hoff', List.Subset.trans hsub hsub', ?_⟩
    exact List.cons_subset.mpr ⟨hsub' hname, hrest⟩
  case case6 =>
    intro path done name rest hv _ _ _ after h
    simp [visitAll, hv] at h

end Visit

theorem hasCycle_iff {connections : Connections} (keyed : Keyed connections) :
    hasCycle connections = true ↔ ∃ name, TransGen (Leads connections) name name := by
  unfold hasCycle
  rw [Option.isNone_iff_eq_none]
  constructor
  · intro h
    exact (exists_cycle_of_visit_eq_none keyed).2 [] [] _ (by simp) h
  · rintro ⟨name, cycle⟩
    by_contra hne
    obtain ⟨done, hd⟩ := Option.ne_none_iff_exists'.mp hne
    have hempty : Settled connections [] := ⟨by simp, by simp⟩
    obtain ⟨settled, _, _, hall⟩ :=
      (settled_of_visit_eq_some keyed).2 [] [] _ hempty (by simp) done hd
    obtain ⟨b, ⟨edges, hm, _⟩, _⟩ := TransGen.head'_iff.mp cycle
    exact settled.acyclic name (hall (List.mem_map_of_mem (f := (·.1)) hm)) cycle

end Flowplan.Graph
