import Mathlib.Data.List.Basic
import Mathlib.Data.List.Perm.Basic

namespace Flowplan

variable {α : Type} {key : α → Nat}

/-- The elements of the list by descending key; those of one key keep their order. -/
structure Ranked (key : α → Nat) (list ranked : List α) : Prop where
  descending : ranked.Pairwise fun a b => key b ≤ key a
  ties : ∀ k, (ranked.filter fun a => key a = k) = list.filter fun a => key a = k

namespace Ranked

variable {list ranked other : List α}

theorem mem_iff (h : Ranked key list ranked) {a : α} : a ∈ ranked ↔ a ∈ list := by
  have hties : a ∈ ranked.filter (fun b => key b = key a)
      ↔ a ∈ list.filter fun b => key b = key a := by rw [h.ties]
  simpa [List.mem_filter] using hties

theorem perm (h : Ranked key list ranked) : ranked.Perm list := by
  classical
  refine List.perm_iff_count.mpr fun a => ?_
  have hcount : ∀ as : List α, as.count a = (as.filter fun b => key b = key a).count a :=
    fun as => (List.count_filter (by simp)).symm
  rw [hcount ranked, hcount list, h.ties]

/-- The head of a ranking has the greatest key. -/
theorem key_le_head {a b : α} {rest : List α} (h : Ranked key list (a :: rest)) (hm : b ∈ list) :
    key b ≤ key a := by
  rcases List.mem_cons.mp (h.mem_iff.mpr hm) with rfl | hr
  · exact Nat.le_refl _
  · exact (List.pairwise_cons.mp h.descending).1 b hr

/-- There is only one ranking of a list. -/
theorem unique (h : Ranked key list ranked) (h' : Ranked key list other) : ranked = other := by
  -- Both heads have the greatest key, and of the elements with that key both are the first.
  induction ranked generalizing list other with
  | nil =>
    have hlist : list = [] := h.perm.nil_eq.symm
    exact (hlist ▸ h'.perm).eq_nil.symm
  | cons a rest ih =>
    cases other with
    | nil =>
      have hlist : list = [] := h'.perm.nil_eq.symm
      exact (hlist ▸ h.perm).eq_nil
    | cons b rest' =>
      have hkey : key a = key b :=
        Nat.le_antisymm (h'.key_le_head (h.mem_iff.mp List.mem_cons_self))
          (h.key_le_head (h'.mem_iff.mp List.mem_cons_self))
      have hfirst := (h.ties (key a)).trans (h'.ties (key a)).symm
      rw [List.filter_cons_of_pos (by simp), List.filter_cons_of_pos (by simp [hkey])] at hfirst
      obtain ⟨rfl, -⟩ := List.cons.inj hfirst
      have hrest : Ranked key rest rest := ⟨(List.pairwise_cons.mp h.descending).2, fun _ => rfl⟩
      have hrest' : Ranked key rest rest' := by
        refine ⟨(List.pairwise_cons.mp h'.descending).2, fun k => ?_⟩
        have hk := (h'.ties k).trans (h.ties k).symm
        by_cases ha : key a = k
        · rw [List.filter_cons_of_pos (by simp [ha]), List.filter_cons_of_pos (by simp [ha])] at hk
          exact (List.cons.inj hk).2
        · rwa [List.filter_cons_of_neg (by simp [ha]), List.filter_cons_of_neg (by simp [ha])] at hk
      rw [ih hrest hrest']

/-- Leaving elements out of a ranking gives the ranking of those that are left. -/
protected theorem filter (h : Ranked key list ranked) (keeps : α → Bool) :
    Ranked key (list.filter keeps) (ranked.filter keeps) := by
  refine ⟨h.descending.sublist List.filter_sublist, fun k => ?_⟩
  rw [List.filter_comm, h.ties, List.filter_comm]

/-- Of two elements with one key the one that stands first in the ranking came first. -/
theorem pair_sublist (h : Ranked key list ranked) {a b : α} (hpair : [a, b].Sublist ranked)
    (hkey : key a = key b) : [a, b].Sublist list := by
  have hfilter := hpair.filter fun c => key c = key b
  rw [h.ties] at hfilter
  simp only [List.filter_cons, hkey, decide_true, if_true, List.filter_nil] at hfilter
  exact hfilter.trans List.filter_sublist

/-- Whatever a cut through a ranking leaves out has a smaller key than what it takes, or the same
key and came later. -/
theorem lt_or_later_of_not_mem_take (h : Ranked key list ranked) {a b : α} {count : Nat}
    (ha : a ∈ ranked.take count) (hb : b ∈ list) (hout : b ∉ ranked.take count) :
    key b < key a ∨ key b = key a ∧ [a, b].Sublist list := by
  have hrest : b ∈ ranked.drop count := by
    have hm := h.mem_iff.mpr hb
    rw [← List.take_append_drop count ranked] at hm
    exact (List.mem_append.mp hm).resolve_left hout
  have hpair : [a, b].Sublist ranked := by
    rw [← List.take_append_drop count ranked]
    exact (List.singleton_sublist.mpr ha).append (List.singleton_sublist.mpr hrest)
  have hle : key b ≤ key a :=
    (List.pairwise_cons.mp (h.descending.sublist hpair)).1 b List.mem_cons_self
  rcases Nat.lt_or_eq_of_le hle with hlt | heq
  · exact .inl hlt
  · exact .inr ⟨heq, h.pair_sublist hpair heq.symm⟩

end Ranked

/-- A stable sort by descending key ranks a list. -/
theorem ranked_mergeSort (key : α → Nat) (list : List α) :
    Ranked key list (list.mergeSort fun a b => key b ≤ key a) := by
  have htrans : ∀ a b c : α, decide (key b ≤ key a) → decide (key c ≤ key b) →
      decide (key c ≤ key a) := by
    simp only [decide_eq_true_eq]
    exact fun a b c hab hbc => Nat.le_trans hbc hab
  have htotal : ∀ a b : α, decide (key b ≤ key a) || decide (key a ≤ key b) := by
    simp only [Bool.or_eq_true, decide_eq_true_eq]
    exact fun a b => Nat.le_total (key b) (key a)
  refine ⟨(List.pairwise_mergeSort htrans htotal list).imp (by simp), fun k => ?_⟩
  have hlevel : (list.filter fun a => key a = k).Pairwise fun a b => decide (key b ≤ key a) := by
    refine List.pairwise_of_forall_mem_list fun a ha b hb => ?_
    have hka : key a = k := by simpa using (List.mem_filter.mp ha).2
    have hkb : key b = k := by simpa using (List.mem_filter.mp hb).2
    simp [hka, hkb]
  -- The elements of one key are sorted already, so the sort keeps them in their order, and it has
  -- no others of that key because it permutes the list.
  have hsublist := List.sublist_mergeSort htrans htotal hlevel List.filter_sublist
  have hfilter := hsublist.filter fun a => key a = k
  rw [List.filter_filter] at hfilter
  simp only [Bool.and_self] at hfilter
  refine (hfilter.eq_of_length ?_).symm
  exact ((List.mergeSort_perm list _).filter _).length_eq.symm

end Flowplan
