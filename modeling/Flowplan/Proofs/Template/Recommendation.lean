import Flowplan.Proofs.Number.Sums
import Flowplan.Proofs.Template.Lookup
import Flowplan.Proofs.Template.Search

namespace Flowplan

namespace Template

/-- What a text counts for a template: a hit in the name outweighs one in the description, and that
one a hit in the tags. -/
def weight (template : Template) (text : String) : Nat :=
  (if Text.HoldsFolded template.name text then 3 else 0)
    + (if Text.HoldsFolded template.description text then 2 else 0)
    + (if ∃ tag ∈ template.tags, Text.HoldsFolded tag text then 1 else 0)

theorem keywordScore_fold (template : Template) (text : String) :
    template.keywordScore (Text.fold text) = template.weight text := by
  simp only [keywordScore, weight, nameMentions_fold_iff, descriptionMentions_fold_iff,
    tagMentions_fold_iff]

/-- What the texts that are not blank count together. -/
def relevance (template : Template) (texts : List String) : Nat :=
  ((texts.filter (!Text.allBlank ·)).map template.weight).sum

theorem score_keywords (template : Template) (texts : List String) :
    template.score (texts.filterMap TemplateStore.keyword?) = template.relevance texts := by
  have hkeywords : texts.filterMap TemplateStore.keyword?
      = (texts.filter (!Text.allBlank ·)).map Text.fold := by
    induction texts with
    | nil => rfl
    | cons text rest ih =>
      rw [List.filterMap_cons, TemplateStore.keyword?]
      by_cases h : Text.allBlank text <;> simp [h, ih]
  rw [score, Number.total_eq_sum, relevance, hkeywords, List.map_map]
  exact congrArg List.sum (List.map_congr_left fun text _ => template.keywordScore_fold text)

/-- The order of the texts and the blank ones do not count. -/
theorem relevance_congr {texts others : List String}
    (h : (others.filter (!Text.allBlank ·)).Perm (texts.filter (!Text.allBlank ·)))
    (template : Template) : template.relevance others = template.relevance texts :=
  (h.map template.weight).sum_nat

end Template

namespace TemplateStore

theorem ranked_ranking (store : TemplateStore) (texts : List String) :
    Ranked (Template.relevance · texts) (store.templates.filter (0 < ·.relevance texts))
      (store.ranking (texts.filterMap keyword?)) := by
  have hhits : ((store.templates.map fun template =>
      (template.relevance texts, template)).filter (0 < ·.1))
        = (store.templates.filter (0 < ·.relevance texts)).map fun template =>
          (template.relevance texts, template) := by
    rw [List.filter_map]
    rfl
  have hranking : store.ranking (texts.filterMap keyword?)
      = (store.templates.filter (0 < ·.relevance texts)).mergeSort fun a b =>
        b.relevance texts ≤ a.relevance texts := by
    simp only [ranking, Template.score_keywords, hhits]
    rw [← List.map_mergeSort (f := fun template : Template => (template.relevance texts, template))
      (r := fun a b => decide (b.relevance texts ≤ a.relevance texts)) fun _ _ _ _ => rfl]
    rw [List.map_map]
    exact List.map_id _
  rw [hranking]
  exact ranked_mergeSort (Template.relevance · texts) _

theorem recommend_eq_take (store : TemplateStore) (texts : List String) (limit : Int) :
    store.recommend texts limit
      = (store.ranking (texts.filterMap keyword?)).take (min (max limit 0) 10).toNat := by
  have hcount : min limit.toNat recommendationLimit = (min (max limit 0) 10).toNat := by
    unfold recommendationLimit
    omega
  rw [recommend, hcount]

/-- The recommended templates are the first of the ranking by relevance, ten at most. None that is
left out outranks one that is taken, none is taken twice, a lower limit only cuts the list shorter,
and neither the order of the texts nor blank texts matter. -/
theorem recommend_ranks (loads : List Load) (texts : List String) (limit : Int) :
    let store := afterLoads loads
    let chosen := store.recommend texts limit
    (∃ ranking, Ranked (Template.relevance · texts)
        (store.templates.filter (0 < ·.relevance texts)) ranking ∧
      chosen = ranking.take (min (max limit 0) 10).toNat) ∧
    (∀ template ∈ chosen, ∀ other ∈ store.templates, other ∉ chosen →
      other.relevance texts < template.relevance texts ∨
        other.relevance texts = template.relevance texts ∧
          [template, other].Sublist store.templates) ∧
    chosen.Nodup ∧
    (∀ higher, limit ≤ higher → chosen <+: store.recommend texts higher) ∧
    ∀ others : List String,
      (others.filter (!Text.allBlank ·)).Perm (texts.filter (!Text.allBlank ·)) →
        store.recommend others limit = chosen := by
  intro store chosen
  have hranked := ranked_ranking store texts
  have hchosen : chosen = _ := recommend_eq_take store texts limit
  refine ⟨⟨_, hranked, hchosen⟩, fun template ht other ho hout => ?_, ?_, fun higher hle => ?_,
    fun others hperm => ?_⟩
  · rw [hchosen] at ht hout
    by_cases hhit : 0 < other.relevance texts
    · have hin : other ∈ store.templates.filter (0 < ·.relevance texts) :=
        List.mem_filter.mpr ⟨ho, by simpa using hhit⟩
      refine (hranked.lt_or_later_of_not_mem_take ht hin hout).imp_right fun hlater => ?_
      exact ⟨hlater.1, hlater.2.trans List.filter_sublist⟩
    · have htaken := (List.mem_filter.mp (hranked.mem_iff.mp (List.mem_of_mem_take ht))).2
      exact .inl (by simp only [decide_eq_true_eq] at htaken; omega)
  · rw [hchosen]
    have hnodup : (store.templates.filter (0 < ·.relevance texts)).Nodup :=
      (nodup_templates_afterLoads loads).filter _
    exact (hranked.perm.nodup_iff.mpr hnodup).sublist (List.take_sublist _ _)
  · rw [hchosen, recommend_eq_take]
    exact List.take_prefix_take_left (by omega)
  · have hsame : store.ranking (others.filterMap keyword?)
        = store.ranking (texts.filterMap keyword?) := by
      simp only [ranking, Template.score_keywords, Template.relevance_congr hperm]
    rw [hchosen, recommend_eq_take, hsame]

theorem recommend_ranks_catalog :
    let store := afterLoads [.items (Catalog.templates.map .held)]
    ((["", "CRM", "orders"].filter (!Text.allBlank ·)).Perm
        (["orders", "CRM"].filter (!Text.allBlank ·)) ∧
      store.recommend ["", "CRM", "orders"] 3 = store.recommend ["orders", "CRM"] 3) ∧
    (3 : Int) ≤ 20 ∧
      store.recommend ["orders", "CRM"] 3 <+: store.recommend ["orders", "CRM"] 20 := by
  obtain ⟨-, -, -, hprefix, hothers⟩ :=
    recommend_ranks [.items (Catalog.templates.map .held)] ["orders", "CRM"] 3
  have hperm : (["", "CRM", "orders"].filter (!Text.allBlank ·)).Perm
      (["orders", "CRM"].filter (!Text.allBlank ·)) := by decide +kernel
  exact ⟨⟨hperm, hothers _ hperm⟩, by decide, hprefix 20 (by decide)⟩

end TemplateStore

end Flowplan
