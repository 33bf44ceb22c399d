import Flowplan.Proofs.Template.Lookup
import Flowplan.Proofs.Template.Search

namespace Flowplan

/-- Copies of some elements are all different exactly if the elements are and none has a second
copy. -/
theorem nodup_flatMap_replicate_iff {α : Type} {copies : α → Nat} {as : List α}
    (distinct : as.Nodup) :
    (as.flatMap fun a => List.replicate (copies a) a).Nodup ↔ ∀ a ∈ as, copies a ≤ 1 := by
  rw [List.nodup_flatMap]
  simp only [List.nodup_replicate]
  refine and_iff_left (distinct.imp fun {a b} hne => ?_)
  intro c ha hb
  exact hne ((List.eq_of_mem_replicate ha).symm.trans (List.eq_of_mem_replicate hb))

namespace TemplateStore

/-- Some template has the tag more than once. -/
def Repeats (store : TemplateStore) (tag : String) : Prop :=
  ∃ template ∈ store.templates, 1 < template.tags.count tag

instance (store : TemplateStore) (tag : String) : Decidable (store.Repeats tag) :=
  inferInstanceAs (Decidable (∃ template ∈ store.templates, _))

theorem not_repeats_iff {store : TemplateStore} {tag : String} :
    ¬store.Repeats tag ↔ ∀ template ∈ store.templates, template.tags.count tag ≤ 1 := by
  simp [Repeats]

/-- A template is filed under a tag once for each time that it has the tag. -/
theorem ofTag_eq_flatMap (loads : List Load) (tag : String) :
    (afterLoads loads).ofTag tag = (afterLoads loads).templates.flatMap fun template =>
      List.replicate (template.tags.count tag) template := by
  obtain ⟨templates, -, he⟩ := exists_afterLoads_eq loads
  rw [he]
  exact Template.Index.get_build _ _ _

theorem mem_ofTag_iff {loads : List Load} {tag : String} {template : Template} :
    template ∈ (afterLoads loads).ofTag tag ↔
      template ∈ (afterLoads loads).templates ∧ tag ∈ template.tags := by
  rw [ofTag_eq_flatMap, List.mem_flatMap]
  constructor
  · rintro ⟨filed, hm, hcopy⟩
    obtain ⟨hcount, rfl⟩ := List.mem_replicate.mp hcopy
    exact ⟨hm, List.count_pos_iff.mp (Nat.pos_of_ne_zero hcount)⟩
  · rintro ⟨hm, htag⟩
    have hcount := List.count_pos_iff.mpr htag
    exact ⟨template, hm, List.mem_replicate.mpr ⟨by omega, rfl⟩⟩

theorem ofTag_of_not_repeats {loads : List Load} {tag : String}
    (once : ¬(afterLoads loads).Repeats tag) :
    (afterLoads loads).ofTag tag
      = (afterLoads loads).templates.filter fun template => tag ∈ template.tags := by
  rw [ofTag_eq_flatMap, flatMap_replicate_eq_filter (not_repeats_iff.mp once)]
  simp only [List.count_pos_iff]

theorem nodup_ofTag_iff {loads : List Load} {tag : String} :
    ((afterLoads loads).ofTag tag).Nodup ↔ ¬(afterLoads loads).Repeats tag := by
  rw [ofTag_eq_flatMap, nodup_flatMap_replicate_iff (nodup_templates_afterLoads loads),
    not_repeats_iff]

theorem nodup_search {store : TemplateStore} (distinct : store.templates.Nodup) (query : String)
    (filters : SearchFilters) : (store.search query filters).Nodup :=
  (ranked_search store query filters).perm.nodup_iff.mpr (distinct.filter _)

/-- The search for all templates that have a tag. -/
def taggedSearch (store : TemplateStore) (tag : String) : List Template :=
  store.search "" { SearchFilters.none with tags := [tag] }

theorem mem_taggedSearch_iff {store : TemplateStore} {tag : String} {template : Template} :
    template ∈ store.taggedSearch tag ↔ template ∈ store.templates ∧ tag ∈ template.tags := by
  have hconditions : { SearchFilters.none with tags := [tag] }.conditions = [.tagged [tag]] := rfl
  rw [taggedSearch, mem_search_iff, Template.Answers, hconditions]
  refine and_congr_right fun _ => ⟨fun h => ?_, fun h => ⟨template.answers_blank.1, ?_⟩⟩
  · obtain ⟨found, hm, he⟩ := h.2 _ (List.mem_singleton_self _)
    rwa [List.mem_singleton.mp he] at hm
  · exact List.forall_mem_singleton.mpr ⟨tag, h, List.mem_singleton_self tag⟩

theorem perm_taggedSearch_iff {loads : List Load} {tag : String} :
    ((afterLoads loads).ofTag tag).Perm ((afterLoads loads).taggedSearch tag) ↔
      ¬(afterLoads loads).Repeats tag := by
  have hsearch : ((afterLoads loads).taggedSearch tag).Nodup :=
    nodup_search (nodup_templates_afterLoads loads) _ _
  rw [← nodup_ofTag_iff]
  refine ⟨fun hperm => hperm.nodup_iff.mpr hsearch, fun hnodup => ?_⟩
  refine (List.perm_ext_iff_of_nodup hnodup hsearch).mpr fun template => ?_
  rw [mem_ofTag_iff, mem_taggedSearch_iff]

/-- Under a tag stand the templates that have it, in their order, each as often as it has the tag.
So the look-up gives each template once, and the same as the search for the tag, exactly if no
template repeats the tag. No other look-up and no search gives a template twice. -/
theorem ofTag_afterLoads (loads : List Load) (tag : String) :
    let store := afterLoads loads
    let tagged := store.templates.filter fun template => tag ∈ template.tags
    store.ofTag tag
        = store.templates.flatMap (fun template =>
          List.replicate (template.tags.count tag) template) ∧
      (∀ template, template ∈ store.ofTag tag ↔ template ∈ store.taggedSearch tag) ∧
      (store.ofTag tag = tagged ↔ ¬store.Repeats tag) ∧
      ((store.ofTag tag).Nodup ↔ ¬store.Repeats tag) ∧
      ((store.ofTag tag).Perm (store.taggedSearch tag) ↔ ¬store.Repeats tag) ∧
      (∀ category, (store.ofCategory category).Nodup) ∧
      (∀ name, (store.ofCategoryNamed name).Nodup) ∧
      (∀ service, (store.ofService service).Nodup) ∧
      ∀ query filters, (store.search query filters).Nodup := by
  intro store tagged
  have distinct : store.templates.Nodup := nodup_templates_afterLoads loads
  have coherent : store.Coherent := coherent_afterLoads loads
  refine ⟨ofTag_eq_flatMap loads tag, fun template => ?_,
    ⟨fun heq => nodup_ofTag_iff.mp (heq ▸ distinct.filter _), ofTag_of_not_repeats⟩,
    nodup_ofTag_iff, perm_taggedSearch_iff, fun category => ?_, fun name => ?_, fun service => ?_,
    nodup_search distinct⟩
  · rw [mem_ofTag_iff, mem_taggedSearch_iff]
  · exact coherent.ofCategory_eq category ▸ distinct.filter _
  · exact coherent.ofCategoryNamed_eq name ▸ distinct.filter _
  · exact coherent.ofService_eq service ▸ distinct.filter _

/-- A record of a template that has one tag twice. -/
def urgentTwice : Json :=
  .obj [
    ("id", .str "orders"),
    ("name", .str "Orders"),
    ("category", .str "e-commerce"),
    ("tags", .arr [.str "urgent", .str "urgent"])]

/-- Not every look-up of a tag gives each template once, as the search for the tag does. -/
theorem ofTag_urgentTwice :
    let store := afterLoads [.records (.arr [urgentTwice])]
    (store.ofTag "urgent").map (·.id) = ["orders", "orders"] ∧
      (store.templates.filter fun template => "urgent" ∈ template.tags).map (·.id) = ["orders"] ∧
      (store.taggedSearch "urgent").map (·.id) = ["orders"] ∧
      ¬(store.ofTag "urgent").Nodup ∧
      ¬(store.ofTag "urgent").Perm (store.taggedSearch "urgent") := by
  intro store
  have repeats : store.Repeats "urgent" := by decide +kernel
  exact ⟨by decide +kernel, by decide +kernel, by decide +kernel,
    fun hnodup => nodup_ofTag_iff.mp hnodup repeats,
    fun hperm => perm_taggedSearch_iff.mp hperm repeats⟩

end TemplateStore

end Flowplan
