import Flowplan.Proofs.Ranking
import Flowplan.Proofs.Text.Splitting
import Flowplan.Template.Catalog
import Flowplan.Template.Search

namespace Flowplan

namespace SearchFilters

/-- A condition that filters set. -/
inductive Condition where
  | category (category : Template.Category)
  | difficulty (difficulty : Template.Difficulty)
  | tagged (tags : List String)
  | service (name : String)

/-- One of the tags is enough, and services are compared without regard to case. -/
def Condition.Meets (template : Template) : Condition → Prop
  | .category wanted => template.category = wanted
  | .difficulty wanted => template.difficulty = wanted
  | .tagged tags => ∃ tag ∈ template.tags, tag ∈ tags
  | .service name => ∃ service ∈ template.services, Text.fold service.name = Text.fold name

def conditions (filters : SearchFilters) : List Condition :=
  (filters.category.map .category).toList ++ (filters.difficulty.map .difficulty).toList
    ++ (if filters.tags = [] then [] else [.tagged filters.tags])
    ++ ((filters.service.filter (· ≠ "")).map .service).toList

theorem admits_iff {filters : SearchFilters} {template : Template} :
    filters.admits template ↔ ∀ condition ∈ filters.conditions, condition.Meets template := by
  obtain ⟨category, difficulty, tags, service⟩ := filters
  have hcategory : category.all (template.category = ·)
      ↔ ∀ condition ∈ (category.map Condition.category).toList, condition.Meets template := by
    cases category <;> simp [Condition.Meets]
  have hdifficulty : difficulty.all (template.difficulty = ·)
      ↔ ∀ condition ∈ (difficulty.map Condition.difficulty).toList, condition.Meets template := by
    cases difficulty <;> simp [Condition.Meets]
  have htags : (tags.isEmpty || template.tags.any (· ∈ tags)) ↔
      ∀ condition ∈ if tags = [] then [] else [Condition.tagged tags],
        condition.Meets template := by
    by_cases h : tags = [] <;> simp [h, Condition.Meets]
  have hservice : (service.all fun name => name.isEmpty
        || template.services.any fun s => Text.fold s.name = Text.fold name) ↔
      ∀ condition ∈ ((service.filter (· ≠ "")).map Condition.service).toList,
        condition.Meets template := by
    cases service with
    | none => simp
    | some name => by_cases h : name = "" <;> simp [h, Condition.Meets, Option.filter]
  simp only [admits, conditions, Bool.and_eq_true, List.forall_mem_append, hcategory, hdifficulty,
    htags, hservice]

end SearchFilters

namespace Template

/-- The word stands in the name, the description or a tag, whatever its case. -/
def Mentions (template : Template) (word : String) : Prop :=
  Text.HoldsFolded template.name word ∨ Text.HoldsFolded template.description word ∨
    ∃ tag ∈ template.tags, Text.HoldsFolded tag word

instance (template : Template) (word : String) : Decidable (template.Mentions word) :=
  inferInstanceAs (Decidable (_ ∨ _ ∨ _))

theorem nameMentions_fold_iff {template : Template} {word : String} :
    template.nameMentions (Text.fold word) ↔ Text.HoldsFolded template.name word :=
  Text.mentions_iff

theorem descriptionMentions_fold_iff {template : Template} {word : String} :
    template.descriptionMentions (Text.fold word) ↔ Text.HoldsFolded template.description word :=
  Text.mentions_iff

theorem tagMentions_fold_iff {template : Template} {word : String} :
    template.tagMentions (Text.fold word) ↔ ∃ tag ∈ template.tags, Text.HoldsFolded tag word := by
  simp [tagMentions, Text.mentions_iff, Text.HoldsFolded]

theorem matchesWord_fold_iff {template : Template} {word : String} :
    template.matchesWord (Text.fold word) ↔ template.Mentions word := by
  simp only [matchesWord, Bool.or_eq_true, nameMentions_fold_iff, descriptionMentions_fold_iff,
    tagMentions_fold_iff, Mentions, or_assoc]

theorem mentions_fold_iff {template : Template} {word : String} :
    template.Mentions (Text.fold word) ↔ template.Mentions word := by
  simp only [Mentions, Text.HoldsFolded, Text.fold_fold]

/-- The template is what the query and the filters ask for. -/
def Answers (template : Template) (query : String) (filters : SearchFilters) : Prop :=
  (∀ word ∈ Text.words query, template.Mentions word) ∧
    ∀ condition ∈ filters.conditions, condition.Meets template

theorem answers_blank (template : Template) : template.Answers "" .none :=
  ⟨by simp [Text.words, Text.runsFrom], by simp [SearchFilters.conditions, SearchFilters.none]⟩

theorem answers_append_iff {template : Template} {query other : String} {filters : SearchFilters} :
    template.Answers (query ++ " " ++ other) filters ↔
      template.Answers query filters ∧ template.Answers other filters := by
  unfold Answers
  rw [Text.words_append_blank, List.forall_mem_append]
  tauto

end Template

/-- The other text has the words of the text, in any order and number, as they are or folded. -/
def Text.Rewords (text other : String) : Prop :=
  (∀ word ∈ words other, ∃ own ∈ words text, word = own ∨ word = fold own) ∧
    ∀ own ∈ words text, ∃ word ∈ words other, word = own ∨ word = fold own

instance (text other : String) : Decidable (Text.Rewords text other) :=
  inferInstanceAs (Decidable (_ ∧ _))

theorem Text.rewords_fold (text : String) : Text.Rewords text (Text.fold text) := by
  unfold Rewords
  rw [words_fold]
  constructor
  · intro word hm
    obtain ⟨own, hown, rfl⟩ := List.mem_map.mp hm
    exact ⟨own, hown, .inr rfl⟩
  · exact fun own hown => ⟨_, List.mem_map_of_mem hown, .inr rfl⟩

theorem Template.answers_iff_of_rewords {template : Template} {query other : String}
    {filters : SearchFilters} (h : Text.Rewords query other) :
    template.Answers other filters ↔ template.Answers query filters := by
  have hword : ∀ {word own : String}, word = own ∨ word = Text.fold own →
      (template.Mentions word ↔ template.Mentions own) := by
    rintro word own (rfl | rfl)
    · exact Iff.rfl
    · exact mentions_fold_iff
  refine and_congr_left fun _ => ⟨fun hall own hown => ?_, fun hall word hm => ?_⟩
  · obtain ⟨word, hm, he⟩ := h.2 own hown
    exact (hword he).mp (hall word hm)
  · obtain ⟨own, hown, he⟩ := h.1 word hm
    exact (hword he).mpr (hall own hown)

namespace TemplateStore

theorem ranked_search (store : TemplateStore) (query : String) (filters : SearchFilters) :
    Ranked (·.popularity) (store.templates.filter fun template =>
      (Text.words (Text.fold query)).all template.matchesWord && filters.admits template)
      (store.search query filters) :=
  ranked_mergeSort _ _

theorem found_iff {template : Template} {query : String} {filters : SearchFilters} :
    ((Text.words (Text.fold query)).all template.matchesWord && filters.admits template) ↔
      template.Answers query filters := by
  rw [Text.words_fold, Bool.and_eq_true, SearchFilters.admits_iff, List.all_map, List.all_eq_true]
  simp only [Function.comp, Template.matchesWord_fold_iff, Template.Answers]

theorem mem_search_iff {store : TemplateStore} {template : Template} {query : String}
    {filters : SearchFilters} :
    template ∈ store.search query filters ↔
      template ∈ store.templates ∧ template.Answers query filters := by
  rw [(ranked_search store query filters).mem_iff, List.mem_filter, found_iff]

/-- A search that asks for what another one does and for something more is a part of it. -/
theorem search_eq_filter {store : TemplateStore} {query other : String}
    {filters fewer : SearchFilters} {more : Template → Bool}
    (h : ∀ template ∈ store.templates,
      template.Answers query filters ↔ template.Answers other fewer ∧ more template) :
    store.search query filters = (store.search other fewer).filter more := by
  have hranked := (ranked_search store other fewer).filter more
  rw [List.filter_filter] at hranked
  refine Ranked.unique (ranked_search store query filters) ?_
  convert hranked using 1
  refine List.filter_congr fun template hm => ?_
  rw [Bool.eq_iff_iff, found_iff, Bool.and_eq_true, found_iff, h template hm, and_comm]

/-- A search is a part of another one if whatever answers it answers the other. -/
theorem search_sublist {store : TemplateStore} {query other : String}
    {filters fewer : SearchFilters}
    (h : ∀ template : Template, template.Answers query filters → template.Answers other fewer) :
    (store.search query filters).Sublist (store.search other fewer) := by
  -- A search is a filter of any wider one: by what it finds itself.
  have heq : store.search query filters
      = (store.search other fewer).filter (· ∈ store.search query filters) := by
    refine search_eq_filter fun template hm => ?_
    rw [decide_eq_true_eq, mem_search_iff]
    exact ⟨fun hans => ⟨h template hans, hm, hans⟩, fun hboth => hboth.2.2⟩
  rw [heq]
  exact List.filter_sublist

theorem search_congr {store : TemplateStore} {query other : String} {filters : SearchFilters}
    (h : ∀ template : Template, template.Answers other filters ↔ template.Answers query filters) :
    store.search other filters = store.search query filters := by
  have heq : store.search other filters = (store.search query filters).filter fun _ => true :=
    search_eq_filter fun template _ => by simpa using h template
  rw [heq, List.filter_true]

/-- A search for two queries at once finds what both find. -/
theorem search_append (store : TemplateStore) (query other : String) (filters : SearchFilters) :
    store.search (query ++ " " ++ other) filters
      = (store.search query filters).filter (· ∈ store.search other filters) := by
  refine search_eq_filter fun template hm => ?_
  rw [Template.answers_append_iff, decide_eq_true_eq, mem_search_iff]
  exact and_congr_right fun _ => (and_iff_right hm).symm

/-- A search finds the templates that answer it. Every word of the query and every condition narrows
it and keeps its order, from the search for nothing in particular on, which gives all templates, the
most popular first. Which words there are is all that matters of the query, not their order, number
or case. -/
theorem search_narrows (store : TemplateStore) :
    (∀ query filters template, template ∈ store.search query filters ↔
      template ∈ store.templates ∧ template.Answers query filters) ∧
    (∀ query other filters,
      store.search (query ++ " " ++ other) filters
        = (store.search query filters).filter (· ∈ store.search other filters) ∧
      store.search (query ++ " " ++ other) filters
        = (store.search other filters).filter (· ∈ store.search query filters)) ∧
    Ranked (·.popularity) store.templates (store.search "" .none) ∧
    (∀ query filters, (store.search query filters).Sublist (store.search "" .none)) ∧
    (∀ query (filters narrower : SearchFilters), filters.conditions ⊆ narrower.conditions →
      (store.search query narrower).Sublist (store.search query filters)) ∧
    (∀ query other filters, Text.Rewords query other →
      store.search other filters = store.search query filters) ∧
    ∀ query filters, store.search (Text.fold query) filters = store.search query filters := by
  refine ⟨fun query filters template => mem_search_iff,
    fun query other filters => ⟨search_append store query other filters, ?_⟩, ?_,
    fun query filters => ?_, fun query filters narrower hadded => ?_,
    fun query other filters rewords => ?_, fun query filters => ?_⟩
  · rw [← search_append store other query filters]
    refine search_congr fun template => ?_
    rw [Template.answers_append_iff, Template.answers_append_iff, and_comm]
  · have hall : (store.templates.filter fun template =>
        (Text.words (Text.fold "")).all template.matchesWord
          && SearchFilters.none.admits template) = store.templates :=
      List.filter_eq_self.mpr fun template _ => found_iff.mpr template.answers_blank
    have hranked := ranked_search store "" .none
    rwa [hall] at hranked
  · exact search_sublist fun template _ => template.answers_blank
  · exact search_sublist fun template hans =>
      ⟨hans.1, fun condition hm => hans.2 condition (hadded hm)⟩
  · exact search_congr fun template => Template.answers_iff_of_rewords rewords
  · exact search_congr fun template =>
      Template.answers_iff_of_rewords (Text.rewords_fold query)

theorem search_narrows_stripeOrders :
    (Text.Rewords "Stripe ORDERS" "orders Stripe orders" ∧
      standard.search "orders Stripe orders" .none = standard.search "Stripe ORDERS" .none) ∧
    SearchFilters.none.conditions ⊆ { SearchFilters.none with tags := ["orders"] }.conditions ∧
      (standard.search "stripe" { SearchFilters.none with tags := ["orders"] }).Sublist
        (standard.search "stripe" .none) := by
  obtain ⟨-, -, -, -, hconditions, hrewords, -⟩ := search_narrows standard
  have rewords : Text.Rewords "Stripe ORDERS" "orders Stripe orders" := by decide +kernel
  exact ⟨⟨rewords, hrewords _ _ _ rewords⟩, List.nil_subset _,
    hconditions _ _ _ (List.nil_subset _)⟩

/-- A template that is held is found by exactly those queries whose words it all mentions, so it is
found by its own name and by its own description. -/
theorem mem_search_of_mentions {store : TemplateStore} {template : Template}
    (held : template ∈ store.templates) :
    (∀ query, template ∈ store.search query .none ↔
      ∀ word ∈ Text.words query, template.Mentions word) ∧
    template ∈ store.search template.name .none ∧
    template ∈ store.search template.description .none := by
  have hsearch : ∀ query, template ∈ store.search query .none ↔
      ∀ word ∈ Text.words query, template.Mentions word := by
    intro query
    rw [mem_search_iff, and_iff_right held]
    exact and_iff_left template.answers_blank.2
  refine ⟨hsearch, (hsearch _).mpr fun word hm => ?_, (hsearch _).mpr fun word hm => ?_⟩
  · exact .inl (Text.holds_of_mem_words hm).folded
  · exact .inr (.inl (Text.holds_of_mem_words hm).folded)

/-- A template whose name has a letter that folds to two. -/
def streetOrders : Template :=
  { Catalog.orderProcessing with name := "Straßen Orders" }

theorem mem_search_of_mentions_streetOrders :
    streetOrders ∈ (ofTemplates [streetOrders]).templates ∧
      (∀ word ∈ Text.words "ORDERS strassen", streetOrders.Mentions word) ∧
      streetOrders ∈ (ofTemplates [streetOrders]).search "ORDERS strassen" .none := by
  have held : streetOrders ∈ (ofTemplates [streetOrders]).templates := List.mem_singleton_self _
  have hwords : ∀ word ∈ Text.words "ORDERS strassen", streetOrders.Mentions word := by
    decide +kernel
  exact ⟨held, hwords, ((mem_search_of_mentions held).1 _).mpr hwords⟩

end TemplateStore

end Flowplan
