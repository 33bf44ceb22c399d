import Flowplan.Proofs.Template.Loading
import Flowplan.Proofs.Template.Search

namespace Flowplan.TemplateStore

/-- Goes through templates one by one and gathers what is read off some of them. -/
def gather {α : Type} (read : Template → Option α) (found : List α) :
    List Template → Work TemplateStore (List α)
  | [] => pure found
  | template :: rest =>
    match read template with
    | some a => gather read (found ++ [a]) rest
    | none => gather read found rest

theorem reads_gather {α : Type} (read : Template → Option α) (found : List α)
    (templates : List Template) :
    (gather read found templates).Reads fun _ => found ++ templates.filterMap read := by
  induction templates generalizing found with
  | nil =>
    rw [List.filterMap_nil, List.append_nil]
    exact Work.reads_pure found
  | cons template rest ih =>
    unfold gather
    rw [List.filterMap_cons]
    cases read template with
    | none => exact ih found
    | some a => simpa using ih (found ++ [a])

/-- The templates that pass a test, or all of them if there is none. -/
def select (test? : Option (Template → Bool)) (templates : List Template) :
    Work TemplateStore (List Template) :=
  match test? with
  | some keeps => gather (Option.guard keeps) [] templates
  | none => pure templates

theorem reads_select (test? : Option (Template → Bool)) (templates : List Template) :
    (select test? templates).Reads fun _ =>
      templates.filter fun template => test?.all fun keeps => keeps template := by
  cases test? with
  | none =>
    simp only [Option.all_none, List.filter_true]
    exact Work.reads_pure templates
  | some keeps =>
    have h := reads_gather (Option.guard keeps) [] templates
    rwa [List.nil_append, List.filterMap_eq_filter] at h

/-- Narrows templates by one condition of the filters after the other. -/
def narrow (filters : SearchFilters) (templates : List Template) :
    Work TemplateStore (List Template) := do
  let templates ← select
    (filters.category.map fun category template => template.category = category) templates
  let templates ← select
    (filters.difficulty.map fun difficulty template => template.difficulty = difficulty) templates
  let templates ← select
    (if filters.tags.isEmpty then none
      else some fun template => template.tags.any (· ∈ filters.tags)) templates
  select
    ((filters.service.filter (!·.isEmpty)).map fun name template =>
      template.services.any fun service => Text.fold service.name = Text.fold name) templates

theorem reads_narrow (filters : SearchFilters) (templates : List Template) :
    (narrow filters templates).Reads fun _ => templates.filter filters.admits := by
  intro store
  unfold narrow
  rw [Work.on_bind_ok (reads_select _ _ store), Work.on_bind_ok (reads_select _ _ store),
    Work.on_bind_ok (reads_select _ _ store), reads_select _ _ store]
  -- One filter is left, by the four tests at once; each test is a part of what the filters admit.
  simp only [List.filter_filter]
  congr 3
  funext template
  obtain ⟨category, difficulty, tags, service⟩ := filters
  have hservice : ((service.filter (!·.isEmpty)).map fun name (template : Template) =>
      template.services.any fun service => Text.fold service.name = Text.fold name).all
        (fun keeps => keeps template)
      = service.all fun name => name.isEmpty || template.services.any fun service =>
          Text.fold service.name = Text.fold name := by
    cases service with
    | none => rfl
    | some name => by_cases h : name.isEmpty <;> simp [h, Option.filter]
  have htags : (if tags.isEmpty then none
      else some fun template : Template => template.tags.any (· ∈ tags)).all
        (fun keeps => keeps template)
      = (tags.isEmpty || template.tags.any (· ∈ tags)) := by
    by_cases h : tags.isEmpty <;> simp [h]
  rw [SearchFilters.admits, hservice, htags, Option.all_map, Option.all_map]
  ac_rfl

/-- What a store can be asked, by the type of the answer. -/
inductive Query : Type → Type where
  | all : Query (List Template)
  | byId (id : String) : Query (Option Template)
  | byCategory (name : String) : Query (List Template)
  | byTag (tag : String) : Query (List Template)
  | byService (service : String) : Query (List Template)
  | categories : Query (List Template.Category)
  | holds (id : String) : Query Bool
  | stats : Query StoreStats
  | popular (count : Int) : Query (List Template)
  | search (query : String) (filters : SearchFilters) : Query (List Template)
  | recommend (texts : List String) (limit : Int) : Query (List Template)

namespace Query

variable {α : Type}

def answer (store : TemplateStore) : Query α → α
  | all => store.templates
  | byId id => store.get? id
  | byCategory name => store.ofCategoryNamed name
  | byTag tag => store.ofTag tag
  | byService service => store.ofService service
  | categories => store.categories
  | holds id => store.holds id
  | stats => store.stats
  | popular count => store.popular count
  | search query filters => store.search query filters
  | recommend texts limit => store.recommend texts limit

/-- A query as it works on the store itself. A look-up reads its index; the others go through the
templates and sort what they gather. -/
def inPlace : Query α → Work TemplateStore α
  | popular count => do
    let sorted := byPopularity (← get).templates
    pure (sorted.take (max count 0).toNat)
  | search query filters => do
    let words := Text.words (Text.fold query)
    let found ← gather (Option.guard fun template => words.all template.matchesWord) []
      (← get).templates
    let narrowed ← narrow filters found
    pure (byPopularity narrowed)
  | recommend texts limit => do
    let keywords := texts.filterMap keyword?
    let scored ← gather (fun template =>
      let score := template.score keywords
      if 0 < score then some (score, template) else none) [] (← get).templates
    let sorted := scored.mergeSort fun a b => b.1 ≤ a.1
    pure ((sorted.take (min (max limit 0) recommendationLimit).toNat).map (·.2))
  | query => do pure (query.answer (← get))

end Query

theorem reads_search (query : String) (filters : SearchFilters) :
    (Query.search query filters).inPlace.Reads (·.search query filters) := by
  intro store
  unfold Query.inPlace
  rw [Work.on_get_bind, Work.on_bind_ok (reads_gather _ [] store.templates store),
    Work.on_bind_ok (reads_narrow filters _ store), List.nil_append, List.filterMap_eq_filter,
    List.filter_filter]
  simp only [Bool.and_comm (filters.admits _)]
  rfl

theorem reads_recommend (texts : List String) (limit : Int) :
    (Query.recommend texts limit).inPlace.Reads (·.recommend texts limit) := by
  intro store
  -- Scores of nothing are dropped as they come up, not from the list of all scores.
  have hscored : ∀ keywords, (store.templates.filterMap fun template =>
      if 0 < template.score keywords then some (template.score keywords, template) else none)
      = (store.templates.map fun template => (template.score keywords, template)).filter
        fun pair => 0 < pair.1 := by
    intro keywords
    rw [← List.filterMap_eq_filter, List.filterMap_map]
    refine List.filterMap_congr fun template _ => ?_
    by_cases h : 0 < template.score keywords <;> simp [Option.guard, h]
  have hlimit : (min (max limit 0) recommendationLimit).toNat
      = min limit.toNat recommendationLimit := by omega
  unfold Query.inPlace
  rw [Work.on_get_bind, Work.on_bind_ok (reads_gather _ [] store.templates store),
    List.nil_append, hscored, hlimit]
  exact congrArg (Except.ok ·, store) List.map_take

theorem popular_eq_take (store : TemplateStore) (count : Int) :
    store.popular count = (byPopularity store.templates).take (max count 0).toNat := by
  have hcount : count.toNat = (max count 0).toNat := by omega
  rw [popular, hcount]

/-- A query in place gives the answer that the store has for it, and changes nothing. -/
theorem reads_inPlace {α : Type} (query : Query α) : query.inPlace.Reads query.answer := by
  cases query with
  | popular count =>
    exact fun store => congrArg (Except.ok ·, store) (store.popular_eq_take count).symm
  | search query filters => exact reads_search query filters
  | recommend texts limit => exact reads_recommend texts limit
  | _ => exact fun _ => rfl

/-- What is called of a store: a load, or a query whatever its answer. -/
inductive Call where
  | loads (load : Load)
  | asks {α : Type} (query : Query α)

namespace Call

def load? : Call → Option Load
  | loads load => some load
  | asks _ => none

/-- The store that a call leaves behind, also when it fails. -/
def after (store : TemplateStore) : Call → TemplateStore
  | loads load => (load.inPlace.on store).2
  | asks query => (query.inPlace.on store).2

theorem after_loads (store : TemplateStore) (load : Load) :
    after store (.loads load) = (store.perform load).2 :=
  congrArg Prod.snd (on_inPlace load store)

theorem after_asks {α : Type} (store : TemplateStore) (query : Query α) :
    after store (.asks query) = store :=
  congrArg Prod.snd (reads_inPlace query store)

end Call

/-- An empty store after some calls, one after the other. -/
def afterCalls (calls : List Call) : TemplateStore :=
  calls.foldl Call.after empty

/-- Queries leave no trace: what a store holds is what was loaded. -/
theorem afterCalls_eq (calls : List Call) :
    afterCalls calls = afterLoads (calls.filterMap Call.load?) := by
  -- From any store on, since a load before the call may have filled it.
  have hrun : ∀ store, calls.foldl Call.after store
      = (calls.filterMap Call.load?).foldl (fun store load => (store.perform load).2) store := by
    induction calls with
    | nil => exact fun _ => rfl
    | cons call rest ih =>
      intro store
      rw [List.foldl_cons, ih]
      cases call with
      | loads load =>
        rw [Call.after_loads]
        rfl
      | asks query =>
        rw [Call.after_asks]
        rfl
  exact hrun empty

theorem eq_byPopularity_iff {templates ranked : List Template} :
    ranked = byPopularity templates ↔ Ranked (·.popularity) templates ranked := by
  have hranked : Ranked (·.popularity) templates (byPopularity templates) :=
    ranked_mergeSort (·.popularity) templates
  exact ⟨fun h => h ▸ hranked, fun h => h.unique hranked⟩

/-- A search for no words goes by the filters alone. -/
theorem search_blank (store : TemplateStore) (filters : SearchFilters) :
    store.search "" filters = byPopularity (store.templates.filter filters.admits) :=
  rfl

/-- Whatever was called before, the store is what its loads made of it, and every query gives the
answer of that store and leaves it as it is. A search for a category or for a service alone finds
what the index has under it, the most popular templates are the first that a search for nothing in
particular finds, and all of them come in the one order that is stable and descends by
popularity. -/
theorem queries_agree (calls : List Call) :
    let store := afterCalls calls
    store = afterLoads (calls.filterMap Call.load?) ∧
      (∀ {α : Type} (query : Query α),
        query.inPlace.on store = (.ok (query.answer store), store)) ∧
      (∀ category : Template.Category,
        store.search "" { SearchFilters.none with category := some category }
            = byPopularity (store.ofCategory category) ∧
          store.ofCategoryNamed (label category) = store.ofCategory category) ∧
      (∀ service : String, service ≠ "" →
        store.search "" { SearchFilters.none with service := some service }
          = byPopularity (store.ofService service)) ∧
      (∀ count : Int, store.popular count
        = (store.search "" SearchFilters.none).take (max count 0).toNat) ∧
      ∀ templates ranked : List Template,
        ranked = byPopularity templates ↔ Ranked (·.popularity) templates ranked := by
  intro store
  have hstore : store = afterLoads (calls.filterMap Call.load?) := afterCalls_eq calls
  have coherent : store.Coherent := hstore ▸ coherent_afterLoads _
  refine ⟨hstore, fun query => reads_inPlace query store, fun category => ⟨?_, ?_⟩,
    fun service named => ?_, fun count => ?_, fun templates ranked => eq_byPopularity_iff⟩
  · rw [search_blank, coherent.ofCategory_eq]
    congr 2
    funext template
    simp [SearchFilters.admits, SearchFilters.none]
  · rw [ofCategoryNamed, Template.ofLabel?_eq_some_iff.mpr rfl]
  · rw [search_blank, coherent.ofService_eq]
    congr 2
    funext template
    simp [SearchFilters.admits, SearchFilters.none, named]
  · have hall : store.templates.filter SearchFilters.none.admits = store.templates := by
      simp [SearchFilters.admits, SearchFilters.none]
    rw [popular_eq_take, search_blank, hall]

theorem queries_agree_catalog :
    let calls := [.loads (.items (Catalog.templates.map .held)), .asks (.popular 2),
      .asks (.search "orders" .none), .asks (.recommend ["AI"] 3)]
    let store := afterCalls calls
    "STRIPE" ≠ "" ∧
      store.search "" { SearchFilters.none with service := some "STRIPE" }
        = byPopularity (store.ofService "STRIPE") := by
  intro calls store
  obtain ⟨-, -, -, hservice, -⟩ := queries_agree calls
  exact ⟨by decide, hservice "STRIPE" (by decide)⟩

end Flowplan.TemplateStore
