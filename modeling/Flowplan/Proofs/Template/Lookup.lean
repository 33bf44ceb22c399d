import Flowplan.Proofs.Entries
import Flowplan.Proofs.Record.Reading
import Flowplan.Proofs.Template.Index
import Flowplan.Template.Directory
import Mathlib.Data.List.Perm.Basic

namespace Flowplan

namespace Template

theorem ofLabel?_eq_some_iff {name : String} {category : Category} :
    Labelled.ofLabel? name = some category ↔ label category = name :=
  Labelled.ofLabel?_eq_some_iff (by intro category; cases category <;> decide)

end Template

namespace TemplateStore

def sameId (template other : Template) : Bool :=
  template.id = other.id

theorem keepFirst_eq (seen : List String) (templates : List Template) :
    keepFirst seen templates = (templates.filter (·.id ∉ seen)).eraseDupsBy sameId := by
  induction templates generalizing seen with
  | nil => rfl
  | cons template rest ih =>
    unfold keepFirst
    by_cases h : template.id ∈ seen
    · rw [if_pos h, ih, List.filter_cons_of_neg (by simpa using h)]
    · rw [if_neg h, ih, List.filter_cons_of_pos (by simpa using h), List.eraseDupsBy_cons,
        List.filter_filter]
      congr 3
      funext other
      by_cases he : other.id = template.id <;> simp [sameId, he]

theorem ids_keepFirst (seen : List String) (templates : List Template) :
    (keepFirst seen templates).map (·.id)
      = ((templates.map (·.id)).filter (· ∉ seen)).eraseDups := by
  induction templates generalizing seen with
  | nil => rfl
  | cons template rest ih =>
    unfold keepFirst
    by_cases h : template.id ∈ seen
    · rw [if_pos h, ih, List.map_cons, List.filter_cons_of_neg (by simpa using h)]
    · rw [if_neg h, List.map_cons, List.map_cons, ih,
        List.filter_cons_of_pos (by simpa using h), List.eraseDups_cons, List.filter_filter]
      congr 3
      funext id
      by_cases he : id = template.id <;> simp [he]

/-- No two templates have one id. -/
def Distinct (templates : List Template) : Prop :=
  (templates.map (·.id)).Nodup

theorem distinct_keepFirst (templates : List Template) : Distinct (keepFirst [] templates) := by
  unfold Distinct
  rw [ids_keepFirst]
  exact nodup_eraseDups _

theorem keepFirst_of_distinct {templates : List Template} (distinct : Distinct templates) :
    keepFirst [] templates = templates := by
  have hseen : ∀ seen, (∀ template ∈ templates, template.id ∉ seen) →
      keepFirst seen templates = templates := by
    induction templates with
    | nil => exact fun _ _ => rfl
    | cons template rest ih =>
      obtain ⟨hfirst, hrest⟩ := List.nodup_cons.mp distinct
      intro seen h
      rw [keepFirst, if_neg (h template (by simp)), ih hrest]
      intro other hm hid
      rcases List.mem_cons.mp hid with he | hid
      · exact hfirst (List.mem_map.mpr ⟨other, hm, he⟩)
      · exact h other (by simp [hm]) hid
  exact hseen [] (by simp)

theorem get?_ofTemplates_eq_some_iff {templates : List Template} (distinct : Distinct templates)
    {id : String} {template : Template} :
    (ofTemplates templates).get? id = some template ↔ template ∈ templates ∧ template.id = id := by
  have keyed : Keyed (templates.map fun template => (template.id, template)) := by
    unfold Keyed
    rwa [List.map_map]
  constructor
  · intro h
    obtain ⟨found, hm, he⟩ := List.mem_map.mp (mem_of_lookup_eq_some h)
    obtain ⟨rfl, rfl⟩ := Prod.mk.inj he
    exact ⟨hm, rfl⟩
  · rintro ⟨hm, rfl⟩
    exact keyed.lookup_eq_of_mem (List.mem_map_of_mem hm)

theorem ofCategory_ofTemplates (templates : List Template) (category : Template.Category) :
    (ofTemplates templates).ofCategory category
      = templates.filter fun template => template.category = category := by
  refine (Template.Index.get_build_of_nodup (fun _ => List.nodup_singleton _) _ _).trans ?_
  simp only [List.mem_singleton, eq_comm]

theorem ofCategoryNamed_ofTemplates (templates : List Template) (name : String) :
    (ofTemplates templates).ofCategoryNamed name
      = templates.filter fun template => label template.category = name := by
  simp only [← Template.ofLabel?_eq_some_iff]
  unfold ofCategoryNamed
  cases (Labelled.ofLabel? name : Option Template.Category) with
  | none => simp
  | some category => simp [ofCategory_ofTemplates, eq_comm]

theorem ofService_ofTemplates (templates : List Template) (service : String) :
    (ofTemplates templates).ofService service = templates.filter fun template =>
      template.services.any fun entry => Text.fold entry.name = Text.fold service := by
  refine (Template.Index.get_build_of_nodup (fun _ => nodup_eraseDups _) _ _).trans ?_
  refine List.filter_congr fun template _ => ?_
  rw [Bool.eq_iff_iff]
  simp

theorem categories_ofTemplates (templates : List Template) :
    (ofTemplates templates).categories = (templates.map (·.category)).eraseDups := by
  refine (Template.Index.keys_build _ _).trans ?_
  rw [← List.map_eq_flatMap]

/-- The look-ups of a store agree with the list of its templates. -/
structure Coherent (store : TemplateStore) : Prop where
  distinct : Distinct store.templates
  get?_eq_some_iff : ∀ id template,
    store.get? id = some template ↔ template ∈ store.templates ∧ template.id = id
  get?_eq_none_iff : ∀ id, store.get? id = none ↔ ∀ template ∈ store.templates, template.id ≠ id
  ofCategory_eq : ∀ category,
    store.ofCategory category = store.templates.filter fun template => template.category = category
  ofCategoryNamed_eq : ∀ name, store.ofCategoryNamed name
    = store.templates.filter fun template => label template.category = name
  ofService_eq : ∀ service, store.ofService service = store.templates.filter fun template =>
    template.services.any fun entry => Text.fold entry.name = Text.fold service
  categories_eq : store.categories = (store.templates.map (·.category)).eraseDups
  categories_nodup : store.categories.Nodup
  partition : (store.categories.flatMap store.ofCategory).Perm store.templates

theorem coherent_ofTemplates {templates : List Template} (distinct : Distinct templates) :
    (ofTemplates templates).Coherent where
  distinct := distinct
  get?_eq_some_iff _ _ := get?_ofTemplates_eq_some_iff distinct
  get?_eq_none_iff id := by
    rw [Option.eq_none_iff_forall_ne_some]
    constructor
    · intro h template hm he
      exact h template ((get?_ofTemplates_eq_some_iff distinct).mpr ⟨hm, he⟩)
    · intro h template he
      obtain ⟨hm, hid⟩ := (get?_ofTemplates_eq_some_iff distinct).mp he
      exact h template hm hid
  ofCategory_eq := ofCategory_ofTemplates templates
  ofCategoryNamed_eq := ofCategoryNamed_ofTemplates templates
  ofService_eq := ofService_ofTemplates templates
  categories_eq := categories_ofTemplates templates
  categories_nodup := by
    rw [categories_ofTemplates]
    exact nodup_eraseDups _
  partition := by
    have hcategory : (ofTemplates templates).ofCategory
        = fun category => templates.filter fun template => template.category = category :=
      funext (ofCategory_ofTemplates templates)
    rw [categories_ofTemplates, hcategory]
    refine flatMap_filter_perm Template.category (nodup_eraseDups _) fun template hm => ?_
    exact List.mem_eraseDups.mpr (List.mem_map_of_mem hm)

/-- What can be loaded: a template, or an object, which may describe one. -/
def Item.isRecord : Item → Bool
  | .held _ => true
  | .data (.obj _) => true
  | .data _ => false

/-- The template that an item is or describes. -/
def Item.template? : Item → Option Template
  | .held template => some template
  | .data json => (Template.ofJson json).value?

theorem Item.read_eq_ok_iff {item : Item} {template? : Option Template} :
    item.read = .ok template? ↔ item.isRecord ∧ template? = item.template? := by
  cases item with
  | held template =>
    exact ⟨fun h => ⟨rfl, (Except.ok.inj h).symm⟩, fun h => congrArg Except.ok h.2.symm⟩
  | data json =>
    cases json with
    | obj members =>
      exact ⟨fun h => ⟨rfl, (Except.ok.inj h).symm⟩, fun h => congrArg Except.ok h.2.symm⟩
    | _ => exact ⟨nofun, fun h => nomatch h.1⟩

/-- The templates that the items describe, of those with one id the first. -/
def described (items : List Item) : List Template :=
  (items.filterMap Item.template?).eraseDupsBy sameId

theorem readItems_eq_ok_iff {items : List Item} {templates : List Template} :
    readItems items = .ok templates ↔
      (∀ item ∈ items, item.isRecord) ∧ templates = items.filterMap Item.template? := by
  induction items generalizing templates with
  | nil => exact ⟨fun h => ⟨by simp, (Except.ok.inj h).symm⟩, fun h => congrArg _ h.2.symm⟩
  | cons item rest ih =>
    have hcons : (item :: rest).filterMap Item.template?
        = item.template?.toList ++ rest.filterMap Item.template? := by
      rw [List.filterMap_cons]
      cases item.template? <;> rfl
    rw [readItems, bind_eq_ok_iff, List.forall_mem_cons, hcons]
    simp only [bind_eq_ok_iff, Item.read_eq_ok_iff, ih]
    constructor
    · rintro ⟨_, ⟨hitem, rfl⟩, _, ⟨hrest, rfl⟩, he⟩
      exact ⟨⟨hitem, hrest⟩, (Except.ok.inj he).symm⟩
    · rintro ⟨⟨hitem, hrest⟩, rfl⟩
      exact ⟨_, ⟨hitem, rfl⟩, _, ⟨hrest, rfl⟩, rfl⟩

theorem ofItems_eq_ok_iff {items : List Item} {store : TemplateStore} :
    ofItems items = .ok store ↔
      (∀ item ∈ items, item.isRecord) ∧ store = ofTemplates (described items) := by
  unfold ofItems
  rw [map_eq_ok_iff]
  simp only [readItems_eq_ok_iff, keepFirst_eq]
  constructor
  · rintro ⟨_, ⟨hrecords, rfl⟩, rfl⟩
    exact ⟨hrecords, by simp [described]⟩
  · rintro ⟨hrecords, rfl⟩
    exact ⟨_, ⟨hrecords, rfl⟩, by simp [described]⟩

theorem distinct_described (items : List Item) : Distinct (described items) := by
  have h := distinct_keepFirst (items.filterMap Item.template?)
  rw [keepFirst_eq] at h
  simpa [described] using h

/-- What a store may be told to load: records, templates and records, or the files of a
directory. -/
inductive Load where
  | records (records : Json)
  | items (items : List Item)
  | directory (tree : FileTree) (path : String)

def perform (store : TemplateStore) : Load → Outcome Nat × TemplateStore
  | .records records => store.load records
  | .items items => store.replace (ofItems items)
  | .directory tree path => store.loadDirectory tree path

/-- The store after some loads, each of which may have failed. -/
def afterLoads (loads : List Load) : TemplateStore :=
  loads.foldl (fun store load => (store.perform load).2) empty

theorem replace_cases (store : TemplateStore) (outcome : Outcome TemplateStore) :
    (store.replace outcome).2 = store ∨ outcome = .ok (store.replace outcome).2 := by
  cases outcome with
  | error fault => exact .inl rfl
  | ok loaded => exact .inr rfl

/-- A load leaves a store as it was, or fills it with what some items describe. -/
theorem perform_cases (store : TemplateStore) (load : Load) :
    (store.perform load).2 = store ∨
      ∃ items, (store.perform load).2 = ofTemplates (described items) := by
  have hbind : ∀ read : Outcome (List Item), ∀ toItems : List Item → List Item,
      (store.replace (read.bind fun items => ofItems (toItems items))).2 = store ∨
        ∃ items, (store.replace (read.bind fun items => ofItems (toItems items))).2
          = ofTemplates (described items) := by
    intro read toItems
    refine (replace_cases store _).imp_right fun he => ?_
    obtain ⟨items, _, hitems⟩ := bind_eq_ok_iff.mp he
    exact ⟨toItems items, (ofItems_eq_ok_iff.mp hitems).2⟩
  cases load with
  | records records =>
    have h := hbind ((requireList "templates" records).map (·.map .data)) id
    cases records with
    | arr items => exact h
    | _ => exact .inl rfl
  | items items => exact hbind (.ok items) id
  | directory tree path =>
    exact hbind (itemsOfDirectory tree path) (store.templates.map .held ++ ·)

theorem exists_afterLoads_eq (loads : List Load) :
    ∃ templates, Distinct templates ∧ afterLoads loads = ofTemplates templates := by
  have hrun : ∀ store : TemplateStore, (∃ templates, Distinct templates ∧
      store = ofTemplates templates) → ∃ templates, Distinct templates ∧
        loads.foldl (fun store load => (store.perform load).2) store = ofTemplates templates := by
    induction loads with
    | nil => exact fun _ h => h
    | cons load rest ih =>
      intro store h
      refine ih _ ?_
      rcases perform_cases store load with he | ⟨items, he⟩
      · obtain ⟨templates, distinct, hs⟩ := h
        exact ⟨templates, distinct, he.trans hs⟩
      · exact ⟨described items, distinct_described items, he⟩
  exact hrun empty ⟨[], List.nodup_nil, rfl⟩

theorem coherent_afterLoads (loads : List Load) : (afterLoads loads).Coherent := by
  obtain ⟨templates, distinct, he⟩ := exists_afterLoads_eq loads
  exact he ▸ coherent_ofTemplates distinct

theorem nodup_templates_afterLoads (loads : List Load) : (afterLoads loads).templates.Nodup :=
  List.Nodup.of_map _ (coherent_afterLoads loads).distinct

end TemplateStore

end Flowplan
