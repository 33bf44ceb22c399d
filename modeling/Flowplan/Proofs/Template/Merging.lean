import Flowplan.Proofs.Template.Loading

namespace Flowplan

namespace FileTree

theorem mem_children_iff {tree : FileTree} {names : List String} {name : String} :
    name ∈ tree.children names ↔ ∃ entry ∈ tree.entries, names ++ [name] <+: entry.1 := by
  have hbelow : ∀ place : List String,
      (if names.isPrefixOf place then (place.drop names.length).head? else none) = some name
        ↔ names ++ [name] <+: place := by
    intro place
    split
    next h =>
      obtain ⟨rest, rfl⟩ := List.isPrefixOf_iff_prefix.mp h
      rw [List.drop_left, List.prefix_append_right_inj]
      cases rest <;> simp [eq_comm]
    next h =>
      refine ⟨nofun, fun hp => absurd ?_ h⟩
      exact List.isPrefixOf_iff_prefix.mpr ((List.prefix_append names [name]).trans hp)
  simp only [children, List.mem_mergeSort, List.mem_eraseDups, List.mem_filterMap, hbelow]

/-- The names below a directory are listed in their order, each once. -/
theorem pairwise_lt_children (tree : FileTree) (names : List String) :
    (tree.children names).Pairwise (· < ·) := by
  have hsorted : (tree.children names).Pairwise fun a b => decide (a ≤ b) := by
    refine List.pairwise_mergeSort ?_ ?_ _
    · simpa using fun a b c => String.le_trans
    · simpa using String.le_total
  have hnodup : (tree.children names).Nodup :=
    (List.mergeSort_perm _ _).nodup_iff.mpr (nodup_eraseDups _)
  refine (hsorted.and hnodup).imp fun h => ?_
  exact Std.lt_of_le_of_ne (by simpa using h.1) h.2

end FileTree

namespace TemplateStore

theorem keepFirst_nil (templates : List Template) :
    keepFirst [] templates = templates.eraseDupsBy sameId := by
  simp [keepFirst_eq]

theorem keepFirst_append (seen : List String) (templates more : List Template) :
    keepFirst seen (templates ++ more)
      = keepFirst seen templates ++ keepFirst (templates.map (·.id) ++ seen) more := by
  induction templates generalizing seen with
  | nil => rfl
  | cons template rest ih =>
    -- Kept or not, the first id is seen afterwards; the two sides differ in where it is listed.
    rw [List.cons_append, keepFirst, keepFirst]
    split
    next h =>
      have hseen : ∀ id, id ∈ rest.map (·.id) ++ seen
          ↔ id ∈ (template :: rest).map (·.id) ++ seen := by
        intro id
        rw [List.map_cons, List.cons_append, List.mem_cons]
        exact ⟨.inr, fun hm => hm.elim (fun he => List.mem_append_right _ (he ▸ h)) fun hm => hm⟩
      rw [ih, keepFirst_congr hseen]
    next =>
      have hseen : ∀ id, id ∈ rest.map (·.id) ++ template.id :: seen
          ↔ id ∈ (template :: rest).map (·.id) ++ seen := by
        intro id
        simp [or_left_comm]
      rw [ih, keepFirst_congr hseen, List.cons_append]

theorem keepFirst_eq_nil {seen : List String} {templates : List Template}
    (h : ∀ template ∈ templates, template.id ∈ seen) : keepFirst seen templates = [] := by
  rw [keepFirst_eq, List.filter_eq_nil_iff.mpr (by simpa using h)]
  rfl

/-- Templates with ids of their own stay where they are when others come after them. -/
theorem merge_eq_append {templates : List Template} (distinct : Distinct templates)
    (more : List Template) :
    (templates ++ more).eraseDupsBy sameId
      = templates ++ keepFirst (templates.map (·.id)) more := by
  rw [← keepFirst_nil, keepFirst_append, keepFirst_of_distinct distinct, List.append_nil]

/-- What is merged once adds nothing when it is merged again. -/
theorem merge_again {templates : List Template} (more : List Template) :
    ((templates ++ more).eraseDupsBy sameId ++ more).eraseDupsBy sameId
      = (templates ++ more).eraseDupsBy sameId := by
  have distinct : Distinct ((templates ++ more).eraseDupsBy sameId) := by
    rw [← keepFirst_nil]
    exact distinct_keepFirst _
  rw [merge_eq_append distinct, keepFirst_eq_nil, List.append_nil]
  intro template hm
  rw [← keepFirst_nil, ids_keepFirst, List.mem_eraseDups]
  simpa using .inr ⟨template, hm, rfl⟩

/-- The templates that the JSON of a template file describes: that of a record, or those of a list
of records. -/
def templatesOfJson : Json → List Template
  | .obj members => (Template.ofJson (.obj members)).value?.toList
  | .arr records => records.filterMap fun record => (Template.ofJson record).value?
  | _ => []

/-- The templates at the place of a template file. -/
def templatesAt : Place → List Template
  | .file bytes =>
    match textOfBytes bytes with
    | .ok text => ((Json.parse text).toOption.map templatesOfJson).getD []
    | .error _ => []
  | _ => []

theorem templates_itemsOfFile {path : String} {bytes : List Nat} {items : List Item}
    (h : itemsOfFile path bytes = .ok items) :
    items.filterMap Item.template? = templatesAt (.file bytes) := by
  obtain ⟨text, json, htext, hparse, hitems⟩ := itemsOfFile_eq_ok_iff.mp h
  have hplace : templatesAt (.file bytes) = templatesOfJson json := by
    simp [templatesAt, htext, hparse, Except.toOption]
  rw [hplace]
  rcases hitems with ⟨members, rfl, rfl⟩ | ⟨records, rfl, rfl⟩
  · rw [templatesOfJson, List.filterMap_cons, Item.template?]
    cases (Template.ofJson (.obj members)).value? <;> rfl
  · exact List.filterMap_map

theorem templates_itemsAt {tree : FileTree} {names : List String} {directory name : String}
    {items : List Item} (h : itemsAt tree names directory name = .ok items) :
    items.filterMap Item.template? = templatesAt (tree.lookUp (names ++ [name])) := by
  unfold itemsAt at h
  cases hplace : tree.lookUp (names ++ [name]) with
  | file bytes =>
    rw [hplace] at h
    exact templates_itemsOfFile h
  | directory _ =>
    rw [hplace] at h
    cases h
  | _ =>
    rw [hplace] at h
    obtain rfl := Except.ok.inj h
    rfl

theorem templates_itemsOfFiles {tree : FileTree} {names : List String} {directory : String}
    {files : List String} {items : List Item}
    (h : itemsOfFiles tree names directory files = .ok items) :
    items.filterMap Item.template?
      = files.flatMap fun name => templatesAt (tree.lookUp (names ++ [name])) := by
  induction files generalizing items with
  | nil =>
    obtain rfl := Except.ok.inj h
    rfl
  | cons name rest ih =>
    rw [itemsOfFiles_cons] at h
    obtain ⟨first, hfirst, h⟩ := bind_eq_ok_iff.mp h
    obtain ⟨more, hmore, h⟩ := bind_eq_ok_iff.mp h
    rw [← Except.ok.inj h, List.filterMap_append, templates_itemsAt hfirst, ih hmore,
      List.flatMap_cons]

/-- A directory whose template files hold records is read, and gives what they describe. -/
theorem exists_itemsOfDirectory {tree : FileTree} {path : String}
    (sound : (Load.directory tree path).IsSound) :
    ∃ names items, tree.find (Path.normalize path) = .directory names ∧
      itemsOfDirectory tree path = .ok items ∧ (∀ item ∈ items, item.isRecord) ∧
      items.filterMap Item.template?
        = ((tree.children names).filter (·.endsWith ".json")).flatMap fun name =>
          templatesAt (tree.lookUp (names ++ [name])) := by
  obtain ⟨items, hitems, hrecords⟩ := exists_itemsOfDirectory_iff.mpr sound
  obtain ⟨names, hfind, -⟩ := sound
  refine ⟨names, items, hfind, hitems, hrecords, ?_⟩
  rw [itemsOfDirectory, hfind] at hitems
  exact templates_itemsOfFiles hitems

theorem loadDirectory_eq (store : TemplateStore) {tree : FileTree} {path : String}
    {items : List Item} (hitems : itemsOfDirectory tree path = .ok items)
    (hrecords : ∀ item ∈ items, item.isRecord) :
    store.loadDirectory tree path
      = let merged := (store.templates ++ items.filterMap Item.template?).eraseDupsBy sameId
        (.ok merged.length, ofTemplates merged) := by
  have hheld : (store.templates.map Item.held).filterMap Item.template? = store.templates := by
    rw [List.filterMap_map]
    exact List.filterMap_some
  have hall : ∀ item ∈ store.templates.map Item.held ++ items, item.isRecord :=
    List.forall_mem_append.mpr ⟨by simp [Item.isRecord], hrecords⟩
  have hdescribed : described (store.templates.map Item.held ++ items)
      = (store.templates ++ items.filterMap Item.template?).eraseDupsBy sameId := by
    rw [described, List.filterMap_append, hheld]
  have hloaded : (itemsOfDirectory tree path).bind (fun items =>
      ofItems (store.templates.map .held ++ items))
      = .ok (ofTemplates (described (store.templates.map Item.held ++ items))) := by
    rw [hitems]
    exact ofItems_eq_ok_iff.mpr ⟨hall, rfl⟩
  rw [loadDirectory, hloaded, hdescribed]
  rfl

theorem afterLoads_concat (loads : List Load) (load : Load) :
    afterLoads (loads ++ [load]) = ((afterLoads loads).perform load).2 :=
  List.foldl_concat ..

/-- The load of a directory whose template files hold records succeeds. Afterwards the store holds
what it held before, and then what the files describe, file after file in the order of their names,
of templates with one id only the first. So what was held stays at the head and keeps its ids, and
the same directory changes nothing a second time. -/
theorem loadDirectory_merges (loads : List Load) {tree : FileTree} {path : String}
    (sound : (Load.directory tree path).IsSound) :
    let store := afterLoads loads
    let loaded := (store.loadDirectory tree path).2
    (store.loadDirectory tree path).1 = .ok loaded.templates.length ∧
      (∃ names files : List String, tree.find (Path.normalize path) = .directory names ∧
        (∀ name, name ∈ files ↔
          name.endsWith ".json" ∧ ∃ entry ∈ tree.entries, names ++ [name] <+: entry.1) ∧
        files.Pairwise (· < ·) ∧
        loaded.templates = (store.templates ++ files.flatMap fun name =>
          templatesAt (tree.lookUp (names ++ [name]))).eraseDupsBy sameId) ∧
      store.templates <+: loaded.templates ∧
      (∀ id template, store.get? id = some template → loaded.get? id = some template) ∧
      loaded.loadDirectory tree path = (.ok loaded.templates.length, loaded) := by
  intro store loaded
  obtain ⟨names, items, hfind, hitems, hrecords, hdescribed⟩ := exists_itemsOfDirectory sound
  have hload := loadDirectory_eq store hitems hrecords
  have hloaded : loaded = ofTemplates
      ((store.templates ++ items.filterMap Item.template?).eraseDupsBy sameId) :=
    congrArg Prod.snd hload
  have coherent : store.Coherent := coherent_afterLoads loads
  have coherent' : loaded.Coherent := by
    have h := coherent_afterLoads (loads ++ [.directory tree path])
    rwa [afterLoads_concat] at h
  have hheld : store.templates <+: loaded.templates := by
    rw [hloaded]
    exact ⟨_, (merge_eq_append coherent.distinct _).symm⟩
  refine ⟨?_, ⟨names, (tree.children names).filter (·.endsWith ".json"), hfind, fun name => ?_, ?_,
    ?_⟩, hheld, fun id template h => ?_, ?_⟩
  · rw [hload, hloaded]
    rfl
  · rw [List.mem_filter, FileTree.mem_children_iff, and_comm]
  · exact (FileTree.pairwise_lt_children tree names).sublist List.filter_sublist
  · rw [hloaded, ← hdescribed]
    rfl
  · obtain ⟨hm, hid⟩ := (coherent.get?_eq_some_iff id template).mp h
    exact (coherent'.get?_eq_some_iff id template).mpr ⟨hheld.subset hm, hid⟩
  · rw [loadDirectory_eq _ hitems hrecords, hloaded]
    dsimp only [ofTemplates]
    rw [merge_again]

/-- A directory with two template files, each of which describes a template of the same id, and a
file that is none. -/
def lateOrders : FileTree := ⟨[
  (["shelf", "b.json"], some
    ("[\x7b\"id\":\"late\",\"name\":\"B\",\"category\":\"e-commerce\"\x7d,\x7b\x7d]".toList.map
      Char.toNat)),
  (["shelf", "a.json"], some
    ("\x7b\"id\":\"late\",\"name\":\"A\",\"category\":\"e-commerce\"\x7d".toList.map Char.toNat)),
  (["shelf", "notes.txt"], some [255])]⟩

theorem isSound_lateOrders : (Load.directory lateOrders "shelf").IsSound := by
  have hfind : lateOrders.find (Path.normalize "shelf") = .directory ["shelf"] :=
    find_shelf lateOrders
  have hfiles : ∀ name ∈ ["a.json", "b.json"],
      ((itemsAt lateOrders ["shelf"] "shelf" name).toOption.map (·.all Item.isRecord))
        = some true := by decide +kernel
  refine ⟨["shelf"], hfind, fun name hm hjson => ?_⟩
  have hname : name ∈ ["a.json", "b.json"] := by
    have hlisted : name = "b.json" ∨ name = "a.json" ∨ name = "notes.txt" := by
      simpa [FileTree.mem_children_iff, lateOrders] using hm
    rcases hlisted with rfl | rfl | rfl
    · simp
    · simp
    · exact absurd hjson (by decide +kernel)
  rw [← exists_itemsAt_iff "shelf"]
  have h := hfiles name hname
  cases hitems : itemsAt lateOrders ["shelf"] "shelf" name with
  | error fault => simp [hitems, Except.toOption] at h
  | ok items => exact ⟨items, rfl, by simpa [hitems, Except.toOption] using h⟩

theorem loadDirectory_merges_lateOrders :
    let store := afterLoads [.items (Catalog.templates.map .held)]
    let loaded := (store.loadDirectory lateOrders "shelf").2
    (Load.directory lateOrders "shelf").IsSound ∧
      (store.loadDirectory lateOrders "shelf").1 = .ok loaded.templates.length ∧
      store.templates <+: loaded.templates ∧
      loaded.loadDirectory lateOrders "shelf" = (.ok loaded.templates.length, loaded) := by
  intro store loaded
  obtain ⟨hcount, -, hheld, -, hagain⟩ :=
    loadDirectory_merges [.items (Catalog.templates.map .held)] isSound_lateOrders
  exact ⟨isSound_lateOrders, hcount, hheld, hagain⟩

end TemplateStore

end Flowplan
