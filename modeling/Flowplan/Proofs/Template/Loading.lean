import Flowplan.Proofs.Template.Lookup
import Flowplan.Proofs.Work

namespace Flowplan.TemplateStore

/-- The entries with a template under an id, in the place of one that stood there before. -/
def assign (template : Template) : List (String × Template) → List (String × Template)
  | [] => [(template.id, template)]
  | (id, old) :: rest =>
    if id = template.id then (id, template) :: rest else (id, old) :: assign template rest

/-- Files a template in one index after the other. -/
def file (template : Template) : Work TemplateStore Unit := do
  modify fun store => { store with byId := assign template store.byId }
  modify fun store => { store with byCategory := store.byCategory.add template.category template }
  template.tags.forM fun tag =>
    modify fun store => { store with byTag := store.byTag.add tag template }
  (Template.serviceKeys template).forM fun service =>
    modify fun store => { store with byService := store.byService.add service template }

/-- Exchanges the templates, empties the indexes and fills them again. -/
def refill (templates : List Template) : Work TemplateStore Nat := do
  modify fun store => { store with templates }
  modify fun store => { store with byId := [] }
  modify fun store => { store with byCategory := [] }
  modify fun store => { store with byTag := [] }
  modify fun store => { store with byService := [] }
  (← get).templates.forM file
  pure (← get).templates.length

/-- Checks one item after the other; of templates with one id the first is accepted. -/
def accept (accepted : List Template) : List Item → Work TemplateStore (List Template)
  | [] => pure accepted
  | item :: rest => do
    match ← item.read with
    | none => accept accepted rest
    | some template =>
      if template.id ∈ accepted.map (·.id) then accept accepted rest
      else accept (accepted ++ [template]) rest

def loadItems (items : List Item) : Work TemplateStore Nat := do
  refill (← accept [] items)

/-- What a file in a directory of templates holds. -/
def itemsAt (tree : FileTree) (names : List String) (directory name : String) :
    Outcome (List Item) :=
  match tree.lookUp (names ++ [name]) with
  | .file bytes => itemsOfFile (Path.join directory name) bytes
  | .directory _ => .error (.load (.unreadable (Path.join directory name) .directory))
  | _ => .ok []

/-- Reads one file after the other. -/
def collect (tree : FileTree) (names : List String) (directory : String) (found : List Item) :
    List String → Work TemplateStore (List Item)
  | [] => pure found
  | name :: rest => do
    let items ← itemsAt tree names directory name
    collect tree names directory (found ++ items) rest

def collectDirectory (tree : FileTree) (directory : String) : Work TemplateStore (List Item) :=
  let path := Path.normalize directory
  match tree.find path with
  | .directory names =>
    collect tree names path [] ((tree.children names).filter (·.endsWith ".json"))
  | .unnameable => throw (.longPath path)
  | _ => throw (.load (.noDirectory path))

/-- A load as it works on the store itself. -/
def Load.inPlace : Load → Work TemplateStore Nat
  | .records json => do
    let found ← requireList "templates" json
    loadItems (found.map .data)
  | .items found => loadItems found
  | .directory tree path => do
    let found ← collectDirectory tree path
    loadItems ((← get).templates.map .held ++ found)

theorem assign_of_not_mem {template : Template} {entries : List (String × Template)}
    (h : template.id ∉ entries.map (·.1)) :
    assign template entries = entries ++ [(template.id, template)] := by
  induction entries with
  | nil => rfl
  | cons entry rest ih =>
    rw [List.map_cons, List.mem_cons, not_or] at h
    rw [assign, if_neg (Ne.symm h.1), ih h.2]
    rfl

theorem build_append_singleton {κ : Type} [DecidableEq κ] (keys : Template → List κ)
    (templates : List Template) (template : Template) :
    Template.Index.build keys (templates ++ [template])
      = (keys template).foldl (fun index key => index.add key template)
        (Template.Index.build keys templates) := by
  simp [Template.Index.build]

/-- The store with one more template in each index. -/
def filed (store : TemplateStore) (template : Template) : TemplateStore :=
  { store with
    byId := assign template store.byId
    byCategory := store.byCategory.add template.category template
    byTag := template.tags.foldl (fun index tag => index.add tag template) store.byTag
    byService := (Template.serviceKeys template).foldl
      (fun index service => index.add service template) store.byService }

theorem on_file (template : Template) (store : TemplateStore) :
    (file template).on store = (.ok (), store.filed template) := by
  have htags : ∀ store : TemplateStore,
      (template.tags.forM fun tag => modify fun store : TemplateStore =>
        { store with byTag := store.byTag.add tag template } : Work TemplateStore Unit).on store
      = (.ok (), { store with
          byTag := template.tags.foldl
            (fun index tag => index.add tag template) store.byTag }) := by
    intro store
    rw [Work.on_forM_modify]
    exact congrArg (_, ·)
      (List.foldl_hom (fun index => { store with byTag := index }) fun _ _ => rfl)
  have hservices : ∀ store : TemplateStore,
      ((Template.serviceKeys template).forM fun service => modify fun store : TemplateStore =>
        { store with byService := store.byService.add service template } :
          Work TemplateStore Unit).on store
      = (.ok (), { store with
          byService := (Template.serviceKeys template).foldl
            (fun index service => index.add service template) store.byService }) := by
    intro store
    rw [Work.on_forM_modify]
    exact congrArg (_, ·)
      (List.foldl_hom (fun index => { store with byService := index }) fun _ _ => rfl)
  unfold file
  rw [Work.on_modify_bind, Work.on_modify_bind, Work.on_bind_ok (htags _), hservices]
  rfl

/-- A store with all of the templates, of which those up to some place are filed. -/
def partly (templates done : List Template) : TemplateStore :=
  { ofTemplates done with templates }

theorem filed_partly {templates done : List Template} {template : Template}
    (fresh : template.id ∉ done.map (·.id)) :
    (partly templates done).filed template = partly templates (done ++ [template]) := by
  have hid : template.id ∉ (done.map fun template => (template.id, template)).map (·.1) := by
    simpa using fresh
  simp only [filed, partly, ofTemplates, assign_of_not_mem hid, build_append_singleton,
    List.map_append, List.map_cons, List.map_nil, List.foldl_cons, List.foldl_nil]

theorem foldl_filed_partly (templates : List Template) {rest : List Template}
    (done : List Template) (distinct : Distinct (done ++ rest)) :
    rest.foldl filed (partly templates done) = partly templates (done ++ rest) := by
  induction rest generalizing done with
  | nil => rw [List.append_nil, List.foldl_nil]
  | cons template rest ih =>
    have hsplit : done ++ template :: rest = (done ++ [template]) ++ rest := by simp
    have hfresh : template.id ∉ done.map (·.id) := by
      unfold Distinct at distinct
      rw [List.map_append] at distinct
      intro hm
      exact (List.nodup_append.mp distinct).2.2 _ hm _ (by simp) rfl
    rw [List.foldl_cons, filed_partly hfresh, hsplit, ih _ (hsplit ▸ distinct)]

/-- Filling the store cannot fail, and makes of it one that was built from the templates. -/
theorem on_refill {templates : List Template} (distinct : Distinct templates)
    (store : TemplateStore) :
    (refill templates).on store = (.ok templates.length, ofTemplates templates) := by
  unfold refill
  iterate 5 rw [Work.on_modify_bind]
  rw [Work.on_get_bind, Work.on_bind_ok (Work.on_forM on_file _ _)]
  change (Except.ok (List.foldl filed (partly templates []) templates).templates.length,
    List.foldl filed (partly templates []) templates) = _
  rw [foldl_filed_partly templates [] distinct]
  rfl

theorem keepFirst_congr {seen seen' : List String} (h : ∀ id, id ∈ seen ↔ id ∈ seen')
    (templates : List Template) : keepFirst seen templates = keepFirst seen' templates := by
  simp only [keepFirst_eq, h]

theorem readItems_cons (item : Item) (rest : List Item) :
    readItems (item :: rest) = item.read.bind fun template? =>
      (readItems rest).map (template?.toList ++ ·) := by
  rw [readItems]
  cases item.read with
  | error fault => rfl
  | ok template? => cases readItems rest <;> rfl

/-- Checking writes nothing. -/
theorem on_accept (accepted : List Template) (items : List Item) (store : TemplateStore) :
    (accept accepted items).on store
      = ((readItems items).map fun templates =>
          accepted ++ keepFirst (accepted.map (·.id)) templates, store) := by
  induction items generalizing accepted with
  | nil =>
    change (Except.ok accepted, store) = (Except.ok (accepted ++ []), store)
    rw [List.append_nil]
  | cons item rest ih =>
    rw [accept, Work.on_bind, Work.on_lift, readItems_cons]
    cases item.read with
    | error fault => rfl
    | ok template? =>
      cases template? with
      | none =>
        refine (ih accepted).trans ?_
        cases readItems rest <;> rfl
      | some template =>
        by_cases hseen : template.id ∈ accepted.map (·.id)
        · have hkeep : ∀ templates, keepFirst (accepted.map (·.id)) (template :: templates)
              = keepFirst (accepted.map (·.id)) templates := fun _ => if_pos hseen
          simp only [if_pos hseen, ih]
          cases readItems rest with
          | error fault => rfl
          | ok templates => simp [Except.bind, Except.map, hkeep]
        · have hkeep : ∀ templates, keepFirst (accepted.map (·.id)) (template :: templates)
              = template :: keepFirst ((accepted ++ [template]).map (·.id)) templates := by
            intro templates
            rw [keepFirst, if_neg hseen]
            exact congrArg (template :: ·) (keepFirst_congr (by simp [or_comm]) templates)
          simp only [if_neg hseen, ih]
          cases readItems rest with
          | error fault => rfl
          | ok templates => simp [Except.bind, Except.map, hkeep]

theorem on_loadItems (items : List Item) (store : TemplateStore) :
    (loadItems items).on store = store.replace (ofItems items) := by
  rw [loadItems, Work.on_bind, on_accept, ofItems]
  cases readItems items with
  | error fault => rfl
  | ok templates =>
    exact on_refill (distinct_keepFirst templates) store

theorem itemsOfFiles_cons (tree : FileTree) (names : List String) (directory name : String)
    (rest : List String) :
    itemsOfFiles tree names directory (name :: rest)
      = (itemsAt tree names directory name).bind fun items =>
        (itemsOfFiles tree names directory rest).bind fun more => .ok (items ++ more) := by
  rw [itemsOfFiles, itemsAt]
  cases tree.lookUp (names ++ [name]) <;> rfl

/-- Reading files writes nothing. -/
theorem on_collect (tree : FileTree) (names : List String) (directory : String)
    (found : List Item) (files : List String) (store : TemplateStore) :
    (collect tree names directory found files).on store
      = ((itemsOfFiles tree names directory files).map (found ++ ·), store) := by
  induction files generalizing found with
  | nil =>
    change (Except.ok found, store) = (Except.ok (found ++ []), store)
    rw [List.append_nil]
  | cons name rest ih =>
    rw [collect, Work.on_bind, Work.on_lift, itemsOfFiles_cons]
    cases itemsAt tree names directory name with
    | error fault => rfl
    | ok items =>
      simp only [ih]
      cases itemsOfFiles tree names directory rest with
      | error fault => rfl
      | ok more => simp [Except.bind, Except.map]

theorem on_collectDirectory (tree : FileTree) (directory : String) (store : TemplateStore) :
    (collectDirectory tree directory).on store = (itemsOfDirectory tree directory, store) := by
  unfold collectDirectory itemsOfDirectory
  dsimp only
  cases tree.find (Path.normalize directory) with
  | directory names =>
    refine (on_collect tree names _ [] _ store).trans ?_
    dsimp only
    cases itemsOfFiles tree names (Path.normalize directory)
      ((tree.children names).filter (·.endsWith ".json")) <;> rfl
  | _ => rfl

/-- Whether it succeeds or fails, a load in place does what the load does. -/
theorem on_inPlace (load : Load) (store : TemplateStore) :
    load.inPlace.on store = store.perform load := by
  cases load with
  | records json =>
    unfold Load.inPlace
    rw [Work.on_bind, Work.on_lift, perform, TemplateStore.load]
    cases requireList "templates" json with
    | error fault => rfl
    | ok found => exact on_loadItems (found.map .data) store
  | items found => exact on_loadItems found store
  | directory tree path =>
    unfold Load.inPlace
    rw [Work.on_bind, on_collectDirectory, perform, loadDirectory]
    cases itemsOfDirectory tree path with
    | error fault => rfl
    | ok found =>
      exact (Work.on_get_bind _ store).trans
        (on_loadItems (store.templates.map .held ++ found) store)

/-- An object or a list of objects. -/
def holdsRecords : Json → Bool
  | .obj _ => true
  | .arr records => records.all fun record => (Item.data record).isRecord
  | _ => false

/-- What stands under the name of a template file can be read and holds records; if nothing stands
there, nothing is read. -/
def IsTemplateFile : Place → Prop
  | .file bytes =>
    ∃ text json, textOfBytes bytes = .ok text ∧ Json.parse text = .ok json ∧ holdsRecords json
  | .directory _ => False
  | _ => True

/-- What is to be loaded is a list of records, or a directory whose template files hold records. -/
def Load.IsSound : Load → Prop
  | .records json => ∃ found, json = .arr found ∧ ∀ record ∈ found, (Item.data record).isRecord
  | .items found => ∀ item ∈ found, item.isRecord
  | .directory tree path => ∃ names, tree.find (Path.normalize path) = .directory names ∧
      ∀ name ∈ tree.children names, name.endsWith ".json" →
        IsTemplateFile (tree.lookUp (names ++ [name]))

theorem itemsOfFile_eq_ok_iff {path : String} {bytes : List Nat} {items : List Item} :
    itemsOfFile path bytes = .ok items ↔ ∃ text json, textOfBytes bytes = .ok text ∧
      Json.parse text = .ok json ∧ ((∃ members, json = .obj members ∧ [.data json] = items) ∨
        ∃ records, json = .arr records ∧ records.map .data = items) := by
  unfold itemsOfFile
  cases htext : textOfBytes bytes with
  | error fault => simp [bind, Except.bind]
  | ok text =>
    cases hparse : Json.parse text with
    | error refusal => cases refusal <;> simp [hparse, bind, Except.bind]
    | ok json => cases json <;> simp [hparse, bind, Except.bind]

theorem exists_itemsOfFile_iff {path : String} {bytes : List Nat} :
    (∃ items, itemsOfFile path bytes = .ok items ∧ ∀ item ∈ items, item.isRecord)
      ↔ IsTemplateFile (.file bytes) := by
  simp only [itemsOfFile_eq_ok_iff]
  constructor
  · rintro ⟨items, ⟨text, json, htext, hparse, ⟨members, rfl, rfl⟩ | ⟨records, rfl, rfl⟩⟩, hrecords⟩
    · exact ⟨text, _, htext, hparse, rfl⟩
    · exact ⟨text, _, htext, hparse, by simpa [holdsRecords] using hrecords⟩
  · rintro ⟨text, json, htext, hparse, hholds⟩
    cases json with
    | obj members =>
      exact ⟨_, ⟨text, _, htext, hparse, .inl ⟨members, rfl, rfl⟩⟩, by simp [Item.isRecord]⟩
    | arr records =>
      exact ⟨_, ⟨text, _, htext, hparse, .inr ⟨records, rfl, rfl⟩⟩,
        by simpa [holdsRecords] using hholds⟩
    | _ => cases hholds

theorem exists_itemsAt_iff {tree : FileTree} {names : List String} {name : String}
    (directory : String) :
    (∃ items, itemsAt tree names directory name = .ok items ∧ ∀ item ∈ items, item.isRecord)
      ↔ IsTemplateFile (tree.lookUp (names ++ [name])) := by
  unfold itemsAt
  cases tree.lookUp (names ++ [name]) with
  | file bytes => exact exists_itemsOfFile_iff
  | _ => simp [IsTemplateFile]

theorem exists_itemsOfFiles_iff {tree : FileTree} {names : List String} {directory : String}
    {files : List String} :
    (∃ items, itemsOfFiles tree names directory files = .ok items ∧ ∀ item ∈ items, item.isRecord)
      ↔ ∀ name ∈ files, IsTemplateFile (tree.lookUp (names ++ [name])) := by
  induction files with
  | nil => exact ⟨fun _ => by simp, fun _ => ⟨[], rfl, by simp⟩⟩
  | cons name rest ih =>
    rw [List.forall_mem_cons, ← exists_itemsAt_iff directory, ← ih, itemsOfFiles_cons]
    constructor
    · rintro ⟨_, h, hrecords⟩
      obtain ⟨items, hitems, h⟩ := bind_eq_ok_iff.mp h
      obtain ⟨more, hmore, he⟩ := bind_eq_ok_iff.mp h
      rw [← Except.ok.inj he, List.forall_mem_append] at hrecords
      exact ⟨⟨items, hitems, hrecords.1⟩, ⟨more, hmore, hrecords.2⟩⟩
    · rintro ⟨⟨items, hitems, hfirst⟩, ⟨more, hmore, hrest⟩⟩
      rw [hitems, hmore]
      exact ⟨items ++ more, rfl, List.forall_mem_append.mpr ⟨hfirst, hrest⟩⟩

theorem exists_itemsOfDirectory_iff {tree : FileTree} {path : String} :
    (∃ items, itemsOfDirectory tree path = .ok items ∧ ∀ item ∈ items, item.isRecord)
      ↔ (Load.directory tree path).IsSound := by
  unfold itemsOfDirectory Load.IsSound
  dsimp only
  cases tree.find (Path.normalize path) with
  | directory names => simp [exists_itemsOfFiles_iff]
  | _ => simp

theorem find_shelf (tree : FileTree) :
    tree.find (Path.normalize "shelf") = tree.follow [] ["shelf"] := by
  have hname : Path.normalize "shelf" = "shelf" := by decide +kernel
  have hshort : ¬FileTree.longestPath < "shelf".utf8ByteSize := by decide +kernel
  have hstart : Path.start "shelf" = [] := by simp [Path.start]
  rw [hname, FileTree.find, hstart, if_neg (by simp), if_neg hshort]
  rfl

end Flowplan.TemplateStore
