import Flowplan.Cli.Execution
import Flowplan.Proofs.Template.Loading

namespace Flowplan

namespace TemplateStore

/-- It cannot be told what JSON a file holds: its bytes are no text, or the text is beyond the
limits of the reader. -/
inductive Undecodable (bytes : List Nat) : Fault → Prop where
  | encoding {cause : Text.Utf8Fault} (broken : Text.decodeUtf8 bytes = .error cause) :
    Undecodable bytes (.encoding cause)
  | limit {text : String} {limit : Json.Limit} (decoded : textOfBytes bytes = .ok text)
    (beyond : Json.parse text = .error (.beyond limit)) : Undecodable bytes (.limit limit)

theorem Undecodable.not_isReported {bytes : List Nat} {fault : Fault}
    (h : Undecodable bytes fault) : ¬fault.isReported := by
  cases h with
  | encoding => nofun
  | limit => nofun

/-- An object or a list stands under the name of a template file, or nothing does. -/
def GivesItems : Place → Prop
  | .file bytes => ∃ text json, textOfBytes bytes = .ok text ∧ Json.parse text = .ok json ∧
      ((∃ members, json = .obj members) ∨ ∃ items, json = .arr items)
  | .directory _ => False
  | _ => True

theorem exists_itemsOfFile_eq_ok_iff {path : String} {bytes : List Nat} :
    (∃ items, itemsOfFile path bytes = .ok items) ↔ GivesItems (.file bytes) := by
  simp only [itemsOfFile_eq_ok_iff]
  constructor
  · rintro ⟨items, text, json, htext, hparse, ⟨members, hjson, -⟩ | ⟨records, hjson, -⟩⟩
    · exact ⟨text, json, htext, hparse, .inl ⟨members, hjson⟩⟩
    · exact ⟨text, json, htext, hparse, .inr ⟨records, hjson⟩⟩
  · rintro ⟨text, json, htext, hparse, ⟨members, hjson⟩ | ⟨records, hjson⟩⟩
    · exact ⟨_, text, json, htext, hparse, .inl ⟨members, hjson, rfl⟩⟩
    · exact ⟨_, text, json, htext, hparse, .inr ⟨records, hjson, rfl⟩⟩

theorem exists_itemsAt_eq_ok_iff {tree : FileTree} {names : List String}
    {directory name : String} :
    (∃ items, itemsAt tree names directory name = .ok items)
      ↔ GivesItems (tree.lookUp (names ++ [name])) := by
  unfold itemsAt
  cases tree.lookUp (names ++ [name]) with
  | file bytes => exact exists_itemsOfFile_eq_ok_iff
  | _ => simp [GivesItems]

theorem itemsOfFile_eq_error {path : String} {bytes : List Nat} {fault : Fault}
    (h : itemsOfFile path bytes = .error fault) :
    (∃ cause, fault = .load cause) ∨ Undecodable bytes fault := by
  unfold itemsOfFile at h
  rcases bind_eq_error_iff.mp h with htext | ⟨text, htext, h⟩
  -- Only the decoding of the bytes and the limits of the reader have faults of their own.
  · right
    unfold textOfBytes at htext
    split at htext
    · exact nomatch htext
    next cause hcause =>
      cases htext
      exact .encoding hcause
  · split at h
    next => exact .inl ⟨_, (Except.error.inj h).symm⟩
    next limit hparse =>
      cases h
      exact .inr (.limit htext hparse)
    next => exact nomatch h
    next => exact nomatch h
    next => exact .inl ⟨_, (Except.error.inj h).symm⟩

theorem itemsOfFile_of_undecodable {bytes : List Nat} {fault : Fault} (path : String)
    (h : Undecodable bytes fault) : itemsOfFile path bytes = .error fault := by
  unfold itemsOfFile
  cases h with
  | encoding broken =>
    rw [textOfBytes, broken]
    rfl
  | limit decoded beyond =>
    rw [decoded, bind_eq_error_iff]
    exact .inr ⟨_, rfl, by rw [beyond]⟩

theorem itemsAt_eq_error {tree : FileTree} {names : List String} {directory name : String}
    {fault : Fault} (h : itemsAt tree names directory name = .error fault) :
    (∃ cause, fault = .load cause) ∨
      ∃ bytes, tree.lookUp (names ++ [name]) = .file bytes ∧ Undecodable bytes fault := by
  unfold itemsAt at h
  split at h
  next bytes hplace =>
    exact (itemsOfFile_eq_error h).imp_right fun hbytes => ⟨bytes, hplace, hbytes⟩
  next => exact .inl ⟨_, (Except.error.inj h).symm⟩
  next => exact nomatch h

/-- The files are read one after the other, and their items are put together. -/
theorem itemsOfFiles_eq_mapM (tree : FileTree) (names : List String) (directory : String)
    (files : List String) :
    itemsOfFiles tree names directory files
      = (files.mapM (itemsAt tree names directory)).map List.flatten := by
  induction files with
  | nil => rfl
  | cons name rest ih =>
    rw [itemsOfFiles_cons, ih, List.mapM_cons]
    cases itemsAt tree names directory name with
    | error fault => rfl
    | ok items => cases rest.mapM (itemsAt tree names directory) <;> rfl

/-- Why a fault that is not reported ends the load of the directory at a path. -/
inductive Escapes (tree : FileTree) (path : String) : Fault → Prop where
  | unnameable (found : tree.find path = .unnameable) : Escapes tree path (.longPath path)
  | undecodable {names before after : List String} {name : String} {bytes : List Nat}
    {fault : Fault} (found : tree.find path = .directory names)
    (files : (tree.children names).filter (·.endsWith ".json") = before ++ name :: after)
    (read : ∀ earlier ∈ before, GivesItems (tree.lookUp (names ++ [earlier])))
    (reached : tree.lookUp (names ++ [name]) = .file bytes)
    (undecodable : Undecodable bytes fault) : Escapes tree path fault

theorem Escapes.not_isReported {tree : FileTree} {path : String} {fault : Fault}
    (h : Escapes tree path fault) : ¬fault.isReported := by
  cases h with
  | unnameable => nofun
  | undecodable _ _ _ _ undecodable => exact undecodable.not_isReported

theorem itemsOfDirectory_of_escapes {tree : FileTree} {directory : String} {fault : Fault}
    (h : Escapes tree (Path.normalize directory) fault) :
    itemsOfDirectory tree directory = .error fault := by
  unfold itemsOfDirectory
  cases h with
  | unnameable found => simp only [found]
  | @undecodable names before after name bytes _ found files read reached undecodable =>
    simp only [found, itemsOfFiles_eq_mapM, map_eq_error_iff, mapM_eq_error_iff]
    refine ⟨before, name, after, files,
      fun earlier hm => exists_itemsAt_eq_ok_iff.mpr (read earlier hm), ?_⟩
    rw [itemsAt, reached]
    exact itemsOfFile_of_undecodable _ undecodable

theorem itemsOfDirectory_eq_error {tree : FileTree} {directory : String} {fault : Fault}
    (h : itemsOfDirectory tree directory = .error fault) :
    (∃ cause, fault = .load cause) ∨ Escapes tree (Path.normalize directory) fault := by
  unfold itemsOfDirectory at h
  dsimp only at h
  split at h
  next names found =>
    rw [itemsOfFiles_eq_mapM, map_eq_error_iff, mapM_eq_error_iff] at h
    obtain ⟨before, name, after, files, read, hname⟩ := h
    refine (itemsAt_eq_error hname).imp_right fun ⟨bytes, reached, undecodable⟩ => ?_
    exact .undecodable found files (fun earlier hm => exists_itemsAt_eq_ok_iff.mp (read earlier hm))
      reached undecodable
  next found =>
    cases h
    exact .inr (.unnameable found)
  next => exact .inl ⟨_, (Except.error.inj h).symm⟩

/-- Once all items are there, only an item that is no record can be to blame. -/
theorem ofItems_eq_error {items : List Item} {fault : Fault} (h : ofItems items = .error fault) :
    ∃ cause, fault = .precondition cause := by
  have hread : ∀ item : Item, item.read = .error fault → ∃ cause, fault = .precondition cause := by
    intro item hitem
    unfold Item.read at hitem
    split at hitem
    · cases hitem
    · cases hitem
    · exact ⟨_, (Except.error.inj hitem).symm⟩
  rw [ofItems, map_eq_error_iff] at h
  induction items with
  | nil => cases h
  | cons item rest ih =>
    rw [readItems, bind_eq_error_iff] at h
    rcases h with h | ⟨_, _, h⟩
    · exact hread item h
    · rcases bind_eq_error_iff.mp h with h | ⟨_, _, h⟩
      · exact ih h
      · cases h

theorem loadDirectory_eq_error_iff {store : TemplateStore} {tree : FileTree} {directory : String}
    {fault : Fault} : (store.loadDirectory tree directory).1 = .error fault ↔
      itemsOfDirectory tree directory = .error fault ∨
        ∃ items, itemsOfDirectory tree directory = .ok items ∧
          ofItems (store.templates.map .held ++ items) = .error fault := by
  have hreplace : ∀ outcome : Outcome TemplateStore,
      (store.replace outcome).1 = .error fault ↔ outcome = .error fault := by
    intro outcome
    cases outcome <;> simp [replace]
  exact (hreplace _).trans bind_eq_error_iff

theorem loadDirectory_of_escapes {tree : FileTree} {directory : String} {fault : Fault}
    (store : TemplateStore) (h : Escapes tree (Path.normalize directory) fault) :
    (store.loadDirectory tree directory).1 = .error fault :=
  loadDirectory_eq_error_iff.mpr (.inl (itemsOfDirectory_of_escapes h))

theorem loadDirectory_error_cases {store : TemplateStore} {tree : FileTree} {directory : String}
    {fault : Fault} (h : (store.loadDirectory tree directory).1 = .error fault) :
    (∃ cause, fault = .load cause) ∨ (∃ cause, fault = .precondition cause) ∨
      Escapes tree (Path.normalize directory) fault := by
  rcases loadDirectory_eq_error_iff.mp h with hread | ⟨items, _, hitems⟩
  · exact (itemsOfDirectory_eq_error hread).imp_right .inr
  · exact .inr (.inl (ofItems_eq_error hitems))

end TemplateStore

/-- Whoever opens the store explains a fault that is reported, and ends with any other one. -/
theorem Cli.withStore_of_error {environment : Cli.Environment} {directory : String} {fault : Fault}
    (named : environment.settings.templatesPath = some directory)
    (h : (TemplateStore.standard.loadDirectory environment.tree directory).1 = .error fault)
    (use : TemplateStore → Outcome Cli.Effect) :
    Cli.withStore environment use = if fault.isReported
      then .ok (.failure [.line ("[red]Error loading templates:[/red] " ++ fault.message)])
      else .error fault := by
  have hstore : TemplateStore.standardWith environment.tree (some directory) = .error fault := by
    unfold TemplateStore.standardWith
    dsimp only
    rw [h]
    rfl
  rw [Cli.withStore, named, hstore]
  rfl

namespace TemplateStore

/-- The load of a directory succeeds, or ends with a fault that is reported, which is then one of
loading or of what was passed; or it ends with a fault that nobody explains, exactly if the path is
too long or the first template file that gives no items cannot be decoded. -/
theorem loadDirectory_escapes_iff (store : TemplateStore) (tree : FileTree) (directory : String) :
    (∀ fault, (store.loadDirectory tree directory).1 = .error fault → fault.isReported →
      (∃ cause, fault = .load cause) ∨ ∃ cause, fault = .precondition cause) ∧
    (∀ fault, (store.loadDirectory tree directory).1 = .error fault ∧ ¬fault.isReported ↔
      Escapes tree (Path.normalize directory) fault) ∧
    ∀ environment : Cli.Environment, environment.tree = tree →
      environment.settings.templatesPath = some directory →
      ∀ fault, (standard.loadDirectory tree directory).1 = .error fault → ∀ use,
        Cli.withStore environment use = if fault.isReported
          then .ok (.failure [.line ("[red]Error loading templates:[/red] " ++ fault.message)])
          else .error fault := by
  refine ⟨fun fault h reported => ?_, fun fault => ⟨?_, ?_⟩, ?_⟩
  · rcases loadDirectory_error_cases h with hload | hprecondition | hescapes
    · exact .inl hload
    · exact .inr hprecondition
    · exact absurd reported hescapes.not_isReported
  · rintro ⟨h, unreported⟩
    rcases loadDirectory_error_cases h with ⟨cause, rfl⟩ | ⟨cause, rfl⟩ | hescapes
    · exact absurd rfl unreported
    · exact absurd rfl unreported
    · exact hescapes
  · exact fun hescapes => ⟨loadDirectory_of_escapes store hescapes, hescapes.not_isReported⟩
  · rintro environment rfl named fault h use
    exact Cli.withStore_of_error named h use

/-- A directory with one template file, whose only byte begins no character. -/
def garbled : FileTree := ⟨[(["bad.json"], some [255])]⟩

/-- Not every load of a directory succeeds or ends with a fault that is reported. -/
theorem loadDirectory_garbled :
    (standard.loadDirectory garbled ".").1 = .error (.encoding ⟨.start, 255, 0, 0⟩) ∧
      (∀ count, (standard.loadDirectory garbled ".").1 ≠ .ok count) ∧
      ¬∃ fault, (standard.loadDirectory garbled ".").1 = .error fault ∧ fault.isReported := by
  have hname : Path.normalize "." = "." := by decide +kernel
  have hfound : garbled.find (Path.normalize ".") = .directory [] := by
    have hshort : ¬FileTree.longestPath < ".".utf8ByteSize := by decide +kernel
    have hstart : Path.start "." = [] := by simp [Path.start]
    rw [hname, FileTree.find, hstart, if_neg (by simp), if_neg hshort]
    rfl
  have hfiles : (garbled.children []).filter (·.endsWith ".json") = [] ++ "bad.json" :: [] := by
    have hchildren : garbled.children [] = ["bad.json"] := by
      simp [FileTree.children, garbled, List.eraseDups_cons]
    rw [hchildren]
    refine List.filter_eq_self.mpr fun name hm => ?_
    rw [List.mem_singleton.mp hm]
    decide +kernel
  have hbytes : Text.decodeUtf8 [255] = .error ⟨.start, 255, 0, 0⟩ := by
    simp [Text.decodeUtf8, Text.decodeUtf8From, Text.sequenceLength?, Except.map]
  have h := loadDirectory_of_escapes standard
    (.undecodable hfound hfiles (by simp) rfl (.encoding hbytes))
  rw [h]
  refine ⟨rfl, fun count he => ?_, ?_⟩
  · cases he
  · rintro ⟨fault, he, reported⟩
    cases he
    cases reported

end TemplateStore

end Flowplan
