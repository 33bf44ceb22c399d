import Flowplan.FileTree
import Flowplan.Json.Reader
import Flowplan.Template.Catalog
import Flowplan.Template.Store

namespace Flowplan.TemplateStore

/-- What a template file holds: one template or a list of them. -/
def itemsOfFile (path : String) (bytes : List Nat) : Outcome (List Item) := do
  let text ← textOfBytes bytes
  match Json.parse text with
  | .error (.malformed fault) => .error (.load (.unreadable path (.json fault)))
  | .error (.beyond limit) => .error (.limit limit)
  | .ok (.obj members) => .ok [.data (.obj members)]
  | .ok (.arr items) => .ok (items.map .data)
  | .ok _ => .error (.load (.noTemplates path))

def itemsOfFiles (tree : FileTree) (names : List String) (directory : String) :
    List String → Outcome (List Item)
  | [] => .ok []
  | name :: rest => do
    let path := Path.join directory name
    let items ← match tree.lookUp (names ++ [name]) with
      | .file bytes => itemsOfFile path bytes
      | .directory _ => .error (.load (.unreadable path .directory))
      | _ => .ok []
    let more ← itemsOfFiles tree names directory rest
    pure (items ++ more)

/-- The contents of the template files of a directory, in the order of the file names. -/
def itemsOfDirectory (tree : FileTree) (directory : String) : Outcome (List Item) :=
  let path := Path.normalize directory
  match tree.find path with
  | .directory names =>
    itemsOfFiles tree names path ((tree.children names).filter (·.endsWith ".json"))
  | .unnameable => .error (.longPath path)
  | _ => .error (.load (.noDirectory path))

/-- Adds the templates of a directory after those that the store holds. -/
def loadDirectory (store : TemplateStore) (tree : FileTree) (directory : String) :
    Outcome Nat × TemplateStore :=
  store.replace <| (itemsOfDirectory tree directory).bind fun items =>
    ofItems (store.templates.map .held ++ items)

/-- A store of the templates of a directory alone. -/
def ofDirectory (tree : FileTree) (directory : String) : Outcome TemplateStore :=
  (itemsOfDirectory tree directory).bind ofItems

/-- The built-in templates, and those of a directory if there is one. -/
def standardWith (tree : FileTree) : Option String → Outcome TemplateStore
  | none => .ok standard
  | some directory =>
    let (count, store) := standard.loadDirectory tree directory
    count.map fun _ => store

end Flowplan.TemplateStore
