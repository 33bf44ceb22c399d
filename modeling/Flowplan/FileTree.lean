import Flowplan.Fault
import Flowplan.Path
import Flowplan.Text.Line

namespace Flowplan

/-- Files and directories. An entry has the names that lead to its place, and its bytes if it is a
file. -/
structure FileTree where
  entries : List (List String × Option (List Nat))

/-- What a path leads to: nothing, a place beyond a file, a name that no place can have, or a
directory or a file. -/
inductive Place where
  | absent
  | blocked
  | unnameable
  | directory (names : List String)
  | file (bytes : List Nat)

namespace FileTree

def empty : FileTree := ⟨[]⟩

/-- A directory need not have an entry of its own if there is an entry below it. -/
def lookUp (tree : FileTree) (names : List String) : Place :=
  match tree.entries.lookup names with
  | some (some bytes) => .file bytes
  | some none => .directory names
  | none =>
    if names = [] ∨ names = ["/"] ∨ tree.entries.any fun entry => names.isPrefixOf entry.1 then
      .directory names
    else .absent

/-- The bytes of the longest name. -/
def longestName : Nat := 255

/-- The bytes of the longest path. -/
def longestPath : Nat := 4095

/-- Follows the parts of a path, each of which needs a directory to start from. -/
def follow (tree : FileTree) (names : List String) : List String → Place
  | [] => tree.lookUp names
  | part :: rest =>
    match tree.lookUp names with
    | .directory _ =>
      if longestName < part.utf8ByteSize then .unnameable
      else follow tree (Path.step names part) rest
    | .file _ => .blocked
    | place => place

/-- What a path leads to; a path with a null character leads to nothing. -/
def find (tree : FileTree) (path : String) : Place :=
  if path.contains '\x00' then .absent
  else if longestPath < path.utf8ByteSize then .unnameable
  else tree.follow (Path.start path) (Path.parts path)

/-- The names directly below a directory, each once, in the order of their code points. -/
def children (tree : FileTree) (names : List String) : List String :=
  let below := tree.entries.filterMap fun entry =>
    if names.isPrefixOf entry.1 then (entry.1.drop names.length).head? else none
  below.eraseDups.mergeSort fun a b => a ≤ b

/-- The tree with a directory at the end of a path, or nothing if that path leads through a
directory that is missing. -/
def addDirectory (tree : FileTree) (path : String) (parent : String) (name : String) :
    Outcome (Option FileTree) :=
  match tree.find parent, tree.find path with
  | .absent, _ => .ok none
  | .directory names, .absent => .ok (some ⟨(Path.step names name, none) :: tree.entries⟩)
  | .directory _, .directory _ => .ok (some tree)
  | .directory _, .file _ => .error (.occupied path)
  | .unnameable, _ => .error (.longPath path)
  | _, .unnameable => .error (.longPath path)
  | _, _ => .error (.notDirectory path)

/-- The tree with a directory and all that lead to it; the names on its path are given from the
last one backwards. -/
def addDirectories (tree : FileTree) (anchor : String) : List String → Outcome FileTree
  | [] => .ok tree
  | name :: names => do
    let path := Path.ofComponents anchor (name :: names).reverse
    let parent := Path.ofComponents anchor names.reverse
    match ← tree.addDirectory path parent name with
    | some tree => pure tree
    | none =>
      let tree ← tree.addDirectories anchor names
      pure ((← tree.addDirectory path parent name).getD tree)

/-- Makes a directory where there may be none yet. -/
def makeDirectory (tree : FileTree) (path : String) : Outcome FileTree :=
  if path.contains '\x00' then .error .nullCharacter
  else tree.addDirectories (Path.anchor path) (Path.components path).reverse

end FileTree

/-- The text of a file: its bytes are UTF-8, and its line ends become line feeds. -/
def textOfBytes (bytes : List Nat) : Outcome String :=
  match Text.decodeUtf8 bytes with
  | .ok text => .ok (String.ofList (Text.unifyNewlines text.toList))
  | .error fault => .error (.encoding fault)

end Flowplan
