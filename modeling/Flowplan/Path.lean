namespace Flowplan.Path

/-- The names between the slashes of a path. -/
def splitSlashes (name : List Char) : List Char → List (List Char)
  | [] => [name.reverse]
  | c :: rest =>
    if c = '/' then name.reverse :: splitSlashes [] rest else splitSlashes (c :: name) rest

def parts (path : String) : List String :=
  (splitSlashes [] path.toList).map String.ofList

/-- The names on a path; empty names and single dots name nothing. -/
def components (path : String) : List String :=
  (parts path).filter fun name => name ≠ "" ∧ name ≠ "."

/-- The leading slashes that tell paths apart: none, one, or exactly two. -/
def anchor (path : String) : String :=
  match path.toList with
  | '/' :: '/' :: '/' :: _ => "/"
  | '/' :: '/' :: _ => "//"
  | '/' :: _ => "/"
  | _ => ""

def ofComponents (anchor : String) (names : List String) : String :=
  let path := anchor ++ "/".intercalate names
  if path.isEmpty then "." else path

/-- The path without empty names and single dots. -/
def normalize (path : String) : String :=
  ofComponents (anchor path) (components path)

def join (directory name : String) : String :=
  if directory = "." then name
  else if directory.endsWith "/" then directory ++ name
  else directory ++ "/" ++ name

/-- The place where a path begins: the root, or the current directory, which has no name. -/
def start (path : String) : List String :=
  if path.startsWith "/" then ["/"] else []

/-- The place that a name leads to from a directory. The root and the current directory lead to
themselves by two dots. -/
def step (place : List String) (name : String) : List String :=
  if name = "" ∨ name = "." then place
  else if name = ".." then if place = ["/"] then place else place.dropLast
  else place ++ [name]

end Flowplan.Path
