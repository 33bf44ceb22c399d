import Flowplan.Cli.Execution

namespace Flowplan.Program

/-- The text of the console markup without its tags. -/
def plainText (skipping : Bool) : List Char → List Char
  | [] => []
  | '[' :: c :: rest =>
    if c = '/' ∨ c.isLower then plainText true rest else '[' :: plainText skipping (c :: rest)
  | c :: rest =>
    if skipping then plainText (c ≠ ']') rest else c :: plainText false rest

def plain (text : String) : String :=
  String.ofList (plainText false text.toList)

def printRow (cells : List String) : IO Unit :=
  IO.println (" | ".intercalate cells)

def printItem : Cli.Printed → IO Unit
  | .line text => IO.println (plain text)
  | .panel text title => do
    if let some title := title then IO.println title
    IO.println (plain text)
  | .table title columns rows => do
    IO.println title
    printRow columns
    rows.forM printRow

/-- The bytes of a file, or nothing if it cannot be read. -/
def readFile? (path : String) : IO (Option (List Nat)) := do
  try
    let bytes ← IO.FS.readBinFile path
    pure (some (bytes.toList.map UInt8.toNat))
  catch _ => pure none

/-- The names in a directory, or nothing if there is no such directory. -/
def namesIn? (path : String) : IO (Option (List String)) := do
  try
    let directory ← IO.FS.realPath path
    pure (some ((← directory.readDir).toList.map (·.fileName)))
  catch _ => pure none

/-- The entry of a directory that a path leads through. -/
def passedEntry (path : String) (names : List String) :
    IO (List (List String × Option (List Nat))) := do
  pure (((← namesIn? path).map fun _ => (names, none)).toList)

/-- The entry of a file, or of a directory with its files. -/
def lastEntries (path : String) (names : List String) :
    IO (List (List String × Option (List Nat))) := do
  match ← readFile? path with
  | some bytes => pure [(names, some bytes)]
  | none =>
    match ← namesIn? path with
    | none => pure []
    | some found =>
      let files ← found.mapM fun name => do
        pure (names ++ [name], ← readFile? (Path.join path name))
      pure ((names, none) :: files)

/-- What stands at the end of a path, and the directories that lead there. -/
def entriesAlong (path : String) : IO (List (List String × Option (List Nat))) := do
  let names := Path.components path
  let place := fun count => (names.take count).foldl Path.step (Path.start path)
  let passed ← (List.range names.length).mapM fun count =>
    passedEntry (Path.ofComponents (Path.anchor path) (names.take count)) (place count)
  let found ← lastEntries (Path.normalize path) (place names.length)
  pure (found ++ passed.flatten)

def lookUpVariable (name : String) : IO (Option (String × String)) := do
  pure ((← IO.getEnv name).map fun value => (name, value))

def variableNames : List String := [
  "FLOWSMITH_TEMPLATES_DIR", "FLOWSMITH_OUTPUT_DIR", "FLOWSMITH_LOG_LEVEL", "FLOWSMITH_LOG_FILE",
  "FLOWSMITH_DEFAULT_SECURITY_LEVEL", "FLOWSMITH_INCLUDE_ERROR_HANDLING",
  "FLOWSMITH_ADD_MONITORING", "FLOWSMITH_RECOMMENDATION_DISPLAY_LIMIT"]

def readSettings : IO (Checked Settings) := do
  let found ← variableNames.mapM lookUpVariable
  pure (Settings.ofEnvironment (found.filterMap id))

/-- The paths that a command may read. -/
def pathsOf (settings : Settings) (line : List String) : List String :=
  settings.templatesPath.toList ++
    match Cli.Invocation.read settings line with
    | .command _ (.run request) => [request.input]
    | .command _ (.validate file) => [file]
    | _ => []

def seedOf (settings : Settings) (line : List String) : Option Int :=
  match Cli.Invocation.read settings line with
  | .command _ (.run request) => request.seed
  | _ => none

/-- Estimates the hours that an automation saves in a week. -/
def estimate (seed : Option Int) : IO Nat := do
  if let some seed := seed then IO.setRandSeed seed.natAbs
  IO.rand 10 29

def writeFiles (directory : String) (files : List (String × String)) : IO Unit := do
  IO.FS.createDirAll directory
  files.forM fun file => IO.FS.writeFile (Path.join directory file.1) file.2

def run (line : List String) : IO UInt32 := do
  match ← readSettings with
  | .flaws count =>
    IO.eprintln s!"{count} validation error(s)"
    pure 1
  | .value settings =>
    let entries ← (pathsOf settings line).mapM entriesAlong
    let hours ← estimate (seedOf settings line)
    let environment : Cli.Environment := {
      settings
      tree := ⟨entries.flatten⟩
      hours := .int hours
      runName := s!"run_{← IO.monoMsNow}" }
    match (Cli.call environment line).effect with
    | .error fault =>
      IO.eprintln s!"{fault.name}: {fault.message}"
      pure 1
    | .ok effect =>
      effect.printed.forM printItem
      effect.files.forM fun entry => writeFiles entry.1 entry.2
      pure effect.code.toUInt32

end Flowplan.Program

def main (line : List String) : IO UInt32 :=
  Flowplan.Program.run line
