import Flowplan.Blueprint.Return
import Flowplan.Cli.Command
import Flowplan.Cli.Console
import Flowplan.Graph.Structure
import Flowplan.Messages
import Flowplan.Template.Directory

namespace Flowplan.Cli

/-- What a command finds around it. -/
structure Environment where
  settings : Settings
  tree : FileTree
  hours : Json
  runName : String

/-- What a command leaves behind: output, an exit code, and files under a directory. Printing is
taken not to fail, so what is printed is to be sound markup that the terminal can show; that a name
in it looks like a closing tag is left out. -/
structure Effect where
  printed : List Printed
  code : Nat
  files : List (String × List (String × String))

namespace Effect

def success (printed : List Printed) : Effect := ⟨printed, 0, []⟩

def failure (printed : List Printed) : Effect := ⟨printed, 1, []⟩

/-- A fault that a user can mend is explained; any other fault ends the program. -/
def ofFault (printed : List Printed) (explain : String → String) (fault : Fault) :
    Outcome Effect :=
  if fault.isReported then .ok (failure (printed ++ [.line (explain fault.message)]))
  else .error fault

def after (printed : List Printed) (effect : Effect) : Effect :=
  { effect with printed := printed ++ effect.printed }

end Effect

def withStore (environment : Environment) (use : TemplateStore → Outcome Effect) :
    Outcome Effect :=
  match TemplateStore.standardWith environment.tree environment.settings.templatesPath with
  | .ok store => use store
  | .error fault => Effect.ofFault [] ("[red]Error loading templates:[/red] " ++ ·) fault

def searchEffect (query : String) (filters : SearchFilters) (store : TemplateStore) : Effect :=
  match store.search query filters with
  | [] => .success [.line "[yellow]No templates found.[/yellow]"]
  | found => .success [.templates s!"{found.length} template(s)" found]

def recommendEffect (texts : List String) (limit : Int) (store : TemplateStore) : Effect :=
  match store.recommend texts limit with
  | [] => .success [.line "[yellow]No matching templates.[/yellow]"]
  | found => .success [.templates "Recommended templates" found]

def statsEffect (store : TemplateStore) : Effect :=
  .success [.statistics store.stats, .categories store]

/-- The directory for the files of a run. -/
def runDirectory (environment : Environment) (request : RunRequest) : String :=
  Path.join (Path.normalize (request.output.getD environment.settings.outputDirectory))
    environment.runName

def completed (environment : Environment) (request : RunRequest) (run : Run) :
    Outcome Effect := do
  let directory := runDirectory environment request
  let _ ← environment.tree.makeDirectory directory
  pure {
    printed := [.rule] ++ Printed.run run environment.runName directory ++ [.rule]
    code := 0
    files := [(directory, run.artifacts)] }

def runPipeline (environment : Environment) (request : RunRequest) (messages : List Json)
    (store : TemplateStore) : Outcome Effect := do
  let hours ← Estimate.ofPositive environment.hours
  let pipeline := Pipeline.standard store hours environment.settings.recommendationLimit
  match ← pipeline.run (.arr messages) request.config request.options .start with
  | .completed run => completed environment request run
  | .failed fault => Effect.ofFault [.rule] ("[red]Error:[/red] " ++ ·) fault

def runMessages (environment : Environment) (request : RunRequest) : Outcome Effect := do
  match ← Messages.read environment.tree request.input with
  | [] => pure (.failure [.line "[red]Error: Input is empty[/red]"])
  | messages =>
    let effect ← withStore environment (runPipeline environment request messages)
    pure (effect.after [.line s!"[dim]Messages:[/dim] {messages.length}"])

def verdict (graph : Graph) : Outcome Effect := do
  match ← graph.problems with
  | [] =>
    pure (.success [.line (s!"[green]OK:[/green] '{graph.name.shown}' "
      ++ s!"({graph.nodes.length} nodes, {graph.edgeCount} edges)")])
  | problems =>
    pure (.failure (.line s!"[red]{problems.length} problem(s) in '{graph.name.shown}':[/red]"
      :: problems.map fun problem => .line ("  - " ++ problem.message)))

def validateBytes (bytes : List Nat) : Outcome Effect :=
  match (textOfBytes bytes).bind Graph.deserialize with
  | .ok graph => verdict graph
  | .error fault => Effect.ofFault [] ("[red]Invalid graph:[/red] " ++ ·) fault

def usageError : Effect := ⟨[], 2, []⟩

/-- A path that leads to no file is a wrong argument. -/
def validateFile (environment : Environment) (path : String) : Outcome Effect :=
  if path.contains '\x00' then .error .nullCharacter
  else
    match environment.tree.find path with
    | .file bytes => validateBytes bytes
    | _ => .ok usageError

def Command.effect (environment : Environment) : Command → Outcome Effect
  | .search query filters =>
    withStore environment fun store => pure (searchEffect query filters store)
  | .recommend texts limit =>
    withStore environment fun store => pure (recommendEffect texts limit store)
  | .stats => withStore environment fun store => pure (statsEffect store)
  | .run request => (runMessages environment request).map (Effect.after [.banner])
  | .validate file => validateFile environment file

/-- What a call of the program does. The log is set up, perhaps to tell more, once a command is
known; the rest of the command line is read after that. -/
structure Call where
  effect : Outcome Effect
  logging : Option Bool

def call (environment : Environment) (line : List String) : Call :=
  match Invocation.read environment.settings line with
  | .misused => ⟨.ok usageError, none⟩
  | .help => ⟨.ok (.success []), none⟩
  | .misusedCommand verbose => ⟨.ok usageError, some verbose⟩
  | .commandHelp verbose => ⟨.ok (.success []), some verbose⟩
  | .command verbose command => ⟨command.effect environment, some verbose⟩

end Flowplan.Cli
