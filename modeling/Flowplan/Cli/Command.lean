import Flowplan.Blueprint.Config
import Flowplan.Cli.Arguments
import Flowplan.Graph.Options
import Flowplan.Settings
import Flowplan.Template.Search
import Flowplan.Text.Digit

namespace Flowplan.Cli

structure RunRequest where
  input : String
  output : Option String
  options : GraphOptions
  config : BlueprintConfig
  seed : Option Int

inductive Command where
  | search (query : String) (filters : SearchFilters)
  | recommend (texts : List String) (limit : Int)
  | stats
  | run (request : RunRequest)
  | validate (file : String)

/-- What a command line asks for. -/
inductive Invocation where
  | misused
  | help
  | misusedCommand (verbose : Bool)
  | commandHelp (verbose : Bool)
  | command (verbose : Bool) (command : Command)

/-- Digits of any script, in which single underscores may stand between two digits. -/
def scriptDigits? : List Char → Option (List Nat)
  | [] => none
  | [c] => (Text.digitValue? c).map ([·])
  | c :: '_' :: rest => do pure ((← Text.digitValue? c) :: (← scriptDigits? rest))
  | c :: rest => do pure ((← Text.digitValue? c) :: (← scriptDigits? rest))

/-- The integer that an argument spells, with blanks around it and a sign. -/
def integer? (argument : String) : Option Int :=
  let (negative, body) := Numeral.splitSign (Text.trimmed Text.isWhiteSpace argument.toList)
  ((scriptDigits? body).filter fun digits => digits.length ≤ Text.mostDigits).map fun digits =>
    let n : Int := Text.ofDigits digits
    if negative then -n else n

def valueOption (name key : String) : OptionSpec := ⟨name, key, none⟩

def flagOption (name key stored : String) : OptionSpec := ⟨name, key, some stored⟩

def helpOption : OptionSpec := flagOption "--help" "help" "on"

def programOptions : List OptionSpec := [
  flagOption "--verbose" "verbose" "on",
  flagOption "-v" "verbose" "on",
  helpOption]

def searchOptions : List OptionSpec := [
  valueOption "--category" "category",
  valueOption "--difficulty" "difficulty",
  valueOption "--tag" "tag",
  valueOption "--integration" "integration",
  helpOption]

def recommendOptions : List OptionSpec := [valueOption "--limit" "limit", helpOption]

def runOptions : List OptionSpec := [
  valueOption "--input" "input",
  valueOption "-i" "input",
  valueOption "--output" "output",
  valueOption "-o" "output",
  valueOption "--security-level" "security-level",
  flagOption "--error-handling" "error-handling" "on",
  flagOption "--no-error-handling" "error-handling" "off",
  flagOption "--monitoring" "monitoring" "on",
  flagOption "--no-monitoring" "monitoring" "off",
  flagOption "--retries" "retries" "on",
  flagOption "--no-retries" "retries" "off",
  valueOption "--timeline" "timeline",
  valueOption "--risk-tolerance" "risk-tolerance",
  valueOption "--seed" "seed",
  helpOption]

/-- A choice that may be left out. -/
def choice? [Labelled α] (arguments : Arguments) (key : String) : Option (Option α) :=
  match arguments.last? key with
  | none => some none
  | some text => (Labelled.ofLabel? text).map some

def integerOption? (arguments : Arguments) (key : String) : Option (Option Int) :=
  match arguments.last? key with
  | none => some none
  | some text => (integer? text).map some

def switched (arguments : Arguments) (key : String) (default : Bool) : Bool :=
  match arguments.last? key with
  | none => default
  | some stored => stored = "on"

def readSearch (arguments : Arguments) : Option Command := do
  let category ← choice? arguments "category"
  let difficulty ← choice? arguments "difficulty"
  let query ← match arguments.positional with
    | [] => some ""
    | [query] => some query
    | _ => none
  pure (.search query
    { category
      difficulty
      tags := arguments.all "tag"
      service := arguments.last? "integration" })

def readRecommend (settings : Settings) (arguments : Arguments) : Option Command := do
  let limit ← integerOption? arguments "limit"
  if arguments.positional.isEmpty then none
  else pure (.recommend arguments.positional (limit.getD settings.recommendationLimit))

def readStats (arguments : Arguments) : Option Command :=
  if arguments.positional.isEmpty then some .stats else none

def readRun (settings : Settings) (arguments : Arguments) : Option Command := do
  let input ← arguments.last? "input"
  let security ← Labelled.ofLabel?
    ((arguments.last? "security-level").getD settings.securityLevel)
  let timeline ← choice? arguments "timeline"
  let riskTolerance ← choice? arguments "risk-tolerance"
  let seed ← integerOption? arguments "seed"
  let errorHandling := switched arguments "error-handling" settings.errorHandling
  if arguments.positional.isEmpty then
    pure (.run {
      input
      output := (arguments.last? "output").filter (!·.isEmpty)
      options := {
        errorHandling
        monitoring := switched arguments "monitoring" settings.monitoring
        retries := switched arguments "retries" false
        logging := errorHandling
        security
        scalability := .simple }
      config := { BlueprintConfig.standard with
        timeline := timeline.getD .normal
        riskTolerance := riskTolerance.getD .medium }
      seed })
  else none

def readValidate (arguments : Arguments) : Option Command :=
  match arguments.positional with
  | [file] => some (.validate file)
  | _ => none

/-- The options of a command, and how its arguments are read. -/
def commandReader? (settings : Settings) (name : String) :
    Option (List OptionSpec × (Arguments → Option Command)) :=
  match name with
  | "search" => some (searchOptions, readSearch)
  | "recommend" => some (recommendOptions, readRecommend settings)
  | "stats" => some ([helpOption], readStats)
  | "run" => some (runOptions, readRun settings)
  | "validate" => some ([helpOption], readValidate)
  | _ => none

def readCommand (verbose : Bool) (specs : List OptionSpec)
    (reader : Arguments → Option Command) (rest : List String) : Invocation :=
  match Arguments.read specs true rest with
  | none => .misusedCommand verbose
  | some arguments =>
    if arguments.has "help" then .commandHelp verbose
    else
      match reader arguments with
      | some command => .command verbose command
      | none => .misusedCommand verbose

/-- The options of the program ask for help. -/
def asksForHelp (line : List String) : Bool :=
  (Arguments.read programOptions false line).any (·.has "help")

/-- Reads a command line: options of the program, the name of a command, and what follows it.
An option in the place of the name is still read as one. -/
def Invocation.read (settings : Settings) (line : List String) : Invocation :=
  match Arguments.read programOptions false line with
  | none => .misused
  | some arguments =>
    if arguments.has "help" then .help
    else
      match arguments.positional with
      | [] => .misused
      | name :: rest =>
        match commandReader? settings name with
        | none => if asksForHelp (name :: rest) then .help else .misused
        | some (specs, reader) => readCommand (arguments.has "verbose") specs reader rest

end Flowplan.Cli
