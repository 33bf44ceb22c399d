import Flowplan.Path
import Flowplan.Record.Field

namespace Flowplan

/-- What the environment may fix about the program. -/
structure Settings where
  templatesDirectory : Option String
  outputDirectory : String
  logLevel : String
  logFile : Option String
  securityLevel : String
  errorHandling : Bool
  monitoring : Bool
  recommendationLimit : Nat
  deriving DecidableEq

namespace Settings

def standard : Settings where
  templatesDirectory := none
  outputDirectory := "./outputs"
  logLevel := "INFO"
  logFile := none
  securityLevel := "basic"
  errorHandling := false
  monitoring := false
  recommendationLimit := 5

def readLimit (json : Json) : Checked Nat :=
  ((Record.whole json).guard fun n => 1 ≤ n && n ≤ 10).map Int.toNat

def ofMembers (members : Record.Members) : Checked Settings :=
  Settings.mk
    <$> Record.optional members "templates_dir" (Record.nullable Record.text)
      standard.templatesDirectory
    <*> Record.optional members "output_dir" Record.text standard.outputDirectory
    <*> Record.optional members "log_level" Record.text standard.logLevel
    <*> Record.optional members "log_file" (Record.nullable Record.text) standard.logFile
    <*> Record.optional members "default_security_level" Record.text standard.securityLevel
    <*> Record.optional members "include_error_handling" Record.flag standard.errorHandling
    <*> Record.optional members "add_monitoring" Record.flag standard.monitoring
    <*> Record.optional members "recommendation_display_limit" readLimit
      standard.recommendationLimit

def lowered (name : String) : String :=
  String.ofList (name.toList.map Char.toLower)

/-- The setting that a variable of the environment names, in any case and after a prefix. -/
def settingName? (name : String) : Option String :=
  let lead := "flowsmith_"
  if (lowered name).startsWith lead then some ((lowered name).drop lead.length).toString else none

/-- The settings in the environment; of variables that differ in case only the last one counts. -/
def ofEnvironment (entries : List (String × String)) : Checked Settings :=
  ofMembers (Json.mergeMembers (entries.filterMap fun entry =>
    (settingName? entry.1).map fun name => (name, .str entry.2)))

def outputPath (settings : Settings) : String :=
  Path.normalize settings.outputDirectory

/-- The directory of further templates; an empty name stands for none. -/
def templatesPath (settings : Settings) : Option String :=
  (settings.templatesDirectory.filter (!·.isEmpty)).map Path.normalize

def toJson (settings : Settings) : Json :=
  .obj [
    ("templates_dir", .ofOption .str settings.templatesDirectory),
    ("output_dir", .str settings.outputDirectory),
    ("log_level", .str settings.logLevel),
    ("log_file", .ofOption .str settings.logFile),
    ("default_security_level", .str settings.securityLevel),
    ("include_error_handling", .bool settings.errorHandling),
    ("add_monitoring", .bool settings.monitoring),
    ("recommendation_display_limit", .int settings.recommendationLimit)]

end Settings

end Flowplan
