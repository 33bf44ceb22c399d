import Flowplan.Record.Field

namespace Flowplan

/-- How far a workflow checks its input. -/
inductive SecurityLevel where
  | basic
  | standard
  | high
  deriving DecidableEq

inductive ScalabilityPattern where
  | simple
  | distributed
  | enterprise
  deriving DecidableEq

instance : Labelled SecurityLevel where
  all := [.basic, .standard, .high]
  label
    | .basic => "basic"
    | .standard => "standard"
    | .high => "high"
  title := "SecurityLevel"

instance : Labelled ScalabilityPattern where
  all := [.simple, .distributed, .enterprise]
  label
    | .simple => "simple"
    | .distributed => "distributed"
    | .enterprise => "enterprise"
  title := "ScalabilityPattern"

/-- What a compiled workflow contains besides its main path. -/
structure GraphOptions where
  errorHandling : Bool
  monitoring : Bool
  retries : Bool
  logging : Bool
  security : SecurityLevel
  scalability : ScalabilityPattern
  deriving DecidableEq

namespace GraphOptions

def basic : GraphOptions := ⟨false, false, false, false, .basic, .simple⟩

def standard : GraphOptions := ⟨true, true, true, true, .standard, .simple⟩

def advanced : GraphOptions := ⟨true, true, true, true, .high, .enterprise⟩

def ofJson : Json → Checked GraphOptions :=
  Record.record fun members =>
    GraphOptions.mk
      <$> Record.optional members "include_error_handling" Record.flag false
      <*> Record.optional members "add_monitoring" Record.flag false
      <*> Record.optional members "enable_retries" Record.flag false
      <*> Record.optional members "include_logging" Record.flag false
      <*> Record.optional members "security_level" Record.choice .basic
      <*> Record.optional members "scalability_pattern" Record.choice .simple

def toJson (options : GraphOptions) : Json :=
  .obj [
    ("include_error_handling", .bool options.errorHandling),
    ("add_monitoring", .bool options.monitoring),
    ("enable_retries", .bool options.retries),
    ("include_logging", .bool options.logging),
    ("security_level", .str (label options.security)),
    ("scalability_pattern", .str (label options.scalability))]

end GraphOptions

end Flowplan
