namespace Flowplan.Cli

/-- An option of a command: it takes a value, or stores a fixed one. -/
structure OptionSpec where
  name : String
  key : String
  stored : Option String

/-- What stands on a command line: values under their keys, and the arguments around them. -/
structure Arguments where
  values : List (String × String)
  positional : List String

namespace Arguments

/-- The value that was given last. -/
def last? (arguments : Arguments) (key : String) : Option String :=
  arguments.values.reverse.lookup key

def all (arguments : Arguments) (key : String) : List String :=
  (arguments.values.filter (·.1 = key)).map (·.2)

def has (arguments : Arguments) (key : String) : Bool :=
  (arguments.last? key).isSome

/-- The values in one argument, and the key that waits for the next argument. -/
abbrev Found := List (String × String) × Option String

def readLong (specs : List OptionSpec) (argument : List Char) : Option Found := do
  let name := String.ofList (argument.takeWhile (· ≠ '='))
  let spec ← specs.find? (·.name = name)
  match argument.dropWhile (· ≠ '='), spec.stored with
  | [], none => pure ([], some spec.key)
  | [], some stored => pure ([(spec.key, stored)], none)
  | _ :: value, none => pure ([(spec.key, String.ofList value)], none)
  | _ :: _, some _ => none

/-- Reads single letters; the rest after one that takes a value is that value. -/
def readShort (specs : List OptionSpec) : List Char → Option Found
  | [] => some ([], none)
  | letter :: rest => do
    let spec ← specs.find? (·.name = String.ofList ['-', letter])
    match spec.stored with
    | some stored =>
      let (values, waiting) ← readShort specs rest
      pure ((spec.key, stored) :: values, waiting)
    | none =>
      if rest.isEmpty then pure ([], some spec.key)
      else pure ([(spec.key, String.ofList rest)], none)

def readOption (specs : List OptionSpec) (argument : String) : Option Found :=
  if argument.startsWith "--" then readLong specs argument.toList
  else readShort specs (argument.toList.drop 1)

def isOption (argument : String) : Bool :=
  argument.startsWith "-" && argument ≠ "-"

def withValues (values : List (String × String)) (arguments : Arguments) : Arguments :=
  { arguments with values := values ++ arguments.values }

def withPositional (argument : String) (arguments : Arguments) : Arguments :=
  { arguments with positional := argument :: arguments.positional }

/-- Reads a command line, up to the first other argument unless options may stand anywhere. -/
def read (specs : List OptionSpec) (anywhere : Bool) : List String → Option Arguments
  | [] => some ⟨[], []⟩
  | "--" :: rest => some ⟨[], rest⟩
  | argument :: rest =>
    if isOption argument then
      match readOption specs argument with
      | none => none
      | some (values, none) => (read specs anywhere rest).map (withValues values)
      | some (values, some key) =>
        match rest with
        | [] => none
        | value :: rest => (read specs anywhere rest).map (withValues (values ++ [(key, value)]))
    else if anywhere then (read specs anywhere rest).map (withPositional argument)
    else some ⟨[], argument :: rest⟩

end Arguments

end Flowplan.Cli
