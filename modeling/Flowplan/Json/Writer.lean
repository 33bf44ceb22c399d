import Flowplan.Json.Limits
import Flowplan.Number.Shortest
import Flowplan.Text.Quoted

namespace Flowplan.Json

def codeUnit (code : Nat) : List Char :=
  '\\' :: 'u' :: Text.hexDigits 4 code

/-- Printable ASCII stands for itself; a character beyond the basic plane takes two units. -/
def escapeChar (c : Char) : List Char :=
  if c = '"' then ['\\', '"']
  else if c = '\\' then ['\\', '\\']
  else if c = '\n' then ['\\', 'n']
  else if c = '\r' then ['\\', 'r']
  else if c = '\t' then ['\\', 't']
  else if c.toNat = 0x8 then ['\\', 'b']
  else if c.toNat = 0xC then ['\\', 'f']
  else if 0x20 ≤ c.toNat ∧ c.toNat ≤ 0x7E then [c]
  else if c.toNat < 0x10000 then codeUnit c.toNat
  else
    codeUnit (0xD800 + (c.toNat - 0x10000) / 0x400)
      ++ codeUnit (0xDC00 + (c.toNat - 0x10000) % 0x400)

/-- A half that stands alone is written as its unit. -/
def escapePoint : Text.Point → List Char
  | .char c => escapeChar c
  | .half half => codeUnit half.code

def writeString (text : RawText) : List Char :=
  '"' :: text.points.flatMap escapePoint ++ ['"']

def writeFloat (value : Binary64) : List Char :=
  match value with
  | .nan => "NaN".toList
  | .infinity negative => (if negative then "-Infinity" else "Infinity").toList
  | value => value.text.toList

def writeScalar : Json → List Char
  | null => "null".toList
  | bool value => (if value then "true" else "false").toList
  | int value => (toString value).toList
  | float value => writeFloat value
  | str value => writeString value
  | torn value => writeString value.raw
  | arr _ => "[]".toList
  | obj _ => "\x7b\x7d".toList

mutual

def writeCompact : Json → List Char
  | arr (item :: items) => '[' :: writeCompact item ++ writeCompactItems items ++ [']']
  | obj ((name, value) :: members) =>
    '{' :: writeString name ++ ':' :: writeCompact value ++ writeCompactMembers members ++ ['}']
  | value => writeScalar value

def writeCompactItems : List Json → List Char
  | [] => []
  | item :: items => ',' :: writeCompact item ++ writeCompactItems items

def writeCompactMembers : List (String × Json) → List Char
  | [] => []
  | (name, value) :: members =>
    ',' :: writeString name ++ ':' :: writeCompact value ++ writeCompactMembers members

end

def newline (depth : Nat) : List Char :=
  '\n' :: List.replicate (2 * depth) ' '

mutual

def writeIndented (depth : Nat) : Json → List Char
  | arr (item :: items) =>
    '[' :: newline (depth + 1) ++ writeIndented (depth + 1) item
      ++ writeIndentedItems (depth + 1) items ++ newline depth ++ [']']
  | obj ((name, value) :: members) =>
    '{' :: newline (depth + 1) ++ writeString name ++ ':' :: ' ' :: writeIndented (depth + 1) value
      ++ writeIndentedMembers (depth + 1) members ++ newline depth ++ ['}']
  | value => writeScalar value

def writeIndentedItems (depth : Nat) : List Json → List Char
  | [] => []
  | item :: items =>
    ',' :: newline depth ++ writeIndented depth item ++ writeIndentedItems depth items

def writeIndentedMembers (depth : Nat) : List (String × Json) → List Char
  | [] => []
  | (name, value) :: members =>
    ',' :: newline depth ++ writeString name ++ ':' :: ' ' :: writeIndented depth value
      ++ writeIndentedMembers depth members

end

/-- The text of a value on one line. -/
def compact (value : Json) : String :=
  String.ofList (writeCompact value)

/-- The text of a value with each member on a line of its own, two spaces deeper per level. -/
def indented (value : Json) : String :=
  String.ofList (writeIndented 0 value)

/-- The indented text of a value within the limits, or the first limit that it is beyond. -/
def indentedWithin (limits : Limits) (value : Json) : Except Limit String :=
  match value.excess? limits.digits limits.nesting with
  | none => .ok value.indented
  | some limit => .error limit

end Flowplan.Json
