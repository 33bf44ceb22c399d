namespace Flowplan.Json

inductive Flaw where
  | value
  | memberName
  | colon
  | comma
  | surplus
  | openString
  | controlCharacter
  | escape
  | unicodeEscape
  | byteOrderMark

def Flaw.message : Flaw → String
  | .value => "Expecting value"
  | .memberName => "Expecting property name enclosed in double quotes"
  | .colon => "Expecting ':' delimiter"
  | .comma => "Expecting ',' delimiter"
  | .surplus => "Extra data"
  | .openString => "Unterminated string starting at"
  | .controlCharacter => "Invalid control character at"
  | .escape => "Invalid \\escape"
  | .unicodeEscape => "Invalid \\uXXXX escape"
  | .byteOrderMark => "Unexpected UTF-8 BOM (decode using utf-8-sig)"

/-- Where a text stops being a value: lines and columns count from one, the offset from zero. -/
structure Fault where
  flaw : Flaw
  line : Nat
  column : Nat
  offset : Nat

def Fault.message (fault : Fault) : String :=
  s!"{fault.flaw.message}: line {fault.line} column {fault.column} (char {fault.offset})"

/-- The fault at an offset of a text. -/
def Fault.locate (text : List Char) (offset : Nat) (flaw : Flaw) : Fault :=
  let before := text.take offset
  { flaw
    line := before.count '\n' + 1
    column := (before.reverse.takeWhile (· ≠ '\n')).length + 1
    offset }

/-- A limit of what a text may hold: the digits of an integer, of which there are too many, or the
depth of its arrays and objects. -/
inductive Limit where
  | digits (count : Nat)
  | arrays
  | objects

def nesting (container : String) : String :=
  s!"maximum recursion depth exceeded while decoding a JSON {container} from a unicode string"

def Limit.message : Limit → String
  | .digits count =>
    s!"Exceeds the limit (4300 digits) for integer string conversion: value has {count} digits; "
      ++ "use sys.set_int_max_str_digits() to increase the limit"
  | .arrays => nesting "array"
  | .objects => nesting "object"

/-- Why a text gives no value: it is malformed, or the value is beyond the limits. -/
inductive Refusal where
  | malformed (fault : Fault)
  | beyond (limit : Limit)

end Flowplan.Json
