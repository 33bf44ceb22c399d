import Flowplan.Text.CaseMap
import Flowplan.Text.PrintableTable
import Flowplan.Text.Raw

namespace Flowplan.Text

def hexDigit (n : Nat) : Char :=
  if n < 10 then Char.ofNat (0x30 + n) else Char.ofNat (0x57 + n)

/-- The `width` lowest hexadecimal digits of a number. -/
def hexDigits (width n : Nat) : List Char :=
  (List.range width).reverse.map fun place => hexDigit (n / Nat.pow 16 place % 16)

def quotedChar (quote c : Char) : List Char :=
  if c = quote || c = '\\' then ['\\', c]
  else if c = '\n' then ['\\', 'n']
  else if c = '\r' then ['\\', 'r']
  else if c = '\t' then ['\\', 't']
  else if inRanges printableRanges c.toNat then [c]
  else if c.toNat < 0x100 then '\\' :: 'x' :: hexDigits 2 c.toNat
  else if c.toNat < 0x10000 then '\\' :: 'u' :: hexDigits 4 c.toNat
  else '\\' :: 'U' :: hexDigits 8 c.toNat

def quotedPoint (quote : Char) : Point → List Char
  | .char c => quotedChar quote c
  | .half half => '\\' :: 'u' :: hexDigits 4 half.code

/-- The text between single quotes, or between double quotes if it holds single ones only. -/
def quoted (text : RawText) : String :=
  let quote := if .char '\'' ∈ text.points ∧ .char '"' ∉ text.points then '"' else '\''
  String.ofList (quote :: text.points.flatMap (quotedPoint quote) ++ [quote])

end Flowplan.Text
