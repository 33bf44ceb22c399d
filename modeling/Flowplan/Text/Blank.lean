import Flowplan.Text.CaseMap
import Flowplan.Text.Raw

namespace Flowplan.Text

/-- Spaces, tabs and line ends of all scripts, and the four information separators. -/
def blankRanges : List (Nat × Nat) := [
  (0x9, 0xD), (0x1C, 0x20), (0x85, 0x85), (0xA0, 0xA0), (0x1680, 0x1680), (0x2000, 0x200A),
  (0x2028, 0x2029), (0x202F, 0x202F), (0x205F, 0x205F), (0x3000, 0x3000)]

def isBlank (c : Char) : Bool :=
  inRanges blankRanges c.toNat

/-- The blanks without the information separators. -/
def isWhiteSpace (c : Char) : Bool :=
  isBlank c && !(0x1C ≤ c.toNat && c.toNat ≤ 0x1F)

/-- The text without the leading and trailing characters of a class. -/
def trimmed (drops : Char → Bool) (chars : List Char) : List Char :=
  (((chars.dropWhile drops).reverse).dropWhile drops).reverse

def trim (text : String) : String :=
  String.ofList (trimmed isBlank text.toList)

def allBlank (text : String) : Bool :=
  text.toList.all isBlank

/-- The maximal runs of elements outside a class; `run` is the run being read, reversed. -/
def runsFrom (separates : α → Bool) (run : List α) : List α → List (List α)
  | [] => if run.isEmpty then [] else [run.reverse]
  | c :: rest =>
    if separates c then
      if run.isEmpty then runsFrom separates [] rest
      else run.reverse :: runsFrom separates [] rest
    else runsFrom separates (c :: run) rest

/-- The words of a text, which blanks separate. -/
def words (text : String) : List String :=
  (runsFrom isBlank [] text.toList).map String.ofList

end Flowplan.Text

namespace Flowplan.RawText

def allBlank (raw : RawText) : Bool :=
  raw.points.all fun point => point.char?.any Text.isBlank

end Flowplan.RawText
