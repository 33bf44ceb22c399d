import Flowplan.Text.CapitalTable

namespace Flowplan.Text

def titleChar (c : Char) : List Char :=
  if c.toNat < 0x80 then [c.toUpper]
  else (mapCode titleRanges titleExpansions c.toNat).map Char.ofNat

def lowerChar (c : Char) : List Char :=
  if c.toNat < 0x80 then [c.toLower]
  else (mapCode lowerRanges lowerExpansions c.toNat).map Char.ofNat

/-- The nearest character that is not skipped has case. -/
def meetsCased (chars : List Char) : Bool :=
  match chars.dropWhile fun c => inRanges caseIgnorableRanges c.toNat with
  | [] => false
  | c :: _ => inRanges casedRanges c.toNat

/-- A capital sigma is final if a cased character precedes it and none follows. `before` holds the
preceding characters, the nearest first. -/
def lowerRest (before : List Char) : List Char → List Char
  | [] => []
  | c :: rest =>
    (if c = 'Σ' then [if meetsCased before && !meetsCased rest then 'ς' else 'σ']
      else lowerChar c) ++ lowerRest (c :: before) rest

/-- The first character in title case and the others in lower case. -/
def capitalize (text : String) : String :=
  match text.toList with
  | [] => ""
  | c :: rest => String.ofList (titleChar c ++ lowerRest [c] rest)

end Flowplan.Text
