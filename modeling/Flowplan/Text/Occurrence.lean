import Flowplan.Text.CaseMap
import Flowplan.Text.Raw
import Flowplan.Text.WordTable

namespace Flowplan.Text

def occursIn [BEq α] (piece : List α) : List α → Bool
  | [] => piece.isEmpty
  | c :: rest => piece.isPrefixOf (c :: rest) || occursIn piece rest

/-- The keyword occurs somewhere in the text, be it inside a longer word. -/
def mentions (text keyword : String) : Bool :=
  occursIn keyword.toList text.toList

def mentionsAny (text : String) (keywords : List String) : Bool :=
  keywords.any (mentions text)

def isWordChar (c : Char) : Bool :=
  c = '_' || inRanges alphanumericRanges c.toNat

def startsInWord : List Char → Bool
  | [] => false
  | c :: _ => isWordChar c

/-- `inside` tells whether the character before the text belongs to a word. -/
def occursAsWord (word : List Char) (inside : Bool) : List Char → Bool
  | [] => false
  | c :: rest =>
    (!inside && word.isPrefixOf (c :: rest) && !startsInWord ((c :: rest).drop word.length))
      || occursAsWord word (isWordChar c) rest

/-- The word occurs with no further word character on either side. -/
def mentionsWord (text word : String) : Bool :=
  occursAsWord word.toList false text.toList

theorem occursIn_iff [DecidableEq α] {piece text : List α} :
    occursIn piece text = true ↔ piece <:+: text := by
  induction text with
  | nil => simp [occursIn]
  | cons c rest ih => simp [occursIn, ih, List.infix_cons_iff]

end Flowplan.Text

namespace Flowplan.RawText

def mentions (raw keyword : RawText) : Bool :=
  Text.occursIn keyword.points raw.points

def mentionsAny (raw : RawText) (keywords : List RawText) : Bool :=
  keywords.any raw.mentions

end Flowplan.RawText
