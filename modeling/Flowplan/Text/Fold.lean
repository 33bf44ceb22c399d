import Flowplan.Text.FoldTable
import Flowplan.Text.Raw

namespace Flowplan.Text

def foldChar (c : Char) : List Char :=
  if c.toNat < 0x80 then [c.toLower]
  else (mapCode foldRanges foldExpansions c.toNat).map Char.ofNat

/-- Full case folding: texts that differ in case only have the same folded text. -/
def fold (text : String) : String :=
  String.ofList (text.toList.flatMap foldChar)

theorem toList_fold (text : String) : (fold text).toList = text.toList.flatMap foldChar := by
  simp [fold]

/-- A half stays as it is. -/
def foldPoint : Point → List Point
  | .char c => (foldChar c).map .char
  | .half half => [.half half]

end Flowplan.Text

namespace Flowplan.RawText

def fold (raw : RawText) : RawText :=
  ⟨raw.points.flatMap Text.foldPoint⟩

end Flowplan.RawText
