namespace Flowplan.Text

/-- Every `stride`-th code point of `first..last`; the map moves `first` to `target` and the
others by the same distance. -/
structure CaseRange where
  first : Nat
  last : Nat
  stride : Nat
  target : Nat

def CaseRange.image? (range : CaseRange) (code : Nat) : Option Nat :=
  if range.first ≤ code ∧ code ≤ range.last ∧ (code - range.first) % range.stride = 0 then
    some (range.target + (code - range.first))
  else none

/-- A code point that stands in neither table is mapped to itself. -/
def mapCode (ranges : List CaseRange) (expansions : List (Nat × List Nat)) (code : Nat) :
    List Nat :=
  match expansions.lookup code with
  | some codes => codes
  | none => [(ranges.findSome? (·.image? code)).getD code]

/-- Membership in a set of code points given by closed ranges. -/
def inRanges (ranges : List (Nat × Nat)) (code : Nat) : Bool :=
  ranges.any fun range => range.1 ≤ code && code ≤ range.2

end Flowplan.Text
