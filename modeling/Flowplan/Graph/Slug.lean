import Flowplan.Text.Blank
import Flowplan.Text.Fold

namespace Flowplan.Graph

def isSlugChar (c : Char) : Bool :=
  ('a' ≤ c && c ≤ 'z') || ('0' ≤ c && c ≤ '9')

/-- The runs of letters and digits in the folded name, joined by hyphens. -/
def slug (name : String) : String :=
  let runs := Text.runsFrom (fun c => !isSlugChar c) [] (Text.fold name).toList
  if runs.isEmpty then "graph" else "-".intercalate (runs.map String.ofList)

end Flowplan.Graph
