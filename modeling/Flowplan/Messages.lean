import Flowplan.FileTree
import Flowplan.Json.Reader
import Flowplan.Text.Blank

namespace Flowplan.Messages

/-- The lines of a text that are not blank. -/
def ofLines (content : String) : List Json :=
  ((Text.lines content).filter (!Text.allBlank ·)).map fun line => .str (Text.trim line)

/-- The items of a list in JSON, or else the lines of the text. -/
def ofContent (content : String) : Outcome (List Json) :=
  match Json.parse content with
  | .ok (.arr items) => .ok items
  | .error (.beyond limit) => .error (.limit limit)
  | _ => .ok (ofLines content)

/-- The messages in a file, or in the text itself if it names none. -/
def read (tree : FileTree) (input : String) : Outcome (List Json) :=
  let path := Path.normalize input
  match tree.find path with
  | .file bytes => (textOfBytes bytes).bind ofContent
  | .unnameable => .error (.longPath path)
  | _ => ofContent input

end Flowplan.Messages
