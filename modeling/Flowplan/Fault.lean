import Flowplan.Json.Display
import Flowplan.Json.Fault
import Flowplan.Record.Checked
import Flowplan.Record.Label
import Flowplan.Text.Quoted
import Flowplan.Text.Utf8

namespace Flowplan

/-- A caller passed a value of the wrong kind; `kind` is the kind that was passed. -/
inductive Precondition where
  | notList (subject kind : String)
  | notText (subject kind : String)
  | notContext (kind : String)
  | notBlueprint (kind : String)
  | notTemplate (kind : String)
  | notMessage (index : Nat) (kind : String)

def Precondition.message : Precondition → String
  | notList subject kind => s!"{subject} must be a list, got {kind}"
  | notText subject kind => s!"{subject} must be a string, got {kind}"
  | notContext kind => s!"context must be a ConversationContext, got {kind}"
  | notBlueprint kind => s!"blueprint must be a Blueprint, got {kind}"
  | notTemplate kind => s!"template records must be WorkflowTemplate or dict, got {kind}"
  | notMessage index kind => s!"message #{index} must be a string or record, got {kind}"

/-- Why a template file cannot be read. -/
inductive FileFlaw where
  | directory
  | json (fault : Json.Fault)

/-- Why the templates of a directory cannot be loaded. -/
inductive LoadFault where
  | noDirectory (path : String)
  | unreadable (path : String) (flaw : FileFlaw)
  | noTemplates (path : String)

def LoadFault.message : LoadFault → String
  | noDirectory path => s!"Templates directory not found: {path}"
  | unreadable path .directory =>
    s!"Could not read template file {path}: [Errno 21] Is a directory: {Text.quoted path}"
  | unreadable path (.json fault) => s!"Could not read template file {path}: {fault.message}"
  | noTemplates path => s!"{path} must contain a template object or a list of templates"

/-- Why a document holds no workflow graph. -/
inductive DocumentFault where
  | notDocumentText (kind : String)
  | json (fault : Json.Fault)
  | notObject
  | nodesNotList
  | connectionsNotObject
  | channelsNotObject (source : String)
  | slotNotList (source : String)
  | edgeNotObject (source : String)
  | missingKey (key : String)
  | notSubscriptable (kind : String)
  | textNode
  | listNode
  | notIterable (kind : String)
  | invalid (flaws : Nat)
  | unknownNode (name : String)

def DocumentFault.message : DocumentFault → String
  | notDocumentText kind =>
    s!"Invalid graph JSON: the JSON object must be str, bytes or bytearray, not {kind}"
  | json fault => s!"Invalid graph JSON: {fault.message}"
  | notObject => "Graph document must be a JSON object"
  | nodesNotList => "'nodes' must be a list"
  | connectionsNotObject => "'connections' must be an object"
  | channelsNotObject source => s!"connections of '{source}' must be an object"
  | slotNotList source => s!"output slot of '{source}' must be a list"
  | edgeNotObject source => s!"edge from '{source}' must be an object"
  | missingKey key => s!"Malformed graph document: KeyError('{key}')"
  | notSubscriptable kind =>
    s!"Malformed graph document: TypeError(\"'{kind}' object is not subscriptable\")"
  | textNode =>
    "Malformed graph document: TypeError(\"string indices must be integers, not 'str'\")"
  | listNode =>
    "Malformed graph document: TypeError('list indices must be integers or slices, not str')"
  | notIterable kind =>
    s!"Malformed graph document: TypeError(\"'{kind}' object is not iterable\")"
  | invalid flaws => s!"Malformed graph document: {flaws} validation error(s)"
  | unknownNode name => s!"Connections name unknown node '{name}'"

/-- A figure that no integer, double or text can hold. -/
inductive FigureFault where
  | tooManyDigits
  | quotientTooLarge
  | wholeTooLarge
  | infiniteWhole
  | undefinedWhole

def FigureFault.message : FigureFault → String
  | tooManyDigits =>
    "Exceeds the limit (4300 digits) for integer string conversion; "
      ++ "use sys.set_int_max_str_digits() to increase the limit"
  | quotientTooLarge => "integer division result too large for a float"
  | wholeTooLarge => "int too large to convert to float"
  | infiniteWhole => "cannot convert float infinity to integer"
  | undefinedWhole => "cannot convert float NaN to integer"

inductive Fault where
  | precondition (cause : Precondition)
  | load (cause : LoadFault)
  | document (cause : DocumentFault)
  | invalid (flaws : Nat)
  | notMember (value title : String)
  | hoursNotPositive (hours : String)
  | notOrdered (relation kind : String)
  | notOperands (operation left right : String)
  | notIterable (kind : String)
  | unhashable (kind : String)
  | notSought (kind : String)
  | encoding (cause : Text.Utf8Fault)
  | longPath (path : String)
  | notDirectory (path : String)
  | occupied (path : String)
  | nullCharacter
  | figure (cause : FigureFault)
  | limit (cause : Json.Limit)
  | unwritten (cause : Json.Limit)

namespace Fault

/-- The class of a fault, as reports name it. -/
def name : Fault → String
  | precondition _ => "PreconditionError"
  | load _ => "TemplateLoadError"
  | document _ => "GraphFormatError"
  | invalid _ => "ValidationError"
  | notMember _ _ => "ValueError"
  | hoursNotPositive _ => "ValueError"
  | notOrdered _ _ => "TypeError"
  | notOperands _ _ _ => "TypeError"
  | notIterable _ => "TypeError"
  | unhashable _ => "TypeError"
  | notSought _ => "TypeError"
  | encoding _ => "UnicodeDecodeError"
  | longPath _ => "OSError"
  | notDirectory _ => "NotADirectoryError"
  | occupied _ => "FileExistsError"
  | nullCharacter => "ValueError"
  | figure .tooManyDigits => "ValueError"
  | figure .undefinedWhole => "ValueError"
  | figure _ => "OverflowError"
  | limit (.digits _) => "ValueError"
  | limit _ => "RecursionError"
  | unwritten (.digits _) => "ValueError"
  | unwritten _ => "RecursionError"

def message : Fault → String
  | precondition cause => cause.message
  | load cause => cause.message
  | document cause => cause.message
  | invalid flaws => s!"{flaws} validation error(s)"
  | notMember value title => s!"{value} is not a valid {title}"
  | hoursNotPositive hours => s!"hours must be positive, got {hours}"
  | notOrdered relation kind =>
    s!"'{relation}' not supported between instances of '{kind}' and 'int'"
  | notOperands operation left right =>
    s!"unsupported operand type(s) for {operation}: '{left}' and '{right}'"
  | notIterable kind => s!"'{kind}' object is not iterable"
  | unhashable kind => s!"unhashable type: '{kind}'"
  | notSought kind => s!"'in <string>' requires string as left operand, not {kind}"
  | encoding cause => cause.message
  | longPath path => s!"[Errno 36] File name too long: {Text.quoted path}"
  | notDirectory path => s!"[Errno 20] Not a directory: {Text.quoted path}"
  | occupied path => s!"[Errno 17] File exists: {Text.quoted path}"
  | nullCharacter => "embedded null byte"
  | figure cause => cause.message
  | limit cause => cause.message
  | unwritten (.digits _) => FigureFault.tooManyDigits.message
  | unwritten _ => "maximum recursion depth exceeded"

/-- The faults that a run reports as its result; any other fault ends the program. -/
def isReported : Fault → Bool
  | precondition _ => true
  | load _ => true
  | document _ => true
  | _ => false

end Fault

abbrev Outcome (α : Type) := Except Fault α

def Checked.outcome : Checked α → Outcome α
  | value a => .ok a
  | flaws count => .error (.invalid count)

def requireList (subject : String) : Json → Outcome (List Json)
  | .arr items => .ok items
  | json => .error (.precondition (.notList subject json.kind))

def requireText (subject : String) (json : Json) : Outcome RawText :=
  match json.raw? with
  | some text => .ok text
  | none => .error (.precondition (.notText subject json.kind))

/-- The choice that a value names; anything else is shown as it would stand in a list. -/
def Labelled.member (α : Type) [Labelled α] (json : Json) : Outcome α :=
  match json with
  | .str text =>
    match ofLabel? text with
    | some a => .ok a
    | none => .error (.notMember json.inspect (Labelled.title α))
  | _ => .error (.notMember json.inspect (Labelled.title α))

end Flowplan
