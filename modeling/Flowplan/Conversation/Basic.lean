import Flowplan.Requirement.Basic

namespace Flowplan

/-- The phases of a conversation in the order in which it passes through them. -/
inductive Phase where
  | discovery
  | requirements
  | blueprint
  | implementation
  deriving DecidableEq

inductive Role where
  | user
  | assistant
  | system
  deriving DecidableEq

instance : Labelled Phase where
  all := [.discovery, .requirements, .blueprint, .implementation]
  label
    | .discovery => "discovery"
    | .requirements => "requirements"
    | .blueprint => "blueprint"
    | .implementation => "implementation"
  title := "ConversationPhase"

instance : Labelled Role where
  all := [.user, .assistant, .system]
  label
    | .user => "user"
    | .assistant => "assistant"
    | .system => "system"
  title := "MessageRole"

def Phase.order : Phase → Nat
  | .discovery => 0
  | .requirements => 1
  | .blueprint => 2
  | .implementation => 3

structure Message where
  role : Role
  content : RawText
  metadata : Record.Members
  deriving DecidableEq

/-- What a conversation has come to. -/
structure Conversation where
  phase : Phase
  requirements : List Requirement
  preferences : Record.Members
  history : List Message
  deriving DecidableEq

def Message.ofJson : Json → Checked Message :=
  Record.record fun members =>
    Message.mk
      <$> Record.required members "role" Record.choice
      <*> Record.required members "content" Record.raw
      <*> Record.optional members "metadata" Record.object []
      <* Record.optional members "timestamp" Record.moment ()

def Message.toJson (message : Message) : Json :=
  .obj [
    ("role", .str (label message.role)),
    ("content", .ofRaw message.content),
    ("metadata", .ofFree message.metadata)]

namespace Conversation

def start : Conversation := ⟨.discovery, [], [], []⟩

def ofJson : Json → Checked Conversation :=
  Record.record fun members =>
    Conversation.mk
      <$> Record.optional members "phase" Record.choice .discovery
      <*> Record.optional members "requirements" (Record.list Requirement.ofJson) []
      <*> Record.optional members "preferences" Record.object []
      <*> Record.optional members "history" (Record.list Message.ofJson) []

def toJson (conversation : Conversation) : Json :=
  .obj [
    ("phase", .str (label conversation.phase)),
    ("requirements", .arr (conversation.requirements.map Requirement.toJson)),
    ("preferences", .ofFree conversation.preferences),
    ("history", .arr (conversation.history.map Message.toJson))]

/-- A conversation only moves forward. -/
def advance (conversation : Conversation) (phase : Phase) : Conversation :=
  if conversation.phase.order < phase.order then { conversation with phase } else conversation

/-- Whether `advance` would move the conversation. -/
def canAdvance (conversation : Conversation) (phase : Phase) : Bool :=
  conversation.phase.order < phase.order

def addRequirements (conversation : Conversation) (requirements : List Requirement) :
    Conversation :=
  { conversation with requirements := conversation.requirements ++ requirements }

def record (conversation : Conversation) (message : Message) : Conversation :=
  { conversation with history := conversation.history ++ [message] }

def covers (conversation : Conversation) (category : Requirement.Category) : Bool :=
  conversation.requirements.any (·.category = category)

/-- The categories of the requirements, in the order of the categories. -/
def covered (conversation : Conversation) : List Requirement.Category :=
  Labelled.all.filter conversation.covers

end Conversation

end Flowplan
