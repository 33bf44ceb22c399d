import Flowplan.Conversation.Completeness
import Flowplan.Intent.Classification
import Flowplan.Requirement.Extraction
import Flowplan.Requirement.Feed
import Flowplan.Template.Search

namespace Flowplan

/-- What one message did to a conversation. -/
structure Routing where
  phase : Phase
  previousPhase : Phase
  intent : Classification
  completeness : Rat
  missingCategories : List Requirement.Category
  nextQuestions : List String
  relatedTemplates : List Template

def Routing.transitioned (routing : Routing) : Bool :=
  routing.phase ≠ routing.previousPhase

/-- What guides a conversation: the rules for intents, and the templates to point to. -/
structure Router where
  store : TemplateStore
  rules : List IntentRule
  relatedLimit : Int

/-- A conversation and the ids it may still take. -/
structure Session where
  conversation : Conversation
  ids : Ids
  deriving DecidableEq

/-- Work on the ids of a session. -/
def Session.takingIds (work : Work Ids α) : Work Session α := do
  let session ← get
  let (outcome, ids) := work.on session.ids
  set { session with ids }
  outcome

/-- Writes to the conversation of a session. -/
def Session.write (change : Conversation → Conversation) : Work Session Unit :=
  modify fun session => { session with conversation := change session.conversation }

/-- The first elements of a list; a negative count leaves out that many at the end. -/
def firstOf (count : Int) (xs : List α) : List α :=
  if 0 ≤ count then xs.take count.toNat else xs.take (xs.length - count.natAbs)

namespace Router

def userMessage (text : RawText) (classification : Classification) : Message :=
  { role := .user
    content := text
    metadata := [
      ("intent", .ofRaw classification.intent),
      ("confidence", .float classification.confidence)] }

/-- Classifies a message, and records it and the requirements that it states. -/
def classify (router : Router) (text : RawText) : Work Session Classification := do
  let classification ← Classification.ofMessage router.rules text
  let extracted ← Session.takingIds (Requirement.extract text)
  Session.write fun conversation =>
    (conversation.record (userMessage text classification)).addRequirements extracted
  pure { classification with extracted }

/-- The category of templates that the named rule points to. -/
def templateCategory? (router : Router) (name : Option RawText) : Option Template.Category :=
  (router.rules.find? (·.isNamed name)).bind (·.templateCategory)

/-- The answers so far and the latest message; no template has a text in which a half stands
alone. -/
def spokenTexts (conversation : Conversation) : List String :=
  conversation.requirements.map (·.answer)
    ++ (conversation.history.getLast?.bind (·.content.text?)).toList

/-- The templates of the category that the rule points to, or else those that the conversation
recommends. -/
def related (router : Router) (rule : Option RawText) (conversation : Conversation) :
    List Template :=
  let hinted := match router.templateCategory? rule with
    | some category => router.store.search "" { SearchFilters.none with category := some category }
    | none => []
  let found := if hinted.isEmpty then
      router.store.recommend (spokenTexts conversation) TemplateStore.recommendationLimit
    else hinted
  firstOf router.relatedLimit found

def recommended (router : Router) (conversation : Conversation) (limit : Int) : List Template :=
  router.store.recommend (conversation.requirements.map (·.answer)) limit

/-- The phase that a conversation moves to once a message was classified, if it moves. -/
def nextPhase? (previous : Phase) (classification : Classification) (conversation : Conversation) :
    Option Phase :=
  match previous with
  | .discovery =>
    if classification.intent = IntentRule.businessProcess then some .requirements else none
  | .requirements => if conversation.isComplete then some .blueprint else none
  | _ => none

/-- Takes a message in: at most one change of phase follows it. -/
def handle (router : Router) (text : RawText) : Work Session Routing := do
  let previous := (← get).conversation.phase
  let intent ← router.classify text
  let next? := nextPhase? previous intent (← get).conversation
  Session.write fun conversation => next?.elim conversation conversation.advance
  let conversation := (← get).conversation
  let opened := previous = .discovery ∧ next?.isSome
  pure {
    phase := conversation.phase
    previousPhase := previous
    intent
    completeness := conversation.completeness
    missingCategories := conversation.missingCategories
    nextQuestions := conversation.nextQuestions
    relatedTemplates := if opened then router.related intent.rule conversation else [] }

def markImplementation (conversation : Conversation) : Conversation :=
  conversation.advance .implementation

/-- Adds the requirements of a feed. -/
def addFeed (feed : Json) : Work Session Unit := do
  let requirements ← Session.takingIds (Requirement.ofFeed feed)
  Session.write (·.addRequirements requirements)

end Router

end Flowplan
