import Flowplan.Conversation.Basic

namespace Flowplan

/-- The categories that a blueprint needs. -/
def Requirement.Category.critical : List Requirement.Category :=
  [.businessProcess, .technicalSpecs, .integrations, .scaleVolume]

/-- The share of the critical categories that some requirement belongs to. -/
def Requirement.completeness (requirements : List Requirement) : Rat :=
  let hits := Requirement.Category.critical.filter fun category =>
    requirements.any (·.category = category)
  (hits.length : Rat) / Requirement.Category.critical.length

namespace Conversation

def completeness (conversation : Conversation) : Rat :=
  Requirement.completeness conversation.requirements

def isComplete (conversation : Conversation) : Bool :=
  4 / 5 < conversation.completeness

/-- The opening question of each category that the user is asked about, in the order of asking. -/
def openingQuestions : List (Requirement.Category × String) := [
  (.businessProcess, "What specific business process or workflow would you like to automate?"),
  (.technicalSpecs, "What platforms or systems are currently involved?"),
  (.integrations, "Which third-party services do you currently use?"),
  (.scaleVolume, "What is the current volume of transactions/data you process?"),
  (.securityCompliance, "What industry regulations do you need to comply with?"),
  (.budgetTimeline, "What is your budget range for this automation project?")]

def openQuestions (conversation : Conversation) : List (Requirement.Category × String) :=
  openingQuestions.filter fun entry => !conversation.covers entry.1

def missingCategories (conversation : Conversation) : List Requirement.Category :=
  conversation.openQuestions.map (·.1)

/-- The questions to ask next, three at most. -/
def nextQuestions (conversation : Conversation) : List String :=
  (conversation.openQuestions.map fun entry => s!"{entry.1.displayName}: {entry.2}").take 3

/-- A long answer is cut after a hundred characters. -/
def abridged (answer : String) : String :=
  if 100 < answer.length then (answer.take 100).toString ++ "..." else answer

/-- A list of the requirements, one per line. -/
def summary (conversation : Conversation) : String :=
  if conversation.requirements.isEmpty then "No specific requirements captured yet."
  else "\n".intercalate <| conversation.requirements.map fun requirement =>
    s!"- {requirement.category.displayName}: {abridged requirement.answer}"

end Conversation

end Flowplan
