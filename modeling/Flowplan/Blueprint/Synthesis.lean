import Flowplan.Blueprint.Basic
import Flowplan.Blueprint.Design
import Flowplan.Blueprint.Schedule
import Flowplan.Requirement.Feed
import Flowplan.Text.Capital

namespace Flowplan

namespace BusinessCase

def problemOf (requirements : List Requirement) : String :=
  match requirements.find? fun requirement => requirement.category = .businessProcess with
  | some requirement =>
    s!"Current manual processes are inefficient and error-prone: {requirement.answer}"
  | none => "Manual processes require automation to improve efficiency and reduce errors"

def baseStakeholders : List String := ["Project Manager", "End Users", "IT Administrator"]

/-- Keywords, and who is concerned where one of them is mentioned. -/
def stakeholderRules : List (List String × List String) := [
  (["sales", "crm"], ["Sales Team", "Sales Manager"]),
  (["marketing"], ["Marketing Team", "Marketing Manager"]),
  (["finance", "accounting"], ["Finance Team", "CFO"]),
  (["customer", "support"], ["Customer Support Team", "Customer Success Manager"])]

def stakeholdersOf (text : String) : List String :=
  baseStakeholders
    ++ (stakeholderRules.filter fun rule => Text.mentionsAny text rule.1).flatMap (·.2)

def ofProject (requirements : List Requirement) (architecture : Architecture)
    (projection : Return) : BusinessCase where
  problem := problemOf requirements
  solution := s!"Implement a {architecture.components.length}-component automated system using "
    ++ s!"n8n workflows with {architecture.integrations.length} key integrations. The "
    ++ "solution includes intelligent data processing, error handling, and "
    ++ "comprehensive monitoring to ensure reliable operation."
  benefits := [
    s!"{projection.hoursPerWeek} hours saved per week",
    s!"{projection.productivityGain}% productivity improvement",
    s!"{projection.errorReduction}% reduction in process errors",
    s!"${projection.savingsPerMonth} monthly cost savings",
    s!"ROI of {projection.percent}% over 3 years"]
  criteria := [
    "Successful automation of identified manual processes",
    "Achievement of target time savings and cost reduction",
    "Error rate below 1% for automated processes",
    "User adoption rate above 90% within 3 months",
    "System uptime above 99.5%"]
  stakeholders := stakeholdersOf (Requirement.combinedText requirements)

end BusinessCase

namespace Analysis

def headline (analysis : Analysis) : String :=
  s!"{Text.capitalize analysis.domain} Automation System - "
    ++ s!"{Text.capitalize (label analysis.complexity)} Implementation"

def overview (analysis : Analysis) : String :=
  let factors := ", ".intercalate analysis.criticalFactors
  s!"This {label analysis.complexity} automation project will streamline "
    ++ s!"{analysis.domain} processes using n8n workflows. The system includes "
    ++ s!"{analysis.integrationCount} key integrations and is designed to handle "
    ++ s!"{label analysis.dataVolume} data volumes. Key focus areas include "
    ++ s!"{analysis.primaryFocus} with emphasis on "
    ++ (if factors.isEmpty then "reliable operation" else factors) ++ "."

end Analysis

namespace Blueprint

/-- The complexity that counts: the fixed one, or else the analyzed one. -/
def effectiveComplexity (config : BlueprintConfig) (analysis : Analysis) : Complexity :=
  config.complexity.getD analysis.complexity

def metadataOf (requirements : List Requirement) (skeleton : Skeleton) (complexity : Complexity) :
    Record.Members := [
  ("requirement_count", .int requirements.length),
  ("architecture_template", .str skeleton.key),
  ("effective_complexity", .str (label complexity))]

/-- The blueprint for a list of requirements; its id is the next one. -/
def ofRequirements (requirements : List Requirement) (config : BlueprintConfig) (hours : Estimate)
    (ids : Ids) : Outcome (Blueprint × Ids) := do
  let text := Requirement.combinedText requirements
  let analysis := Analysis.ofRequirements requirements
  let complexity := effectiveComplexity config analysis
  let skeleton := Skeleton.ofDomain analysis.domain
  let architecture := Design.architecture text analysis (some skeleton)
  let plan ← Schedule.plan architecture config (some complexity)
  let cost := Cost.ofPlan plan
  let projection ← Return.project cost hours
  let metrics ← SuccessMetric.ofReturn projection
  let (id, ids) := ids.fresh
  pure ({
    id
    title := analysis.headline
    overview := analysis.overview
    businessCase := .ofProject requirements architecture projection
    analysis
    architecture
    plan
    risks := .ofProject text complexity
    metrics
    cost
    projection
    config
    metadata := metadataOf requirements skeleton complexity }, ids)

/-- The blueprint for what the items state. -/
def ofItems (items : List Requirement.Item) (config : BlueprintConfig) (hours : Estimate)
    (ids : Ids) : Outcome (Blueprint × Ids) :=
  let (requirements, ids) := Requirement.ofItems ids items
  ofRequirements requirements config hours ids

/-- The blueprint for what a feed states. -/
def ofFeed (feed : Json) (config : BlueprintConfig) (hours : Estimate) (ids : Ids) :
    Outcome (Blueprint × Ids) := do
  let (requirements, ids) ← (Requirement.ofFeed feed).finish ids
  ofRequirements requirements config hours ids

end Blueprint

end Flowplan
