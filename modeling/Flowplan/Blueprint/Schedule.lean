import Flowplan.Blueprint.Architecture
import Flowplan.Blueprint.Config
import Flowplan.Blueprint.Plan
import Flowplan.Figure
import Flowplan.Text.Blank
import Flowplan.Text.Digit
import Flowplan.Text.Occurrence

namespace Flowplan.Schedule

/-- The hours to build the main workflows. -/
def workflowHours : Option Complexity → Nat
  | some .simple => 16
  | some .moderate => 32
  | some .complex => 64
  | some .enterprise => 120
  | none => 24

def coreDuration : Option Complexity → String
  | some .simple => "1 week"
  | some .complex => "2-3 weeks"
  | _ => "1-2 weeks"

def setup (config : BlueprintConfig) : Plan.Phase where
  name := "Setup and Foundation"
  duration := if config.timeline = .urgent then "2-3 days" else "3-5 days"
  tasks := [
    { id := "1.1"
      name := "Environment Setup"
      description := "Configure n8n instance, database, and basic infrastructure"
      hours := if config.timeline = .urgent then 6 else 8
      skills := ["n8n", "DevOps", "Cloud Infrastructure"]
      priority := .critical },
    { id := "1.2"
      name := "Security Configuration"
      description := "Implement authentication, authorization, and basic security measures"
      hours := 4
      skills := ["Security", "n8n Configuration"]
      priority := .critical },
    { id := "1.3"
      name := "Integration Credentials"
      description := "Configure API keys, OAuth, and other authentication credentials"
      hours := 3
      skills := ["API Integration", "Security"]
      priority := .high }]
  deliverables := ["Working n8n environment", "Security baseline", "Integration readiness"]
  dependencies := []
  riskLevel := .low

def core (complexity : Option Complexity) : Plan.Phase where
  name := "Core Workflow Development"
  duration := coreDuration complexity
  tasks := [
    { id := "2.1"
      name := "Primary Workflow Creation"
      description := "Build main automation workflows based on requirements"
      hours := workflowHours complexity
      skills := ["n8n Development", "Business Logic", "API Integration"]
      priority := .critical },
    { id := "2.2"
      name := "Error Handling Implementation"
      description := "Add comprehensive error handling and recovery mechanisms"
      hours := 8
      skills := ["n8n Advanced Features", "Error Handling"]
      priority := .high },
    { id := "2.3"
      name := "Data Validation Logic"
      description := "Implement data validation and quality checks"
      hours := 6
      skills := ["Data Validation", "n8n Functions"]
      priority := .high }]
  deliverables := ["Functional workflows", "Error handling system", "Data validation"]
  dependencies := ["Phase 1 completion"]
  riskLevel := if complexity = some .complex then .high else .medium

def testing : Plan.Phase where
  name := "Integration and Testing"
  duration := "1-2 weeks"
  tasks := [
    { id := "3.1"
      name := "System Integration Testing"
      description := "Test all integrations with real systems and data"
      hours := 16
      skills := ["Testing", "System Integration", "n8n"]
      priority := .critical },
    { id := "3.2"
      name := "Performance Optimization"
      description := "Optimize workflows for performance and efficiency"
      hours := 8
      skills := ["Performance Tuning", "n8n Optimization"]
      priority := .medium },
    { id := "3.3"
      name := "User Acceptance Testing"
      description := "Conduct testing with end users and stakeholders"
      hours := 12
      skills := ["User Training", "Testing Coordination"]
      priority := .high }]
  deliverables := ["Tested system", "Performance benchmarks", "User approval"]
  dependencies := ["Phase 2 completion"]
  riskLevel := .medium

def deployment : Plan.Phase where
  name := "Deployment and Training"
  duration := "3-5 days"
  tasks := [
    { id := "4.1"
      name := "Production Deployment"
      description := "Deploy workflows to production environment"
      hours := 6
      skills := ["Deployment", "DevOps", "n8n Administration"]
      priority := .critical },
    { id := "4.2"
      name := "User Training"
      description := "Train users on new automated processes"
      hours := 8
      skills := ["Training", "Documentation", "User Support"]
      priority := .high },
    { id := "4.3"
      name := "Documentation"
      description := "Create comprehensive system documentation"
      hours := 6
      skills := ["Technical Writing", "Documentation"]
      priority := .medium }]
  deliverables := ["Live system", "Trained users", "Complete documentation"]
  dependencies := ["Phase 3 completion"]
  riskLevel := .low

def phases (config : BlueprintConfig) (complexity : Option Complexity) : List Plan.Phase :=
  [setup config, core complexity, testing, deployment]

/-- The number that a duration starts with, or another one if it starts with none. -/
def leadingNumber (duration : String) (other : Nat) : Outcome Nat :=
  let digits := Text.leadingDigits Text.digitValue? (duration.toList.dropWhile Text.isBlank)
  if digits.isEmpty then .ok other
  else if Text.mostDigits < digits.length then .error (.limit (.digits digits.length))
  else .ok (Text.ofDigits digits)

/-- The work days of a duration, by the first number of its range; a week has five. -/
def days (duration : String) : Outcome Nat :=
  if Text.mentions duration "week" then (leadingNumber duration 1).map (· * 5)
  else if Text.mentions duration "day" then leadingNumber duration 3
  else .ok 5

/-- The weeks that the durations fill one after the other. -/
def weeks (durations : List String) : Outcome Int := do
  let days ← durations.mapM days
  Figure.ceiling (← Figure.quotient (Number.total days) 5)

def totalTime (durations : List String) : Outcome String :=
  (weeks durations).map fun count => s!"{count} weeks"

def resources (architecture : Architecture) : List String :=
  ["n8n Developer", "Project Manager"]
    ++ (if architecture.has .storage then ["Database Administrator"] else [])
    ++ (if 3 < architecture.integrations.length then ["Integration Specialist"] else [])
    ++ (if architecture.components.any fun component => Text.mentions component.name "AI" then
        ["AI/ML Specialist"]
      else [])

def prerequisites (architecture : Architecture) : List String :=
  ["n8n instance access", "Project requirements approval"]
    ++ architecture.integrations.map (fun spec => s!"{spec.service} API access and credentials")
    ++ (if architecture.has .storage then ["Database setup and configuration"] else [])

def testingStrategy (complexity : Option Complexity) : String :=
  "Comprehensive testing approach including unit tests for individual workflow components, "
    ++ "integration tests for external API connections, "
    ++ (if complexity = some .complex ∨ complexity = some .enterprise then
        "load testing for performance validation, "
      else "")
    ++ "and user acceptance testing with key stakeholders. "
    ++ "All tests will be documented with expected results and automated where possible."

def deploymentPlan (config : BlueprintConfig) : String :=
  (if config.riskTolerance = .low then
      "Phased deployment approach with pilot group testing, followed by gradual rollout. "
    else "Direct deployment with comprehensive monitoring and rollback procedures. ")
    ++ "Blue-green deployment strategy for zero-downtime updates. "
    ++ "Comprehensive monitoring and alerting from day one. "
    ++ "Documentation and training materials delivered before go-live."

/-- The plan for an architecture; a project of unknown complexity takes a middle course. -/
def plan (architecture : Architecture) (config : BlueprintConfig)
    (complexity : Option Complexity) : Outcome Plan := do
  let phases := phases config complexity
  let totalTime ← totalTime (phases.map (·.duration))
  pure {
    phases
    totalTime
    resources := resources architecture
    prerequisites := prerequisites architecture
    testing := testingStrategy complexity
    deployment := deploymentPlan config }

end Flowplan.Schedule
