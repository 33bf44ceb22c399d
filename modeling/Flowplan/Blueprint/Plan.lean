import Flowplan.Blueprint.Label
import Flowplan.Number.Total
import Flowplan.Record.Field
import Flowplan.Requirement.Basic

namespace Flowplan

namespace Plan

structure Task where
  id : String
  name : String
  description : String
  hours : Nat
  skills : List String
  priority : Priority
  deriving DecidableEq

/-- A stretch of the work, with the range of time that it takes. -/
structure Phase where
  name : String
  duration : String
  tasks : List Task
  deliverables : List String
  dependencies : List String
  riskLevel : RiskLevel
  deriving DecidableEq

end Plan

/-- How an architecture is put into practice. -/
structure Plan where
  phases : List Plan.Phase
  totalTime : String
  resources : List String
  prerequisites : List String
  testing : String
  deployment : String
  deriving DecidableEq

namespace Plan

namespace Task

def ofJson : Json → Checked Task :=
  Record.record fun members =>
    Task.mk
      <$> Record.required members "id" Record.text
      <*> Record.required members "name" Record.text
      <*> Record.optional members "description" Record.text ""
      <*> Record.required members "estimated_hours" Record.natural
      <*> Record.optional members "skills_required" (Record.list Record.text) []
      <*> Record.optional members "priority" Record.choice .medium

def toJson (task : Task) : Json :=
  .obj [
    ("id", .str task.id),
    ("name", .str task.name),
    ("description", .str task.description),
    ("estimated_hours", .int task.hours),
    ("skills_required", .strings task.skills),
    ("priority", .str (label task.priority))]

end Task

namespace Phase

def totalHours (phase : Phase) : Nat :=
  Number.total (phase.tasks.map (·.hours))

def ofJson : Json → Checked Phase :=
  Record.record fun members =>
    Phase.mk
      <$> Record.required members "name" Record.text
      <*> Record.required members "duration" Record.text
      <*> Record.optional members "tasks" (Record.list Task.ofJson) []
      <*> Record.optional members "deliverables" (Record.list Record.text) []
      <*> Record.optional members "dependencies" (Record.list Record.text) []
      <*> Record.optional members "risk_level" Record.choice .medium

def toJson (phase : Phase) : Json :=
  .obj [
    ("name", .str phase.name),
    ("duration", .str phase.duration),
    ("tasks", .arr (phase.tasks.map Task.toJson)),
    ("deliverables", .strings phase.deliverables),
    ("dependencies", .strings phase.dependencies),
    ("risk_level", .str (label phase.riskLevel))]

end Phase

def totalHours (plan : Plan) : Nat :=
  Number.total (plan.phases.map Phase.totalHours)

def ofJson : Json → Checked Plan :=
  Record.record fun members =>
    Plan.mk
      <$> Record.optional members "phases" (Record.list Phase.ofJson) []
      <*> Record.optional members "total_time_estimate" Record.text ""
      <*> Record.optional members "resource_requirements" (Record.list Record.text) []
      <*> Record.optional members "prerequisites" (Record.list Record.text) []
      <*> Record.optional members "testing_strategy" Record.text ""
      <*> Record.optional members "deployment_plan" Record.text ""

def toJson (plan : Plan) : Json :=
  .obj [
    ("phases", .arr (plan.phases.map Phase.toJson)),
    ("total_time_estimate", .str plan.totalTime),
    ("resource_requirements", .strings plan.resources),
    ("prerequisites", .strings plan.prerequisites),
    ("testing_strategy", .str plan.testing),
    ("deployment_plan", .str plan.deployment)]

end Plan

end Flowplan
