import Flowplan.Blueprint.Label
import Flowplan.Record.Field

namespace Flowplan

/-- A building block of the automation. -/
structure Component where
  name : String
  type : ComponentType
  description : String
  nodeHints : List String
  dependencies : List String
  configuration : List (String × String)
  deriving DecidableEq

/-- A step on the way of the data through the system; steps are numbered from one. -/
structure DataFlowStep where
  step : Nat
  description : String
  inputSource : String
  processing : String
  outputDestination : String
  errorHandling : String
  deriving DecidableEq

/-- An external service that the automation depends on. -/
structure IntegrationSpec where
  service : String
  purpose : String
  dataExchanged : List String
  authentication : String
  rateLimit : Option Nat
  fallback : Option String
  deriving DecidableEq

structure Architecture where
  components : List Component
  dataFlow : List DataFlowStep
  integrations : List IntegrationSpec
  security : List String
  scalability : String
  deriving DecidableEq

/-- The members of an object of texts. -/
def Json.texts (entries : List (String × String)) : Json :=
  .obj (entries.map fun entry => (entry.1, .str entry.2))

namespace Component

def ofJson : Json → Checked Component :=
  Record.record fun members =>
    Component.mk
      <$> Record.required members "name" Record.text
      <*> Record.required members "type" Record.choice
      <*> Record.optional members "description" Record.text ""
      <*> Record.optional members "node_hints" (Record.list Record.text) []
      <*> Record.optional members "dependencies" (Record.list Record.text) []
      <*> Record.optional members "configuration" (Record.table Record.text) []

def toJson (component : Component) : Json :=
  .obj [
    ("name", .str component.name),
    ("type", .str (label component.type)),
    ("description", .str component.description),
    ("node_hints", .strings component.nodeHints),
    ("dependencies", .strings component.dependencies),
    ("configuration", .texts component.configuration)]

end Component

namespace DataFlowStep

def ofJson : Json → Checked DataFlowStep :=
  Record.record fun members =>
    DataFlowStep.mk
      <$> Record.required members "step" (fun json => (Record.wholeFrom 1 json).map Int.toNat)
      <*> Record.required members "description" Record.text
      <*> Record.optional members "input_source" Record.text ""
      <*> Record.optional members "processing" Record.text ""
      <*> Record.optional members "output_destination" Record.text ""
      <*> Record.optional members "error_handling" Record.text ""

def toJson (step : DataFlowStep) : Json :=
  .obj [
    ("step", .int step.step),
    ("description", .str step.description),
    ("input_source", .str step.inputSource),
    ("processing", .str step.processing),
    ("output_destination", .str step.outputDestination),
    ("error_handling", .str step.errorHandling)]

end DataFlowStep

namespace IntegrationSpec

def ofJson : Json → Checked IntegrationSpec :=
  Record.record fun members =>
    IntegrationSpec.mk
      <$> Record.required members "service" Record.text
      <*> Record.optional members "purpose" Record.text ""
      <*> Record.optional members "data_exchanged" (Record.list Record.text) []
      <*> Record.optional members "auth_method" Record.text ""
      <*> Record.optional members "rate_limit" (Record.nullable Record.natural) none
      <*> Record.optional members "fallback_strategy" (Record.nullable Record.text) none

def toJson (spec : IntegrationSpec) : Json :=
  .obj [
    ("service", .str spec.service),
    ("purpose", .str spec.purpose),
    ("data_exchanged", .strings spec.dataExchanged),
    ("auth_method", .str spec.authentication),
    ("rate_limit", .ofOption (fun limit : Nat => .int limit) spec.rateLimit),
    ("fallback_strategy", .ofOption .str spec.fallback)]

end IntegrationSpec

namespace Architecture

def empty : Architecture := ⟨[], [], [], [], ""⟩

def ofJson : Json → Checked Architecture :=
  Record.record fun members =>
    Architecture.mk
      <$> Record.optional members "components" (Record.list Component.ofJson) []
      <*> Record.optional members "data_flow" (Record.list DataFlowStep.ofJson) []
      <*> Record.optional members "integrations" (Record.list IntegrationSpec.ofJson) []
      <*> Record.optional members "security_considerations" (Record.list Record.text) []
      <*> Record.optional members "scalability_plan" Record.text ""

def toJson (architecture : Architecture) : Json :=
  .obj [
    ("components", .arr (architecture.components.map Component.toJson)),
    ("data_flow", .arr (architecture.dataFlow.map DataFlowStep.toJson)),
    ("integrations", .arr (architecture.integrations.map IntegrationSpec.toJson)),
    ("security_considerations", .strings architecture.security),
    ("scalability_plan", .str architecture.scalability)]

def componentsOf (architecture : Architecture) (type : ComponentType) : List Component :=
  architecture.components.filter (·.type = type)

def has (architecture : Architecture) (type : ComponentType) : Bool :=
  architecture.components.any (·.type = type)

end Architecture

end Flowplan
