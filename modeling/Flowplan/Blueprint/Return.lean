import Flowplan.Blueprint.Cost
import Flowplan.Figure
import Flowplan.Json.Magnitude
import Flowplan.Number.Fixed

namespace Flowplan

/-- What the automation saves, and when the savings outweigh its cost. -/
structure Return where
  hoursPerWeek : Nat
  savingsPerMonth : Nat
  productivityGain : Int
  errorReduction : Int
  paybackMonths : Nat
  percent : Int
  deriving DecidableEq

/-- The weekly hours that an estimator states; they may be no number at all. -/
inductive Estimate where
  | amount (hours : Amount)
  | other (value : Json)

structure SuccessMetric where
  name : String
  description : String
  method : String
  target : String
  frequency : String
  deriving DecidableEq

namespace Estimate

/-- An estimate that nobody checks. -/
def ofJson (json : Json) : Estimate :=
  match Amount.ofJson? json with
  | some hours => amount hours
  | none => other json

/-- An estimate of a number above zero. -/
def ofPositive (json : Json) : Outcome Estimate :=
  match Amount.ofJson? json with
  | none => .error (.notOrdered "<=" json.kind)
  | some hours =>
    let refused := match hours with
      | .whole n => decide (n ≤ 0)
      | .real x => x.atMost 0
    if refused then do
      let written ← Figure.written json.magnitudes json.inspect
      throw (.hoursNotPositive written)
    else .ok (amount hours)

end Estimate

namespace Return

def wholeKind : String := (Json.int 0).kind

def ofJson : Json → Checked Return :=
  Record.record fun members =>
    Return.mk
      <$> Record.required members "time_savings_hours_per_week" Record.natural
      <*> Record.required members "cost_savings_per_month" Record.natural
      <*> Record.optional members "productivity_gain_percentage" Record.whole 45
      <*> Record.optional members "error_reduction_percentage" Record.whole 85
      <*> Record.required members "payback_period_months" Record.natural
      <*> Record.required members "three_year_roi" Record.whole

def toJson (projection : Return) : Json :=
  .obj [
    ("time_savings_hours_per_week", .int projection.hoursPerWeek),
    ("cost_savings_per_month", .int projection.savingsPerMonth),
    ("productivity_gain_percentage", .int projection.productivityGain),
    ("error_reduction_percentage", .int projection.errorReduction),
    ("payback_period_months", .int projection.paybackMonths),
    ("three_year_roi", .int projection.percent)]

/-- Four weeks make a month, and an hour is worth fifty. -/
def monthlySavings (hours : Amount) : Amount :=
  (hours.times 4).times 50

/-- The savings of three years. -/
def totalSavings (hours : Amount) : Amount :=
  ((monthlySavings hours).times 12).times 3

/-- The costs of three years. -/
def totalCosts (cost : Cost) : Nat :=
  cost.total.initial + (cost.infrastructure.annually + cost.maintenance.annually) * 3

/-- What the savings exceed the costs by, in percent of the costs. -/
def rate (savings : Amount) (costs : Nat) : Outcome Binary64 :=
  if costs = 0 then pure (.finite 0)
  else do
    let ratio ← (← savings.minus costs).dividedBy costs
    pure (ratio.mul (.finite 100))

/-- The months until the savings outweigh an initial cost; none if nothing is saved. -/
def payback (initial : Nat) (monthly : Amount) : Outcome Int :=
  if monthly.isZero then pure 0
  else do Figure.ceiling (← monthly.dividing initial)

/-- The projection for a number of weekly hours. -/
def ofHours (cost : Cost) (hours : Amount) : Outcome Return := do
  let monthly := monthlySavings hours
  let rate ← rate (totalSavings hours) (totalCosts cost)
  let payback ← payback cost.total.initial monthly
  let percent ← Figure.roundHalfUp rate
  (Return.mk
    <$> Record.natural hours.toJson
    <*> Record.natural monthly.toJson
    <*> pure 45
    <*> pure 85
    <*> Record.natural (.int payback)
    <*> pure percent).outcome

/-- The projection for an estimate. Where it is no number, the first step that needs one fails:
null and objects cannot be multiplied, costs cannot be taken from texts and lists, and nothing can
be divided by them. -/
def project (cost : Cost) : Estimate → Outcome Return
  | .amount hours => ofHours cost hours
  | .other .null => .error (.notOperands "*" Json.null.kind wholeKind)
  | .other (.obj members) => .error (.notOperands "*" (Json.obj members).kind wholeKind)
  | .other json =>
    if totalCosts cost ≠ 0 then .error (.notOperands "-" json.kind wholeKind)
    else if json.isPresent then .error (.notOperands "/" wholeKind json.kind)
    else .error (.invalid 2)

end Return

namespace SuccessMetric

def ofJson : Json → Checked SuccessMetric :=
  Record.record fun members =>
    SuccessMetric.mk
      <$> Record.required members "name" Record.text
      <*> Record.optional members "description" Record.text ""
      <*> Record.optional members "measurement_method" Record.text ""
      <*> Record.optional members "target_value" Record.text ""
      <*> Record.optional members "frequency" Record.text ""

def toJson (metric : SuccessMetric) : Json :=
  .obj [
    ("name", .str metric.name),
    ("description", .str metric.description),
    ("measurement_method", .str metric.method),
    ("target_value", .str metric.target),
    ("frequency", .str metric.frequency)]

def ofReturn (projection : Return) : Outcome (List SuccessMetric) :=
  Figure.written [projection.hoursPerWeek, projection.savingsPerMonth] [
    { name := "Process Automation Time Savings"
      description := "Weekly hours saved through automation"
      method := "Compare pre and post-automation time tracking"
      target := s!"{projection.hoursPerWeek} hours per week"
      frequency := "Weekly measurement, monthly reporting" },
    { name := "Process Error Rate"
      description := "Percentage of processes completed without errors"
      method := "Automated error tracking and logging"
      target := s!"Less than {Number.fixedPlaces 1 (100 - projection.errorReduction)}% error rate"
      frequency := "Real-time monitoring, weekly reporting" },
    { name := "Operational Cost Reduction"
      description := "Monthly cost savings from automation"
      method := "Calculate labor and operational cost differences"
      target := s!"${projection.savingsPerMonth} per month"
      frequency := "Monthly financial analysis" },
    { name := "User Satisfaction Score"
      description := "User satisfaction with automated processes"
      method := "Regular user surveys and feedback collection"
      target := "85% or higher satisfaction rate"
      frequency := "Quarterly user surveys" },
    { name := "System Uptime and Reliability"
      description := "Percentage of time automation system is available"
      method := "Automated uptime monitoring and alerting"
      target := "99.5% uptime"
      frequency := "Real-time monitoring, monthly reporting" }]

end SuccessMetric

end Flowplan
