import Flowplan.Blueprint.Plan

namespace Flowplan

namespace Cost

structure Development where
  hours : Nat
  rate : Nat
  total : Nat
  deriving DecidableEq

structure Recurring where
  monthly : Nat
  annually : Nat
  deriving DecidableEq

structure Total where
  initial : Nat
  firstYear : Nat
  deriving DecidableEq

end Cost

/-- What it costs to build the automation and to keep it running. -/
structure Cost where
  development : Cost.Development
  infrastructure : Cost.Recurring
  maintenance : Cost.Recurring
  total : Cost.Total
  deriving DecidableEq

namespace Cost

def Development.ofJson : Json → Checked Development :=
  Record.record fun members =>
    Development.mk
      <$> Record.required members "hours" Record.natural
      <*> Record.required members "rate" Record.natural
      <*> Record.required members "total" Record.natural

def Development.toJson (cost : Development) : Json :=
  .obj [("hours", .int cost.hours), ("rate", .int cost.rate), ("total", .int cost.total)]

def Recurring.ofJson : Json → Checked Recurring :=
  Record.record fun members =>
    Recurring.mk
      <$> Record.required members "monthly" Record.natural
      <*> Record.required members "annually" Record.natural

def Recurring.toJson (cost : Recurring) : Json :=
  .obj [("monthly", .int cost.monthly), ("annually", .int cost.annually)]

def Total.ofJson : Json → Checked Total :=
  Record.record fun members =>
    Total.mk
      <$> Record.required members "initial" Record.natural
      <*> Record.required members "first_year" Record.natural

def Total.toJson (cost : Total) : Json :=
  .obj [("initial", .int cost.initial), ("first_year", .int cost.firstYear)]

def ofJson : Json → Checked Cost :=
  Record.record fun members =>
    Cost.mk
      <$> Record.required members "development" Development.ofJson
      <*> Record.required members "infrastructure" Recurring.ofJson
      <*> Record.required members "maintenance" Recurring.ofJson
      <*> Record.required members "total" Total.ofJson

def toJson (cost : Cost) : Json :=
  .obj [
    ("development", cost.development.toJson),
    ("infrastructure", cost.infrastructure.toJson),
    ("maintenance", cost.maintenance.toJson),
    ("total", cost.total.toJson)]

/-- The price of an hour of development. -/
def developerRate : Nat := 100

def Recurring.ofMonth (monthly : Nat) : Recurring :=
  ⟨monthly, monthly * 12⟩

def infrastructurePerMonth : Nat := 200

def maintenancePerMonth : Nat := 500

def ofHours (hours : Nat) : Cost where
  development := ⟨hours, developerRate, hours * developerRate⟩
  infrastructure := .ofMonth infrastructurePerMonth
  maintenance := .ofMonth maintenancePerMonth
  total := {
    initial := hours * developerRate
    firstYear := hours * developerRate + (Recurring.ofMonth infrastructurePerMonth).annually
      + (Recurring.ofMonth maintenancePerMonth).annually }

def ofPlan (plan : Plan) : Cost :=
  ofHours plan.totalHours

end Cost

end Flowplan
