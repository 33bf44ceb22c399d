namespace Flowplan

/-- A closed set of choices, each written as a text of its own. -/
class Labelled (α : Type) where
  all : List α
  label : α → String
  title : String

export Labelled (label)

def Labelled.ofLabel? [Labelled α] (text : String) : Option α :=
  (Labelled.all : List α).find? fun a => label a = text

end Flowplan
