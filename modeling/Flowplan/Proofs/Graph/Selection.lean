import Flowplan.Proofs.Blueprint.Generation
import Flowplan.Proofs.Graph.Compilation
import Flowplan.Proofs.Text.Words

namespace Flowplan

namespace Requirement

end Requirement

namespace Signal

theorem firstChoice?_eq {α : Type} (rules : List (α × List String)) (text : String) :
    firstChoice? rules text
      = (rules.find? fun rule => Text.HoldsAny text rule.2).map (·.1) := by
  simp only [firstChoice?, ← Text.mentionsAny_iff, Bool.decide_eq_true]

/-- The text asks for AI: by the word itself, or by a keyword. -/
def AsksForAi (text : String) : Prop :=
  Text.HoldsWord text "ai" ∨ Text.HoldsAny text aiKeywords

theorem needsAi_iff {text : String} : needsAi text ↔ AsksForAi text := by
  rw [needsAi, Bool.or_eq_true, Text.mentionsWord_iff (by decide), Text.mentionsAny_iff]
  rfl

instance (text : String) : Decidable (AsksForAi text) :=
  decidable_of_iff _ needsAi_iff

end Signal

namespace Graph

end Graph

end Flowplan
