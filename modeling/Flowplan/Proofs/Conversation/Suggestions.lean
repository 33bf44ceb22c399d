import Flowplan.Proofs.Conversation.Atomicity
import Flowplan.Proofs.Template.Queries

namespace Flowplan

namespace IntentRule

/-- The rule is the first one with a keyword that stands in the folded message. -/
def IsFirst (rules : List IntentRule) (message : RawText) (rule : IntentRule) : Prop :=
  ∃ before after, rules = before ++ rule :: after ∧
    (∀ earlier ∈ before, ¬message.fold.HoldsAny earlier.keywords) ∧
    message.fold.HoldsAny rule.keywords

theorem applies_iff {rule : IntentRule} {text : RawText} :
    rule.applies text ↔ text.HoldsAny rule.keywords :=
  RawText.mentionsAny_iff

theorem isFirst_iff {rules : List IntentRule} {message : RawText} {rule : IntentRule} :
    IsFirst rules message rule ↔ rules.find? (·.applies message.fold) = some rule := by
  rw [List.find?_eq_some_iff_append, applies_iff]
  simp only [Bool.not_eq_true', ← Bool.not_eq_true, applies_iff]
  constructor
  · rintro ⟨before, after, hsplit, hbefore, happlies⟩
    exact ⟨happlies, before, after, hsplit, hbefore⟩
  · rintro ⟨happlies, before, after, hsplit, hbefore⟩
    exact ⟨before, after, hsplit, hbefore, happlies⟩

theorem IsFirst.unique {rules : List IntentRule} {message : RawText} {rule other : IntentRule}
    (first : IsFirst rules message rule) (hother : IsFirst rules message other) : rule = other :=
  Option.some.inj ((isFirst_iff.mp first).symm.trans (isFirst_iff.mp hother))

theorem IsFirst.mem {rules : List IntentRule} {message : RawText} {rule : IntentRule}
    (first : IsFirst rules message rule) : rule ∈ rules :=
  List.mem_of_find?_eq_some (isFirst_iff.mp first)

end IntentRule

namespace TemplateStore

end TemplateStore

namespace Router

end Router

end Flowplan
