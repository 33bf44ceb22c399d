import Flowplan.Proofs.Record.Reading
import Flowplan.Requirement.Basic

namespace Flowplan.Requirement

open Record (Members)

/-- What every requirement has: an id, an answer, and a share as its confidence. -/
structure IsValid (requirement : Requirement) : Prop where
  id : requirement.id ≠ ""
  answer : requirement.answer ≠ ""
  confidence : requirement.confidence.atLeast 0 ∧ requirement.confidence.atMost 1

theorem Category.ofLabel?_eq_some_iff {name : String} {category : Category} :
    Labelled.ofLabel? name = some category ↔ label category = name :=
  Labelled.ofLabel?_eq_some_iff (by intro category; cases category <;> decide)

theorem Category.ofLabel?_label (category : Category) :
    Labelled.ofLabel? (label category) = some category :=
  Category.ofLabel?_eq_some_iff.mpr rfl

theorem Details.ofMembers_eq_value_iff {members : Members} {details : Details} :
    Details.ofMembers members = .value details ↔
      Record.optional members "question" Record.raw "" = .value details.question ∧
      Record.optional members "priority" Record.choice .medium = .value details.priority ∧
      Record.optional members "confidence" Record.share (.finite (1 / 2))
        = .value details.confidence ∧
      Record.optional members "follow_up_needed" Record.flag false
        = .value details.followUpNeeded ∧
      Record.optional members "tags" (Record.list Record.raw) [] = .value details.tags := by
  obtain ⟨question, priority, confidence, followUpNeeded, tags⟩ := details
  simp only [ofMembers, Checked.apply_eq_value_iff, Checked.fmap_eq_value_iff]
  constructor
  · rintro ⟨_, _, ⟨_, _, ⟨_, _, ⟨_, _, ⟨_, hq, rfl⟩, hp, rfl⟩, hc, rfl⟩, hf, rfl⟩, ht, he⟩
    cases he
    exact ⟨hq, hp, hc, hf, ht⟩
  · rintro ⟨hq, hp, hc, hf, ht⟩
    exact ⟨_, _, ⟨_, _, ⟨_, _, ⟨_, _, ⟨_, hq, rfl⟩, hp, rfl⟩, hc, rfl⟩, hf, rfl⟩, ht, rfl⟩

section recordOf

variable {id : String} {category : Category} {answer : RawText} {details : Details}

theorem Details.ofMembers_recordOf {members : Members}
    (h : recordOf id category answer details = .obj members)
    (share : details.confidence.atLeast 0 ∧ details.confidence.atMost 1) :
    Details.ofMembers members = .value details := by
  cases h
  refine Details.ofMembers_eq_value_iff.mpr ⟨Record.raw_eq_value_iff.mpr rfl, ?_, ?_, rfl, ?_⟩
  · have hlabel : Labelled.ofLabel? (label details.priority) = some details.priority := by
      cases details.priority <;> rfl
    exact Checked.ofOption_eq_value_iff.mpr hlabel
  · exact Record.share_eq_value_iff.mpr ⟨rfl, share⟩
  · exact Record.list_raw_eq_value_iff.mpr rfl

/-- A record of what makes a requirement gives it, unless a half stands alone in the answer. -/
theorem ofJson_recordOf (hid : id ≠ "") (hanswer : answer ≠ .ofString "")
    (share : details.confidence.atLeast 0 ∧ details.confidence.atMost 1) :
    ofJson (recordOf id category answer details) = match answer.text? with
      | some text => .value (ofDetails id category text details)
      | none => .flaws 1 := by
  have hname : Record.nonempty (.str id) = .value id :=
    Record.nonempty_eq_value_iff.mpr ⟨rfl, hid⟩
  have hcategory : Record.choice (.str (label category)) = .value category :=
    Checked.ofOption_eq_value_iff.mpr (Category.ofLabel?_label category)
  change ofDetails <$> Record.nonempty (.str id) <*> Record.choice (.str (label category))
    <*> Record.nonempty (.ofRaw answer) <*> Details.ofMembers _ = _
  rw [hname, hcategory, Details.ofMembers_recordOf rfl share]
  rcases Json.ofRaw_cases answer with ⟨text, rfl, h⟩ | ⟨text, rfl, h⟩
  · have htext : Record.nonempty (.str text) = .value text :=
      Record.nonempty_eq_value_iff.mpr ⟨rfl, fun he => hanswer (congrArg _ he)⟩
    rw [h, htext, RawText.text?_ofString]
    rfl
  · rw [h, TornText.text?_raw]
    rfl

end recordOf

end Flowplan.Requirement
