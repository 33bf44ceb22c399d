import Flowplan.Proofs.Conversation.Messages
import Flowplan.Proofs.Requirement.Feed

namespace Flowplan.Requirement

open Record (Members Stands)

/-- The text has a character that is not blank. -/
def IsSpoken (text : String) : Prop :=
  ∃ c ∈ text.toList, ¬Text.isBlank c

/-- The category that the usual rules give a text; a text that they give none is about a business
process. -/
def Classifies (text : String) (category : Category) : Prop :=
  ∃ classification, Classification.ofMessage IntentRule.standard text = .ok classification ∧
    category = classification.category.getD .businessProcess

/-- A counter made the id. -/
def IsMade (id : String) : Prop :=
  ∃ ids : Ids, id = ids.fresh.1

/-- What the members of a record say of its requirement. -/
structure Describes (members : Members) (requirement : Requirement) : Prop where
  answer : Stands members "text" (· = .str requirement.answer)
    (members.lookup "answer" = some (.str requirement.answer))
  spoken : IsSpoken requirement.answer
  category : Stands members "category"
    (fun json => json = .null ∧ Classifies requirement.answer requirement.category
      ∨ json = .str (label requirement.category))
    (Classifies requirement.answer requirement.category)
  question : Stands members "question" (fun json => Record.raw json = .value requirement.question)
    (requirement.question = .ofString "")
  priority : Stands members "priority"
    (fun json => Record.choice json = .value requirement.priority) (requirement.priority = .medium)
  confidence : Stands members "confidence"
    (fun json => Record.share json = .value requirement.confidence)
    (requirement.confidence = .finite (1 / 2))
  followUpNeeded : Stands members "follow_up_needed"
    (fun json => Record.flag json = .value requirement.followUpNeeded)
    (requirement.followUpNeeded = false)
  tags : Stands members "tags"
    (fun json => Record.list Record.raw json = .value requirement.tags) (requirement.tags = [])
  id : (ownId? members).elim (IsMade requirement.id) fun json =>
    json.display = .ofString requirement.id

theorem isSpoken_iff {text : String} : IsSpoken text ↔ ¬(RawText.ofString text).allBlank := by
  simp [IsSpoken, RawText.allBlank, RawText.ofString, Text.Point.char?]

theorem IsSpoken.ne_empty {text : String} (spoken : IsSpoken text) : text ≠ "" := by
  rintro rfl
  obtain ⟨c, hm, -⟩ := spoken
  cases hm

theorem recordText?_eq_some_iff {members : Members} {text : RawText} :
    recordText? members = some text ↔
      (members.lookup "text").or (members.lookup "answer") = some (.ofRaw text) ∧
        ¬text.allBlank := by
  simp [recordText?, Option.filter_eq_some_iff, Option.bind_eq_some_iff, Json.raw?_eq_some_iff]

theorem recordText?_eq_some_ofString_iff {members : Members} {text : String} :
    recordText? members = some (.ofString text) ↔
      Stands members "text" (· = .str text) (members.lookup "answer" = some (.str text)) ∧
        IsSpoken text := by
  rw [recordText?_eq_some_iff, isSpoken_iff, Json.ofRaw_ofString]
  unfold Stands
  cases members.lookup "text" <;> simp

theorem classifies_iff {text : String} {category : Category} :
    Classifies text category ↔ categoryOfText (.ofString text) = category := by
  obtain ⟨classification, hfound⟩ :=
    @Classification.exists_ofMessage IntentRule.standard (by decide) text
  simp [Classifies, categoryOfText, hfound, eq_comm]

theorem recordCategory?_eq_some_iff {members : Members} {text : String} {category : Category} :
    recordCategory? members (.ofString text) = some category ↔
      Stands members "category"
        (fun json => json = .null ∧ Classifies text category ∨ json = .str (label category))
        (Classifies text category) := by
  unfold recordCategory? Stands
  cases members.lookup "category" with
  | none => simp [classifies_iff]
  | some json =>
    cases json with
    | null => simp [classifies_iff]
    | str name => exact Category.ofLabel?_eq_some_iff.trans (by simp [eq_comm])
    | _ => simp

theorem ofRecord_eq_some_iff {members : Members} {ids : Ids} {requirement : Requirement} :
    (ofRecord (.obj members) ids).1 = some requirement ↔
      recordText? members = some (.ofString requirement.answer) ∧
      recordCategory? members (.ofString requirement.answer) = some requirement.category ∧
      (recordId members ids).1 = .ofString requirement.id ∧
      Details.ofMembers members = .value requirement.details := by
  unfold ofRecord
  dsimp only
  cases htext : recordText? members with
  | none => simp
  | some text =>
    dsimp only
    cases hcategory : recordCategory? members text with
    | none =>
      refine ⟨nofun, ?_⟩
      rintro ⟨htext, hc, -⟩
      rw [← Option.some.inj htext, hcategory] at hc
      exact nomatch hc
    | some category =>
      simp only [bind, Option.bind_eq_some_iff, Checked.value?_eq_some_iff,
        RawText.text?_eq_some_iff]
      constructor
      · rintro ⟨id, hid, answer, rfl, details, hdetails, he⟩
        cases he
        exact ⟨rfl, hcategory, hid, hdetails⟩
      · rintro ⟨htext, hc, hid, hdetails⟩
        obtain rfl := Option.some.inj htext
        obtain rfl := Option.some.inj (hcategory.symm.trans hc)
        exact ⟨_, hid, _, rfl, requirement.details, hdetails, rfl⟩

theorem recordId_ne_empty (members : Members) (ids : Ids) :
    (recordId members ids).1 ≠ .ofString "" := by
  unfold recordId
  cases h : ownId? members with
  | none => simpa using ids.fresh_ne_empty
  | some json => exact Json.display_ne_empty (Option.filter_eq_some_iff.mp h).2

/-- The id of a requirement is the one that its record states, or a counter made it. -/
theorem elim_ownId?_of_recordId {members : Members} {ids : Ids} {id : String}
    (h : (recordId members ids).1 = .ofString id) :
    (ownId? members).elim (IsMade id) fun json => json.display = .ofString id := by
  unfold recordId at h
  cases hown : ownId? members with
  | none =>
    rw [hown] at h
    exact ⟨ids, (RawText.ofString_inj.mp h).symm⟩
  | some json =>
    rw [hown] at h
    exact h

/-- What is read of a record is described by it, and is a requirement. -/
theorem describes_ofRecord {members : Members} {ids : Ids} {requirement : Requirement}
    (h : (ofRecord (.obj members) ids).1 = some requirement) :
    Describes members requirement ∧ requirement.IsValid := by
  obtain ⟨htext, hcategory, hid, hdetails⟩ := ofRecord_eq_some_iff.mp h
  obtain ⟨hanswer, hspoken⟩ := recordText?_eq_some_ofString_iff.mp htext
  obtain ⟨hquestion, hpriority, hconfidence, hfollow, htags⟩ :=
    Details.ofMembers_eq_value_iff.mp hdetails
  have hstated := Record.optional_eq_value_iff.mp hconfidence
  constructor
  · exact {
      answer := hanswer
      spoken := hspoken
      category := recordCategory?_eq_some_iff.mp hcategory
      question := Record.optional_eq_value_iff.mp hquestion
      priority := Record.optional_eq_value_iff.mp hpriority
      confidence := hstated
      followUpNeeded := Record.optional_eq_value_iff.mp hfollow
      tags := Record.optional_eq_value_iff.mp htags
      id := elim_ownId?_of_recordId hid }
  · refine ⟨?_, hspoken.ne_empty, ?_⟩
    · intro he
      exact recordId_ne_empty members ids (by rw [hid, he])
    · rcases hstated.cases with ⟨json, -, hshare⟩ | ⟨-, hdefault⟩
      · exact (Record.share_eq_value_iff.mp hshare).2
      · rw [show requirement.confidence = .finite (1 / 2) from hdefault]
        decide +kernel

/-- The field is left out, or it can be read. -/
def fits {α : Type} (members : Members) (name : String) (read : Json → Checked α) : Bool :=
  (members.lookup name).all fun json => (read json).value?.isSome

/-- A text with a character that is not blank, in which no half stands alone. -/
def isSaying : Json → Bool
  | .str text => text.toList.any fun c => !Text.isBlank c
  | _ => false

/-- Null, or the label of a category. -/
def isCategory : Json → Bool
  | .null => true
  | .str name => (Labelled.all : List Category).any fun category => label category = name
  | _ => false

/-- The record says something as its text, or if it has no text as its answer, it states no category
but one that there is and no id in which a half stands alone, and its other fields can be read. -/
def isAccepted : Json → Bool
  | .obj members =>
    ((members.lookup "text").or (members.lookup "answer")).any isSaying
      && (members.lookup "category").all isCategory
      && (ownId? members).all (fun json => json.display.text?.isSome)
      && fits members "question" Record.raw
      && fits members "priority" (Record.choice (α := Priority))
      && fits members "confidence" Record.share
      && fits members "follow_up_needed" Record.flag
      && fits members "tags" (Record.list Record.raw)
  | _ => false

theorem fits_iff {α : Type} {members : Members} {name : String} {read : Json → Checked α}
    (default : α) :
    fits members name read ↔ ∃ a, Record.optional members name read default = .value a := by
  unfold fits Record.optional
  cases members.lookup name <;> simp [Checked.isSome_value?_iff]

theorem exists_recordText?_iff {members : Members} :
    (∃ text, recordText? members = some (.ofString text)) ↔
      ((members.lookup "text").or (members.lookup "answer")).any isSaying := by
  simp only [recordText?_eq_some_iff, Json.ofRaw_ofString, ← isSpoken_iff, IsSpoken]
  generalize (members.lookup "text").or (members.lookup "answer") = said
  cases said with
  | none => simp
  | some json => cases json <;> simp [isSaying]

theorem exists_recordCategory?_iff {members : Members} {text : RawText} :
    (∃ category, recordCategory? members text = some category) ↔
      (members.lookup "category").all isCategory := by
  have hall : ∀ category : Category, category ∈ (Labelled.all : List Category) := by
    intro category
    cases category <;> decide
  unfold recordCategory?
  cases members.lookup "category" with
  | none => simp
  | some json =>
    cases json with
    | str name => simp [isCategory, Category.ofLabel?_eq_some_iff, hall]
    | _ => simp [isCategory]

theorem exists_recordId_iff {members : Members} (ids : Ids) :
    (∃ id, (recordId members ids).1 = .ofString id) ↔
      (ownId? members).all (fun json => json.display.text?.isSome) := by
  unfold recordId
  cases ownId? members with
  | none => simp
  | some json => simp [Option.isSome_iff_exists, RawText.text?_eq_some_iff]

/-- Whether a record is accepted does not depend on the ids that are left. -/
theorem isAccepted_iff {record : Json} (ids : Ids) :
    isAccepted record ↔ ∃ requirement, (ofRecord record ids).1 = some requirement := by
  cases record with
  | obj members =>
    simp only [isAccepted, Bool.and_eq_true, and_assoc, ← exists_recordText?_iff,
      ← exists_recordId_iff ids, fits_iff (RawText.ofString ""), fits_iff Priority.medium,
      fits_iff (Binary64.finite (1 / 2)), fits_iff false, fits_iff ([] : List RawText)]
    constructor
    · rintro ⟨⟨text, htext⟩, hcategory, ⟨id, hid⟩, ⟨question, hq⟩, ⟨priority, hp⟩,
        ⟨confidence, hc⟩, ⟨followUpNeeded, hf⟩, tags, ht⟩
      obtain ⟨category, hcategory⟩ :=
        (@exists_recordCategory?_iff members (.ofString text)).mpr hcategory
      refine ⟨ofDetails id category text ⟨question, priority, confidence, followUpNeeded, tags⟩, ?_⟩
      exact ofRecord_eq_some_iff.mpr ⟨htext, hcategory, hid,
        Details.ofMembers_eq_value_iff.mpr ⟨hq, hp, hc, hf, ht⟩⟩
    · rintro ⟨requirement, h⟩
      obtain ⟨htext, hcategory, hid, hdetails⟩ := ofRecord_eq_some_iff.mp h
      obtain ⟨hq, hp, hc, hf, ht⟩ := Details.ofMembers_eq_value_iff.mp hdetails
      exact ⟨⟨_, htext⟩, exists_recordCategory?_iff.mp ⟨_, hcategory⟩, ⟨_, hid⟩, ⟨_, hq⟩, ⟨_, hp⟩,
        ⟨_, hc⟩, ⟨_, hf⟩, _, ht⟩
  | _ => simp [isAccepted, ofRecord]

/-- The record gives the requirement with some ids. -/
def Gives (record : Json) (requirement : Requirement) : Prop :=
  ∃ ids, (ofRecord record ids).1 = some requirement

/-- A feed gives one requirement for each record that is accepted, in the order of the records. -/
theorem forall₂_gives_ofRecords (records : List Json) (ids : Ids) :
    List.Forall₂ Gives (records.filter isAccepted) (ofRecords ids records).1 := by
  induction records generalizing ids with
  | nil => exact .nil
  | cons record rest ih =>
    change List.Forall₂ Gives _ ((ofRecord record ids).1.toList ++ (ofRecords _ rest).1)
    cases h : (ofRecord record ids).1 with
    | none =>
      have hrejected : ¬isAccepted record := by simp [isAccepted_iff ids, h]
      rw [List.filter_cons_of_neg hrejected]
      exact ih _
    | some requirement =>
      rw [List.filter_cons_of_pos ((isAccepted_iff ids).mpr ⟨requirement, h⟩)]
      exact .cons ⟨ids, h⟩ (ih _)

end Flowplan.Requirement
