import Flowplan.Proofs.Conversation.Runs
import Flowplan.Proofs.Requirement.Phrases

namespace Flowplan

namespace Requirement

/-- The categories of the requirements that a message can state. -/
def Category.extracted : List Category := [.businessProcess, .integrations]

theorem category_of_mem_drafts {message : RawText} {draft : Draft} (hm : draft ∈ drafts message) :
    draft.category ∈ Category.extracted := by
  rcases mem_drafts_iff.mp hm with ⟨phrase, -, rfl⟩ | ⟨keyword, -, -, rfl⟩
  · exact List.mem_cons_self
  · exact List.mem_cons_of_mem _ List.mem_cons_self

theorem category_of_mem_stated {message : RawText} {ids : Ids} {requirement : Requirement}
    (hm : requirement ∈ stated message ids) : requirement.category ∈ Category.extracted := by
  obtain ⟨draft, hdraft, left, rfl⟩ := mem_stated hm
  exact category_of_mem_drafts hdraft

theorem completeness_le_half {requirements : List Requirement}
    (h : ∀ requirement ∈ requirements, requirement.category ∈ Category.extracted) :
    completeness requirements ≤ 1 / 2 := by
  have hhits : (Category.critical.filter fun category =>
      requirements.any (·.category = category)).length ≤ 2 := by
    have hsub := List.monotone_filter_right Category.critical
      (p := fun category => requirements.any (·.category = category))
      (q := fun category => category ∈ Category.extracted) fun category hany => by
        obtain ⟨requirement, hm, hc⟩ := List.any_eq_true.mp hany
        exact decide_eq_true (of_decide_eq_true hc ▸ h requirement hm)
    exact hsub.length_le.trans (by decide)
  have hcast : ((Category.critical.filter fun category =>
      requirements.any (·.category = category)).length : Rat) ≤ 2 := by exact_mod_cast hhits
  unfold completeness
  rw [show ((Category.critical.length : Nat) : Rat) = 4 from rfl]
  linarith

end Requirement

theorem Conversation.requirements_advance (conversation : Conversation) (phase : Phase) :
    (conversation.advance phase).requirements = conversation.requirements := by
  unfold advance
  split <;> rfl

namespace Router

open Requirement (Category)

/-- A message, taken in or only classified. -/
def Operation.isMessage : Operation → Bool
  | .handle _ | .classify _ => true
  | _ => false

theorem Operation.isSpoken_of_isMessage {operation : Operation} (message : operation.isMessage) :
    operation.isSpoken := by
  cases operation <;> first | rfl | cases message

/-- The requirements of a conversation are such as messages state. -/
def OnlyExtracted (conversation : Conversation) : Prop :=
  ∀ requirement ∈ conversation.requirements, requirement.category ∈ Category.extracted

theorem onlyExtracted_classify {router : Router} {text : RawText} {session after : Session}
    {classification : Classification} (only : OnlyExtracted session.conversation)
    (h : (router.classify text).on session = (.ok classification, after)) :
    OnlyExtracted after.conversation := by
  obtain ⟨found, extracted, ids, -, hextract, -, rfl⟩ := on_classify_eq_ok_iff.mp h
  obtain ⟨-, rfl, -⟩ := Requirement.on_extract_eq_ok_iff.mp hextract
  intro requirement hm
  rcases List.mem_append.mp hm with hbefore | hstated
  · exact only requirement hbefore
  · exact Requirement.category_of_mem_stated hstated

theorem onlyExtracted_handle {router : Router} {text : RawText} {session after : Session}
    {routing : Routing} (only : OnlyExtracted session.conversation)
    (h : (router.handle text).on session = (.ok routing, after)) :
    OnlyExtracted after.conversation := by
  obtain ⟨intent, classified, hclassify, rfl | ⟨phase, -, rfl⟩⟩ := handle_cases h
  · exact onlyExtracted_classify only hclassify
  · unfold OnlyExtracted
    rw [Conversation.requirements_advance]
    exact onlyExtracted_classify only hclassify

theorem onlyExtracted_run {router : Router} {session : Session} {operations : List Operation}
    (messages : ∀ operation ∈ operations, operation.isMessage)
    (only : OnlyExtracted session.conversation) :
    OnlyExtracted (router.run session operations).conversation := by
  refine run_induction (fun {session after operation} message only h => ?_) messages only
  cases operation with
  | handle message =>
    obtain ⟨text, routing, -, hhandle⟩ := on_withText_eq_ok_iff.mp h
    exact onlyExtracted_handle only hhandle
  | classify message =>
    obtain ⟨text, classification, -, hclassify⟩ := on_withText_eq_ok_iff.mp h
    exact onlyExtracted_classify only hclassify
  | addRequirements | addFeed | advance | markImplementation => cases message

/-- Messages alone leave half of the critical categories open, and lead to the requirements at
most: the blueprint needs all of them. -/
theorem run_messages {router : Router} {ids : Ids} {operations : List Operation}
    (messages : ∀ operation ∈ operations, operation.isMessage) :
    (router.run ⟨.start, ids⟩ operations).conversation.completeness ≤ 1 / 2 ∧
      (router.run ⟨.start, ids⟩ operations).conversation.phase
        ∈ [Phase.discovery, Phase.requirements] := by
  have only : OnlyExtracted (router.run ⟨.start, ids⟩ operations).conversation :=
    onlyExtracted_run messages fun _ hm => nomatch hm
  have grounded : Conversation.Grounded router.rules
      (router.run ⟨.start, ids⟩ operations).conversation :=
    grounded_run (fun operation hm => Operation.isSpoken_of_isMessage (messages operation hm))
      (Conversation.grounded_start router.rules)
  refine ⟨Requirement.completeness_le_half only, ?_⟩
  generalize (router.run ⟨.start, ids⟩ operations).conversation = reached at only grounded
  have hblueprint : reached.phase ≠ .blueprint := by
    intro h
    have hspecs : Category.technicalSpecs ∈ reached.requirements.map (·.category) :=
      grounded.covered h (by decide)
    obtain ⟨requirement, hm, hcategory⟩ := List.mem_map.mp hspecs
    exact absurd (hcategory ▸ only requirement hm) (by decide)
  cases hphase : reached.phase with
  | discovery | requirements => decide
  | blueprint => exact absurd hphase hblueprint
  | implementation => exact absurd hphase grounded.unbuilt

end Router

/-- A rule whose details are all such as a classification needs. -/
def IntentRule.isFlawless (rule : IntentRule) : Bool :=
  rule.misfit.isNone && rule.name.value?.isSome && rule.intent.value?.isSome
    && rule.confidence.value?.isSome && rule.labels.value?.isSome

namespace IntentRule

theorem isFlawless_iff {rule : IntentRule} :
    rule.isFlawless ↔ rule.misfit = none ∧ (∃ name, rule.name = .value name) ∧
      (∃ intent, rule.intent = .value intent) ∧
      (∃ confidence, rule.confidence = .value confidence) ∧
      ∃ labels, rule.labels = .value labels := by
  simp only [isFlawless, Bool.and_eq_true, Option.isNone_iff_eq_none, Checked.isSome_value?_iff,
    and_assoc]

theorem exists_firstMatch {rules : List IntentRule} (flawless : ∀ rule ∈ rules, rule.isFlawless)
    (text : RawText) :
    ∃ found, firstMatch text rules = .ok found ∧ ∀ rule ∈ found, rule.isFlawless := by
  induction rules with
  | nil => exact ⟨none, rfl, by simp⟩
  | cons rule rest ih =>
    obtain ⟨hrule, hrest⟩ := List.forall_mem_cons.mp flawless
    unfold firstMatch
    split
    · exact ⟨some rule, rfl, by simpa using hrule⟩
    · rw [(isFlawless_iff.mp hrule).1]
      exact ih hrest

end IntentRule

theorem Classification.exists_ofMessage {rules : List IntentRule}
    (flawless : ∀ rule ∈ rules, rule.isFlawless) (message : RawText) :
    ∃ classification, ofMessage rules message = .ok classification := by
  obtain ⟨found, hfound, hflawless⟩ := IntentRule.exists_firstMatch flawless message.fold
  simp only [ofMessage, hfound]
  cases found with
  | none => exact ⟨_, rfl⟩
  | some rule =>
    obtain ⟨_, ⟨name, hname⟩, ⟨intent, hintent⟩, ⟨confidence, hconfidence⟩, ⟨labels, hlabels⟩⟩ :=
      IntentRule.isFlawless_iff.mp (hflawless rule rfl)
    refine ⟨⟨intent, some rule.category, confidence, labels, name, []⟩, ?_⟩
    change (ofRule rule).outcome = _
    rw [ofRule, hname, hintent, hconfidence, hlabels]
    rfl

namespace Router

/-- A message can be classified exactly if the rules allow it and all that it states is whole. -/
theorem exists_classify_iff {router : Router} {text : RawText} {session : Session} :
    (∃ classification after, (router.classify text).on session = (.ok classification, after)) ↔
      (∃ found, Classification.ofMessage router.rules text = .ok found) ∧
        Requirement.IsExtractable text := by
  simp only [on_classify_eq_ok_iff, Requirement.on_extract_eq_ok_iff]
  constructor
  · rintro ⟨_, _, found, _, _, hfound, ⟨whole, -, -⟩, -, -⟩
    exact ⟨⟨found, hfound⟩, whole⟩
  · rintro ⟨⟨found, hfound⟩, whole⟩
    exact ⟨_, _, found, _, _, hfound, ⟨whole, rfl, rfl⟩, rfl, rfl⟩

theorem exists_handle_iff {router : Router} {text : RawText} {session : Session} :
    (∃ routing after, (router.handle text).on session = (.ok routing, after)) ↔
      (∃ found, Classification.ofMessage router.rules text = .ok found) ∧
        Requirement.IsExtractable text := by
  rw [← @exists_classify_iff router text session]
  simp only [on_handle_eq_ok_iff]
  constructor
  · rintro ⟨_, _, intent, classified, hclassify, -⟩
    exact ⟨intent, classified, hclassify⟩
  · rintro ⟨intent, classified, hclassify⟩
    exact ⟨_, _, intent, classified, hclassify, rfl⟩

/-- A message that the rules allow can still not be taken in if something it states is torn. -/
theorem exists_handle_error {router : Router} {text : RawText} {found : Classification}
    (hfound : Classification.ofMessage router.rules text = .ok found)
    (torn : ¬Requirement.IsExtractable text) (session : Session) :
    ∃ after, (router.handle text).on session = (.error (.invalid 1), after) := by
  obtain ⟨ids, hextract⟩ := Requirement.on_extract_of_not_isExtractable torn session.ids
  refine ⟨{ session with ids }, on_handle_eq_error_iff.mpr ?_⟩
  rw [on_classify, hfound]
  simp only [hextract]

end Router

end Flowplan
