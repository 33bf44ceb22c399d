import Flowplan.Conversation.Router
import Flowplan.Proofs.Record.Reading
import Flowplan.Proofs.Work
import Mathlib.Data.List.Infix
import Mathlib.Tactic.Linarith

namespace Flowplan

namespace Conversation

/-- Nothing of a conversation is lost in a later one, and its phase is not a later one. -/
structure ExtendedBy (before after : Conversation) : Prop where
  phase : before.phase.order ≤ after.phase.order
  requirements : before.requirements <+: after.requirements
  history : before.history <+: after.history

theorem ExtendedBy.refl (conversation : Conversation) : conversation.ExtendedBy conversation :=
  ⟨Nat.le_refl _, List.prefix_refl _, List.prefix_refl _⟩

theorem ExtendedBy.trans {first second third : Conversation} (h : first.ExtendedBy second)
    (h' : second.ExtendedBy third) : first.ExtendedBy third :=
  ⟨h.phase.trans h'.phase, h.requirements.trans h'.requirements, h.history.trans h'.history⟩

theorem extendedBy_addRequirements (conversation : Conversation)
    (requirements : List Requirement) :
    conversation.ExtendedBy (conversation.addRequirements requirements) :=
  ⟨Nat.le_refl _, List.prefix_append _ _, List.prefix_refl _⟩

theorem extendedBy_record (conversation : Conversation) (message : Message) :
    conversation.ExtendedBy (conversation.record message) :=
  ⟨Nat.le_refl _, List.prefix_refl _, List.prefix_append _ _⟩

theorem advance_of_lt {conversation : Conversation} {phase : Phase}
    (h : conversation.phase.order < phase.order) :
    conversation.advance phase = { conversation with phase } := if_pos h

theorem extendedBy_advance (conversation : Conversation) (phase : Phase) :
    conversation.ExtendedBy (conversation.advance phase) := by
  by_cases h : conversation.phase.order < phase.order
  · rw [advance_of_lt h]
    exact ⟨h.le, List.prefix_refl _, List.prefix_refl _⟩
  · rw [show conversation.advance phase = conversation from if_neg h]
    exact .refl _

theorem four_fifths_lt_iff {hits : Nat} (hle : hits ≤ 4) :
    (4 / 5 : Rat) < (hits : Rat) / (4 : Nat) ↔ hits = 4 := by
  constructor
  · intro h
    have hhits : (3 : Rat) < hits := by
      push_cast at h
      linarith
    exact le_antisymm hle (by exact_mod_cast hhits)
  · rintro rfl
    norm_num

/-- A conversation is complete exactly if its requirements cover all critical categories. -/
theorem isComplete_iff (conversation : Conversation) :
    conversation.isComplete
      ↔ Requirement.Category.critical ⊆ conversation.requirements.map (·.category) := by
  have hhits : conversation.isComplete
      ↔ (Requirement.Category.critical.filter conversation.covers).length
        = Requirement.Category.critical.length :=
    decide_eq_true_iff.trans (four_fifths_lt_iff (List.length_filter_le ..))
  rw [hhits, List.length_filter_eq_length_iff, List.subset_def]
  simp [covers]

/-- The phase of a conversation is earned: a message about a business process opened it, and only
requirements of all critical categories brought it to the blueprint. -/
structure Grounded (rules : List IntentRule) (conversation : Conversation) : Prop where
  opened : conversation.phase ≠ .discovery → ∃ text classification,
    Router.userMessage text classification ∈ conversation.history ∧
      Classification.ofMessage rules text = .ok classification ∧
      classification.intent = IntentRule.businessProcess
  covered : conversation.phase = .blueprint →
    Requirement.Category.critical ⊆ conversation.requirements.map (·.category)
  unbuilt : conversation.phase ≠ .implementation

theorem grounded_start (rules : List IntentRule) : Grounded rules start :=
  ⟨fun h => absurd rfl h, nofun, nofun⟩

/-- What is said and required in addition does not take the ground from a phase. -/
theorem Grounded.extend {rules : List IntentRule} {before after : Conversation}
    (grounded : Grounded rules before) (hext : before.ExtendedBy after)
    (hphase : after.phase = before.phase) : Grounded rules after where
  opened h := by
    obtain ⟨text, classification, hm, hc⟩ := grounded.opened (hphase ▸ h)
    exact ⟨text, classification, hext.history.subset hm, hc⟩
  covered h := List.Subset.trans (grounded.covered (hphase ▸ h))
    (List.map_subset _ hext.requirements.subset)
  unbuilt := hphase ▸ grounded.unbuilt

end Conversation

namespace Router

open Conversation (ExtendedBy Grounded)

theorem nextPhase?_eq_some_iff {previous phase : Phase} {classification : Classification}
    {conversation : Conversation} :
    nextPhase? previous classification conversation = some phase ↔
      (previous = .discovery ∧ classification.intent = IntentRule.businessProcess
        ∧ phase = .requirements)
      ∨ (previous = .requirements ∧ conversation.isComplete ∧ phase = .blueprint) := by
  unfold nextPhase?
  cases previous with
  | discovery => simp [eq_comm (a := phase)]
  | requirements => simp [eq_comm (a := phase)]
  | blueprint => simp
  | implementation => simp

theorem on_takingIds {α : Type} (work : Work Ids α) (session : Session) :
    (Session.takingIds work).on session
      = ((work.on session.ids).1, { session with ids := (work.on session.ids).2 }) := rfl

/-- Nothing is written to the conversation before the message has been classified and all that it
states has been made; the ids are taken before that. -/
theorem on_classify (router : Router) (text : RawText) (session : Session) :
    (router.classify text).on session = match Classification.ofMessage router.rules text with
      | .error fault => (.error fault, session)
      | .ok found => match (Requirement.extract text).on session.ids with
        | (.error fault, ids) => (.error fault, { session with ids })
        | (.ok extracted, ids) => (.ok { found with extracted },
          ⟨(session.conversation.record (userMessage text found)).addRequirements extracted,
            ids⟩) := by
  unfold classify
  cases hfound : Classification.ofMessage router.rules text with
  | error fault => exact Work.on_lift_bind_error rfl _ _
  | ok found =>
    rw [Work.on_lift_bind_ok rfl, Work.on_bind, on_takingIds]
    rcases (Requirement.extract text).on session.ids with ⟨outcome, ids⟩
    cases outcome <;> rfl

theorem on_classify_eq_ok_iff {router : Router} {text : RawText} {session after : Session}
    {classification : Classification} :
    (router.classify text).on session = (.ok classification, after) ↔
      ∃ found extracted ids, Classification.ofMessage router.rules text = .ok found ∧
        (Requirement.extract text).on session.ids = (.ok extracted, ids) ∧
        classification = { found with extracted } ∧
        after = ⟨(session.conversation.record (userMessage text found)).addRequirements extracted,
          ids⟩ := by
  rw [on_classify]
  cases Classification.ofMessage router.rules text with
  | error fault => simp
  | ok found =>
    rcases (Requirement.extract text).on session.ids with ⟨outcome, ids⟩
    cases outcome <;> simp [eq_comm]

theorem on_classify_eq_error_iff {router : Router} {text : RawText} {session after : Session}
    {fault : Fault} :
    (router.classify text).on session = (.error fault, after) ↔
      (Classification.ofMessage router.rules text = .error fault ∧ after = session) ∨
        ∃ found ids, Classification.ofMessage router.rules text = .ok found ∧
          (Requirement.extract text).on session.ids = (.error fault, ids) ∧
          after = { session with ids } := by
  rw [on_classify]
  cases Classification.ofMessage router.rules text with
  | error other => simp [eq_comm]
  | ok found =>
    rcases (Requirement.extract text).on session.ids with ⟨outcome, ids⟩
    cases outcome <;> simp [eq_comm]

theorem conversation_classify_of_error {router : Router} {text : RawText}
    {session after : Session} {fault : Fault}
    (h : (router.classify text).on session = (.error fault, after)) :
    after.conversation = session.conversation := by
  rcases on_classify_eq_error_iff.mp h with ⟨-, rfl⟩ | ⟨found, ids, -, -, rfl⟩ <;> rfl

/-- The conversation once the message before it moved it on. -/
def movedOn (previous : Phase) (intent : Classification) (conversation : Conversation) :
    Conversation :=
  (nextPhase? previous intent conversation).elim conversation conversation.advance

/-- Where a classified message leads to. -/
def settled (router : Router) (previous : Phase) (intent : Classification) (classified : Session) :
    Routing × Session :=
  let next? := nextPhase? previous intent classified.conversation
  let conversation := movedOn previous intent classified.conversation
  ({ phase := conversation.phase
     previousPhase := previous
     intent
     completeness := conversation.completeness
     missingCategories := conversation.missingCategories
     nextQuestions := conversation.nextQuestions
     relatedTemplates := if previous = .discovery ∧ next?.isSome then
         router.related intent.rule conversation
       else [] },
    { classified with conversation })

/-- Taking a message in fails only where classifying it does. -/
theorem on_handle (router : Router) (text : RawText) (session : Session) :
    (router.handle text).on session = match (router.classify text).on session with
      | (.ok intent, classified) =>
        let (routing, after) := router.settled session.conversation.phase intent classified
        (.ok routing, after)
      | (.error fault, after) => (.error fault, after) := by
  unfold handle
  rw [Work.on_get_bind, Work.on_bind]
  rcases (router.classify text).on session with ⟨outcome, classified⟩
  cases outcome <;> rfl

/-- A message that was taken in has been classified, and has moved the conversation at most to the
phase that follows. -/
theorem on_handle_eq_ok_iff {router : Router} {text : RawText} {session after : Session}
    {routing : Routing} :
    (router.handle text).on session = (.ok routing, after) ↔
      ∃ intent classified, (router.classify text).on session = (.ok intent, classified) ∧
        router.settled session.conversation.phase intent classified = (routing, after) := by
  rw [on_handle]
  rcases (router.classify text).on session with ⟨outcome, classified⟩
  cases outcome with
  | error fault => simp
  | ok intent => simp [Prod.ext_iff]

theorem on_handle_eq_error_iff {router : Router} {text : RawText} {session after : Session}
    {fault : Fault} :
    (router.handle text).on session = (.error fault, after) ↔
      (router.classify text).on session = (.error fault, after) := by
  rw [on_handle]
  rcases (router.classify text).on session with ⟨outcome, classified⟩
  cases outcome <;> simp

/-- What a message leaves behind is what its classification does, moved on or not. -/
theorem handle_cases {router : Router} {text : RawText} {session after : Session}
    {routing : Routing} (h : (router.handle text).on session = (.ok routing, after)) :
    ∃ intent classified, (router.classify text).on session = (.ok intent, classified) ∧
      (after = classified ∨
        ∃ phase, nextPhase? session.conversation.phase intent classified.conversation = some phase ∧
          after = { classified with conversation := classified.conversation.advance phase }) := by
  obtain ⟨intent, classified, hclassify, hsettled⟩ := on_handle_eq_ok_iff.mp h
  obtain rfl : _ = after := congrArg Prod.snd hsettled
  refine ⟨intent, classified, hclassify, ?_⟩
  unfold settled movedOn
  cases nextPhase? session.conversation.phase intent classified.conversation with
  | none => exact .inl rfl
  | some phase => exact .inr ⟨phase, rfl, rfl⟩

theorem on_addFeed (feed : Json) (session : Session) :
    (addFeed feed).on session = match (Requirement.ofFeed feed).on session.ids with
      | (.ok requirements, ids) =>
        (.ok (), ⟨session.conversation.addRequirements requirements, ids⟩)
      | (.error fault, ids) => (.error fault, { session with ids }) := by
  unfold addFeed
  rw [Work.on_bind, on_takingIds]
  rcases (Requirement.ofFeed feed).on session.ids with ⟨outcome, ids⟩
  cases outcome <;> rfl

theorem requireText_eq_ok_iff {subject : String} {text : RawText} {json : Json} :
    requireText subject json = .ok text ↔ json = .ofRaw text := by
  rw [← Json.raw?_eq_some_iff, requireText]
  cases json.raw? <;> simp

/-- What can be done to a conversation. -/
inductive Operation where
  | handle (message : Json)
  | classify (message : Json)
  | addRequirements (requirements : List Requirement)
  | addFeed (feed : Json)
  | advance (phase : Phase)
  | markImplementation

/-- An operation that does not set the phase. -/
def Operation.isSpoken : Operation → Bool
  | .advance _ | .markImplementation => false
  | _ => true

/-- Does something with the text of a message. -/
def withText {α : Type} (message : Json) (act : RawText → Work Session α) : Work Session Unit := do
  let text ← requireText "message" message
  let _ ← act text

def perform (router : Router) : Operation → Work Session Unit
  | .handle message => withText message router.handle
  | .classify message => withText message router.classify
  | .addRequirements requirements => Session.write (·.addRequirements requirements)
  | .addFeed feed => Router.addFeed feed
  | .advance phase => Session.write (·.advance phase)
  | .markImplementation => Session.write Router.markImplementation

/-- The session after an operation, which may have failed. -/
def step (router : Router) (session : Session) (operation : Operation) : Session :=
  ((router.perform operation).on session).2

def run (router : Router) (session : Session) (operations : List Operation) : Session :=
  operations.foldl router.step session

theorem run_append (router : Router) (session : Session) (operations more : List Operation) :
    router.run session (operations ++ more) = router.run (router.run session operations) more :=
  List.foldl_append

theorem on_withText {α : Type} (message : Json) (act : RawText → Work Session α)
    (session : Session) :
    (withText message act).on session = match requireText "message" message with
      | .error fault => (.error fault, session)
      | .ok text => (((act text).on session).1.map fun _ => (), ((act text).on session).2) := by
  unfold withText
  cases requireText "message" message with
  | error fault => exact Work.on_lift_bind_error rfl _ _
  | ok text =>
    rw [Work.on_lift_bind_ok rfl, Work.on_bind]
    dsimp only
    rcases (act text).on session with ⟨outcome, after⟩
    cases outcome <;> rfl

/-- An operation on a message succeeds if the message is a text on which it does. -/
theorem on_withText_eq_ok_iff {α : Type} {message : Json} {session after : Session}
    {act : RawText → Work Session α} :
    (withText message act).on session = (.ok (), after) ↔
      ∃ text result, message = .ofRaw text ∧ (act text).on session = (.ok result, after) := by
  rw [on_withText]
  constructor
  · intro h
    cases htext : requireText "message" message with
    | error fault => simp [htext] at h
    | ok text =>
      rw [htext] at h
      obtain ⟨hact, hafter⟩ := Prod.mk.inj h
      obtain ⟨result, hresult, -⟩ := map_eq_ok_iff.mp hact
      exact ⟨text, result, requireText_eq_ok_iff.mp htext, Prod.ext hresult hafter⟩
  · rintro ⟨text, result, rfl, hact⟩
    rw [requireText_eq_ok_iff.mpr rfl]
    simp only [hact]
    rfl

theorem conversation_withText_of_error {α : Type} {message : Json} {session after : Session}
    {act : RawText → Work Session α} {fault : Fault}
    (keeps : ∀ {text left fault}, (act text).on session = (.error fault, left) →
      left.conversation = session.conversation)
    (h : (withText message act).on session = (.error fault, after)) :
    after.conversation = session.conversation := by
  rw [on_withText] at h
  cases htext : requireText "message" message with
  | error other =>
    rw [htext] at h
    cases h
    rfl
  | ok text =>
    rw [htext] at h
    obtain ⟨hact, rfl⟩ := Prod.mk.inj h
    cases hresult : ((act text).on session).1 with
    | error other => exact keeps (Prod.ext hresult rfl)
    | ok result => simp [hresult, Except.map] at hact

/-- An operation that fails leaves the conversation as it was. -/
theorem conversation_perform_of_error {router : Router} {session after : Session}
    {operation : Operation} {fault : Fault}
    (h : (router.perform operation).on session = (.error fault, after)) :
    after.conversation = session.conversation := by
  cases operation with
  | handle message =>
    exact conversation_withText_of_error
      (fun hhandle => conversation_classify_of_error (on_handle_eq_error_iff.mp hhandle)) h
  | classify message => exact conversation_withText_of_error conversation_classify_of_error h
  | addFeed feed =>
    revert h
    rw [perform, on_addFeed]
    rcases (Requirement.ofFeed feed).on session.ids with ⟨outcome, ids⟩
    cases outcome with
    | error other => rintro ⟨⟩; rfl
    | ok requirements => nofun
  | addRequirements | advance | markImplementation => cases h

/-- What holds before an operation holds after it if the operation keeps it when it succeeds. -/
theorem step_induction {router : Router} {session : Session} {operation : Operation}
    {motive : Conversation → Prop} (same : motive session.conversation)
    (done : ∀ after, (router.perform operation).on session = (.ok (), after) →
      motive after.conversation) :
    motive (router.step session operation).conversation := by
  unfold step
  rcases h : (router.perform operation).on session with ⟨⟨⟩ | ⟨⟨⟩⟩, after⟩
  · rwa [conversation_perform_of_error h]
  · exact done after h

/-- What each operation of a kind keeps when it succeeds holds after a run of such operations. -/
theorem run_induction {router : Router} {motive : Conversation → Prop}
    {allowed : Operation → Prop}
    (keeps : ∀ {session after operation}, allowed operation → motive session.conversation →
      (router.perform operation).on session = (.ok (), after) → motive after.conversation)
    {operations : List Operation} (all : ∀ operation ∈ operations, allowed operation)
    {session : Session} (start : motive session.conversation) :
    motive (router.run session operations).conversation := by
  induction operations generalizing session with
  | nil => exact start
  | cons operation rest ih =>
    obtain ⟨hoperation, hrest⟩ := List.forall_mem_cons.mp all
    exact ih hrest (step_induction start fun _ h => keeps hoperation start h)

theorem perform_addFeed_eq_ok_iff {router : Router} {session after : Session} {feed : Json} :
    (router.perform (.addFeed feed)).on session = (.ok (), after) ↔
      ∃ requirements ids, (Requirement.ofFeed feed).on session.ids = (.ok requirements, ids) ∧
        after = ⟨session.conversation.addRequirements requirements, ids⟩ := by
  rw [perform, on_addFeed]
  rcases (Requirement.ofFeed feed).on session.ids with ⟨outcome, ids⟩
  cases outcome <;> simp [eq_comm]

theorem extendedBy_classify {router : Router} {text : RawText} {session after : Session}
    {classification : Classification}
    (h : (router.classify text).on session = (.ok classification, after)) :
    session.conversation.ExtendedBy after.conversation := by
  obtain ⟨found, extracted, ids, -, -, -, rfl⟩ := on_classify_eq_ok_iff.mp h
  exact (Conversation.extendedBy_record _ _).trans (Conversation.extendedBy_addRequirements _ _)

theorem extendedBy_handle {router : Router} {text : RawText} {session after : Session}
    {routing : Routing} (h : (router.handle text).on session = (.ok routing, after)) :
    session.conversation.ExtendedBy after.conversation := by
  obtain ⟨intent, classified, hclassify, rfl | ⟨phase, -, rfl⟩⟩ := handle_cases h
  · exact extendedBy_classify hclassify
  · exact (extendedBy_classify hclassify).trans (Conversation.extendedBy_advance _ _)

theorem extendedBy_perform {router : Router} {session after : Session} {operation : Operation}
    (h : (router.perform operation).on session = (.ok (), after)) :
    session.conversation.ExtendedBy after.conversation := by
  cases operation with
  | handle message =>
    obtain ⟨text, routing, -, hhandle⟩ := on_withText_eq_ok_iff.mp h
    exact extendedBy_handle hhandle
  | classify message =>
    obtain ⟨text, classification, -, hclassify⟩ := on_withText_eq_ok_iff.mp h
    exact extendedBy_classify hclassify
  | addRequirements requirements =>
    cases h
    exact Conversation.extendedBy_addRequirements _ _
  | addFeed feed =>
    obtain ⟨requirements, ids, -, rfl⟩ := perform_addFeed_eq_ok_iff.mp h
    exact Conversation.extendedBy_addRequirements _ _
  | advance phase =>
    cases h
    exact Conversation.extendedBy_advance _ _
  | markImplementation =>
    cases h
    exact Conversation.extendedBy_advance _ _

theorem extendedBy_run (router : Router) (session : Session) (operations : List Operation) :
    session.conversation.ExtendedBy (router.run session operations).conversation :=
  run_induction (fun _ hext h => hext.trans (extendedBy_perform h)) (fun _ _ => trivial) (.refl _)

theorem phase_classify {router : Router} {text : RawText} {session after : Session}
    {classification : Classification}
    (h : (router.classify text).on session = (.ok classification, after)) :
    after.conversation.phase = session.conversation.phase := by
  obtain ⟨found, extracted, ids, -, -, -, rfl⟩ := on_classify_eq_ok_iff.mp h
  rfl

/-- A message opens a conversation, completes it, or leaves its phase alone. -/
theorem phase_handle_cases {router : Router} {text : RawText} {session after : Session}
    {routing : Routing} (h : (router.handle text).on session = (.ok routing, after)) :
    after.conversation.phase = session.conversation.phase
    ∨ (session.conversation.phase = .discovery ∧ after.conversation.phase = .requirements
      ∧ ∃ classification, userMessage text classification ∈ after.conversation.history ∧
        Classification.ofMessage router.rules text = .ok classification ∧
        classification.intent = IntentRule.businessProcess)
    ∨ (session.conversation.phase = .requirements ∧ after.conversation.phase = .blueprint
      ∧ Requirement.Category.critical ⊆ after.conversation.requirements.map (·.category)) := by
  obtain ⟨intent, classified, hclassify, rfl | ⟨phase, hnext, rfl⟩⟩ := handle_cases h
  · exact .inl (phase_classify hclassify)
  have hphase := phase_classify hclassify
  rcases nextPhase?_eq_some_iff.mp hnext with
    ⟨hdiscovery, hintent, rfl⟩ | ⟨hrequirements, hcomplete, rfl⟩
  · have hlt : classified.conversation.phase.order < Phase.requirements.order := by
      rw [hphase, hdiscovery]
      decide
    obtain ⟨found, extracted, ids, hfound, -, rfl, hclassified⟩ :=
      on_classify_eq_ok_iff.mp hclassify
    rw [Conversation.advance_of_lt hlt]
    refine .inr (.inl ⟨hdiscovery, rfl, found, ?_, hfound, hintent⟩)
    simp [hclassified, Conversation.addRequirements, Conversation.record]
  · have hlt : classified.conversation.phase.order < Phase.blueprint.order := by
      rw [hphase, hrequirements]
      decide
    rw [Conversation.advance_of_lt hlt]
    exact .inr (.inr ⟨hrequirements, rfl, (Conversation.isComplete_iff _).mp hcomplete⟩)

theorem grounded_handle {router : Router} {text : RawText} {session after : Session}
    {routing : Routing} (grounded : Grounded router.rules session.conversation)
    (h : (router.handle text).on session = (.ok routing, after)) :
    Grounded router.rules after.conversation := by
  have hext := extendedBy_handle h
  rcases phase_handle_cases h with
    hsame | ⟨_, hphase, classification, hm, hc⟩ | ⟨hrequirements, hphase, hcritical⟩
  · exact grounded.extend hext hsame
  · exact ⟨fun _ => ⟨text, classification, hm, hc⟩, fun hb => (nomatch hphase.symm.trans hb),
      by simp [hphase]⟩
  · obtain ⟨earlier, classification, hm, hc⟩ := grounded.opened (by simp [hrequirements])
    exact ⟨fun _ => ⟨earlier, classification, hext.history.subset hm, hc⟩, fun _ => hcritical,
      by simp [hphase]⟩

theorem grounded_perform {router : Router} {session after : Session} {operation : Operation}
    (spoken : operation.isSpoken) (grounded : Grounded router.rules session.conversation)
    (h : (router.perform operation).on session = (.ok (), after)) :
    Grounded router.rules after.conversation := by
  have hext := extendedBy_perform h
  cases operation with
  | handle message =>
    obtain ⟨text, routing, -, hhandle⟩ := on_withText_eq_ok_iff.mp h
    exact grounded_handle grounded hhandle
  | classify message =>
    obtain ⟨text, classification, -, hclassify⟩ := on_withText_eq_ok_iff.mp h
    exact grounded.extend hext (phase_classify hclassify)
  | addRequirements requirements =>
    cases h
    exact grounded.extend hext rfl
  | addFeed feed =>
    obtain ⟨requirements, ids, -, rfl⟩ := perform_addFeed_eq_ok_iff.mp h
    exact grounded.extend hext rfl
  | advance phase => cases spoken
  | markImplementation => cases spoken

theorem grounded_run {router : Router} {session : Session} {operations : List Operation}
    (spoken : ∀ operation ∈ operations, operation.isSpoken)
    (grounded : Grounded router.rules session.conversation) :
    Grounded router.rules (router.run session operations).conversation :=
  run_induction (fun hoperation hg h => grounded_perform hoperation hg h) spoken grounded

theorem order_step_handle_le (router : Router) (session : Session) (message : Json) :
    (router.step session (.handle message)).conversation.phase.order
      ≤ session.conversation.phase.order + 1 := by
  refine step_induction (motive := fun after => after.phase.order
    ≤ session.conversation.phase.order + 1) (Nat.le_succ _) fun after h => ?_
  obtain ⟨text, routing, -, hhandle⟩ := on_withText_eq_ok_iff.mp h
  rcases phase_handle_cases hhandle with hsame | ⟨hbefore, hafter, _⟩ | ⟨hbefore, hafter, _⟩
  · rw [hsame]
    exact Nat.le_succ _
  · rw [hbefore, hafter]
    decide
  · rw [hbefore, hafter]
    decide

/-- Every run extends the conversation, whatever is done to it. A run that starts anew and never
sets the phase moves it by one step at most with each message, and grounds it in what was said:
past the discovery some message was about a business process, at the blueprint all critical
categories are covered, and the implementation is not reached. -/
theorem run_extends_and_grounds (router : Router) :
    (∀ (session : Session) (operations more : List Operation),
      (router.run session operations).conversation.ExtendedBy
        (router.run session (operations ++ more)).conversation) ∧
    ∀ (ids : Ids) (operations : List Operation),
      (∀ operation ∈ operations, operation.isSpoken) →
      let reached := router.run ⟨.start, ids⟩ operations
      Grounded router.rules reached.conversation ∧
      ∀ message, (router.step reached (.handle message)).conversation.phase.order
        ≤ reached.conversation.phase.order + 1 := by
  refine ⟨fun session operations more => ?_, fun ids operations spoken => ⟨?_, fun message => ?_⟩⟩
  · rw [run_append]
    exact extendedBy_run router _ more
  · exact grounded_run spoken (Conversation.grounded_start router.rules)
  · exact order_step_handle_le router _ message

/-- A message about a shop, one requirement of each other critical category, and a last message. -/
def shopTalk : List Operation :=
  let stated := fun category =>
    Requirement.ofDetails "stated" category "as usual" ⟨"", .medium, .finite (1 / 2), false, []⟩
  [.handle (.str "Automate the shop"),
    .addRequirements ([.technicalSpecs, .integrations, .scaleVolume].map stated),
    .handle (.str "Go on")]

theorem run_extends_and_grounds_shopTalk :
    let router : Router := { store := .empty, rules := IntentRule.standard, relatedLimit := 3 }
    let reached := router.run ⟨.start, .start⟩ shopTalk
    reached.conversation.phase = .blueprint ∧ Grounded router.rules reached.conversation :=
  ⟨by decide +kernel, ((run_extends_and_grounds _).2 .start shopTalk (by decide)).1⟩

end Router

end Flowplan
