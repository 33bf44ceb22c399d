import Flowplan.Proofs.Conversation.Messages
import Flowplan.Proofs.Template.Lookup

namespace Flowplan

/-- The record of a message that was not said at a certain moment. -/
def Message.fields (message : Message) : Json :=
  .obj [
    ("role", .str (label message.role)),
    ("content", .ofRaw message.content),
    ("metadata", .obj message.metadata)]

namespace Router

/-- Classification with the check of the message that it writes, and with one write after the
other. -/
def classifyInPlace (router : Router) (message : Json) : Work Session Classification := do
  let text ← requireText "message" message
  let classification ← Classification.ofMessage router.rules text
  let extracted ← Session.takingIds (Requirement.extract text)
  let said ← (Message.ofJson (userMessage text classification).fields).outcome
  Session.write (·.record said)
  Session.write (·.addRequirements extracted)
  pure { classification with extracted }

/-- The templates of the category that the rule points to, which is the only condition that they are
to meet. -/
def lookUpHinted (router : Router) (rule : Option RawText) : Work Session (List Template) :=
  match router.templateCategory? rule with
  | some category => do
    let filters ← (SearchFilters.ofJson (.obj [("category", .str (label category))])).outcome
    pure (router.store.search "" filters)
  | none => pure []

def lookUpRelated (router : Router) (rule : Option RawText) : Work Session (List Template) := do
  let hinted ← router.lookUpHinted rule
  let session ← get
  let found := if hinted.isEmpty then
      router.store.recommend (spokenTexts session.conversation) TemplateStore.recommendationLimit
    else hinted
  pure (firstOf router.relatedLimit found)

/-- Moves the conversation on after a message, and looks up templates if that opened it. -/
def moveOn (router : Router) (previous : Phase) (intent : Classification) :
    Work Session (List Template) :=
  match previous with
  | .discovery =>
    if intent.intent = IntentRule.businessProcess then do
      Session.write (·.advance .requirements)
      router.lookUpRelated intent.rule
    else pure []
  | .requirements => do
    let session ← get
    if session.conversation.isComplete then Session.write (·.advance .blueprint)
    pure []
  | _ => pure []

/-- Moves the conversation on and reports where it stands. -/
def settle (router : Router) (previous : Phase) (intent : Classification) :
    Work Session Routing := do
  let relatedTemplates ← router.moveOn previous intent
  let session ← get
  let conversation := session.conversation
  let _ ← (Record.share (.float (.ofRat conversation.completeness))).outcome
  pure {
    phase := conversation.phase
    previousPhase := previous
    intent
    completeness := conversation.completeness
    missingCategories := conversation.missingCategories
    nextQuestions := conversation.nextQuestions
    relatedTemplates }

/-- Taking a message in as it works on the session itself. -/
def handleInPlace (router : Router) (message : Json) : Work Session Routing := do
  let session ← get
  let intent ← router.classifyInPlace message
  router.settle session.conversation.phase intent

end Router

theorem Message.ofJson_fields (message : Message) : ofJson message.fields = .value message := by
  obtain ⟨role, content, metadata⟩ := message
  have hcontent : Record.raw (.ofRaw content) = .value content := Record.raw_eq_value_iff.mpr rfl
  have hrole : Record.choice (.str (label role)) = .value role := by cases role <;> rfl
  change Message.mk <$> Record.choice (.str (label role)) <*> Record.raw (.ofRaw content)
    <*> _ <* _ = _
  rw [hrole, hcontent]
  rfl

theorem SearchFilters.ofJson_category (category : Template.Category) :
    ofJson (.obj [("category", .str (label category))])
      = .value { none with category := some category } := by
  have hchoice : Record.choice (.str (label category)) = .value category :=
    Checked.ofOption_eq_value_iff.mpr (Template.ofLabel?_eq_some_iff.mpr rfl)
  have hcategory : Record.nullable Record.choice (.str (label category))
      = .value (some category) :=
    congrArg (Checked.map some) hchoice
  change SearchFilters.mk <$> Record.nullable Record.choice (.str (label category))
    <*> _ <*> _ <*> _ = _
  rw [hcategory]
  rfl

/-- Of four critical categories some number is covered, which makes a share of them. -/
theorem Conversation.exists_share_completeness (conversation : Conversation) :
    ∃ x, (Record.share (.float (.ofRat conversation.completeness))).outcome = .ok x := by
  have hshares : ∀ hits : Nat, hits < 5 →
      (Record.share (.float (.ofRat ((hits : Rat) / (4 : Nat))))).value?.isSome := by
    decide +kernel
  have hhits := List.length_filter_le
    (fun category => conversation.requirements.any (·.category = category))
    Requirement.Category.critical
  obtain ⟨x, hx⟩ := Checked.isSome_value?_iff.mp (hshares _ (Nat.lt_succ_of_le hhits))
  exact ⟨x, congrArg Checked.outcome hx⟩

namespace Router

/-- Does something with the text of a message, and fails on a value that is none. -/
def onText {α : Type} (message : Json) (act : RawText → Work Session α) : Work Session α := do
  let text ← requireText "message" message
  act text

theorem on_write_bind {α : Type} (change : Conversation → Conversation)
    (next : Unit → Work Session α) (session : Session) :
    (Session.write change >>= next).on session
      = (next ()).on { session with conversation := change session.conversation } :=
  Work.on_modify_bind _ next session

theorem on_classifyInPlace (router : Router) (message : Json) (session : Session) :
    (router.classifyInPlace message).on session = (onText message router.classify).on session := by
  unfold classifyInPlace onText
  cases requireText "message" message with
  | error fault => rw [Work.on_lift_bind_error rfl, Work.on_lift_bind_error rfl]
  | ok text =>
    rw [Work.on_lift_bind_ok rfl, Work.on_lift_bind_ok rfl, on_classify]
    cases Classification.ofMessage router.rules text with
    | error fault => rw [Work.on_lift_bind_error rfl]
    | ok found =>
      have hsaid : (Message.ofJson (userMessage text found).fields).outcome
          = .ok (userMessage text found) := by
        rw [Message.ofJson_fields]
        rfl
      rw [Work.on_lift_bind_ok rfl, Work.on_bind, on_takingIds]
      dsimp only
      rcases (Requirement.extract text).on session.ids with ⟨⟨fault⟩ | ⟨extracted⟩, ids⟩
      · rfl
      · dsimp only
        rw [Work.on_lift_bind_ok hsaid, on_write_bind, on_write_bind]
        rfl

theorem on_lookUpHinted (router : Router) (rule : Option RawText) (session : Session) :
    (router.lookUpHinted rule).on session
      = (.ok ((router.templateCategory? rule).elim [] fun category =>
          router.store.search "" { SearchFilters.none with category := some category }),
        session) := by
  unfold lookUpHinted
  cases router.templateCategory? rule with
  | none => rfl
  | some category =>
    dsimp only
    rw [SearchFilters.ofJson_category]
    rfl

/-- Looking templates up writes nothing. -/
theorem on_lookUpRelated (router : Router) (rule : Option RawText) (session : Session) :
    (router.lookUpRelated rule).on session
      = (.ok (router.related rule session.conversation), session) := by
  rw [lookUpRelated, Work.on_bind_ok (on_lookUpHinted router rule session), Work.on_get_bind,
    Work.on_pure]
  unfold related
  cases router.templateCategory? rule <;> rfl

theorem on_moveOn (router : Router) (previous : Phase) (intent : Classification)
    (session : Session) :
    (router.moveOn previous intent).on session
      = (.ok (if previous = .discovery ∧
            (nextPhase? previous intent session.conversation).isSome then
          router.related intent.rule (movedOn previous intent session.conversation) else []),
        { session with conversation := movedOn previous intent session.conversation }) := by
  unfold moveOn movedOn nextPhase?
  cases previous with
  | discovery =>
    by_cases hbusiness : intent.intent = IntentRule.businessProcess
    · simp only [hbusiness, if_true, on_write_bind, on_lookUpRelated]
      rfl
    · simp only [hbusiness, if_false, Work.on_pure]
      rfl
  | requirements =>
    dsimp only
    rw [Work.on_get_bind]
    cases session.conversation.isComplete <;> rfl
  | blueprint | implementation => rfl

theorem on_settle (router : Router) (previous : Phase) (intent : Classification)
    (session : Session) :
    (router.settle previous intent).on session
      = (.ok (router.settled previous intent session).1,
        (router.settled previous intent session).2) := by
  obtain ⟨x, hx⟩ :=
    (movedOn previous intent session.conversation).exists_share_completeness
  rw [settle, Work.on_bind_ok (on_moveOn ..), Work.on_get_bind, Work.on_lift_bind_ok hx]
  rfl

theorem on_handleInPlace (router : Router) (message : Json) (session : Session) :
    (router.handleInPlace message).on session = (onText message router.handle).on session := by
  rw [handleInPlace, Work.on_get_bind, Work.on_bind, on_classifyInPlace]
  unfold onText
  cases requireText "message" message with
  | error fault => rw [Work.on_lift_bind_error rfl, Work.on_lift_bind_error rfl]
  | ok text =>
    rw [Work.on_lift_bind_ok rfl, Work.on_lift_bind_ok rfl, on_handle]
    rcases (router.classify text).on session with ⟨⟨fault⟩ | ⟨intent⟩, classified⟩
    · rfl
    · exact on_settle router _ intent classified

/-- What a message adds to a session: one entry of the history, and requirements. -/
structure Adds (session after : Session) (extracted : List Requirement) : Prop where
  history : ∃ said, after.conversation.history = session.conversation.history ++ [said]
  requirements : after.conversation.requirements = session.conversation.requirements ++ extracted
  preferences : after.conversation.preferences = session.conversation.preferences

/-- The work fails and leaves the session as it was, or it adds a message and the requirements that
its result reports. -/
def IsAtomic {α : Type} (work : Work Session α) (extracted : α → List Requirement) : Prop :=
  ∀ session : Session, match work.on session with
    | (.ok a, after) => Adds session after (extracted a)
    | (.error _, after) => after = session

/-- The rules classify the message, but a half stands alone in an answer that it states. -/
def IsTorn (rules : List IntentRule) (message : Json) : Prop :=
  ∃ text found, message = .ofRaw text ∧ Classification.ofMessage rules text = .ok found ∧
    ¬Requirement.IsExtractable text

/-- What a failure leaves behind: the session as it was, or if the message is torn, the session
without the ids up to the one for the first answer that is. -/
inductive Leaves (rules : List IntentRule) (message : Json) (session : Session) :
    Fault → Session → Prop where
  | untouched {fault : Fault} (whole : ¬IsTorn rules message) :
    Leaves rules message session fault session
  | torn {text : RawText} {index : Nat} (torn : IsTorn rules message) (h : message = .ofRaw text)
    (first : (Requirement.drafts text).findIdx? (fun draft => ¬draft.IsWhole) = some index) :
    Leaves rules message session (.invalid 1)
      { session with ids := ⟨session.ids.used + (index + 1)⟩ }

/-- What comes of a message: it adds what is reported, or leaves what a failure leaves behind. -/
def Accounts {α : Type} (rules : List IntentRule) (message : Json)
    (extracted : α → List Requirement) (session : Session) : Outcome α × Session → Prop
  | (.ok a, after) => ¬IsTorn rules message ∧ Adds session after (extracted a)
  | (.error fault, after) => Leaves rules message session fault after

theorem not_isTorn_ofRaw {rules : List IntentRule} {text : RawText}
    (h : ∀ found, Classification.ofMessage rules text = .ok found →
      Requirement.IsExtractable text) : ¬IsTorn rules (.ofRaw text) := by
  rintro ⟨other, found, he, hfound, torn⟩
  obtain rfl : text = other := by simpa using congrArg Json.raw? he
  exact torn (h found hfound)

theorem accounts_classify (router : Router) (text : RawText) (session : Session) :
    Accounts router.rules (.ofRaw text) (·.extracted) session
      ((router.classify text).on session) := by
  rcases hclassify : (router.classify text).on session with ⟨⟨fault⟩ | ⟨classification⟩, after⟩
  · rcases on_classify_eq_error_iff.mp hclassify with
      ⟨hrules, rfl⟩ | ⟨found, ids, hfound, htorn, rfl⟩
    · exact .untouched (not_isTorn_ofRaw fun found hfound => nomatch hrules.symm.trans hfound)
    · obtain ⟨rfl, index, hfirst, rfl⟩ := Requirement.on_extract_eq_error_iff.mp htorn
      have torn : ¬Requirement.IsExtractable text := fun whole =>
        nomatch (Requirement.isExtractable_iff.mp whole).symm.trans hfirst
      exact .torn ⟨text, found, rfl, hfound, torn⟩ rfl hfirst
  · obtain ⟨found, extracted, ids, -, hextract, rfl, rfl⟩ := on_classify_eq_ok_iff.mp hclassify
    obtain ⟨whole, -, -⟩ := Requirement.on_extract_eq_ok_iff.mp hextract
    exact ⟨not_isTorn_ofRaw fun _ _ => whole, ⟨_, rfl⟩, rfl, rfl⟩

theorem exists_phase_movedOn (previous : Phase) (intent : Classification)
    (conversation : Conversation) :
    ∃ phase, movedOn previous intent conversation = { conversation with phase } := by
  unfold movedOn
  cases nextPhase? previous intent conversation with
  | none => exact ⟨conversation.phase, rfl⟩
  | some phase =>
    by_cases h : conversation.phase.order < phase.order
    · exact ⟨phase, Conversation.advance_of_lt h⟩
    · exact ⟨conversation.phase, if_neg h⟩

theorem accounts_handle (router : Router) (text : RawText) (session : Session) :
    Accounts router.rules (.ofRaw text) (·.intent.extracted) session
      ((router.handle text).on session) := by
  have hclassified := accounts_classify router text session
  rw [on_handle]
  generalize (router.classify text).on session = result at hclassified
  obtain ⟨⟨fault⟩ | ⟨intent⟩, classified⟩ := result
  · exact hclassified
  · obtain ⟨whole, adds⟩ := hclassified
    obtain ⟨phase, hmoved⟩ := exists_phase_movedOn session.conversation.phase intent
      classified.conversation
    dsimp only [settled]
    rw [hmoved]
    exact ⟨whole, adds.history, adds.requirements, adds.preferences⟩

section Accounts

variable {α : Type} {rules : List IntentRule} {message : Json} {extracted : α → List Requirement}

theorem accounts_onText {act : RawText → Work Session α} {session : Session}
    (h : ∀ text, Accounts rules (.ofRaw text) extracted session ((act text).on session)) :
    Accounts rules message extracted session ((onText message act).on session) := by
  unfold onText
  cases htext : requireText "message" message with
  | error fault =>
    rw [Work.on_lift_bind_error rfl]
    refine .untouched ?_
    rintro ⟨text, _, he, -⟩
    exact nomatch htext.symm.trans (requireText_eq_ok_iff.mpr he)
  | ok text =>
    rw [Work.on_lift_bind_ok rfl, requireText_eq_ok_iff.mp htext]
    exact h text

/-- Work that accounts for all that it does is atomic exactly if the message is not torn. -/
theorem isAtomic_iff {work : Work Session α}
    (accounts : ∀ session, Accounts rules message extracted session (work.on session)) :
    IsAtomic work extracted ↔ ¬IsTorn rules message := by
  constructor
  · intro atomic torn
    have haccounts := accounts ⟨.start, .start⟩
    have hatomic := atomic ⟨.start, .start⟩
    generalize work.on ⟨.start, .start⟩ = result at haccounts hatomic
    obtain ⟨⟨fault⟩ | ⟨a⟩, after⟩ := result
    · cases haccounts with
      | untouched whole => exact whole torn
      | torn _ _ first =>
        have hused := congrArg (fun session => session.ids.used) hatomic
        simp [Ids.start] at hused
    · exact haccounts.1 torn
  · intro whole session
    have haccounts := accounts session
    generalize work.on session = result at haccounts
    obtain ⟨⟨fault⟩ | ⟨a⟩, after⟩ := result
    · cases haccounts with
      | untouched => rfl
      | torn torn => exact absurd torn whole
    · exact haccounts.2

end Accounts

theorem exists_onText_iff {α : Type} {message : Json} {act : RawText → Work Session α}
    {session : Session} :
    (∃ a, ((onText message act).on session).1 = .ok a) ↔
      ∃ text, message = .ofRaw text ∧ ∃ a after, (act text).on session = (.ok a, after) := by
  unfold onText
  cases htext : requireText "message" message with
  | error fault =>
    rw [Work.on_lift_bind_error rfl]
    refine ⟨nofun, ?_⟩
    rintro ⟨text, he, -⟩
    exact nomatch htext.symm.trans (requireText_eq_ok_iff.mpr he)
  | ok text =>
    rw [Work.on_lift_bind_ok rfl, requireText_eq_ok_iff.mp htext]
    constructor
    · rintro ⟨a, ha⟩
      exact ⟨text, rfl, a, _, Prod.ext ha rfl⟩
    · rintro ⟨other, he, a, after, hact⟩
      obtain rfl : text = other := by simpa using congrArg Json.raw? he
      exact ⟨a, by rw [hact]⟩

/-- Taking a message in and classifying it account for all that they do, whatever the rules, the
templates, the message and the session are: a success adds one entry to the history and the
requirements that it reports, and a failure leaves the conversation as it was. They are atomic
unless the message is torn: then ids are gone that no requirement has. They succeed exactly on a
text that the rules classify and that is not torn. -/
theorem handle_and_classify_atomic_iff (router : Router) (message : Json) :
    (IsAtomic (router.handleInPlace message) (·.intent.extracted) ↔
      ¬IsTorn router.rules message) ∧
    (IsAtomic (router.classifyInPlace message) (·.extracted) ↔ ¬IsTorn router.rules message) ∧
    (∀ text : String, ¬IsTorn router.rules (.str text)) ∧
    ∀ session : Session,
      Accounts router.rules message (·.intent.extracted) session
        ((router.handleInPlace message).on session) ∧
      Accounts router.rules message (·.extracted) session
        ((router.classifyInPlace message).on session) ∧
      (router.handleInPlace message).on session = (onText message router.handle).on session ∧
      (router.classifyInPlace message).on session = (onText message router.classify).on session ∧
      ((∃ routing, ((router.handleInPlace message).on session).1 = .ok routing) ↔
        ∃ text, message = .ofRaw text ∧
          (∃ found, Classification.ofMessage router.rules text = .ok found) ∧
          Requirement.IsExtractable text) ∧
      ((∃ classification, ((router.classifyInPlace message).on session).1 = .ok classification) ↔
        ∃ text, message = .ofRaw text ∧
          (∃ found, Classification.ofMessage router.rules text = .ok found) ∧
          Requirement.IsExtractable text) := by
  have hhandle : ∀ session, Accounts router.rules message (·.intent.extracted) session
      ((router.handleInPlace message).on session) := by
    intro session
    rw [on_handleInPlace]
    exact accounts_onText fun text => accounts_handle router text session
  have hclassify : ∀ session, Accounts router.rules message (·.extracted) session
      ((router.classifyInPlace message).on session) := by
    intro session
    rw [on_classifyInPlace]
    exact accounts_onText fun text => accounts_classify router text session
  refine ⟨isAtomic_iff hhandle, isAtomic_iff hclassify, fun text => ?_, fun session =>
    ⟨hhandle session, hclassify session, on_handleInPlace .., on_classifyInPlace .., ?_, ?_⟩⟩
  · rw [← Json.ofRaw_ofString]
    exact not_isTorn_ofRaw fun _ _ => Requirement.isExtractable_ofString text
  · simp only [on_handleInPlace, exists_onText_iff, exists_handle_iff]
  · simp only [on_classifyInPlace, exists_onText_iff, exists_classify_iff]

/-- A message that is torn fails and takes an id with it. -/
theorem handle_torn :
    let router : Router := ⟨.empty, IntentRule.standard, 3⟩
    (router.handleInPlace (.torn ⟨"connect ", 0, []⟩)).on ⟨.start, .start⟩
      = (.error (.invalid 1), ⟨.start, ⟨1⟩⟩) := by
  intro router
  have hmessage : Json.torn ⟨"connect ", 0, []⟩ = .ofRaw (TornText.raw ⟨"connect ", 0, []⟩) :=
    (Json.ofRaw_raw _).symm
  have hfirst : (Requirement.drafts (TornText.raw ⟨"connect ", 0, []⟩)).findIdx?
      (fun draft => ¬draft.IsWhole) = some 0 := by
    decide +kernel
  obtain ⟨found, hfound⟩ := @Classification.exists_ofMessage router.rules (by decide)
    (TornText.raw ⟨"connect ", 0, []⟩)
  have hextract := (@Requirement.on_extract_eq_error_iff _ .start ⟨1⟩ _).mpr ⟨rfl, 0, hfirst, rfl⟩
  rw [on_handleInPlace, onText, Work.on_lift_bind_ok (requireText_eq_ok_iff.mpr hmessage)]
  exact on_handle_eq_error_iff.mpr
    (on_classify_eq_error_iff.mpr (.inr ⟨found, _, hfound, hextract, rfl⟩))

/-- A rule whose confidence is no share fails where it applies, and then nothing is written yet. -/
example :
    let shop := IntentRule.ofDetails "shop" ["shop"] IntentRule.businessProcess .businessProcess
      (.finite 1) [] none
    let router : Router := ⟨.empty, [{ shop with confidence := .flaws 1 }], 3⟩
    let failed := (router.handleInPlace (.str "Automate the shop")).on ⟨.start, .start⟩
    failed.1.toBool = false ∧ failed.2 = ⟨.start, .start⟩ := by
  decide +kernel

end Router

end Flowplan
