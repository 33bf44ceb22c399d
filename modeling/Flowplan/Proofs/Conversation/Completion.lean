import Flowplan.Cli.Execution
import Flowplan.Proofs.Blueprint.Generation
import Flowplan.Proofs.Conversation.Messages
import Flowplan.Proofs.Requirement.Feed

namespace Flowplan

theorem Router.requirements_handle {router : Router} {text : RawText} {session after : Session}
    {routing : Routing} (h : (router.handle text).on session = (.ok routing, after)) :
    after.conversation.requirements
        = session.conversation.requirements ++ Requirement.stated text session.ids ∧
      after.ids = ⟨session.ids.used + (Requirement.drafts text).length⟩ := by
  obtain ⟨intent, classified, hclassify, hafter⟩ := handle_cases h
  obtain ⟨found, extracted, ids, -, hextract, -, rfl⟩ := on_classify_eq_ok_iff.mp hclassify
  obtain ⟨-, rfl, rfl⟩ := Requirement.on_extract_eq_ok_iff.mp hextract
  rcases hafter with rfl | ⟨phase, -, rfl⟩
  · exact ⟨rfl, rfl⟩
  · exact ⟨Conversation.requirements_advance _ phase, rfl⟩

theorem Router.phase_markImplementation (conversation : Conversation) :
    (markImplementation conversation).phase = .implementation := by
  unfold markImplementation Conversation.advance
  split
  next => rfl
  next h =>
    cases hphase : conversation.phase with
    | implementation => rfl
    | discovery | requirements | blueprint => exact absurd (hphase ▸ by decide) h

/-- A record joins the conversation with what it states. -/
theorem Router.on_addFeed_singleton (record : Json) (session : Session) :
    (addFeed (.arr [record])).on session =
      if Requirement.isWritable record then
        let (described?, ids) := Requirement.ofRecord record session.ids
        (.ok (), ⟨session.conversation.addRequirements described?.toList, ids⟩)
      else (.error (.figure .tooManyDigits), session) := by
  rw [on_addFeed, Requirement.on_ofFeed_singleton]
  by_cases writable : Requirement.isWritable record
  · rw [if_pos writable, if_pos writable]
  · rw [if_neg writable, if_neg writable]

namespace Pipeline

open Requirement (IsExtractable isWritable)

/-- A text or a record. -/
def isMessage : Json → Bool
  | .str _ | .torn _ | .obj _ => true
  | _ => false

/-- What a message says, if it says anything. -/
def spoken? : Json → Option RawText
  | .obj members => Requirement.recordText? members
  | json => json.raw?.filter (!·.allBlank)

/-- A record whose category is not null. -/
def statesCategory : Json → Bool
  | .obj members => (members.lookup "category").any fun category => category ≠ .null
  | _ => false

/-- The requirement that a record states together with its category, if it can be read. -/
def described (message : Json) (ids : Ids) : Option Requirement × Ids :=
  if statesCategory message then Requirement.ofRecord message ids else (none, ids)

/-- The requirements of a message that says something: the one that it describes, and then those
that its text states. -/
def stated (message : Json) (ids : Ids) : List Requirement × Ids :=
  match spoken? message with
  | none => ([], ids)
  | some text =>
    let (described?, left) := described message ids
    (described?.toList ++ Requirement.stated text left,
      ⟨left.used + (Requirement.drafts text).length⟩)

/-- The requirements of all messages, in the order of the messages. -/
def allStated (ids : Ids) : List Json → List Requirement × Ids
  | [] => ([], ids)
  | message :: rest =>
    let first := stated message ids
    let more := allStated first.2 rest
    (first.1 ++ more.1, more.2)

/-- A message that a pipeline can take in: if it is a record that states its category, the record
can be read, and no half stands alone in an answer that its text states. -/
structure IsTaken (item : Json) : Prop where
  message : isMessage item
  writable : statesCategory item → isWritable item
  extractable : ∀ text ∈ spoken? item, IsExtractable text

instance (item : Json) : Decidable (IsTaken item) :=
  decidable_of_iff (isMessage item ∧ (statesCategory item → isWritable item) ∧
      ∀ text ∈ spoken? item, IsExtractable text)
    ⟨fun ⟨message, writable, extractable⟩ => ⟨message, writable, extractable⟩,
      fun taken => ⟨taken.message, taken.writable, taken.extractable⟩⟩

/-- Why a pipeline cannot take in what has a number among the messages. -/
inductive Stops (index : Nat) (message : Json) : Fault → Prop where
  | notMessage (other : ¬isMessage message) :
    Stops index message (.precondition (.notMessage index message.kind))
  | unwritable (states : statesCategory message) (overlong : ¬isWritable message) :
    Stops index message (.figure .tooManyDigits)
  | torn {text : RawText} (writable : statesCategory message → isWritable message)
    (spoken : spoken? message = some text) (torn : ¬IsExtractable text) :
    Stops index message (.invalid 1)

theorem isTaken_or_stops (index : Nat) (message : Json) :
    IsTaken message ∨ ∃ fault, Stops index message fault := by
  by_cases hmessage : isMessage message
  · by_cases hwritable : statesCategory message → isWritable message
    · by_cases hextractable : ∀ text ∈ spoken? message, IsExtractable text
      · exact .inl ⟨hmessage, hwritable, hextractable⟩
      · push Not at hextractable
        obtain ⟨text, hspoken, htorn⟩ := hextractable
        exact .inr ⟨_, .torn hwritable hspoken htorn⟩
    · push Not at hwritable
      exact .inr ⟨_, .unwritable hwritable.1 hwritable.2⟩
  · exact .inr ⟨_, .notMessage hmessage⟩

theorem isMessage_of_spoken? {message : Json} {text : RawText} (h : spoken? message = some text) :
    isMessage message := by
  cases message <;> first | rfl | cases h

theorem isMessage_of_statesCategory {message : Json} (h : statesCategory message) :
    isMessage message := by
  cases message <;> first | rfl | cases h

theorem Stops.not_isTaken {index : Nat} {message : Json} {fault : Fault}
    (stops : Stops index message fault) : ¬IsTaken message := by
  intro taken
  cases stops with
  | notMessage other => exact other taken.message
  | unwritable states overlong => exact overlong (taken.writable states)
  | torn writable spoken torn => exact torn (taken.extractable _ spoken)

theorem readMessage_of_isMessage {message : Json} (h : isMessage message) (index : Nat) :
    readMessage index message = .ok ((spoken? message).map fun text =>
      (text, if statesCategory message then some message else none)) := by
  cases message with
  | obj members => rfl
  | str text =>
    unfold readMessage spoken?
    by_cases hblank : (RawText.ofString text).allBlank <;> simp [Json.raw?, hblank, statesCategory]
  | torn text =>
    unfold readMessage spoken?
    by_cases hblank : text.raw.allBlank <;> simp [Json.raw?, hblank, statesCategory]
  | _ => cases h

theorem readMessage_of_not_isMessage {message : Json} (h : ¬isMessage message) (index : Nat) :
    readMessage index message = .error (.precondition (.notMessage index message.kind)) := by
  cases message with
  | str | torn | obj => exact absurd rfl h
  | _ => rfl

theorem on_takeIn_of_not_isMessage {pipeline : Pipeline} {message : Json} (h : ¬isMessage message)
    (index : Nat) (session : Session) :
    (pipeline.takeIn index message).on session
      = (.error (.precondition (.notMessage index message.kind)), session) := by
  unfold takeIn
  exact Work.on_lift_bind_error (readMessage_of_not_isMessage h index) _ _

theorem on_takeIn_of_isMessage {pipeline : Pipeline} {message : Json} (h : isMessage message)
    (index : Nat) (session : Session) :
    (pipeline.takeIn index message).on session = match spoken? message with
      | none => (.ok (), session)
      | some text => (pipeline.hear text (if statesCategory message then some message else none)).on
        session := by
  unfold takeIn
  rw [Work.on_lift_bind_ok (readMessage_of_isMessage h index)]
  cases spoken? message <;> rfl

theorem on_hear_none (pipeline : Pipeline) (text : RawText) (session : Session) :
    (pipeline.hear text none).on session
      = (((pipeline.router.handle text).on session).1.map fun _ => (),
        ((pipeline.router.handle text).on session).2) := by
  change (pipeline.router.handle text >>= fun _ => pure ()).on session = _
  rw [Work.on_bind]
  rcases (pipeline.router.handle text).on session with ⟨outcome, after⟩
  cases outcome <;> rfl

theorem on_hear_some (pipeline : Pipeline) (text : RawText) (record : Json) (session : Session) :
    (pipeline.hear text (some record)).on session
      = match (Router.addFeed (.arr [record])).on session with
        | (.ok _, fed) => (pipeline.hear text none).on fed
        | (.error fault, after) => (.error fault, after) := by
  change (Router.addFeed (.arr [record]) >>= fun _ => pipeline.hear text none).on session = _
  rw [Work.on_bind]
  rcases (Router.addFeed (.arr [record])).on session with ⟨outcome, fed⟩
  cases outcome <;> rfl

/-- The conversation holds what was stated before and what the work has added, and the ids that this
took are gone. -/
def Gains (session : Session) (stated : List Requirement × Ids) (after : Session) : Prop :=
  after.conversation.requirements = session.conversation.requirements ++ stated.1 ∧
    after.ids = stated.2

theorem exists_on_hear_none {pipeline : Pipeline} {text : RawText}
    (flawless : ∀ rule ∈ pipeline.router.rules, rule.isFlawless) (whole : IsExtractable text)
    (session : Session) :
    ∃ after, (pipeline.hear text none).on session = (.ok (), after) ∧
      Gains session (Requirement.stated text session.ids,
        ⟨session.ids.used + (Requirement.drafts text).length⟩) after := by
  obtain ⟨routing, after, hhandle⟩ := Router.exists_handle_iff.mpr
    ⟨Classification.exists_ofMessage flawless text, whole⟩
  refine ⟨after, ?_, Router.requirements_handle hhandle⟩
  rw [on_hear_none, hhandle]
  rfl

theorem exists_on_takeIn {pipeline : Pipeline} {message : Json}
    (flawless : ∀ rule ∈ pipeline.router.rules, rule.isFlawless) (taken : IsTaken message)
    (index : Nat) (session : Session) :
    ∃ after, (pipeline.takeIn index message).on session = (.ok (), after) ∧
      Gains session (stated message session.ids) after := by
  rw [on_takeIn_of_isMessage taken.message]
  unfold stated described
  cases hspoken : spoken? message with
  | none => exact ⟨session, rfl, (List.append_nil _).symm, rfl⟩
  | some text =>
    have whole : IsExtractable text := taken.extractable text hspoken
    by_cases states : statesCategory message
    · -- The record joins the conversation before its text is taken in.
      simp only [states, if_true, on_hear_some, Router.on_addFeed_singleton,
        taken.writable states]
      rcases Requirement.ofRecord message session.ids with ⟨described?, left⟩
      obtain ⟨after, hafter, hrequirements, hids⟩ := exists_on_hear_none flawless whole
        ⟨session.conversation.addRequirements described?.toList, left⟩
      refine ⟨after, hafter, ?_, hids⟩
      simpa only [Conversation.addRequirements, List.append_assoc] using hrequirements
    · simp only [states]
      exact exists_on_hear_none flawless whole session

theorem exists_on_takeIn_error {pipeline : Pipeline} {message : Json} {index : Nat} {fault : Fault}
    (flawless : ∀ rule ∈ pipeline.router.rules, rule.isFlawless) (stops : Stops index message fault)
    (session : Session) :
    ∃ after, (pipeline.takeIn index message).on session = (.error fault, after) := by
  cases stops with
  | notMessage other => exact ⟨session, on_takeIn_of_not_isMessage other index session⟩
  | unwritable states overlong =>
    have hspoken : ∃ text, spoken? message = some text := by
      cases message with
      | obj members =>
        rw [← Option.isSome_iff_exists]
        by_contra hnone
        exact overlong (by simp_all [isWritable, Requirement.writtenOut?, spoken?])
      | _ => cases states
    obtain ⟨text, hspoken⟩ := hspoken
    rw [on_takeIn_of_isMessage (isMessage_of_statesCategory states), hspoken]
    simp only [states, if_true, on_hear_some, Router.on_addFeed_singleton, overlong]
    exact ⟨session, rfl⟩
  | @torn text writable spoken torn =>
    obtain ⟨found, hfound⟩ := Classification.exists_ofMessage flawless text
    have hhear : ∀ start, ∃ after,
        (pipeline.hear text none).on start = (.error (.invalid 1), after) := by
      intro start
      obtain ⟨after, hhandle⟩ := Router.exists_handle_error hfound torn start
      exact ⟨after, by rw [on_hear_none, hhandle]; rfl⟩
    rw [on_takeIn_of_isMessage (isMessage_of_spoken? spoken), spoken]
    by_cases states : statesCategory message
    · simp only [states, if_true, on_hear_some, Router.on_addFeed_singleton, writable states]
      exact hhear _
    · simp only [states]
      exact hhear session

theorem on_converseFrom_cons (pipeline : Pipeline) (index : Nat) (message : Json)
    (rest : List Json) (session : Session) :
    (pipeline.converseFrom index (message :: rest)).on session
      = match (pipeline.takeIn index message).on session with
        | (.ok _, next) => (pipeline.converseFrom (index + 1) rest).on next
        | (.error fault, after) => (.error fault, after) := by
  rw [converseFrom, Work.on_bind]
  rcases (pipeline.takeIn index message).on session with ⟨outcome, next⟩
  cases outcome <;> rfl

theorem exists_on_converseFrom {pipeline : Pipeline}
    (flawless : ∀ rule ∈ pipeline.router.rules, rule.isFlawless) {messages : List Json}
    (all : ∀ message ∈ messages, IsTaken message) (index : Nat) (session : Session) :
    ∃ after, (pipeline.converseFrom index messages).on session = (.ok (), after) ∧
      Gains session (allStated session.ids messages) after := by
  induction messages generalizing index session with
  | nil => exact ⟨session, rfl, (List.append_nil _).symm, rfl⟩
  | cons message rest ih =>
    obtain ⟨hmessage, hrest⟩ := List.forall_mem_cons.mp all
    obtain ⟨next, htaken, hrequirements, hids⟩ :=
      exists_on_takeIn flawless hmessage index session
    obtain ⟨after, hafter, hmore, hused⟩ := ih hrest (index + 1) next
    rw [hids] at hmore hused
    refine ⟨after, by rw [on_converseFrom_cons, htaken]; exact hafter, ?_, hused⟩
    rw [hmore, hrequirements]
    exact List.append_assoc ..

/-- What cannot be taken in ends a conversation, and is named by its number. -/
theorem exists_on_converseFrom_error {pipeline : Pipeline}
    (flawless : ∀ rule ∈ pipeline.router.rules, rule.isFlawless) {before : List Json}
    (all : ∀ message ∈ before, IsTaken message) {item : Json} {index : Nat} {fault : Fault}
    (stops : Stops (index + before.length) item fault) (after : List Json) (session : Session) :
    ∃ left, (pipeline.converseFrom index (before ++ item :: after)).on session
      = (.error fault, left) := by
  induction before generalizing index session with
  | nil =>
    rw [List.length_nil, Nat.add_zero] at stops
    obtain ⟨left, hleft⟩ := exists_on_takeIn_error flawless stops session
    exact ⟨left, by rw [List.nil_append, on_converseFrom_cons, hleft]⟩
  | cons message rest ih =>
    obtain ⟨hmessage, hrest⟩ := List.forall_mem_cons.mp all
    obtain ⟨next, htaken, -⟩ := exists_on_takeIn flawless hmessage index session
    have hindex : index + (message :: rest).length = index + 1 + rest.length := by
      rw [List.length_cons]
      omega
    rw [hindex] at stops
    rw [List.cons_append, on_converseFrom_cons, htaken]
    exact ih hrest stops next

/-- The messages are a list, and all that is in it can be taken in. -/
def AreTaken (messages : Json) : Prop :=
  ∃ items, messages = .arr items ∧ ∀ item ∈ items, IsTaken item

theorem run_eq_completed_iff {pipeline : Pipeline} {messages : Json} {config : BlueprintConfig}
    {options : GraphOptions} {ids : Ids} {run : Run} :
    pipeline.run messages config options ids = .ok (.completed run) ↔
      pipeline.execute messages config options ids = .ok run := by
  unfold Pipeline.run
  cases pipeline.execute messages config options ids with
  | ok other => simp
  | error fault =>
    dsimp only
    split <;> simp

theorem on_converse_arr (pipeline : Pipeline) (items : List Json) (session : Session) :
    (pipeline.converse (.arr items)).on session = (pipeline.converseFrom 0 items).on session :=
  Work.on_lift_bind_ok rfl _ _

theorem execute_eq_ok_of_converse {pipeline : Pipeline} {messages : Json} {session : Session}
    {hours : Int} {ids : Ids} (hhours : pipeline.hours = .amount (.whole hours))
    (hpos : 0 < hours) (hmost : hours ≤ 2 ^ 1000)
    (h : (pipeline.converse messages).on ⟨.start, ids⟩ = (.ok (), session))
    (config : BlueprintConfig) (options : GraphOptions) :
    ∃ run, pipeline.execute messages config options ids = .ok run ∧
      run.phase = .implementation ∧ run.requirements = session.conversation.requirements := by
  obtain ⟨blueprint, used, hmade⟩ := Blueprint.exists_ofRequirements
    session.conversation.requirements config session.ids hpos hmost
  rw [← hhours] at hmade
  have hfinish : (pipeline.converse messages).finish ⟨.start, ids⟩ = .ok ((), session) :=
    Work.finish_eq_ok_iff.mpr h
  exact ⟨_, bind_eq_ok_iff.mpr ⟨_, hfinish, bind_eq_ok_iff.mpr ⟨_, hmade, rfl⟩⟩,
    Router.phase_markImplementation _, rfl⟩

theorem exists_completed {pipeline : Pipeline} {hours : Int}
    (flawless : ∀ rule ∈ pipeline.router.rules, rule.isFlawless)
    (hhours : pipeline.hours = .amount (.whole hours)) (hpos : 0 < hours) (hmost : hours ≤ 2 ^ 1000)
    {items : List Json} (all : ∀ item ∈ items, IsTaken item) (config : BlueprintConfig)
    (options : GraphOptions) (ids : Ids) :
    ∃ run, pipeline.run (.arr items) config options ids = .ok (.completed run) ∧
      run.phase = .implementation ∧ run.requirements = (allStated ids items).1 := by
  obtain ⟨session, hsession, hrequirements, -⟩ :=
    exists_on_converseFrom flawless all 0 ⟨.start, ids⟩
  obtain ⟨run, hrun, hphase, hsame⟩ := execute_eq_ok_of_converse hhours hpos hmost
    ((on_converse_arr ..).trans hsession) config options
  exact ⟨run, run_eq_completed_iff.mpr hrun, hphase, hsame.trans hrequirements⟩

/-- What is wrong with messages: they are no list, or an item, the first of its kind, cannot be
taken in. -/
inductive Offends (messages : Json) : Fault → Prop where
  | notList (h : ∀ items, messages ≠ .arr items) :
    Offends messages (.precondition (.notList "messages" messages.kind))
  | item {before : List Json} {item : Json} {after : List Json} {fault : Fault}
    (h : messages = .arr (before ++ item :: after)) (all : ∀ message ∈ before, IsTaken message)
    (stops : Stops before.length item fault) : Offends messages fault

theorem run_of_offends {pipeline : Pipeline} {messages : Json} {fault : Fault}
    (flawless : ∀ rule ∈ pipeline.router.rules, rule.isFlawless) (offends : Offends messages fault)
    (config : BlueprintConfig) (options : GraphOptions) (ids : Ids) :
    pipeline.run messages config options ids
      = if fault.isReported then .ok (.failed fault) else .error fault := by
  have hconverse : ∃ left,
      (pipeline.converse messages).on ⟨.start, ids⟩ = (.error fault, left) := by
    cases offends with
    | notList h =>
      refine ⟨_, Work.on_lift_bind_error ?_ _ _⟩
      cases messages with
      | arr items => exact absurd rfl (h items)
      | _ => rfl
    | item h all stops =>
      rw [h, on_converse_arr]
      exact exists_on_converseFrom_error flawless all (by rwa [Nat.zero_add]) _ _
  obtain ⟨left, hleft⟩ := hconverse
  rw [Pipeline.run, execute, Work.finish_of_error hleft]
  rfl

theorem areTaken_or_offends (messages : Json) :
    AreTaken messages ∨ ∃ fault, Offends messages fault := by
  cases messages with
  | arr items =>
    cases hfind : items.find? (fun item => ¬IsTaken item) with
    | none => exact .inl ⟨items, rfl, by simpa using hfind⟩
    | some item =>
      obtain ⟨hother, before, after, hsplit, hbefore⟩ := List.find?_eq_some_iff_append.mp hfind
      obtain ⟨fault, stops⟩ := (isTaken_or_stops before.length item).resolve_left
        (by simpa using hother)
      exact .inr ⟨fault, .item (congrArg Json.arr hsplit) (by simpa using hbefore) stops⟩
  | _ => exact .inr ⟨_, .notList nofun⟩

theorem Offends.not_areTaken {messages : Json} {fault : Fault}
    (offends : Offends messages fault) : ¬AreTaken messages := by
  rintro ⟨items, rfl, hall⟩
  cases offends with
  | notList h => exact h items rfl
  | item h all stops =>
    exact stops.not_isTaken (hall _ (Json.arr.inj h ▸ by simp))

theorem exists_completed_iff {pipeline : Pipeline} {messages : Json} {hours : Int}
    (flawless : ∀ rule ∈ pipeline.router.rules, rule.isFlawless)
    (hhours : pipeline.hours = .amount (.whole hours)) (hpos : 0 < hours) (hmost : hours ≤ 2 ^ 1000)
    {config : BlueprintConfig} {options : GraphOptions} {ids : Ids} :
    (∃ run, pipeline.run messages config options ids = .ok (.completed run)) ↔
      AreTaken messages := by
  constructor
  · rintro ⟨run, hrun⟩
    refine (areTaken_or_offends messages).resolve_right fun ⟨fault, offends⟩ => ?_
    rw [run_of_offends flawless offends] at hrun
    split at hrun <;> cases hrun
  · rintro ⟨items, rfl, hall⟩
    obtain ⟨run, hrun, -⟩ :=
      exists_completed flawless hhours hpos hmost hall config options ids
    exact ⟨run, hrun⟩

/-- No half stands alone in what the message says, and no integer that is written out of its record
is too long for that. -/
def IsWhole (message : Json) : Prop :=
  (∀ text ∈ spoken? message, text.text?.isSome) ∧ isWritable message

theorem Stops.isReported_of_isWhole {index : Nat} {message : Json} {fault : Fault}
    (stops : Stops index message fault) (whole : IsWhole message) : fault.isReported := by
  cases stops with
  | notMessage other => rfl
  | unwritable states overlong => exact absurd whole.2 overlong
  | torn writable spoken torn =>
    obtain ⟨text, htext⟩ := Option.isSome_iff_exists.mp (whole.1 _ spoken)
    rw [RawText.text?_eq_some_iff] at htext
    exact absurd (htext ▸ Requirement.isExtractable_ofString text) torn

theorem Offends.isReported_of_isWhole {items : List Json} {fault : Fault}
    (offends : Offends (.arr items) fault) (whole : ∀ item ∈ items, IsWhole item) :
    fault.isReported := by
  cases offends with
  | notList h => exact absurd rfl (h items)
  | item h all stops =>
    exact stops.isReported_of_isWhole (whole _ (Json.arr.inj h ▸ by simp))

theorem isTaken_iff_of_isWhole {message : Json} (whole : IsWhole message) :
    IsTaken message ↔ isMessage message := by
  refine ⟨IsTaken.message, fun h => ⟨h, fun _ => whole.2, fun text hspoken => ?_⟩⟩
  obtain ⟨chars, hchars⟩ := Option.isSome_iff_exists.mp (whole.1 text hspoken)
  rw [RawText.text?_eq_some_iff.mp hchars]
  exact Requirement.isExtractable_ofString chars

end Pipeline

namespace RunResult

/-- What a run reports under a name. -/
def report? (result : RunResult) (name : String) : Option Json :=
  match result.toJson with
  | .obj members => members.lookup name
  | _ => none

/-- The files that a run leaves behind. -/
def artifacts : RunResult → List (String × String)
  | completed run => run.artifacts
  | failed _ => []

end RunResult

namespace Pipeline

/-- A run completes exactly on a list of texts and records that can all be taken in, and then has
come to the implementation with the requirements that they state, in their order. Otherwise the
first thing that is wrong decides: what is no message is reported, and no files are left; a record
that cannot be read and an answer in which a half stands alone end the program. Messages of
characters with records that can be read are texts and records, or the run reports the first that is
neither. -/
theorem run_completes_iff_areTaken {pipeline : Pipeline} {hours : Int}
    (flawless : ∀ rule ∈ pipeline.router.rules, rule.isFlawless)
    (hhours : pipeline.hours = .amount (.whole hours)) (hpos : 0 < hours) (hmost : hours ≤ 2 ^ 1000)
    (messages : Json) (config : BlueprintConfig) (options : GraphOptions) (ids : Ids) :
    let answer := pipeline.run messages config options ids
    ((∃ run, answer = .ok (.completed run)) ↔ AreTaken messages) ∧
    (∀ run, answer = .ok (.completed run) → run.phase = .implementation ∧
      ∀ items, messages = .arr items → run.requirements = (allStated ids items).1) ∧
    (AreTaken messages ∨ ∃ fault, Offends messages fault) ∧
    (∀ fault, Offends messages fault → ¬AreTaken messages ∧
      (¬fault.isReported → answer = .error fault) ∧
      (fault.isReported → ∃ result, answer = .ok result ∧
        result.report? "status" = some (.str "error") ∧
        result.report? "error_type" = some (.str "PreconditionError") ∧
        result.report? "error" = some (.str fault.message) ∧ result.artifacts = [])) ∧
    ∀ items, messages = .arr items → (∀ item ∈ items, IsWhole item) →
      (AreTaken messages ↔ ∀ item ∈ items, isMessage item) ∧
      ∀ fault, Offends messages fault → fault.isReported := by
  intro answer
  have hoffends : ∀ fault, Offends messages fault →
      answer = if fault.isReported then .ok (.failed fault) else .error fault :=
    fun fault offends => run_of_offends flawless offends config options ids
  refine ⟨exists_completed_iff flawless hhours hpos hmost, fun run hrun => ?_,
    areTaken_or_offends messages, fun fault offends => ?_, ?_⟩
  · obtain ⟨items, rfl, hall⟩ := (exists_completed_iff flawless hhours hpos hmost).mp ⟨run, hrun⟩
    obtain ⟨found, hfound, hphase, hrequirements⟩ :=
      exists_completed flawless hhours hpos hmost hall config options ids
    obtain rfl : found = run := by simpa using hfound.symm.trans hrun
    refine ⟨hphase, fun others hitems => ?_⟩
    rw [← Json.arr.inj hitems, hrequirements]
  · refine ⟨offends.not_areTaken, fun hreported => ?_, fun hreported => ?_⟩
    · rw [hoffends fault offends, if_neg hreported]
    · refine ⟨.failed fault, by rw [hoffends fault offends, if_pos hreported], rfl, ?_, rfl, rfl⟩
      have hname : fault.name = "PreconditionError" := by
        cases offends with
        | notList h => rfl
        | item h all stops =>
          cases stops with
          | notMessage other => rfl
          | unwritable | torn => cases hreported
      exact congrArg (fun name => some (Json.str name)) hname
  · rintro items rfl whole
    refine ⟨?_, fun fault offends => offends.isReported_of_isWhole whole⟩
    have hiff : (∀ item ∈ items, IsTaken item) ↔ ∀ item ∈ items, isMessage item :=
      forall₂_congr fun item hm => isTaken_iff_of_isWhole (whole item hm)
    rw [← hiff]
    exact ⟨fun ⟨_, hitems, hall⟩ => Json.arr.inj hitems ▸ hall, fun hall => ⟨items, rfl, hall⟩⟩

/-- A text, a record that states its category, a blank text and a record without a text. -/
def mixedMessages : List Json := [
  .str "Automate the shop",
  .obj [("category", .str "scale-volume"), ("text", .str "Ten orders an hour from the API")],
  .str " ",
  .obj [("category", .str "integrations")]]

theorem run_completes_iff_areTaken_mixedMessages :
    let pipeline := Pipeline.standard .empty (.amount (.whole 20)) 3
    (∃ run, pipeline.run (.arr mixedMessages) .standard .basic .start = .ok (.completed run) ∧
      run.phase = .implementation ∧ run.requirements.map (·.category)
        = [.businessProcess, .scaleVolume, .integrations]) ∧
    ∃ result,
      pipeline.run (.arr (mixedMessages ++ [.int 4])) .standard .basic .start = .ok result ∧
        result.report? "status" = some (.str "error") ∧ result.artifacts = [] := by
  have hmost : (20 : Int) ≤ 2 ^ 1000 := Return.hours_le_of_le (by decide)
  have runs := fun messages => @run_completes_iff_areTaken
    (Pipeline.standard .empty (.amount (.whole 20)) 3) 20
    (by decide) rfl (by decide) hmost messages .standard .basic .start
  have taken : ∀ message ∈ mixedMessages, IsTaken message := by decide +kernel
  constructor
  · obtain ⟨hcompletes, hcompleted, -⟩ := runs (.arr mixedMessages)
    obtain ⟨run, hrun⟩ := hcompletes.mpr ⟨mixedMessages, rfl, taken⟩
    obtain ⟨hphase, hrequirements⟩ := hcompleted run hrun
    refine ⟨run, hrun, hphase, ?_⟩
    rw [hrequirements mixedMessages rfl]
    decide +kernel
  · obtain ⟨-, -, -, hoffends, -⟩ := runs (.arr (mixedMessages ++ [.int 4]))
    have offends : Offends (.arr (mixedMessages ++ [.int 4]))
        (.precondition (.notMessage 4 "int")) :=
      .item rfl taken (.notMessage (by decide))
    obtain ⟨-, -, hreported⟩ := hoffends _ offends
    obtain ⟨result, hresult, hstatus, -, -, hfiles⟩ := hreported rfl
    exact ⟨result, hresult, hstatus, hfiles⟩

/-- A text about an automation is a message whatever it says, but a half that stands alone in it
ends the program. -/
theorem run_torn :
    let messages := Json.arr [.torn ⟨"automate ", 0, []⟩]
    (∃ items, messages = .arr items ∧ ∀ item ∈ items, isMessage item) ∧
      (Pipeline.standard .empty (.amount (.whole 20)) 3).run messages .standard .basic .start
        = .error (.invalid 1) := by
  intro messages
  refine ⟨⟨_, rfl, by decide⟩, ?_⟩
  have stops : Stops 0 (.torn ⟨"automate ", 0, []⟩) (.invalid 1) :=
    .torn nofun rfl (by decide +kernel)
  have offends : Offends messages (.invalid 1) := @Offends.item _ [] _ [] _ rfl (by simp) stops
  exact run_of_offends (by decide) offends .standard .basic .start

end Pipeline

end Flowplan
