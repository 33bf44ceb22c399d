import Flowplan.Proofs.Conversation.Completion

namespace Flowplan

namespace Pipeline

open Router (Operation)

/-- A text, or a record that states no category. -/
def isPlain : Json → Bool
  | .str _ | .torn _ => true
  | .obj members => (members.lookup "category").all (· = .null)
  | _ => false

theorem isMessage_of_isPlain {message : Json} (plain : isPlain message) : isMessage message := by
  cases message <;> first | rfl | cases plain

theorem not_statesCategory_of_isPlain {message : Json} (plain : isPlain message) :
    statesCategory message = false := by
  cases message with
  | obj members =>
    change (members.lookup "category").any (· ≠ .null) = false
    cases h : members.lookup "category" with
    | none => rfl
    | some category => simpa [isPlain, h] using plain
  | _ => rfl

/-- A plain message can be taken in if no half stands alone in an answer that it states. -/
theorem isTaken_iff_of_isPlain {message : Json} (plain : isPlain message) :
    IsTaken message ↔ ∀ text ∈ spoken? message, Requirement.IsExtractable text := by
  refine ⟨IsTaken.extractable, fun whole => ⟨isMessage_of_isPlain plain, fun states => ?_, whole⟩⟩
  simp [not_statesCategory_of_isPlain plain] at states

/-- What a pipeline makes of plain messages is a run of messages that were handled. -/
theorem exists_operations {pipeline : Pipeline} {messages : List Json} {index : Nat}
    {session after : Session} (plain : ∀ message ∈ messages, isPlain message)
    (h : (pipeline.converseFrom index messages).on session = (.ok (), after)) :
    ∃ operations : List Operation, (∀ operation ∈ operations, operation.isMessage) ∧
      pipeline.router.run session operations = after := by
  induction messages generalizing index session with
  | nil =>
    cases h
    exact ⟨[], by simp, rfl⟩
  | cons message rest ih =>
    obtain ⟨hmessage, hrest⟩ := List.forall_mem_cons.mp plain
    rw [on_converseFrom_cons, on_takeIn_of_isMessage (isMessage_of_isPlain hmessage)] at h
    cases hspoken : spoken? message with
    | none =>
      rw [hspoken] at h
      exact ih hrest h
    | some text =>
      simp only [hspoken, not_statesCategory_of_isPlain hmessage, Bool.false_eq_true, if_false,
        on_hear_none] at h
      rcases hhandle : (pipeline.router.handle text).on session with ⟨⟨fault⟩ | ⟨routing⟩, next⟩
      · rw [hhandle] at h
        cases h
      · rw [hhandle] at h
        obtain ⟨operations, hall, hrun⟩ := ih hrest h
        have hperform : (pipeline.router.perform (.handle (.ofRaw text))).on session
            = (.ok (), next) :=
          Router.on_withText_eq_ok_iff.mpr ⟨text, routing, rfl, hhandle⟩
        refine ⟨.handle (.ofRaw text) :: operations, ?_, ?_⟩
        · exact List.forall_mem_cons.mpr ⟨rfl, hall⟩
        · rw [← hrun]
          simp [Router.run, Router.step, hperform]

theorem execute_eq_ok {pipeline : Pipeline} {messages : List Json} {config : BlueprintConfig}
    {options : GraphOptions} {ids : Ids} {run : Run}
    (h : pipeline.execute (.arr messages) config options ids = .ok run) :
    ∃ session, (pipeline.converseFrom 0 messages).on ⟨.start, ids⟩ = (.ok (), session) ∧
      run.completeness = session.conversation.completeness := by
  obtain ⟨⟨_, session⟩, hsession, h⟩ := bind_eq_ok_iff.mp h
  obtain ⟨made, _, h⟩ := bind_eq_ok_iff.mp h
  cases h
  refine ⟨session, (on_converse_arr ..).symm.trans (Work.finish_eq_ok_iff.mp hsession), ?_⟩
  exact congrArg Requirement.completeness (Conversation.requirements_advance _ _)

theorem exists_run_iff {pipeline : Pipeline} {messages : List Json} {hours : Int}
    (flawless : ∀ rule ∈ pipeline.router.rules, rule.isFlawless)
    (hhours : pipeline.hours = .amount (.whole hours)) (hpos : 0 < hours) (hmost : hours ≤ 2 ^ 1000)
    (plain : ∀ message ∈ messages, isPlain message) (config : BlueprintConfig)
    (options : GraphOptions) (ids : Ids) :
    (∃ run, pipeline.run (.arr messages) config options ids = .ok (.completed run)) ↔
      ∀ message ∈ messages, ∀ text ∈ spoken? message, Requirement.IsExtractable text := by
  have htaken : (∀ message ∈ messages, IsTaken message) ↔
      ∀ message ∈ messages, ∀ text ∈ spoken? message, Requirement.IsExtractable text :=
    forall₂_congr fun message hm => isTaken_iff_of_isPlain (plain message hm)
  rw [← htaken, exists_completed_iff flawless hhours hpos hmost]
  exact ⟨fun ⟨_, hitems, hall⟩ => Json.arr.inj hitems ▸ hall, fun hall => ⟨messages, rfl, hall⟩⟩

/-- Messages never cover more than half of the critical categories, nor do they lead beyond the
phase of the requirements. A run of the pipeline on texts and records that state no category
reports no more either; if no rule has a flaw and the hours are whole, it completes unless a half
stands alone in an answer that a message states. -/
theorem messages_cover_at_most_half :
    (∀ (router : Router) (ids : Ids) (operations : List Operation),
      (∀ operation ∈ operations, operation.isMessage) →
      let reached := (router.run ⟨.start, ids⟩ operations).conversation
      reached.completeness ≤ 1 / 2 ∧ reached.phase ∈ [Phase.discovery, Phase.requirements]) ∧
    ∀ (pipeline : Pipeline) (messages : List Json) (config : BlueprintConfig)
      (options : GraphOptions) (ids : Ids), (∀ message ∈ messages, isPlain message) →
      (∀ run, pipeline.run (.arr messages) config options ids = .ok (.completed run) →
        run.completeness ≤ 1 / 2) ∧
      ∀ hours : Int, pipeline.hours = .amount (.whole hours) → 0 < hours → hours ≤ 2 ^ 1000 →
        (∀ rule ∈ pipeline.router.rules, rule.isFlawless) →
        ((∃ run, pipeline.run (.arr messages) config options ids = .ok (.completed run)) ↔
          ∀ message ∈ messages, ∀ text ∈ spoken? message, Requirement.IsExtractable text) := by
  refine ⟨fun router ids operations messages => Router.run_messages messages,
    fun pipeline messages config options ids plain => ⟨fun run h => ?_, ?_⟩⟩
  · obtain ⟨session, hsession, he⟩ := execute_eq_ok (run_eq_completed_iff.mp h)
    obtain ⟨operations, hall, hrun⟩ := exists_operations plain hsession
    rw [he, ← hrun]
    exact (Router.run_messages hall).1
  · intro hours hhours hpos hmost flawless
    exact exists_run_iff flawless hhours hpos hmost plain config options ids

/-- A message about an automation and an interface covers just half of the critical categories. -/
theorem messages_cover_at_most_half_interface :
    let pipeline := Pipeline.standard .empty (.amount (.whole 20)) 3
    let message := Json.str "Automate the shop with its API"
    let reached := (pipeline.router.run ⟨.start, .start⟩ [.handle message]).conversation
    (reached.completeness = 1 / 2 ∧ reached.phase ∈ [Phase.discovery, Phase.requirements]) ∧
      ∃ run, pipeline.run (.arr [message]) .standard .basic .start = .ok (.completed run) ∧
        run.completeness ≤ 1 / 2 := by
  obtain ⟨router, pipeline⟩ := messages_cover_at_most_half
  refine ⟨⟨by decide +kernel, (router _ .start _ (by decide)).2⟩, ?_⟩
  obtain ⟨half, completes⟩ := pipeline (standard .empty (.amount (.whole 20)) 3)
    [.str "Automate the shop with its API"] .standard .basic .start (by decide)
  have hmost : (20 : Int) ≤ 2 ^ 1000 := Return.hours_le_of_le (by decide)
  obtain ⟨run, hrun⟩ := (completes 20 rfl (by decide) hmost (by decide)).mpr (by decide +kernel)
  exact ⟨run, hrun, half run hrun⟩

end Pipeline

end Flowplan
