import Flowplan.Proofs.Conversation.Completion
import Flowplan.Proofs.Requirement.Acceptance

namespace Flowplan

namespace Requirement

/-- What a conversation can come to hold: it is valid, and its answer says something. -/
structure IsStated (requirement : Requirement) : Prop where
  valid : requirement.IsValid
  spoken : IsSpoken requirement.answer

theorem Draft.isStated_stated {draft : Draft} (sound : draft.IsSound) (whole : draft.IsWhole)
    {id : String} (hid : id ≠ "") : (draft.stated id).IsStated := by
  obtain ⟨text, htext⟩ := isWhole_iff.mp whole
  have hanswer : (draft.stated id).answer = text := by
    rw [Draft.stated, ofDetails, htext, RawText.shown_ofString]
  have spoken : IsSpoken (draft.stated id).answer := by
    rw [hanswer, isSpoken_iff, ← htext]
    exact sound.spoken
  exact ⟨⟨hid, spoken.ne_empty, sound.confidence⟩, spoken⟩

theorem isStated_of_mem_stated {message : RawText} {ids : Ids} {requirement : Requirement}
    (whole : IsExtractable message) (hm : requirement ∈ stated message ids) :
    requirement.IsStated := by
  obtain ⟨draft, hdraft, left, rfl⟩ := mem_stated hm
  exact Draft.isStated_stated (isSound_of_mem_drafts hdraft) (whole draft hdraft)
    left.fresh_ne_empty

theorem isStated_ofFeed {feed : Json} {ids used : Ids} {requirements : List Requirement}
    (h : (ofFeed feed).on ids = (.ok requirements, used)) :
    ∀ requirement ∈ requirements, requirement.IsStated := by
  intro requirement hm
  obtain ⟨records, rfl⟩ : ∃ records, feed = .arr records := by
    by_contra hnone
    rw [on_ofFeed_of_not_list (fun records he => hnone ⟨records, he⟩)] at h
    cases h
  obtain ⟨record, -, start, hrecord⟩ : ∃ record ∈ records.filter isAccepted,
      Gives record requirement := by
    rw [on_ofFeed] at h
    split at h
    · cases h
      exact exists_mem_of_forall₂ (forall₂_gives_ofRecords records ids) hm
    · cases h
  cases record with
  | obj members =>
    obtain ⟨describes, valid⟩ := describes_ofRecord hrecord
    exact ⟨valid, describes.spoken⟩
  | _ => cases hrecord

section toJson

variable {requirement : Requirement} {members : Record.Members}

theorem recordText?_of_toJson (stated : requirement.IsStated)
    (h : requirement.toJson = .obj members) :
    recordText? members = some (.ofString requirement.answer) := by
  cases h
  exact recordText?_eq_some_iff.mpr ⟨rfl, isSpoken_iff.mp stated.spoken⟩

theorem recordCategory?_of_toJson (h : requirement.toJson = .obj members) (text : RawText) :
    recordCategory? members text = some requirement.category := by
  cases h
  exact Category.ofLabel?_label _

theorem ownId?_of_toJson (stated : requirement.IsStated) (h : requirement.toJson = .obj members) :
    ownId? members = some (.str requirement.id) := by
  cases h
  exact Option.filter_eq_some_iff.mpr ⟨rfl, by simp [Json.isPresent, stated.valid.id]⟩

/-- A record that was made of a requirement states it, and needs no id. -/
theorem ofRecord_toJson (stated : requirement.IsStated) (ids : Ids) :
    ofRecord requirement.toJson ids = (some requirement, ids) := by
  obtain ⟨members, hmembers⟩ : ∃ members, requirement.toJson = .obj members := ⟨_, rfl⟩
  have hdetails : Details.ofMembers members = .value requirement.details :=
    Details.ofMembers_recordOf hmembers stated.valid.confidence
  have hid : recordId members ids = (.ofString requirement.id, ids) := by
    rw [recordId, ownId?_of_toJson stated hmembers]
    rfl
  rw [hmembers, ofRecord]
  simp only [recordText?_of_toJson stated hmembers, recordCategory?_of_toJson hmembers, hid,
    hdetails, RawText.text?_ofString]
  rfl

theorem isWritable_toJson (stated : requirement.IsStated) : isWritable requirement.toJson := by
  obtain ⟨members, hmembers⟩ : ∃ members, requirement.toJson = .obj members := ⟨_, rfl⟩
  have hwritten : writtenOut? requirement.toJson = some (.str requirement.id) := by
    rw [hmembers, writtenOut?, recordText?_of_toJson stated hmembers]
    simp only [bind, Option.bind_some, recordCategory?_of_toJson hmembers,
      ownId?_of_toJson stated hmembers]
  rw [isWritable, hwritten]
  rfl

end toJson

theorem ofRecords_toJson {requirements : List Requirement}
    (stated : ∀ requirement ∈ requirements, requirement.IsStated) (ids : Ids) :
    ofRecords ids (requirements.map toJson) = (requirements, ids) := by
  induction requirements with
  | nil => rfl
  | cons first rest ih =>
    obtain ⟨hfirst, hrest⟩ := List.forall_mem_cons.mp stated
    have hrecord := ofRecord_toJson hfirst ids
    unfold ofRecords at ih ⊢
    simp only [List.map_cons, ofItems, Item.read, hrecord, ih hrest]
    rfl

theorem on_ofFeed_toJson {requirements : List Requirement}
    (stated : ∀ requirement ∈ requirements, requirement.IsStated) (ids : Ids) :
    (ofFeed (.arr (requirements.map toJson))).on ids = (.ok requirements, ids) := by
  have writable : (requirements.map toJson).all isWritable := by
    rw [List.all_map]
    exact List.all_eq_true.mpr fun requirement hm => isWritable_toJson (stated requirement hm)
  rw [on_ofFeed_of_writable writable, ofRecords_toJson stated]

end Requirement

namespace Router

theorem isStated_handle {router : Router} {text : RawText} {session after : Session}
    {routing : Routing}
    (stated : ∀ requirement ∈ session.conversation.requirements, requirement.IsStated)
    (h : (router.handle text).on session = (.ok routing, after)) :
    ∀ requirement ∈ after.conversation.requirements, requirement.IsStated := by
  obtain ⟨-, whole⟩ := exists_handle_iff.mp ⟨routing, after, h⟩
  rw [(requirements_handle h).1]
  exact List.forall_mem_append.mpr
    ⟨stated, fun _ hm => Requirement.isStated_of_mem_stated whole hm⟩

theorem isStated_addFeed {feed : Json} {session after : Session}
    (stated : ∀ requirement ∈ session.conversation.requirements, requirement.IsStated)
    (h : (addFeed feed).on session = (.ok (), after)) :
    ∀ requirement ∈ after.conversation.requirements, requirement.IsStated := by
  rw [on_addFeed] at h
  rcases hfeed : (Requirement.ofFeed feed).on session.ids with ⟨⟨fault⟩ | ⟨found⟩, used⟩
  · rw [hfeed] at h
    cases h
  · rw [hfeed] at h
    cases h
    exact List.forall_mem_append.mpr ⟨stated, Requirement.isStated_ofFeed hfeed⟩

end Router

namespace Pipeline

theorem isStated_hear_none {pipeline : Pipeline} {text : RawText} {session after : Session}
    (stated : ∀ requirement ∈ session.conversation.requirements, requirement.IsStated)
    (h : (pipeline.hear text none).on session = (.ok (), after)) :
    ∀ requirement ∈ after.conversation.requirements, requirement.IsStated := by
  rw [on_hear_none] at h
  rcases hhandle : (pipeline.router.handle text).on session with ⟨⟨fault⟩ | ⟨routing⟩, left⟩
  · rw [hhandle] at h
    cases h
  · rw [hhandle] at h
    cases h
    exact Router.isStated_handle stated hhandle

theorem isStated_hear {pipeline : Pipeline} {text : RawText} {record : Option Json}
    {session after : Session}
    (stated : ∀ requirement ∈ session.conversation.requirements, requirement.IsStated)
    (h : (pipeline.hear text record).on session = (.ok (), after)) :
    ∀ requirement ∈ after.conversation.requirements, requirement.IsStated := by
  cases record with
  | none => exact isStated_hear_none stated h
  | some record =>
    rw [on_hear_some] at h
    rcases hfed : (Router.addFeed (.arr [record])).on session with ⟨⟨fault⟩ | ⟨⟨⟩⟩, fed⟩
    · rw [hfed] at h
      cases h
    · rw [hfed] at h
      exact isStated_hear_none (Router.isStated_addFeed stated hfed) h

theorem isStated_takeIn {pipeline : Pipeline} {index : Nat} {message : Json}
    {session after : Session}
    (stated : ∀ requirement ∈ session.conversation.requirements, requirement.IsStated)
    (h : (pipeline.takeIn index message).on session = (.ok (), after)) :
    ∀ requirement ∈ after.conversation.requirements, requirement.IsStated := by
  by_cases hmessage : isMessage message
  · rw [on_takeIn_of_isMessage hmessage] at h
    cases hspoken : spoken? message with
    | none =>
      rw [hspoken] at h
      cases h
      exact stated
    | some text =>
      rw [hspoken] at h
      exact isStated_hear stated h
  · rw [on_takeIn_of_not_isMessage hmessage] at h
    cases h

/-- Whatever a pipeline is given as messages, what it gathers from them can be fed to another. -/
theorem isStated_converseFrom {pipeline : Pipeline} {messages : List Json} {index : Nat}
    {session after : Session}
    (stated : ∀ requirement ∈ session.conversation.requirements, requirement.IsStated)
    (h : (pipeline.converseFrom index messages).on session = (.ok (), after)) :
    ∀ requirement ∈ after.conversation.requirements, requirement.IsStated := by
  induction messages generalizing index session with
  | nil =>
    cases h
    exact stated
  | cons message rest ih =>
    rw [on_converseFrom_cons] at h
    rcases htaken : (pipeline.takeIn index message).on session with ⟨⟨fault⟩ | ⟨⟨⟩⟩, next⟩
    · rw [htaken] at h
      cases h
    · rw [htaken] at h
      exact ih (isStated_takeIn stated htaken) h

theorem isStated_run {pipeline : Pipeline} {messages : Json} {config : BlueprintConfig}
    {options : GraphOptions} {ids : Ids} {run : Run}
    (h : pipeline.run messages config options ids = .ok (.completed run)) :
    ∀ requirement ∈ run.requirements, requirement.IsStated := by
  obtain ⟨⟨_, session⟩, hsession, h⟩ := bind_eq_ok_iff.mp (run_eq_completed_iff.mp h)
  obtain ⟨made, -, h⟩ := bind_eq_ok_iff.mp h
  cases h
  have hconverse := Work.finish_eq_ok_iff.mp hsession
  cases messages with
  | arr items =>
    rw [on_converse_arr] at hconverse
    refine isStated_converseFrom ?_ hconverse
    exact fun _ hm => nomatch hm
  | _ => cases hconverse

end Pipeline

namespace Requirement

/-- A feed of the records that were made of requirements gives just these, and takes no id for them,
exactly if each of them is valid and has an answer that says something. What a completed run reports
as its requirements is such a feed. -/
theorem ofFeed_toJson :
    (∀ (requirements : List Requirement) (ids : Ids),
      (ofFeed (.arr (requirements.map toJson))).on ids = (.ok requirements, ids) ↔
        ∀ requirement ∈ requirements, requirement.IsStated) ∧
    ∀ (pipeline : Pipeline) (messages : Json) (config : BlueprintConfig) (options : GraphOptions)
      (ids : Ids) (run : Run), pipeline.run messages config options ids = .ok (.completed run) →
      ∃ feed, (RunResult.completed run).report? "requirements" = some feed ∧
        ∀ later, (ofFeed feed).on later = (.ok run.requirements, later) := by
  refine ⟨fun requirements ids => ⟨isStated_ofFeed, fun stated => on_ofFeed_toJson stated ids⟩,
    fun pipeline messages config options ids run h => ⟨_, rfl, fun later => ?_⟩⟩
  exact on_ofFeed_toJson (Pipeline.isStated_run h) later

/-- What a run gathers from a text, from a record and from the text of a record is fed again. -/
theorem ofFeed_toJson_mixedMessages :
    let pipeline := Pipeline.standard .empty (.amount (.whole 20)) 3
    ∃ run feed,
      pipeline.run (.arr Pipeline.mixedMessages) .standard .basic .start = .ok (.completed run) ∧
      (RunResult.completed run).report? "requirements" = some feed ∧
      (∀ later, (ofFeed feed).on later = (.ok run.requirements, later)) ∧
      run.requirements.map (fun requirement => (requirement.id, requirement.category))
        = [("id-1", .businessProcess), ("id-2", .scaleVolume), ("id-3", .integrations)] := by
  intro pipeline
  have hmost : (20 : Int) ≤ 2 ^ 1000 := Return.hours_le_of_le (by decide)
  obtain ⟨run, hrun, -, hrequirements⟩ := @Pipeline.exists_completed pipeline 20 (by decide) rfl
    (by decide) hmost Pipeline.mixedMessages (by decide +kernel) .standard .basic .start
  obtain ⟨feed, hfeed, hagain⟩ := ofFeed_toJson.2 pipeline _ .standard .basic .start run hrun
  refine ⟨run, feed, hrun, hfeed, hagain, ?_⟩
  rw [hrequirements]
  decide +kernel

end Requirement

end Flowplan
