import Flowplan.Proofs.Requirement.Fields
import Flowplan.Proofs.Text.Points
import Flowplan.Proofs.Text.Spelling
import Flowplan.Proofs.Work
import Flowplan.Requirement.Extraction
import Mathlib.Data.List.TakeWhile

namespace Flowplan.Requirement

open Text (FoldsTo Point)

/-- The points spell the word, whatever their case. -/
def Spells (word : List Char) (piece : List Point) : Prop :=
  List.Forall₂ (fun letter point => equalLetter letter point) word piece

/-- The text begins with a trigger word. -/
def IsTriggered (text : List Point) : Prop :=
  ∃ trigger ∈ automationTriggers, ∃ word, Spells trigger.toList word ∧ word <+: text

/-- The phrase begins the text: it is a trigger word with what follows on the line, as far as a
hundred characters go. -/
def Opens (text phrase : List Point) : Prop :=
  ∃ trigger ∈ automationTriggers, ∃ word more rest,
    text = word ++ more ++ rest ∧ phrase = word ++ more ∧ Spells trigger.toList word ∧
      .char '\n' ∉ more ∧ more.length ≤ 100 ∧
      (more.length = 100 ∨ ∀ point ∈ rest.head?, point = .char '\n')

/-- The phrase stands in the text where a trigger word begins for the first time. -/
def IsFirstPhrase (text phrase : List Point) : Prop :=
  ∃ before rest, text = before ++ rest ∧ Opens rest phrase ∧
    ∀ earlier later, text = earlier ++ later → IsTriggered later → before.length ≤ earlier.length

/-- The message has a trigger word after folding. -/
def NamesAutomation (message : RawText) : Prop :=
  message.fold.HoldsAny (automationTriggers.map .ofString)

theorem beginsWith_iff {word : List Char} {text : List Point} :
    beginsWith word text ↔ ∃ piece, Spells word piece ∧ piece <+: text := by
  induction word generalizing text with
  | nil => exact ⟨fun _ => ⟨[], .nil, List.nil_prefix⟩, fun _ => by simp [beginsWith]⟩
  | cons letter word ih =>
    cases text with
    | nil =>
      refine ⟨by simp [beginsWith], ?_⟩
      rintro ⟨piece, hspells, hprefix⟩
      obtain rfl := List.prefix_nil.mp hprefix
      cases hspells
    | cons c text =>
      simp only [beginsWith, Bool.and_eq_true, ih]
      constructor
      · rintro ⟨hletter, piece, hspells, hprefix⟩
        exact ⟨c :: piece, .cons hletter hspells, List.cons_prefix_cons.mpr ⟨rfl, hprefix⟩⟩
      · rintro ⟨_, hspells, hprefix⟩
        cases hspells with
        | cons hletter hspells =>
          obtain ⟨rfl, hrest⟩ := List.cons_prefix_cons.mp hprefix
          exact ⟨hletter, _, hspells, hrest⟩

theorem phraseAt?_eq_none_iff {text : List Point} :
    phraseAt? automationTriggers text = none ↔ ¬IsTriggered text := by
  simp [phraseAt?, IsTriggered, beginsWith_iff]

theorem not_isTriggered_nil : ¬IsTriggered [] :=
  phraseAt?_eq_none_iff.mp rfl

/-- What is taken of a line stops at its end or at the count. -/
theorem exists_rest_of_take_takeWhile (text : List Point) (count : Nat) :
    ∃ rest, text = (text.takeWhile (· ≠ .char '\n')).take count ++ rest ∧
      (((text.takeWhile (· ≠ .char '\n')).take count).length = count ∨
        ∀ point ∈ rest.head?, point = .char '\n') := by
  refine ⟨(text.takeWhile (· ≠ .char '\n')).drop count ++ text.dropWhile (· ≠ .char '\n'), ?_, ?_⟩
  · rw [← List.append_assoc, List.take_append_drop, List.takeWhile_append_dropWhile]
  · by_cases h : count ≤ (text.takeWhile (· ≠ .char '\n')).length
    · exact .inl (List.length_take_of_le h)
    · refine .inr fun point hpoint => ?_
      rw [List.drop_of_length_le (by omega), List.nil_append,
        ← List.find?_not_eq_head?_dropWhile] at hpoint
      simpa using List.find?_some hpoint

theorem opens_of_phraseAt? {text phrase : List Point}
    (h : phraseAt? automationTriggers text = some phrase) : Opens text phrase := by
  obtain ⟨trigger, hfind, rfl⟩ := Option.map_eq_some_iff.mp h
  have hbegins : beginsWith trigger.toList text := by simpa using List.find?_some hfind
  obtain ⟨word, hspells, hprefix⟩ := beginsWith_iff.mp hbegins
  have hword : text.take trigger.length = word := by
    rw [← String.length_toList, hspells.length_eq]
    exact (List.prefix_iff_eq_take.mp hprefix).symm
  obtain ⟨rest, hrest, hend⟩ := exists_rest_of_take_takeWhile (text.drop trigger.length) 100
  refine ⟨trigger, List.mem_of_find?_eq_some hfind, word, _, rest, ?_, by rw [hword], hspells, ?_,
    List.length_take_le .., hend⟩
  · rw [List.append_assoc, ← hrest, ← hword, List.take_append_drop]
  · intro hm
    simpa using List.mem_takeWhile_imp (List.mem_of_mem_take hm)

theorem isFirstPhrase_of_firstPhrase? {text phrase : List Point}
    (h : firstPhrase? automationTriggers text = some phrase) : IsFirstPhrase text phrase := by
  induction text with
  | nil => cases h
  | cons c text ih =>
    rcases Option.or_eq_some_iff.mp h with hhere | ⟨hnone, hlater⟩
    · exact ⟨[], c :: text, rfl, opens_of_phraseAt? hhere, fun _ _ _ _ => Nat.zero_le _⟩
    · obtain ⟨before, rest, he, hopens, hfirst⟩ := ih hlater
      refine ⟨c :: before, rest, congrArg (c :: ·) he, hopens, ?_⟩
      intro earlier later hsplit htriggered
      cases earlier with
      | nil =>
        rw [List.nil_append] at hsplit
        exact absurd (hsplit ▸ htriggered) (phraseAt?_eq_none_iff.mp hnone)
      | cons d earlier =>
        exact Nat.succ_le_succ (hfirst earlier later (List.cons.inj hsplit).2 htriggered)

theorem firstPhrase?_eq_none_iff {text : List Point} :
    firstPhrase? automationTriggers text = none ↔ ∀ later, later <:+ text → ¬IsTriggered later := by
  induction text with
  | nil => simpa [firstPhrase?] using not_isTriggered_nil
  | cons c text ih =>
    simp only [firstPhrase?, Option.or_eq_none_iff, phraseAt?_eq_none_iff, ih, List.suffix_cons_iff,
      forall_eq_or_imp]

/-- Nothing that folding expands has a part in a trigger word, and no other character than the two
cases of a letter folds to it. -/
theorem automationTriggers_plain : ∀ trigger ∈ automationTriggers,
    trigger.toList.head?.any Text.startsAlone ∧ Text.isUnmixed trigger.toList ∧
      trigger.toList.all Text.foldsFromAscii := by
  decide +kernel

theorem spells_of_foldsTo {word piece : List Char} (h : FoldsTo word piece)
    (plain : word.all Text.foldsFromAscii) : Spells word (piece.map .char) := by
  induction h with
  | nil => exact .nil
  | cons hfold _ ih =>
    obtain ⟨hletter, hword⟩ := Bool.and_eq_true_iff.mp plain
    refine .cons ?_ (ih hword)
    simp [equalLetter, Text.toLower_of_foldChar hfold hletter]

/-- A message that has a trigger word after folding has one before it. -/
theorem NamesAutomation.exists_isTriggered {message : RawText} (names : NamesAutomation message) :
    ∃ later, later <:+ message.points ∧ IsTriggered later := by
  obtain ⟨_, hkeyword, hholds⟩ := names
  obtain ⟨trigger, hm, rfl⟩ := List.mem_map.mp hkeyword
  obtain ⟨chars, hchars, hword⟩ := Text.exists_chars_of_infix_foldPoint hholds
  obtain ⟨hhead, unmixed, plain⟩ := automationTriggers_plain trigger hm
  obtain ⟨letter, hletter, alone⟩ := (Option.any_eq_true ..).mp hhead
  obtain ⟨rest, htrigger⟩ := List.head?_eq_some_iff.mp hletter
  rw [htrigger] at hword unmixed
  obtain ⟨piece, hpiece, hfolds⟩ := Text.exists_foldsTo_of_infix alone unmixed hword
  have hplace : piece.map .char <:+: message.points := (hpiece.map Point.char).trans hchars
  obtain ⟨later, hprefix, hsuffix⟩ := List.infix_iff_prefix_suffix.mp hplace
  exact ⟨later, hsuffix, trigger, hm, _, spells_of_foldsTo (htrigger ▸ hfolds) plain, hprefix⟩

/-- There is a phrase exactly if the folded message has a trigger word. -/
theorem automationPhrase?_cases (message : RawText) :
    (NamesAutomation message ∧ ∃ phrase, automationPhrase? message = some phrase ∧
        IsFirstPhrase message.points phrase.points) ∨
      (¬NamesAutomation message ∧ automationPhrase? message = none) := by
  unfold automationPhrase?
  by_cases h : NamesAutomation message
  · refine .inl ⟨h, ?_⟩
    rw [if_pos (RawText.mentionsAny_iff.mpr h)]
    cases hfound : firstPhrase? automationTriggers message.points with
    | none =>
      obtain ⟨later, hsuffix, htriggered⟩ := h.exists_isTriggered
      exact absurd htriggered (firstPhrase?_eq_none_iff.mp hfound later hsuffix)
    | some phrase => exact ⟨⟨phrase⟩, rfl, isFirstPhrase_of_firstPhrase? hfound⟩
  · exact .inr ⟨h, if_neg (mt RawText.mentionsAny_iff.mp h)⟩

theorem mem_drafts_iff {message : RawText} {draft : Draft} :
    draft ∈ drafts message ↔
      (∃ phrase, automationPhrase? message = some phrase ∧ Draft.automation phrase = draft) ∨
        ∃ keyword ∈ integrationTriggers, message.fold.Holds keyword ∧
          Draft.integration message keyword = draft := by
  simp [drafts, RawText.mentions_iff, and_assoc]

namespace Draft

/-- No half stands alone in the answer. -/
def IsWhole (draft : Draft) : Prop :=
  draft.answer.text?.isSome

instance (draft : Draft) : Decidable draft.IsWhole :=
  inferInstanceAs (Decidable (_ = true))

/-- The requirement that a draft states if it is whole. -/
def stated (draft : Draft) (id : String) : Requirement :=
  ofDetails id draft.category draft.answer.shown draft.details

/-- What all drafts of a message have: a point that is not blank in the answer, and a share as the
confidence. -/
structure IsSound (draft : Draft) : Prop where
  spoken : ¬draft.answer.allBlank
  confidence : draft.details.confidence.atLeast 0 ∧ draft.details.confidence.atMost 1

theorem isWhole_iff {draft : Draft} : draft.IsWhole ↔ ∃ text, draft.answer = .ofString text := by
  simp [IsWhole, Option.isSome_iff_exists, RawText.text?_eq_some_iff]

theorem on_make {draft : Draft} (sound : draft.IsSound) (ids : Ids) :
    draft.make.on ids
      = (if draft.IsWhole then .ok (draft.stated ids.fresh.1) else .error (.invalid 1),
        ids.fresh.2) := by
  have hanswer : draft.answer ≠ .ofString "" := by
    intro he
    exact sound.spoken (by rw [he]; rfl)
  have hidentify := @ofJson_recordOf _ draft.category _ _ ids.fresh_ne_empty hanswer
    sound.confidence
  change ((ofJson (recordOf ids.fresh.1 draft.category draft.answer draft.details)).outcome, _) = _
  rw [hidentify]
  by_cases whole : draft.IsWhole
  · obtain ⟨text, htext⟩ := isWhole_iff.mp whole
    rw [if_pos whole, stated, htext, RawText.text?_ofString, RawText.shown_ofString]
    rfl
  · have hnone : draft.answer.text? = none := by simpa [IsWhole] using whole
    rw [if_neg whole, hnone]
    rfl

/-- Drafts take the ids that follow, in order; the first of them that is not whole ends the work,
and its id is gone as well. -/
theorem on_mapM_make {drafts : List Draft} (sound : ∀ draft ∈ drafts, draft.IsSound) (ids : Ids) :
    (drafts.mapM make).on ids = match drafts.findIdx? fun draft => ¬draft.IsWhole with
      | none => (.ok (drafts.mapIdx fun i draft => draft.stated (Ids.mk (ids.used + i)).fresh.1),
        ⟨ids.used + drafts.length⟩)
      | some index => (.error (.invalid 1), ⟨ids.used + (index + 1)⟩) := by
  induction drafts generalizing ids with
  | nil => rfl
  | cons draft rest ih =>
    obtain ⟨hdraft, hrest⟩ := List.forall_mem_cons.mp sound
    rw [List.mapM_cons, Work.on_bind, on_make hdraft, List.findIdx?_cons]
    by_cases whole : draft.IsWhole
    · have htail := ih hrest ids.fresh.2
      have hplace : ∀ i, Ids.mk (ids.fresh.2.used + i) = Ids.mk (ids.used + (i + 1)) := by
        intro i
        simp only [Ids.fresh, Ids.mk.injEq]
        omega
      simp only [whole, if_true, not_true_eq_false, decide_false, Work.on_bind, htail, hplace]
      cases rest.findIdx? fun draft => ¬draft.IsWhole with
      | none => simp [List.mapIdx_cons, Work.on_pure]
      | some index => rfl
    · simp only [whole, if_false, not_false_eq_true, decide_true, if_true]
      rfl

end Draft

theorem allBlank_eq_false_of_mem {raw : RawText} {c : Char} (hm : .char c ∈ raw.points)
    (h : ¬Text.isBlank c) : ¬raw.allBlank := by
  simp only [RawText.allBlank, List.all_eq_true, not_forall]
  exact ⟨_, hm, h⟩

theorem IsFirstPhrase.spoken {message : List Point} {phrase : RawText}
    (h : IsFirstPhrase message phrase.points) : ¬phrase.allBlank := by
  obtain ⟨_, _, -, ⟨trigger, hm, word, more, _, -, hphrase, hspells, -⟩, -⟩ := h
  have hfirst : ∀ trigger ∈ automationTriggers, trigger.toList.head? = some 'a' := by decide
  obtain ⟨rest, hword⟩ := List.head?_eq_some_iff.mp (hfirst trigger hm)
  rw [hword] at hspells
  cases hspells with
  | @cons _ point _ _ hletter _ =>
    cases point with
    | half half => cases hletter
    | char c =>
      refine allBlank_eq_false_of_mem (c := c) (by simp [hphrase]) fun hblank => ?_
      have ha : c = 'a' := by simpa [equalLetter, Text.toLower_of_isBlank hblank] using hletter
      exact absurd (ha ▸ hblank) (by decide)

theorem spoken_of_holds {message : RawText} {keyword : String}
    (hm : keyword ∈ integrationTriggers) (h : message.fold.Holds keyword) : ¬message.allBlank := by
  have hkeywords : ∀ keyword ∈ integrationTriggers,
      keyword.toList.any fun c => ¬Text.isBlank c := by
    decide
  obtain ⟨d, hd, hblank⟩ : ∃ d ∈ keyword.toList, ¬Text.isBlank d := by
    simpa using hkeywords keyword hm
  have hfolded : Point.char d ∈ message.points.flatMap Text.foldPoint :=
    h.subset (List.mem_map_of_mem hd)
  obtain ⟨point, hpoint, hd⟩ := List.mem_flatMap.mp hfolded
  cases point with
  | half half => simp [Text.foldPoint] at hd
  | char c =>
    refine allBlank_eq_false_of_mem hpoint fun hb => hblank ?_
    obtain ⟨_, himage, he⟩ := List.mem_map.mp hd
    rw [Text.foldChar_of_isBlank hb, List.mem_singleton] at himage
    exact Point.char.inj he ▸ himage ▸ hb

/-- What a message states by itself says something. -/
theorem isSound_of_mem_drafts {message : RawText} {draft : Draft} (hm : draft ∈ drafts message) :
    draft.IsSound := by
  have hshares : ∀ x ∈ [Binary64.ofDecimal false 8 (-1), .ofDecimal false 7 (-1)],
      x.atLeast 0 ∧ x.atMost 1 := by
    decide +kernel
  rcases mem_drafts_iff.mp hm with ⟨phrase, hphrase, rfl⟩ | ⟨keyword, hkeyword, hholds, rfl⟩
  · refine ⟨?_, hshares _ (by simp [Draft.automation])⟩
    rcases automationPhrase?_cases message with ⟨-, other, hother, hfirst⟩ | ⟨-, hnone⟩
    · obtain rfl := Option.some.inj (hother.symm.trans hphrase)
      exact hfirst.spoken
    · exact nomatch hnone.symm.trans hphrase
  · exact ⟨spoken_of_holds hkeyword hholds, hshares _ (by simp [Draft.integration])⟩

/-- The requirements that a message states, if it states whole answers only. -/
def stated (message : RawText) (ids : Ids) : List Requirement :=
  (drafts message).mapIdx fun i draft => draft.stated (Ids.mk (ids.used + i)).fresh.1

/-- A message can be extracted from unless what it states has an answer in which a half stands
alone. -/
theorem on_extract (message : RawText) (ids : Ids) :
    (extract message).on ids = match (drafts message).findIdx? fun draft => ¬draft.IsWhole with
      | none => (.ok (stated message ids), ⟨ids.used + (drafts message).length⟩)
      | some index => (.error (.invalid 1), ⟨ids.used + (index + 1)⟩) :=
  Draft.on_mapM_make (fun _ hm => isSound_of_mem_drafts hm) ids

theorem IsFirstPhrase.exists_ofString {text : String} {phrase : RawText}
    (h : IsFirstPhrase (RawText.ofString text).points phrase.points) :
    ∃ piece, phrase = .ofString piece := by
  obtain ⟨before, rest, htext, ⟨_, _, word, more, later, rfl, hphrase, -⟩, -⟩ := h
  have hinfix : phrase.points <:+: (RawText.ofString text).points := by
    rw [htext, hphrase]
    exact (List.prefix_append _ _).isInfix.trans (List.suffix_append _ _).isInfix
  obtain ⟨piece, -, hpiece⟩ := List.infix_map_iff.mp hinfix
  refine ⟨String.ofList piece, ?_⟩
  rw [RawText.ofString, String.toList_ofList, ← hpiece]

/-- No half stands alone in the answers that the message states. -/
def IsExtractable (message : RawText) : Prop :=
  ∀ draft ∈ drafts message, draft.IsWhole

instance (message : RawText) : Decidable (IsExtractable message) :=
  inferInstanceAs (Decidable (∀ draft ∈ drafts message, draft.IsWhole))

/-- All that a text of characters states is whole. -/
theorem isExtractable_ofString (text : String) : IsExtractable (.ofString text) := by
  intro draft hm
  rw [Draft.isWhole_iff]
  rcases mem_drafts_iff.mp hm with ⟨phrase, hphrase, rfl⟩ | ⟨keyword, -, -, rfl⟩
  · rcases automationPhrase?_cases (.ofString text) with ⟨-, other, hother, hfirst⟩ | ⟨-, hnone⟩
    · obtain rfl := Option.some.inj (hother.symm.trans hphrase)
      exact hfirst.exists_ofString
    · exact nomatch hnone.symm.trans hphrase
  · exact ⟨text, rfl⟩

theorem isExtractable_iff {message : RawText} :
    IsExtractable message ↔ (drafts message).findIdx? (fun draft => ¬draft.IsWhole) = none := by
  simp [IsExtractable, List.findIdx?_eq_none_iff]

theorem on_extract_of_isExtractable {message : RawText} (whole : IsExtractable message)
    (ids : Ids) :
    (extract message).on ids
      = (.ok (stated message ids), ⟨ids.used + (drafts message).length⟩) := by
  rw [on_extract, isExtractable_iff.mp whole]

theorem on_extract_eq_ok_iff {message : RawText} {ids after : Ids}
    {requirements : List Requirement} :
    (extract message).on ids = (.ok requirements, after) ↔
      IsExtractable message ∧ requirements = stated message ids ∧
        after = ⟨ids.used + (drafts message).length⟩ := by
  rw [isExtractable_iff, on_extract]
  cases (drafts message).findIdx? fun draft => ¬draft.IsWhole <;> simp [eq_comm]

theorem on_extract_eq_error_iff {message : RawText} {ids after : Ids} {fault : Fault} :
    (extract message).on ids = (.error fault, after) ↔
      fault = .invalid 1 ∧ ∃ index,
        (drafts message).findIdx? (fun draft => ¬draft.IsWhole) = some index ∧
          after = ⟨ids.used + (index + 1)⟩ := by
  rw [on_extract]
  cases (drafts message).findIdx? fun draft => ¬draft.IsWhole <;> simp [eq_comm]

theorem on_extract_of_not_isExtractable {message : RawText} (torn : ¬IsExtractable message)
    (ids : Ids) : ∃ after, (extract message).on ids = (.error (.invalid 1), after) := by
  rw [on_extract]
  cases hfirst : (drafts message).findIdx? fun draft => ¬draft.IsWhole with
  | none => exact absurd (isExtractable_iff.mpr hfirst) torn
  | some index => exact ⟨_, rfl⟩

theorem mem_stated {message : RawText} {ids : Ids} {requirement : Requirement}
    (hm : requirement ∈ stated message ids) :
    ∃ draft ∈ drafts message, ∃ left : Ids, requirement = draft.stated left.fresh.1 := by
  obtain ⟨i, hi, rfl⟩ := List.mem_mapIdx.mp hm
  exact ⟨_, List.getElem_mem hi, _, rfl⟩

theorem map_id_stated (message : RawText) (ids : Ids) :
    (stated message ids).map (·.id)
      = (List.range (drafts message).length).map fun i => (Ids.mk (ids.used + i)).fresh.1 := by
  refine List.ext_getElem (by simp [stated]) fun i _ _ => ?_
  simp [stated, Draft.stated, ofDetails]

theorem map_answer_stated (message : RawText) (ids : Ids) :
    (stated message ids).map (fun requirement => (requirement.category, requirement.answer))
      = (drafts message).map fun draft => (draft.category, draft.answer.shown) := by
  refine List.ext_getElem (by simp [stated]) fun i _ _ => ?_
  simp [stated, Draft.stated, ofDetails]

/-- A message states at most one phrase about an automation, and it states one exactly if it has a
trigger word after folding. The requirement of that phrase comes first, then one for each keyword of
an integration that the folded message holds; their ids are the ones that follow. Only a half of a
character that stands alone in an answer stops this, which no message of characters has. -/
theorem extract_finds (message : RawText) (ids : Ids) :
    ∃ phrases : List RawText,
      (NamesAutomation message ∧
          (∃ phrase, phrases = [phrase] ∧ IsFirstPhrase message.points phrase.points) ∨
        ¬NamesAutomation message ∧ phrases = []) ∧
      let keywords := integrationTriggers.filter fun (keyword : String) =>
        message.fold.Holds keyword
      let found := phrases.map Draft.automation ++ keywords.map (Draft.integration message)
      (extract message).on ids = (match found.findIdx? fun draft => ¬draft.IsWhole with
        | none => (.ok (found.mapIdx fun i draft => draft.stated (Ids.mk (ids.used + i)).fresh.1),
          ⟨ids.used + found.length⟩)
        | some index => (.error (.invalid 1), ⟨ids.used + (index + 1)⟩)) ∧
      (∀ requirements, ((extract message).on ids).1 = .ok requirements →
        requirements.map (·.id)
          = (List.range found.length).map (fun i => (Ids.mk (ids.used + i)).fresh.1) ∧
        requirements.map (fun requirement => (requirement.category, requirement.answer))
          = phrases.map (fun phrase => (Category.businessProcess, phrase.shown))
            ++ keywords.map (fun _ => (Category.integrations, message.shown)) ∧
        ∀ draft ∈ found, draft.answer = .ofString draft.answer.shown) ∧
      (message.text?.isSome → ((extract message).on ids).1.isOk) := by
  have hdrafts : (automationPhrase? message).toList.map Draft.automation
      ++ (integrationTriggers.filter fun (keyword : String) => message.fold.Holds keyword).map
        (Draft.integration message) = drafts message := by
    simp only [drafts, ← RawText.mentions_iff, Bool.decide_eq_true]
  refine ⟨(automationPhrase? message).toList, ?_, ?_⟩
  · rcases automationPhrase?_cases message with ⟨h, phrase, hphrase, hfirst⟩ | ⟨h, hnone⟩
    · exact .inl ⟨h, phrase, by rw [hphrase]; rfl, hfirst⟩
    · exact .inr ⟨h, by rw [hnone]; rfl⟩
  · intro keywords found
    rw [show found = drafts message from hdrafts]
    refine ⟨on_extract message ids, fun requirements hgives => ?_, fun whole => ?_⟩
    · obtain ⟨whole, rfl, -⟩ := on_extract_eq_ok_iff.mp (Prod.ext hgives rfl)
      refine ⟨map_id_stated message ids, (map_answer_stated message ids).trans ?_, ?_⟩
      · rw [← hdrafts, List.map_append, List.map_map, List.map_map]
        rfl
      · intro draft hm
        obtain ⟨text, htext⟩ := Draft.isWhole_iff.mp (whole draft hm)
        rw [htext, RawText.shown_ofString]
    · obtain ⟨text, htext⟩ := Option.isSome_iff_exists.mp whole
      rw [RawText.text?_eq_some_iff.mp htext,
        on_extract_of_isExtractable (isExtractable_ofString text)]
      rfl

/-- A half that stands alone in a message does not hide the keyword before it, and refuses the
requirement that the keyword states. -/
theorem extract_torn :
    let message : RawText := ⟨(RawText.ofString "connect ").points ++ [.half 0]⟩
    message.fold.Holds "connect" ∧ (extract message).on ⟨0⟩ = (.error (.invalid 1), ⟨1⟩) := by
  intro message
  have hfirst : (drafts message).findIdx? (fun draft => ¬draft.IsWhole) = some 0 := by
    decide +kernel
  refine ⟨by decide +kernel, ?_⟩
  rw [on_extract, hfirst]

end Flowplan.Requirement
