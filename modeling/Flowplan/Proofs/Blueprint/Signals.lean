import Flowplan.Proofs.Graph.Selection
import Flowplan.Proofs.Text.Joining
import Mathlib.Data.List.Find

namespace Flowplan

section Table

variable {α β γ : Type} [DecidableEq β] {label : α → β} {table : List α}

/-- The labels of what any of several tests selects from a table. -/
theorem labels_filter_exists (distinct : (table.map label).Nodup) (texts : List γ)
    (test : γ → α → Bool) :
    (table.filter fun a => ∃ text ∈ texts, test text a).map label
      = (table.map label).filter fun l =>
        ∃ text ∈ texts, l ∈ (table.filter (test text)).map label := by
  rw [List.filter_map]
  refine congrArg (List.map label) (List.filter_congr fun a ha => ?_)
  have hselected : ∀ text, label a ∈ (table.filter (test text)).map label ↔ test text a := by
    intro text
    constructor
    · intro hm
      obtain ⟨other, hother, he⟩ := List.mem_map.mp hm
      obtain ⟨ho, htest⟩ := List.mem_filter.mp hother
      rwa [List.inj_on_of_nodup_map distinct ho ha he] at htest
    · exact fun htest => List.mem_map_of_mem (List.mem_filter.mpr ⟨ha, htest⟩)
  simp only [Function.comp_apply, hselected]

/-- The first entry that any of several tests selects from a table is the first of those that they
select one by one. -/
theorem label_find?_exists (distinct : (table.map label).Nodup) (texts : List γ)
    (test : γ → α → Bool) :
    (table.find? fun a => ∃ text ∈ texts, test text a).map label
      = (table.map label).find? fun l =>
        ∃ text ∈ texts, (table.find? (test text)).map label = some l := by
  induction table with
  | nil => rfl
  | cons a rest ih =>
    obtain ⟨ha, hrest⟩ := List.nodup_cons.mp distinct
    by_cases h : ∃ text ∈ texts, test text a
    · obtain ⟨text, hm, htest⟩ := h
      rw [List.find?_cons_of_pos (by simpa using ⟨text, hm, htest⟩), List.map_cons,
        List.find?_cons_of_pos (by simpa using ⟨text, hm, by simp [htest]⟩)]
      rfl
    · have hskip : ∀ text ∈ texts, (a :: rest).find? (test text) = rest.find? (test text) :=
        fun text hm => List.find?_cons_of_neg fun htest => h ⟨text, hm, htest⟩
      -- The labels are all different, so no later entry has the label of the first one.
      have hlabel :
          ¬∃ text ∈ texts, ((a :: rest).find? (test text)).map label = some (label a) := by
        rintro ⟨text, hm, he⟩
        rw [hskip text hm] at he
        obtain ⟨b, hb, he⟩ := Option.map_eq_some_iff.mp he
        exact ha (he ▸ List.mem_map_of_mem (List.mem_of_find?_eq_some hb))
      rw [List.find?_cons_of_neg (by simpa using h), ih hrest, List.map_cons,
        List.find?_cons_of_neg (by simpa using hlabel)]
      congr 1
      funext l
      refine decide_eq_decide.mpr (exists_congr fun text => and_congr_right fun hm => ?_)
      rw [hskip text hm]

end Table

namespace Requirement

/-- The answer as it stands in the combined text. -/
def foldedAnswer (requirement : Requirement) : String :=
  Text.fold requirement.answer

theorem combinedText_eq (requirements : List Requirement) :
    combinedText requirements = " ".intercalate (requirements.map foldedAnswer) := rfl

end Requirement

/-- What a text signals by keywords without blanks. -/
structure Signals where
  integrations : List String
  needsAi : Bool
  needsStorage : Bool
  needsCompliance : Bool
  criticalFactors : List String
  services : List String
  trigger : Trigger
  deriving DecidableEq

namespace Signals

def ofText (text : String) : Signals where
  integrations := Signal.integrations text
  needsAi := Signal.needsAi text
  needsStorage := Signal.needsStorage text
  needsCompliance := Signal.needsCompliance text
  criticalFactors := Signal.criticalFactors text
  services := Design.mentionedServices text
  trigger := Trigger.ofText text

/-- What some of the parts signal, in the order of the tables; of their triggers the one that is
tried first. -/
def union (parts : List Signals) : Signals where
  integrations := Signal.integrationKeywords.filter fun keyword =>
    ∃ part ∈ parts, keyword ∈ part.integrations
  needsAi := ∃ part ∈ parts, part.needsAi
  needsStorage := ∃ part ∈ parts, part.needsStorage
  needsCompliance := ∃ part ∈ parts, part.needsCompliance
  criticalFactors := (Signal.criticalFactorRules.map (·.1)).filter fun factor =>
    ∃ part ∈ parts, factor ∈ part.criticalFactors
  services := (Design.knownServices.map (·.2)).filter fun service =>
    ∃ part ∈ parts, service ∈ part.services
  trigger := ((Trigger.rules.map (·.1)).find? fun trigger =>
    ∃ part ∈ parts, part.trigger = trigger).getD .manual

theorem union_congr {parts others : List Signals} (h : ∀ part, part ∈ others ↔ part ∈ parts) :
    union others = union parts := by
  simp only [union, h]

/-- The keywords that these signals are read off. -/
def keywords : List String :=
  "ai" :: (Signal.integrationKeywords ++ Signal.aiKeywords ++ Signal.storageKeywords
    ++ Signal.complianceKeywords ++ Signal.criticalFactorRules.flatMap (·.2)
    ++ Design.knownServices.map (·.1) ++ Trigger.rules.flatMap (·.2))

theorem unbroken_keywords : ∀ keyword ∈ keywords, Text.Unbroken keyword := by
  decide

section Joined

variable (texts : List String)

theorem mentions_joined {keyword : String} (unbroken : Text.Unbroken keyword) :
    Text.mentions (" ".intercalate texts) keyword
      = decide (∃ text ∈ texts, Text.mentions text keyword) := by
  rw [Bool.eq_iff_iff, decide_eq_true_iff]
  simp only [Text.mentions_iff, Text.holds_joined_iff unbroken]

theorem mentionsAny_joined {keywords : List String}
    (unbroken : ∀ keyword ∈ keywords, Text.Unbroken keyword) :
    Text.mentionsAny (" ".intercalate texts) keywords
      = decide (∃ text ∈ texts, Text.mentionsAny text keywords) := by
  rw [Bool.eq_iff_iff, decide_eq_true_iff]
  simp only [Text.mentionsAny_iff, Text.holdsAny_joined_iff unbroken]

theorem integrations_joined :
    Signal.integrations (" ".intercalate texts) = Signal.integrationKeywords.filter fun keyword =>
      ∃ text ∈ texts, keyword ∈ Signal.integrations text := by
  refine List.filter_congr fun keyword hm => ?_
  have unbroken := unbroken_keywords keyword (by simp [keywords, hm])
  rw [mentions_joined texts unbroken]
  simp [Signal.integrations, hm]

theorem needsAi_joined :
    Signal.needsAi (" ".intercalate texts) = decide (∃ text ∈ texts, Signal.needsAi text) := by
  have unbroken : ∀ keyword ∈ Signal.aiKeywords, Text.Unbroken keyword :=
    fun keyword hm => unbroken_keywords keyword (by simp [keywords, hm])
  have hword : Text.Unbroken "ai" := unbroken_keywords "ai" List.mem_cons_self
  rw [Bool.eq_iff_iff, decide_eq_true_iff]
  simp only [Signal.needsAi_iff, Signal.AsksForAi, Text.holdsWord_joined_iff hword,
    Text.holdsAny_joined_iff unbroken, and_or_left, exists_or]

theorem needsStorage_joined :
    Signal.needsStorage (" ".intercalate texts)
      = decide (∃ text ∈ texts, Signal.needsStorage text) :=
  mentionsAny_joined texts fun keyword hm => unbroken_keywords keyword (by simp [keywords, hm])

theorem needsCompliance_joined :
    Signal.needsCompliance (" ".intercalate texts)
      = decide (∃ text ∈ texts, Signal.needsCompliance text) :=
  mentionsAny_joined texts fun keyword hm => unbroken_keywords keyword (by simp [keywords, hm])

theorem criticalFactors_joined :
    Signal.criticalFactors (" ".intercalate texts)
      = (Signal.criticalFactorRules.map (·.1)).filter fun factor =>
        ∃ text ∈ texts, factor ∈ Signal.criticalFactors text := by
  refine Eq.trans ?_ (labels_filter_exists (by decide) texts
    fun text (rule : String × List String) => Text.mentionsAny text rule.2)
  refine congrArg (List.map _) (List.filter_congr fun rule hrule => ?_)
  refine mentionsAny_joined texts fun keyword hm => unbroken_keywords keyword ?_
  have hkeyword := List.mem_flatMap_of_mem hrule hm
  simp [keywords, hkeyword]

theorem services_joined :
    Design.mentionedServices (" ".intercalate texts)
      = (Design.knownServices.map (·.2)).filter fun service =>
        ∃ text ∈ texts, service ∈ Design.mentionedServices text := by
  refine Eq.trans ?_ (labels_filter_exists (by decide) texts
    fun text (entry : String × String) => Text.mentions text entry.1)
  refine congrArg (List.map _) (List.filter_congr fun entry hm => ?_)
  refine mentions_joined texts (unbroken_keywords entry.1 ?_)
  have hkeyword := List.mem_map_of_mem (f := (·.1)) hm
  simp [keywords, hkeyword]

theorem trigger_joined :
    Trigger.ofText (" ".intercalate texts) = ((Trigger.rules.map (·.1)).find? fun trigger =>
      ∃ text ∈ texts, Trigger.ofText text = trigger).getD .manual := by
  have hchoice : Signal.firstChoice? Trigger.rules (" ".intercalate texts)
      = (Trigger.rules.map (·.1)).find? fun trigger =>
        ∃ text ∈ texts, Signal.firstChoice? Trigger.rules text = some trigger := by
    refine Eq.trans ?_ (label_find?_exists (by decide) texts
      fun text (rule : Trigger × List String) => Text.mentionsAny text rule.2)
    refine congrArg (Option.map _) (List.find?_congr fun rule hrule => ?_)
    refine mentionsAny_joined texts fun keyword hm => unbroken_keywords keyword ?_
    have hkeyword := List.mem_flatMap_of_mem hrule hm
    simp [keywords, hkeyword]
  -- No rule calls for the trigger that stands in if no rule applies.
  have hdefault : ∀ trigger ∈ Trigger.rules.map (·.1), ∀ text,
      Trigger.ofText text = trigger ↔ Signal.firstChoice? Trigger.rules text = some trigger := by
    intro trigger hm text
    have hne : Trigger.manual ≠ trigger := by
      rintro rfl
      exact absurd hm (by decide)
    rw [Trigger.ofText]
    cases Signal.firstChoice? Trigger.rules text <;> simp [hne]
  rw [Trigger.ofText, hchoice]
  congr 1
  refine List.find?_congr fun trigger hm => ?_
  simp only [hdefault trigger hm]

/-- The signals of joined texts are those of each of them, put together. -/
theorem ofText_joined : ofText (" ".intercalate texts) = union (texts.map ofText) := by
  simp only [union, List.mem_map, exists_exists_and_eq_and, ofText, integrations_joined,
    needsAi_joined, needsStorage_joined, needsCompliance_joined, criticalFactors_joined,
    services_joined, trigger_joined]

end Joined

/-- What the answers signal together is what each of them signals on its own, put together; so it
depends neither on their order nor on how often they are given. No keyword stands across the border
of two answers. -/
theorem ofText_combinedText (requirements : List Requirement) :
    let text := Requirement.combinedText requirements
    ofText text = union (requirements.map fun requirement => ofText requirement.foldedAnswer) ∧
    (∀ others : List Requirement,
      (∀ requirement, requirement ∈ others ↔ requirement ∈ requirements) →
        ofText (Requirement.combinedText others) = ofText text) ∧
    ∀ keyword ∈ keywords, ∀ before after, text.toList = before ++ keyword.toList ++ after →
      Text.InsideOne (requirements.map (·.foldedAnswer)) before keyword.toList after := by
  intro text
  have hunion : ∀ requirements : List Requirement, ofText (Requirement.combinedText requirements)
      = union (requirements.map fun requirement => ofText requirement.foldedAnswer) := by
    intro requirements
    rw [Requirement.combinedText_eq, ofText_joined, List.map_map]
    rfl
  refine ⟨hunion requirements, fun others same => ?_, fun keyword hm before after h => ?_⟩
  · rw [hunion, hunion]
    refine union_congr fun part => ?_
    simp only [List.mem_map, same]
  · obtain ⟨hne, hblank⟩ := unbroken_keywords keyword hm
    exact Text.insideOne_of_joined (by simpa using hne) hblank h

/-- Answers of which two have the letters of a keyword, but only one has the word. -/
def mixedAnswers : List Requirement :=
  ["Maintain the lists", "Score with AI", "Charge by Stripe"].map fun answer =>
    ⟨"", .businessProcess, "", answer, .medium, .finite 0, false, []⟩

theorem ofText_combinedText_mixedAnswers :
    let text := Requirement.combinedText mixedAnswers
    let others := mixedAnswers.reverse ++ mixedAnswers
    ((∀ requirement, requirement ∈ others ↔ requirement ∈ mixedAnswers) ∧
      ofText (Requirement.combinedText others) = ofText text) ∧
    ("ai" ∈ keywords ∧
      text.toList = "maintain the lists score with ".toList ++ "ai".toList
        ++ " charge by stripe".toList) ∧
    Text.InsideOne (mixedAnswers.map (·.foldedAnswer)) "maintain the lists score with ".toList
      "ai".toList " charge by stripe".toList := by
  intro text others
  obtain ⟨-, hothers, hinside⟩ := ofText_combinedText mixedAnswers
  have same : ∀ requirement, requirement ∈ others ↔ requirement ∈ mixedAnswers := by simp [others]
  have hkeyword : "ai" ∈ keywords := List.mem_cons_self
  have htext : text.toList = "maintain the lists score with ".toList ++ "ai".toList
      ++ " charge by stripe".toList := by decide +kernel
  exact ⟨⟨same, hothers others same⟩, ⟨hkeyword, htext⟩, hinside "ai" hkeyword _ _ htext⟩

end Signals

end Flowplan
