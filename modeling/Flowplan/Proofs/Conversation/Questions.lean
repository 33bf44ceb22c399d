import Flowplan.Proofs.Conversation.Runs
import Flowplan.Proofs.Entries
import Mathlib.Data.List.Nodup

namespace Flowplan

namespace Conversation

open Requirement (Category)

/-- The categories of the requirements, one for each. -/
def categories (conversation : Conversation) : List Category :=
  conversation.requirements.map (·.category)

/-- The categories that the user is asked about, in the order of asking. -/
def askedCategories : List Category :=
  openingQuestions.map (·.1)

/-- The question that opens a category, if the user is asked about it. -/
def openingText? (category : Category) : Option String :=
  (openingQuestions.lookup category).map fun question => s!"{category.displayName}: {question}"

theorem critical_subset_asked : Category.critical ⊆ askedCategories := by
  decide

theorem openingText?_of_mem {entry : Category × String} (hm : entry ∈ openingQuestions) :
    openingText? entry.1 = some s!"{entry.1.displayName}: {entry.2}" := by
  have hlookup : ∀ entry ∈ openingQuestions, openingQuestions.lookup entry.1 = some entry.2 := by
    decide
  rw [openingText?, hlookup entry hm]
  rfl

theorem exists_entry_of_openingText? {category : Category} {text : String}
    (h : openingText? category = some text) :
    ∃ question, (category, question) ∈ openingQuestions := by
  obtain ⟨question, hlookup, -⟩ := Option.map_eq_some_iff.mp h
  exact ⟨question, mem_of_lookup_eq_some hlookup⟩

/-- No two categories are opened by one question. -/
theorem openingText?_injective {category other : Category} {text : String}
    (h : openingText? category = some text) (h' : openingText? other = some text) :
    category = other := by
  have hdistinct : (openingQuestions.map fun entry => openingText? entry.1).Nodup := by
    decide +kernel
  obtain ⟨question, hm⟩ := exists_entry_of_openingText? h
  obtain ⟨question', hm'⟩ := exists_entry_of_openingText? h'
  have hentry := List.inj_on_of_nodup_map hdistinct hm hm' (h.trans h'.symm)
  exact congrArg Prod.fst hentry

theorem covers_iff {conversation : Conversation} {category : Category} :
    conversation.covers category ↔ category ∈ conversation.categories := by
  simp [covers, categories]

theorem missingCategories_eq (conversation : Conversation) :
    conversation.missingCategories = askedCategories.filter (· ∉ conversation.categories) := by
  unfold missingCategories openQuestions askedCategories
  rw [List.filter_map]
  congr 1
  refine List.filter_congr fun entry _ => ?_
  simp [← covers_iff]

theorem nextQuestions_eq (conversation : Conversation) :
    conversation.nextQuestions.map some
      = (conversation.missingCategories.take 3).map openingText? := by
  unfold nextQuestions missingCategories
  rw [← List.map_take, ← List.map_take, List.map_map, List.map_map]
  refine List.map_congr_left fun entry hm => ?_
  exact (openingText?_of_mem (List.mem_of_mem_filter (List.mem_of_mem_take hm))).symm

theorem mem_missingCategories_iff {conversation : Conversation} {category : Category} :
    category ∈ conversation.missingCategories ↔
      category ∈ askedCategories ∧ category ∉ conversation.categories := by
  simp [missingCategories_eq]

/-- Every critical category is covered or asked about, and never both. -/
theorem completeness_eq (conversation : Conversation) :
    conversation.completeness
      = 1 - (Category.critical.countP (· ∈ conversation.missingCategories) : Rat) / 4 := by
  have hmissing : Category.critical.countP (· ∈ conversation.missingCategories)
      = Category.critical.countP fun category => !conversation.covers category := by
    refine List.countP_congr fun category hm => ?_
    simp [mem_missingCategories_iff, critical_subset_asked hm, ← covers_iff]
  have hsplit : 4 = Category.critical.countP conversation.covers
      + Category.critical.countP fun category => !conversation.covers category :=
    calc 4 = Category.critical.length := rfl
      _ = _ := by simpa using List.length_eq_countP_add_countP conversation.covers
  have hhits : conversation.completeness
      = (Category.critical.countP conversation.covers : Rat) / (4 : Nat) := by
    rw [List.countP_eq_length_filter]
    rfl
  have hsum : (4 : Rat) = (Category.critical.countP conversation.covers : Rat)
      + (Category.critical.countP fun category => !conversation.covers category : Nat) := by
    exact_mod_cast hsplit
  rw [hhits, hmissing]
  push_cast
  linarith

theorem same_of_categories {conversation other : Conversation}
    (same : ∀ category, category ∈ other.categories ↔ category ∈ conversation.categories) :
    other.completeness = conversation.completeness ∧
      other.missingCategories = conversation.missingCategories ∧
      other.nextQuestions = conversation.nextQuestions := by
  have hmissing : other.missingCategories = conversation.missingCategories := by
    simp only [missingCategories_eq, same]
  refine ⟨?_, hmissing, ?_⟩
  · rw [completeness_eq, completeness_eq, hmissing]
  · have hnext : other.nextQuestions.map some = conversation.nextQuestions.map some := by
      rw [nextQuestions_eq, nextQuestions_eq, hmissing]
    exact List.map_injective_iff.mpr (Option.some_injective _) hnext

theorem ExtendedBy.categories_subset {before after : Conversation} (h : before.ExtendedBy after) :
    before.categories ⊆ after.categories :=
  List.map_subset _ h.requirements.subset

theorem ExtendedBy.missing_sublist {before after : Conversation} (h : before.ExtendedBy after) :
    after.missingCategories.Sublist before.missingCategories := by
  rw [missingCategories_eq, missingCategories_eq]
  refine List.monotone_filter_right _ fun category hout => ?_
  simp only [decide_eq_true_eq] at hout ⊢
  exact fun hm => hout (h.categories_subset hm)

theorem ExtendedBy.completeness_le {before after : Conversation} (h : before.ExtendedBy after) :
    before.completeness ≤ after.completeness := by
  have hfewer : Category.critical.countP (· ∈ after.missingCategories)
      ≤ Category.critical.countP (· ∈ before.missingCategories) := by
    refine List.countP_mono_left fun category _ hm => ?_
    simp only [decide_eq_true_eq] at hm ⊢
    exact h.missing_sublist.subset hm
  have hcast : (Category.critical.countP (· ∈ after.missingCategories) : Rat)
      ≤ Category.critical.countP (· ∈ before.missingCategories) := by
    exact_mod_cast hfewer
  rw [completeness_eq, completeness_eq]
  linarith

theorem not_mem_nextQuestions {conversation : Conversation} {category : Category} {text : String}
    (covered : category ∈ conversation.categories) (h : openingText? category = some text) :
    text ∉ conversation.nextQuestions := by
  intro hm
  have hasked : some text ∈ (conversation.missingCategories.take 3).map openingText? := by
    rw [← nextQuestions_eq]
    exact List.mem_map_of_mem hm
  obtain ⟨other, hother, he⟩ := List.mem_map.mp hasked
  obtain rfl := openingText?_injective h he
  exact (mem_missingCategories_iff.mp (List.mem_of_mem_take hother)).2 covered

theorem four_fifths_lt_completeness_iff {conversation : Conversation} :
    4 / 5 < conversation.completeness ↔ Category.critical ⊆ conversation.categories :=
  decide_eq_true_iff.symm.trans (isComplete_iff conversation)

end Conversation

namespace Router

open Requirement (Category)
open Conversation (askedCategories openingText?)

/-- Wherever a run gets to, only the set of the categories counts. The completeness is what the
critical categories among the missing ones leave of the whole, and is above four fifths exactly if
all critical categories are covered. The missing categories come in the order of asking, and the
first three of them are asked about. From there on no category becomes missing again: the list of
them only shrinks, the completeness does not fall, and the question of a covered category is not
asked any more. -/
theorem run_settles_questions (router : Router) (session : Session)
    (operations more : List Operation) :
    let reached := (router.run session operations).conversation
    let later := (router.run session (operations ++ more)).conversation
    (∀ other : Conversation,
      (∀ category, category ∈ other.categories ↔ category ∈ reached.categories) →
        other.completeness = reached.completeness ∧
        other.missingCategories = reached.missingCategories ∧
        other.nextQuestions = reached.nextQuestions) ∧
    reached.completeness
      = 1 - (Category.critical.countP (· ∈ reached.missingCategories) : Rat) / 4 ∧
    (4 / 5 < reached.completeness ↔ Category.critical ⊆ reached.categories) ∧
    reached.missingCategories = askedCategories.filter (· ∉ reached.categories) ∧
    reached.nextQuestions.map some = (reached.missingCategories.take 3).map openingText? ∧
    later.missingCategories.Sublist reached.missingCategories ∧
    reached.completeness ≤ later.completeness ∧
    ∀ category ∈ reached.categories, ∀ text, openingText? category = some text →
      text ∉ later.nextQuestions := by
  intro reached later
  have hext : reached.ExtendedBy later := by
    unfold reached later
    rw [run_append]
    exact extendedBy_run router _ more
  exact ⟨fun other same => Conversation.same_of_categories same, reached.completeness_eq,
    Conversation.four_fifths_lt_completeness_iff, reached.missingCategories_eq,
    reached.nextQuestions_eq, hext.missing_sublist, hext.completeness_le,
    fun category covered text htext =>
      Conversation.not_mem_nextQuestions (hext.categories_subset covered) htext⟩

theorem run_settles_questions_shop :
    let router : Router := { store := .empty, rules := IntentRule.standard, relatedLimit := 3 }
    let opening := "Business Process: What specific business process or workflow would you like "
      ++ "to automate?"
    let reached := (router.run ⟨.start, .start⟩ [.handle (.str "Automate the shop")]).conversation
    let later := (router.run ⟨.start, .start⟩
      [.handle (.str "Automate the shop"), .handle (.str "Go on")]).conversation
    let repeated := reached.addRequirements reached.requirements
    (Category.businessProcess ∈ reached.categories ∧
      openingText? .businessProcess = some opening ∧ opening ∉ later.nextQuestions) ∧
    (∀ category, category ∈ repeated.categories ↔ category ∈ reached.categories) ∧
      repeated.completeness = reached.completeness := by
  intro router opening reached later repeated
  obtain ⟨hsame, -, -, -, -, -, -, hasked⟩ := run_settles_questions router ⟨.start, .start⟩
    [.handle (.str "Automate the shop")] [.handle (.str "Go on")]
  have hcovered : Category.businessProcess ∈ reached.categories := by decide +kernel
  have hopening : openingText? .businessProcess = some opening := by decide +kernel
  have same : ∀ category, category ∈ repeated.categories ↔ category ∈ reached.categories := by
    simp [repeated, Conversation.categories, Conversation.addRequirements]
  exact ⟨⟨hcovered, hopening, hasked _ hcovered _ hopening⟩, same, (hsame repeated same).1⟩

end Router

end Flowplan
