import Flowplan.Proofs.Blueprint.Agreement
import Flowplan.Proofs.Blueprint.Signals

namespace Flowplan

/-- In the order, `a` stands where `b` does or before it. -/
def NoLater {α : Type} (order : List α) (a b : α) : Prop :=
  ∃ before after, order = before ++ a :: after ∧ b ∈ a :: after

namespace NoLater

variable {α : Type} {order : List α} {a b c : α}

theorem head (h : b ∈ a :: order) : NoLater (a :: order) a b :=
  ⟨[], order, rfl, h⟩

theorem cons (h : NoLater order a b) : NoLater (c :: order) a b := by
  obtain ⟨before, after, rfl, hb⟩ := h
  exact ⟨c :: before, after, rfl, hb⟩

/-- In an order by descending tier, what stands earlier has no lower tier. -/
theorem tier_le {tier : α → Nat} (descending : order.Pairwise fun x y => tier y ≤ tier x)
    (h : NoLater order a b) : tier b ≤ tier a := by
  obtain ⟨before, after, rfl, hb⟩ := h
  rcases List.mem_cons.mp hb with rfl | hm
  · exact Nat.le_refl _
  · exact (List.pairwise_cons.mp (List.pairwise_append.mp descending).2.1).1 b hm

end NoLater

namespace Complexity

def tier : Complexity → Nat
  | simple => 0
  | moderate => 1
  | complex => 2
  | enterprise => 3

theorem tier_ofScore (score : Int) :
    (ofScore score).tier = if 5 ≤ score then 3 else if 3 ≤ score then 2 else if 2 ≤ score then 1
      else 0 := by
  simp only [ofScore, ofReached, decide_eq_true_eq]
  split_ifs <;> rfl

theorem tier_ofScore_le {low high : Int} (h : low ≤ high) :
    (ofScore low).tier ≤ (ofScore high).tier := by
  rw [tier_ofScore, tier_ofScore]
  split_ifs <;> omega

end Complexity

def DataVolume.tier : DataVolume → Nat
  | low => 0
  | medium => 1
  | high => 2
  | veryHigh => 3

/-- The domains in the order in which they are tried, and the one that stands in for none. -/
def Signal.domains : List String := Signal.domainRules.map (·.1) ++ ["general"]

/-- The triggers in the order in which they are tried, and the one that stands in for none. -/
def Trigger.order : List Trigger := Trigger.rules.map (·.1) ++ [.manual]

namespace Signal

variable {large small : String}

theorem mentions_of_covers (h : Text.Covers large small) {keyword : String}
    (hk : Text.mentions small keyword) : Text.mentions large keyword :=
  Text.mentions_iff.mpr (h.holds (Text.mentions_iff.mp hk))

theorem mentionsAny_of_covers (h : Text.Covers large small) {keywords : List String}
    (hk : Text.mentionsAny small keywords) : Text.mentionsAny large keywords :=
  Text.mentionsAny_iff.mpr (h.holdsAny (Text.mentionsAny_iff.mp hk))

theorem needsAi_of_covers (h : Text.Covers large small) (hai : needsAi small) : needsAi large :=
  needsAi_iff.mpr ((needsAi_iff.mp hai).imp (h.holdsWord (by decide)) h.holdsAny)

theorem integrations_sublist (h : Text.Covers large small) :
    (integrations small).Sublist (integrations large) :=
  List.monotone_filter_right _ fun _ => mentions_of_covers h

theorem integrationCount_le (h : Text.Covers large small) :
    integrationCount small ≤ integrationCount large :=
  (integrations_sublist h).length_le

theorem criticalFactors_sublist (h : Text.Covers large small) :
    (criticalFactors small).Sublist (criticalFactors large) :=
  (List.monotone_filter_right _ fun _ => mentionsAny_of_covers h).map _

/-- A finding that stays counts as much. -/
theorem points_le {found other : Bool} (h : found → other) (points : Nat) :
    (if found then points else 0) ≤ if other then points else 0 := by
  cases found with
  | false => simp
  | true => simp [h rfl]

theorem complexityScore_le (h : Text.Covers large small) :
    complexityScore small ≤ complexityScore large := by
  have hcount := integrationCount_le h
  have hintegrations : (if 5 < integrationCount small then 2
      else if 2 < integrationCount small then 1 else 0)
      ≤ if 5 < integrationCount large then 2 else if 2 < integrationCount large then 1 else 0 := by
    split_ifs <;> omega
  have hlogic : hasComplexLogic small → hasComplexLogic large := mentionsAny_of_covers h
  have hcompliance : needsCompliance small → needsCompliance large := mentionsAny_of_covers h
  exact Nat.add_le_add (Nat.add_le_add (Nat.add_le_add hintegrations
    (points_le (needsAi_of_covers h) 1)) (points_le hlogic 1)) (points_le hcompliance 2)

theorem firstChoice?_cons {α : Type} (rule : α × List String) (rest : List (α × List String))
    (text : String) :
    firstChoice? (rule :: rest) text
      = if Text.mentionsAny text rule.2 then some rule.1 else firstChoice? rest text := by
  unfold firstChoice?
  rw [List.find?_cons]
  split <;> simp_all

theorem choice_mem {α : Type} (rules : List (α × List String)) (default : α) (text : String) :
    (firstChoice? rules text).getD default ∈ rules.map (·.1) ++ [default] := by
  induction rules with
  | nil => exact List.mem_singleton_self default
  | cons rule rest ih =>
    rw [firstChoice?_cons]
    split
    · exact List.mem_cons_self
    · exact List.mem_cons_of_mem _ ih

/-- Of more text the same rule is the first that applies, or an earlier one. -/
theorem noLater_choice {α : Type} (h : Text.Covers large small) (rules : List (α × List String))
    (default : α) :
    NoLater (rules.map (·.1) ++ [default]) ((firstChoice? rules large).getD default)
      ((firstChoice? rules small).getD default) := by
  induction rules with
  | nil => exact .head (List.mem_singleton_self default)
  | cons rule rest ih =>
    by_cases hsmall : Text.mentionsAny small rule.2
    · rw [firstChoice?_cons, firstChoice?_cons, if_pos hsmall,
        if_pos (mentionsAny_of_covers h hsmall)]
      exact .head List.mem_cons_self
    · by_cases hlarge : Text.mentionsAny large rule.2
      · rw [firstChoice?_cons _ _ large, if_pos hlarge]
        exact .head (choice_mem (rule :: rest) default small)
      · rw [firstChoice?_cons, firstChoice?_cons, if_neg hsmall, if_neg hlarge]
        exact ih.cons

theorem dataVolume_tier_le (h : Text.Covers large small) :
    (dataVolume small).tier ≤ (dataVolume large).tier :=
  (noLater_choice h volumeRules .low).tier_le (by decide)

end Signal

namespace Design

variable {large small : String}

theorem mentionedServices_sublist (h : Text.Covers large small) :
    (mentionedServices small).Sublist (mentionedServices large) :=
  (List.monotone_filter_right _ fun _ => Signal.mentions_of_covers h).map _

/-- A component that is needed stays. -/
theorem part_sublist {found other : Bool} (h : found → other) (names : List String) :
    (if found then names else []).Sublist (if other then names else []) := by
  cases found with
  | false => exact List.nil_sublist _
  | true => rw [if_pos rfl, if_pos (h rfl)]

theorem names_components_sublist (h : Text.Covers large small) :
    ((components small).map (·.name)).Sublist ((components large).map (·.name)) := by
  have hdata : Signal.needsDataProcessing small → Signal.needsDataProcessing large :=
    Signal.mentionsAny_of_covers h
  have hai := Signal.needsAi_of_covers h
  have hstorage : Signal.needsStorage small → Signal.needsStorage large :=
    Signal.mentionsAny_of_covers h
  rw [names_components, names_components]
  exact (((((List.Sublist.refl _).append (part_sublist hdata _)).append
    (part_sublist hai _)).append (.refl _)).append (part_sublist hstorage _)).append (.refl _)

end Design

/-- The text of some requirements is covered by that of all. -/
theorem Requirement.covers_combinedText (earlier requirements later : List Requirement) :
    Text.Covers (combinedText (earlier ++ requirements ++ later)) (combinedText requirements) := by
  simp only [combinedText_eq, List.map_append]
  exact Text.covers_joined _ _ _

/-- With more requirements before and after them, what the analysis finds in some requirements is
still found, and none of its figures gets lower. -/
theorem Analysis.grows (earlier requirements later : List Requirement) :
    let part := Analysis.ofRequirements requirements
    let whole := Analysis.ofRequirements (earlier ++ requirements ++ later)
    let text := Requirement.combinedText requirements
    let wholeText := Requirement.combinedText (earlier ++ requirements ++ later)
    part.complexityScore ≤ whole.complexityScore ∧
      part.complexity.tier ≤ whole.complexity.tier ∧
      part.integrationCount ≤ whole.integrationCount ∧
      part.dataVolume.tier ≤ whole.dataVolume.tier ∧
      part.criticalFactors.Sublist whole.criticalFactors ∧
      (Design.mentionedServices text).Sublist (Design.mentionedServices wholeText) ∧
      ((Design.components text).map (·.name)).Sublist
        ((Design.components wholeText).map (·.name)) ∧
      NoLater Signal.domains whole.domain part.domain ∧
      NoLater Trigger.order (Trigger.ofText wholeText) (Trigger.ofText text) := by
  intro part whole text wholeText
  have h : Text.Covers wholeText text :=
    Requirement.covers_combinedText earlier requirements later
  have hscore : part.complexityScore ≤ whole.complexityScore := Signal.complexityScore_le h
  exact ⟨hscore, Complexity.tier_ofScore_le (by exact_mod_cast hscore),
    Signal.integrationCount_le h, Signal.dataVolume_tier_le h, Signal.criticalFactors_sublist h,
    Design.mentionedServices_sublist h, Design.names_components_sublist h,
    Signal.noLater_choice h Signal.domainRules "general",
    Signal.noLater_choice h Trigger.rules .manual⟩

end Flowplan
