import Flowplan.Json.Reader
import Flowplan.Proofs.Entries
import Flowplan.Proofs.Number.Doubles
import Flowplan.Proofs.Text.Halves

namespace Flowplan

namespace Json

/-- A property of all values, which lists and objects take from their parts. -/
theorem induct {motive : Json → Prop} (null : motive null) (bool : ∀ value, motive (bool value))
    (int : ∀ value, motive (int value)) (float : ∀ value, motive (float value))
    (str : ∀ value, motive (str value)) (torn : ∀ value, motive (torn value))
    (arr : ∀ items, (∀ item ∈ items, motive item) → motive (arr items))
    (obj : ∀ members, (∀ member ∈ members, motive member.2) → motive (obj members)) :
    ∀ value, motive value
  | .null => null
  | .bool value => bool value
  | .int value => int value
  | .float value => float value
  | .str value => str value
  | .torn value => torn value
  | .arr items => arr items fun item hm =>
    have := List.sizeOf_lt_of_mem hm
    induct null bool int float str torn arr obj item
  | .obj members => obj members fun (_, value) hm =>
    have : sizeOf value < sizeOf members :=
      Nat.lt_trans (by simp) (List.sizeOf_lt_of_mem hm)
    induct null bool int float str torn arr obj value

mutual

/-- The numbers are doubles or integers, and no object has two members of one name. -/
def Sound : Json → Prop
  | float value => value.IsDouble
  | arr items => SoundItems items
  | obj members => Keyed members ∧ SoundMembers members
  | _ => True

def SoundItems : List Json → Prop
  | [] => True
  | item :: items => Sound item ∧ SoundItems items

def SoundMembers : List (String × Json) → Prop
  | [] => True
  | (_, value) :: members => Sound value ∧ SoundMembers members

end

theorem soundItems_iff {items : List Json} : SoundItems items ↔ ∀ item ∈ items, item.Sound := by
  induction items with
  | nil => simp [SoundItems]
  | cons item items ih => simp [SoundItems, ih]

theorem soundMembers_iff {members : List (String × Json)} :
    SoundMembers members ↔ ∀ member ∈ members, member.2.Sound := by
  induction members with
  | nil => simp [SoundMembers]
  | cons member members ih => simp [SoundMembers, ih]

mutual

/-- The value in whose texts each high half is joined with the low half behind it. -/
def joined : Json → Json
  | torn value => ofRaw value.raw.joined
  | arr items => arr (joinedItems items)
  | obj members => obj (joinedMembers members)
  | value => value

def joinedItems : List Json → List Json
  | [] => []
  | item :: items => joined item :: joinedItems items

def joinedMembers : List (String × Json) → List (String × Json)
  | [] => []
  | (name, value) :: members => (name, joined value) :: joinedMembers members

end

theorem joinedItems_eq_map (items : List Json) : joinedItems items = items.map joined := by
  induction items with
  | nil => rfl
  | cons item items ih => rw [joinedItems, ih, List.map_cons]

theorem joinedMembers_eq_map (members : List (String × Json)) :
    joinedMembers members = members.map fun member => (member.1, joined member.2) := by
  induction members with
  | nil => rfl
  | cons member members ih => rw [joinedMembers, ih, List.map_cons]

theorem keyed_joinedMembers {members : List (String × Json)} (keyed : Keyed members) :
    Keyed (joinedMembers members) := by
  simpa [Keyed, joinedMembers_eq_map, Function.comp_def] using keyed

@[simp] theorem joined_ofRaw (raw : RawText) : (ofRaw raw).joined = ofRaw raw.joined := by
  rcases ofRaw_cases raw with ⟨text, rfl, h⟩ | ⟨text, rfl, h⟩
  · rw [h, RawText.joined_ofString, h]
    rfl
  · rw [h, joined]

theorem sound_ofRaw (raw : RawText) : (ofRaw raw).Sound := by
  rcases ofRaw_cases raw with ⟨_, -, h⟩ | ⟨_, -, h⟩ <;> rw [h] <;> trivial

theorem joined_arr_iff {items : List Json} :
    (arr items).joined = arr items ↔ ∀ item ∈ items, item.joined = item := by
  rw [joined, arr.injEq]
  induction items with
  | nil => simp [joinedItems]
  | cons item items ih => simp [joinedItems, ih]

theorem joined_obj_iff {members : List (String × Json)} :
    (obj members).joined = obj members ↔ ∀ member ∈ members, member.2.joined = member.2 := by
  rw [joined, obj.injEq]
  induction members with
  | nil => simp [joinedMembers]
  | cons member members ih =>
    obtain ⟨name, value⟩ := member
    simp [joinedMembers, ih]

mutual

/-- The texts of a value, its names apart. -/
def allTexts : Json → List RawText
  | str text => [.ofString text]
  | torn text => [text.raw]
  | arr items => allTextsOfItems items
  | obj members => allTextsOfMembers members
  | _ => []

def allTextsOfItems : List Json → List RawText
  | [] => []
  | item :: items => allTexts item ++ allTextsOfItems items

def allTextsOfMembers : List (String × Json) → List RawText
  | [] => []
  | (_, value) :: members => allTexts value ++ allTextsOfMembers members

end

theorem forall_mem_allTextsOfItems {p : RawText → Prop} {items : List Json} :
    (∀ text ∈ allTextsOfItems items, p text) ↔ ∀ item ∈ items, ∀ text ∈ item.allTexts, p text := by
  induction items with
  | nil => simp [allTextsOfItems]
  | cons item items ih => rw [allTextsOfItems, List.forall_mem_append, List.forall_mem_cons, ih]

theorem forall_mem_allTextsOfMembers {p : RawText → Prop} {members : List (String × Json)} :
    (∀ text ∈ allTextsOfMembers members, p text) ↔
      ∀ member ∈ members, ∀ text ∈ member.2.allTexts, p text := by
  induction members with
  | nil => simp [allTextsOfMembers]
  | cons member members ih =>
    rw [allTextsOfMembers, List.forall_mem_append, List.forall_mem_cons, ih]

/-- Joining halves leaves a value as it is exactly if none of its texts has halves to join. -/
theorem joined_eq_self_iff {value : Json} :
    value.joined = value ↔ ∀ text ∈ value.allTexts, text.IsApart := by
  induction value using induct with
  | null | bool | int | float => simp [joined, allTexts]
  | str text => simp [joined, allTexts, ← RawText.joined_eq_self_iff]
  | torn text =>
    have hraw : ofRaw text.raw.joined = torn text ↔ text.raw.joined = text.raw := by
      constructor
      · intro h
        exact Option.some.inj ((raw?_ofRaw _).symm.trans (congrArg raw? h))
      · intro h
        rw [h, ofRaw_raw]
    rw [joined, hraw, RawText.joined_eq_self_iff, allTexts, List.forall_mem_singleton]
  | arr items ih =>
    rw [joined_arr_iff, allTexts, forall_mem_allTextsOfItems]
    exact forall₂_congr ih
  | obj members ih =>
    rw [joined_obj_iff, allTexts, forall_mem_allTextsOfMembers]
    exact forall₂_congr ih

theorem sound_joined {value : Json} (sound : value.Sound) : value.joined.Sound := by
  induction value using induct with
  | torn value => exact sound_ofRaw _
  | arr items ih =>
    refine soundItems_iff.mpr ?_
    rw [joinedItems_eq_map, List.forall_mem_map]
    exact fun item hm => ih item hm (soundItems_iff.mp sound item hm)
  | obj members ih =>
    refine ⟨keyed_joinedMembers sound.1, soundMembers_iff.mpr ?_⟩
    rw [joinedMembers_eq_map, List.forall_mem_map]
    exact fun member hm => ih member hm (soundMembers_iff.mp sound.2 member hm)
  | _ => exact sound

theorem put_of_not_mem {members : List (String × Json)} {name : String} (value : Json)
    (h : name ∉ members.map (·.1)) : put members name value = members ++ [(name, value)] := by
  rw [put, if_neg]
  simpa using h

theorem mergeMembers_of_keyed {members : List (String × Json)} (keyed : Keyed members) :
    mergeMembers members = members := by
  have hmerge : ∀ (rest done : List (String × Json)), Keyed (done ++ rest) →
      rest.foldl (fun done m => put done m.1 m.2) done = done ++ rest := by
    intro rest
    induction rest with
    | nil => simp
    | cons member rest ih =>
      intro done keyed
      have hnew : member.1 ∉ done.map (·.1) := by
        intro hm
        rw [Keyed, List.map_append] at keyed
        exact (List.nodup_append.mp keyed).2.2 _ hm _ (by simp) rfl
      rw [List.foldl_cons, put_of_not_mem _ hnew, ih _ (by simpa using keyed)]
      simp
  exact hmerge members [] keyed

theorem names_put (members : List (String × Json)) (name : String) (value : Json) :
    (put members name value).map (·.1) = if name ∈ members.map (·.1)
      then members.map (·.1) else members.map (·.1) ++ [name] := by
  by_cases h : name ∈ members.map (·.1)
  · have hany : members.any (·.1 = name) := by simpa using h
    rw [put, if_pos hany, if_pos h, List.map_map]
    refine List.map_congr_left fun member hm => ?_
    by_cases he : member.1 = name <;> simp [he]
  · rw [put_of_not_mem value h, if_neg h, List.map_append]
    rfl

theorem keyed_mergeMembers (members : List (String × Json)) : Keyed (mergeMembers members) := by
  have hfold : ∀ (rest done : List (String × Json)), Keyed done →
      Keyed (rest.foldl (fun done m => put done m.1 m.2) done) := by
    intro rest
    induction rest with
    | nil => exact fun _ keyed => keyed
    | cons member rest ih =>
      intro done keyed
      refine ih _ ?_
      unfold Keyed at keyed ⊢
      rw [names_put]
      split
      · exact keyed
      next h => simpa [List.nodup_append] using ⟨keyed, fun a b hm he => h (by simp_all)⟩
  exact hfold members [] List.nodup_nil

theorem value_of_mem_put {members : List (String × Json)} {name : String} {value : Json}
    {member : String × Json} (hm : member ∈ put members name value) :
    member.2 = value ∨ member ∈ members := by
  unfold put at hm
  split at hm
  · obtain ⟨old, hold, rfl⟩ := List.mem_map.mp hm
    split
    · exact .inl rfl
    · exact .inr hold
  · rcases List.mem_append.mp hm with hold | hnew
    · exact .inr hold
    · exact .inl (by rw [List.mem_singleton.mp hnew])

/-- Merged members hold no value that was not among them. -/
theorem forall_mergeMembers {p : Json → Prop} {members : List (String × Json)}
    (h : ∀ member ∈ members, p member.2) : ∀ member ∈ mergeMembers members, p member.2 := by
  have hfold : ∀ (rest done : List (String × Json)), (∀ member ∈ rest, p member.2) →
      (∀ member ∈ done, p member.2) →
      ∀ member ∈ rest.foldl (fun done m => put done m.1 m.2) done, p member.2 := by
    intro rest
    induction rest with
    | nil => exact fun _ _ hdone => hdone
    | cons member rest ih =>
      intro done hrest hdone
      refine ih _ (fun m hm => hrest m (by simp [hm])) fun m hm => ?_
      rcases value_of_mem_put hm with he | hold
      · rw [he]
        exact hrest member (by simp)
      · exact hdone m hold
  exact hfold members [] h (by simp)

end Json

end Flowplan
