import Flowplan.Fault
import Flowplan.Proofs.Outcome
import Flowplan.Record.Field

namespace Flowplan

/-- A choice is found under its label, if that holds of each choice. -/
theorem Labelled.ofLabel?_eq_some_iff {α : Type} [Labelled α]
    (found : ∀ a : α, ofLabel? (label a) = some a) {name : String} {a : α} :
    ofLabel? name = some a ↔ label a = name := by
  constructor
  · intro h
    simpa using List.find?_some h
  · rintro rfl
    exact found a

namespace Checked

variable {α β : Type}

theorem map_eq_value_iff {f : α → β} {x : Checked α} {b : β} :
    map f x = .value b ↔ ∃ a, x = .value a ∧ f a = b := by
  cases x <;> simp [map]

theorem fmap_eq_value_iff {f : α → β} {x : Checked α} {b : β} :
    f <$> x = .value b ↔ ∃ a, x = .value a ∧ f a = b :=
  map_eq_value_iff

theorem seq_eq_value_iff {f : Checked (α → β)} {x : Checked α} {b : β} :
    seq f x = .value b ↔ ∃ g a, f = .value g ∧ x = .value a ∧ g a = b := by
  cases f <;> cases x <;> simp [seq]

theorem apply_eq_value_iff {f : Checked (α → β)} {x : Checked α} {b : β} :
    f <*> x = .value b ↔ ∃ g a, f = .value g ∧ x = .value a ∧ g a = b :=
  seq_eq_value_iff

theorem pure_eq_value_iff {a b : α} : (pure a : Checked α) = .value b ↔ a = b :=
  ⟨value.inj, congrArg value⟩

theorem outcome_eq_ok_iff {x : Checked α} {a : α} : x.outcome = .ok a ↔ x = .value a := by
  cases x <;> simp [outcome]

theorem guard_eq_value_iff {rule : α → Bool} {x : Checked α} {a : α} :
    x.guard rule = .value a ↔ x = .value a ∧ rule a := by
  cases x with
  | value b =>
    by_cases h : rule b
    · simp only [guard, h, if_true, value.injEq]
      exact ⟨fun he => ⟨he, he ▸ h⟩, fun he => he.1⟩
    · simp only [guard, h, value.injEq]
      exact ⟨fun he => by simp at he, fun he => absurd (he.1 ▸ he.2) h⟩
  | flaws count => simp [guard]

theorem ofOption_eq_value_iff {x : Option α} {a : α} : ofOption x = .value a ↔ x = some a := by
  cases x <;> simp [ofOption]

theorem value?_eq_some_iff {x : Checked α} {a : α} :
    x.value? = some a ↔ x = .value a := by
  cases x <;> simp [value?]

theorem isSome_value?_iff {x : Checked α} : x.value?.isSome ↔ ∃ a, x = .value a := by
  cases x <;> simp [value?]

theorem each_eq_value_iff {read : α → Checked β} {as : List α} {bs : List β} :
    each read as = .value bs ↔ List.Forall₂ (fun a b => read a = .value b) as bs := by
  induction as generalizing bs with
  | nil => simp [each, eq_comm]
  | cons a as ih =>
    rw [List.forall₂_cons_left_iff, each, seq_eq_value_iff]
    simp [map_eq_value_iff, ih, eq_comm]

end Checked

namespace Record

theorem required_eq_value_iff {α : Type} {members : Members} {name : String}
    {read : Json → Checked α} {a : α} :
    required members name read = .value a ↔
      ∃ json, members.lookup name = some json ∧ read json = .value a := by
  unfold required
  cases members.lookup name <;> simp

/-- What a field holds where the members have it, and what holds where they leave it out. -/
def Stands (members : Members) (name : String) (present : Json → Prop) (absent : Prop) : Prop :=
  match members.lookup name with
  | some json => present json
  | none => absent

theorem stands_congr {members others : Members} {name name' : String}
    (h : members.lookup name = others.lookup name') (present : Json → Prop) (absent : Prop) :
    Stands members name present absent ↔ Stands others name' present absent := by
  rw [Stands, Stands, h]

theorem optional_eq_value_iff {α : Type} {members : Members} {name : String}
    {read : Json → Checked α} {default a : α} :
    optional members name read default = .value a ↔
      Stands members name (fun json => read json = .value a) (a = default) := by
  unfold optional Stands
  cases members.lookup name <;> simp [eq_comm]

theorem Stands.cases {members : Members} {name : String} {present : Json → Prop} {absent : Prop}
    (stands : Stands members name present absent) :
    (∃ json, members.lookup name = some json ∧ present json) ∨
      (members.lookup name = none ∧ absent) := by
  revert stands
  unfold Stands
  cases members.lookup name with
  | some json => exact fun h => .inl ⟨json, rfl, h⟩
  | none => exact fun h => .inr ⟨rfl, h⟩

theorem raw_eq_value_iff {json : Json} {value : RawText} :
    raw json = .value value ↔ json = .ofRaw value := by
  rw [raw, Checked.ofOption_eq_value_iff, Json.raw?_eq_some_iff]

/-- A text that is not empty is whole: no half stands alone in it. -/
theorem nonempty_eq_value_iff {json : Json} {value : String} :
    nonempty json = .value value ↔ json = .str value ∧ value ≠ "" := by
  cases json with
  | str text =>
    simp only [nonempty, String.isEmpty_iff, Json.str.injEq]
    split
    next h => simp [h]
    next h =>
      simp only [Checked.value.injEq, iff_self_and]
      rintro rfl
      exact h
  | _ => simp [nonempty]

theorem share_eq_value_iff {json : Json} {x : Binary64} :
    share json = .value x ↔
      real json = .value x ∧ x.atLeast 0 ∧ x.atMost 1 := by
  simp [share, Checked.guard_eq_value_iff]

theorem wholeFrom_eq_value_iff {least value : Int} {json : Json} :
    wholeFrom least json = .value value ↔ whole json = .value value ∧ least ≤ value := by
  simp [wholeFrom, Checked.guard_eq_value_iff]

/-- A natural number is read as an integer that is not below a bound. -/
theorem natural_eq_value_iff {least : Nat} {json : Json} {value : Nat} :
    (wholeFrom least json).map Int.toNat = .value value ↔
      whole json = .value value ∧ least ≤ value := by
  rw [Checked.map_eq_value_iff]
  constructor
  · rintro ⟨n, hn, rfl⟩
    rw [wholeFrom_eq_value_iff] at hn
    have hcast : ((n.toNat : Nat) : Int) = n := Int.toNat_of_nonneg (by omega)
    exact ⟨hcast.symm ▸ hn.1, by omega⟩
  · rintro ⟨hw, hle⟩
    exact ⟨value, wholeFrom_eq_value_iff.mpr ⟨hw, by exact_mod_cast hle⟩, Int.toNat_natCast value⟩

theorem object_eq_value_iff {json : Json} {members : Members} :
    object json = .value members ↔ json = .obj members := by
  cases json <;> simp [object]

theorem list_raw_eq_value_iff {json : Json} {texts : List RawText} :
    list raw json = .value texts ↔ json = .rawTexts texts := by
  have hitems : ∀ items : List Json,
      List.Forall₂ (fun item value => raw item = .value value) items texts ↔
        items = texts.map .ofRaw := by
    intro items
    simp only [raw_eq_value_iff]
    rw [← List.forall₂_eq_eq_eq, List.forall₂_map_right_iff]
  cases json <;> simp [list, Checked.each_eq_value_iff, hitems, Json.rawTexts]

theorem pair_eq_value_iff {items : List Json} {pair' : Int × Int} :
    pair (.arr items) = .value pair' ↔
      ∃ x y, items = [x, y] ∧ whole x = .value pair'.1 ∧ whole y = .value pair'.2 := by
  obtain ⟨a, b⟩ := pair'
  match items with
  | [] => simp [pair]
  | [x] => simp [pair, Checked.seq_eq_value_iff]
  | [x, y] => simp [pair, Checked.seq_eq_value_iff, Checked.map_eq_value_iff]
  | x :: y :: z :: rest => simp [pair]

end Record

end Flowplan
