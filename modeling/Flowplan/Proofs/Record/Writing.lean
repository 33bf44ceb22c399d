import Flowplan.Proofs.Record.Reading

namespace Flowplan

/-- Choices that are found under their labels. -/
class LawfulLabelled (α : Type) [Labelled α] : Prop where
  ofLabel?_label (a : α) : Labelled.ofLabel? (label a) = some a

namespace Checked

variable {α β : Type}

@[simp]
theorem fmap_value (f : α → β) (a : α) : f <$> value a = value (f a) := rfl

@[simp]
theorem value_seq_value (f : α → β) (a : α) : value f <*> value a = value (f a) := rfl

@[simp]
theorem value_seqLeft_value (a : α) (b : β) : value a <* value b = value a := rfl

end Checked

namespace Record

variable {α : Type}

@[simp]
theorem text_str (value : String) : text (.str value) = .value value := rfl

@[simp]
theorem whole_int (value : Int) : whole (.int value) = .value value := rfl

@[simp]
theorem object_obj (members : Members) : object (.obj members) = .value members := rfl

@[simp]
theorem natural_int (value : Nat) : natural (.int value) = .value value :=
  natural_eq_value_iff.mpr ⟨rfl, Nat.zero_le value⟩

@[simp]
theorem choice_label [Labelled α] [LawfulLabelled α] (a : α) :
    choice (.str (label a)) = .value a :=
  Checked.ofOption_eq_value_iff.mpr (LawfulLabelled.ofLabel?_label a)

@[simp]
theorem record_obj (read : Members → Checked α) (members : Members) :
    record read (.obj members) = read members := rfl

theorem lookup_cons (member : String × Json) (members : Members) (name : String) :
    (member :: members).lookup name
      = if name = member.1 then some member.2 else members.lookup name := by
  rw [List.lookup_cons]
  by_cases h : name = member.1
  · rw [if_pos h, beq_iff_eq.mpr h]
  · rw [if_neg h, beq_eq_false_iff_ne.mpr h]

@[simp]
theorem required_cons (member : String × Json) (members : Members) (name : String)
    (read : Json → Checked α) :
    required (member :: members) name read
      = if name = member.1 then read member.2 else required members name read := by
  rw [required, lookup_cons]
  by_cases h : name = member.1
  · rw [if_pos h, if_pos h]
  · rw [if_neg h, if_neg h, required]

@[simp]
theorem optional_cons (member : String × Json) (members : Members) (name : String)
    (read : Json → Checked α) (default : α) :
    optional (member :: members) name read default
      = if name = member.1 then read member.2 else optional members name read default := by
  rw [optional, lookup_cons]
  by_cases h : name = member.1
  · rw [if_pos h, if_pos h]
  · rw [if_neg h, if_neg h, optional]

theorem each_map {β : Type} {read : β → Checked α} {write : α → β} {items : List α}
    (h : ∀ a ∈ items, read (write a) = .value a) :
    Checked.each read (items.map write) = .value items := by
  rw [Checked.each_eq_value_iff, List.forall₂_map_left_iff, List.forall₂_same]
  exact h

theorem list_map {read : Json → Checked α} {write : α → Json} {items : List α}
    (h : ∀ a ∈ items, read (write a) = .value a) :
    list read (.arr (items.map write)) = .value items :=
  each_map h

@[simp]
theorem list_text_strings (texts : List String) : list text (.strings texts) = .value texts :=
  list_map fun _ _ => rfl

theorem table_map {read : Json → Checked α} {write : α → Json}
    (h : ∀ a, read (write a) = .value a) (entries : List (String × α)) :
    table read (.obj (entries.map fun entry => (entry.1, write entry.2))) = .value entries :=
  each_map fun entry _ => by rw [h, Checked.map]

theorem nullable_ofOption {read : Json → Checked α} {write : α → Json}
    (present : ∀ a, write a ≠ .null) (h : ∀ a, read (write a) = .value a) (value : Option α) :
    nullable read (.ofOption write value) = .value value := by
  cases value with
  | none => rfl
  | some a =>
    rw [Json.ofOption, nullable, h, Checked.map]
    exact present a

end Record

end Flowplan
