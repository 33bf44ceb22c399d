import Flowplan.Json.Display
import Flowplan.Json.Limits
import Flowplan.Proofs.Json.Sound

namespace Flowplan

namespace Json

/-- Wider limits hold more digits and more containers inside each other. -/
instance : LE Limits := ⟨fun a b => a.nesting ≤ b.nesting ∧ a.digits ≤ b.digits⟩

theorem excessOfItems?_eq_none_iff {digits room : Nat} {items : List Json} :
    excessOfItems? digits room items = none ↔ ∀ item ∈ items, excess? digits room item = none := by
  induction items with
  | nil => simp [excessOfItems?]
  | cons item items ih => simp [excessOfItems?, ih]

theorem excessOfMembers?_eq_none_iff {digits room : Nat} {members : List (String × Json)} :
    excessOfMembers? digits room members = none ↔
      ∀ member ∈ members, excess? digits room member.2 = none := by
  induction members with
  | nil => simp [excessOfMembers?]
  | cons member members ih => simp [excessOfMembers?, ih]

theorem excess?_arr_eq_none_iff {digits room : Nat} {items : List Json} :
    excess? digits room (arr items) = none ↔
      0 < room ∧ ∀ item ∈ items, excess? digits (room - 1) item = none := by
  rw [excess?]
  split
  next h => simp [h]
  next h => simp [excessOfItems?_eq_none_iff, Nat.pos_of_ne_zero h]

theorem excess?_obj_eq_none_iff {digits room : Nat} {members : List (String × Json)} :
    excess? digits room (obj members) = none ↔
      0 < room ∧ ∀ member ∈ members, excess? digits (room - 1) member.2 = none := by
  rw [excess?]
  split
  next h => simp [h]
  next h => simp [excessOfMembers?_eq_none_iff, Nat.pos_of_ne_zero h]

theorem length_toDigits_pow (count : Nat) :
    (Nat.toDigits 10 (10 ^ count)).length = count + 1 := by
  have hle : (Nat.toDigits 10 (10 ^ count)).length ≤ count + 1 :=
    (Nat.length_toDigits_le_iff (by decide) (Nat.succ_pos count)).mpr
      (Nat.pow_lt_pow_right (by decide) (Nat.lt_succ_self count))
  rcases Nat.eq_zero_or_pos count with rfl | hpos
  · rfl
  · have hlt : ¬(Nat.toDigits 10 (10 ^ count)).length ≤ count := by
      rw [Nat.length_toDigits_le_iff (by decide) hpos]
      exact Nat.lt_irrefl _
    omega

/-- An integer of one digit more than a text may have. -/
def overlong : Json :=
  .int ((10 ^ Text.mostDigits : Nat) : Int)

theorem excess?_overlong (room : Nat) :
    overlong.excess? Text.mostDigits room = some (.digits (Text.mostDigits + 1)) := by
  rw [overlong, excess?, Int.natAbs_natCast, length_toDigits_pow, if_pos (Nat.lt_succ_self _)]

/-- A value that a reader with these limits can give: it is sound, and no half in it is to be joined
with the one behind it. -/
structure Held (digits room : Nat) (value : Json) : Prop where
  sound : value.Sound
  settled : value.joined = value
  fits : excess? digits room value = none

theorem held_arr {most room : Nat} {items : List Json}
    (h : ∀ item ∈ items, Held most room item) : Held most (room + 1) (arr items) where
  sound := soundItems_iff.mpr fun item hm => (h item hm).sound
  settled := joined_arr_iff.mpr fun item hm => (h item hm).settled
  fits := excess?_arr_eq_none_iff.mpr ⟨Nat.succ_pos room, fun item hm => (h item hm).fits⟩

theorem held_obj {most room : Nat} {members : List (String × Json)} (keyed : Keyed members)
    (h : ∀ member ∈ members, Held most room member.2) : Held most (room + 1) (obj members) where
  sound := ⟨keyed, soundMembers_iff.mpr fun member hm => (h member hm).sound⟩
  settled := joined_obj_iff.mpr fun member hm => (h member hm).settled
  fits := excess?_obj_eq_none_iff.mpr ⟨Nat.succ_pos room, fun member hm => (h member hm).fits⟩

theorem held_ofRaw (digits room : Nat) {raw : RawText} (h : raw.joined = raw) :
    Held digits room (ofRaw raw) := by
  refine ⟨sound_ofRaw raw, by rw [joined_ofRaw, h], ?_⟩
  rcases ofRaw_cases raw with ⟨_, -, htext⟩ | ⟨_, -, htext⟩ <;> rw [htext] <;> rfl

@[simp]
theorem held_str {digits room : Nat} (text : String) : Held digits room (.str text) :=
  ⟨trivial, rfl, rfl⟩

theorem held_map {α : Type} {write : α → Json} {items : List α} {digits room : Nat}
    (h : ∀ a ∈ items, Held digits room (write a)) :
    Held digits (room + 1) (.arr (items.map write)) :=
  held_arr (List.forall_mem_map.mpr h)

@[simp]
theorem held_strings {digits room : Nat} (texts : List String) :
    Held digits (room + 1) (.strings texts) :=
  held_map fun text _ => held_str text

theorem held_table {α : Type} {write : α → Json} {entries : List (String × α)} {digits room : Nat}
    (keyed : Keyed entries) (h : ∀ entry ∈ entries, Held digits room (write entry.2)) :
    Held digits (room + 1) (.obj (entries.map fun entry => (entry.1, write entry.2))) := by
  refine held_obj ?_ (List.forall_mem_map.mpr h)
  rw [Keyed, List.map_map]
  exact keyed

theorem held_ofOption {α : Type} {write : α → Json} {digits room : Nat} (value : Option α)
    (h : ∀ a ∈ value, Held digits room (write a)) : Held digits room (.ofOption write value) := by
  cases value with
  | none => exact ⟨trivial, rfl, rfl⟩
  | some a => exact h a rfl

/-- In a text that a reader gives, nothing is left to join. -/
theorem Held.joined_eq {digits room : Nat} {raw : RawText} (held : Held digits room (ofRaw raw)) :
    raw.joined = raw := by
  have hraw := congrArg raw? held.settled
  simpa using hraw

theorem Held.joined_display {digits room : Nat} {value : Json} (held : Held digits room value) :
    value.display.joined = value.display := by
  cases value with
  | torn text =>
    rw [← ofRaw_raw] at held
    exact held.joined_eq
  | _ => exact RawText.joined_ofString _

theorem Held.of_mem_arr {digits room : Nat} {items : List Json}
    (held : Held digits room (arr items)) {item : Json} (hm : item ∈ items) :
    Held digits (room - 1) item :=
  ⟨soundItems_iff.mp held.sound item hm, joined_arr_iff.mp held.settled item hm,
    (excess?_arr_eq_none_iff.mp held.fits).2 item hm⟩

theorem Held.of_mem_obj {digits room : Nat} {members : List (String × Json)}
    (held : Held digits room (obj members)) {member : String × Json} (hm : member ∈ members) :
    Held digits (room - 1) member.2 :=
  ⟨soundMembers_iff.mp held.sound.2 member hm, joined_obj_iff.mp held.settled member hm,
    (excess?_obj_eq_none_iff.mp held.fits).2 member hm⟩

theorem Held.of_lookup {digits room : Nat} {members : List (String × Json)}
    (held : Held digits room (obj members)) {name : String} {value : Json}
    (h : members.lookup name = some value) : Held digits (room - 1) value :=
  held.of_mem_obj (mem_of_lookup_eq_some h)

/-- The parts of a text or the names of an object are texts. -/
theorem Held.of_mem_parts {digits room : Nat} {value : Json} (held : Held digits room value)
    {items : List Json} (hparts : value.parts? = some items) {item : Json} (hm : item ∈ items) :
    Held digits (room - 1) item := by
  cases value with
  | arr values =>
    obtain rfl := Option.some.inj hparts
    exact held.of_mem_arr hm
  | str text =>
    obtain rfl := Option.some.inj hparts
    obtain ⟨c, -, rfl⟩ := List.mem_map.mp hm
    exact ⟨trivial, rfl, rfl⟩
  | torn text =>
    obtain rfl := Option.some.inj hparts
    obtain ⟨point, -, rfl⟩ := List.mem_map.mp hm
    exact held_ofRaw _ _ (congrArg RawText.mk (Text.joined_cons nofun))
  | obj members =>
    obtain rfl := Option.some.inj hparts
    obtain ⟨member, -, rfl⟩ := List.mem_map.mp hm
    exact ⟨trivial, rfl, rfl⟩
  | _ => simp [parts?] at hparts

end Json

end Flowplan
