import Flowplan.Proofs.Json.Lengths
import Flowplan.Proofs.Json.Parsing
import Flowplan.Proofs.Record.Reading

namespace Flowplan

namespace Record

/-- The integer has no more digits than its text may have. -/
def Short (n : Int) : Prop :=
  (Nat.toDigits 10 n.natAbs).length ≤ Text.mostDigits

instance (n : Int) : Decidable (Short n) :=
  inferInstanceAs (Decidable (_ ≤ _))

theorem short_of_lt {n : Int} (count : Nat) (hpos : 0 < count) (hle : count ≤ Text.mostDigits)
    (h : n.natAbs < 10 ^ count) : Short n :=
  Nat.le_trans ((Nat.length_toDigits_le_iff (by decide) hpos).mpr h) hle

theorem excess?_int_eq_none_iff {room : Nat} {n : Int} :
    (Json.int n).excess? Text.mostDigits room = none ↔ Short n := by
  rw [Json.excess?, Short]
  split
  next h => simpa using h
  next h => simpa using h

@[simp]
theorem held_int {room : Nat} {n : Int} (short : Short n) :
    Json.Held Text.mostDigits room (.int n) :=
  ⟨trivial, rfl, excess?_int_eq_none_iff.mpr short⟩

theorem short_plainWhole {chars : List Char} {n : Int} (hlength : chars.length ≤ Text.mostDigits)
    (h : Numeral.plainWhole? chars = some n) : Short n := by
  unfold Numeral.plainWhole? at h
  split at h
  next negative body hbody =>
    have hle := Json.length_unsigned_le hbody
    dsimp only at h
    split at h
    · simp at h
    next hshape =>
      have hn : (Json.spanDigits body).1 ≠ [] := by
        intro he
        exact hshape (.inl (by simp [he]))
      have hdigits := Json.length_toDigits_ofDigits Json.mem_spanDigits_lt hn
      have hspan := (Json.length_spanDigits_le body).1
      obtain rfl := Option.some.inj h
      unfold Short
      cases negative <;> simp <;> omega

theorem short_whole? {text : String} {n : Int} (h : Numeral.whole? text = some n) : Short n := by
  unfold Numeral.whole? at h
  obtain ⟨plain, -, h⟩ := Option.bind_eq_some_iff.mp h
  obtain ⟨whole, -, h⟩ := Option.bind_eq_some_iff.mp h
  obtain ⟨chars, -, h⟩ := Option.bind_eq_some_iff.mp h
  split at h
  · simp at h
  next hlength => exact short_plainWhole (Nat.not_lt.mp hlength) h

theorem short_wholeOfReal? {x : Binary64} {n : Int} (h : wholeOfReal? x = some n) : Short n := by
  obtain ⟨-, hbounds⟩ := Option.filter_eq_some_iff.mp h
  obtain ⟨hlow, hhigh⟩ := Bool.and_eq_true_iff.mp hbounds
  have hlow : -wordBound < n := of_decide_eq_true hlow
  have hhigh : n < wordBound := of_decide_eq_true hhigh
  unfold wordBound at hlow hhigh
  exact short_of_lt 19 (by decide) (by decide) (by omega)

/-- What is read as an integer is short, if the value is one that a text can give. -/
theorem short_whole {json : Json} {n : Int} (h : whole json = .value n) {room : Nat}
    (held : Json.Held Text.mostDigits room json) : Short n := by
  cases json with
  | int value =>
    obtain rfl := Checked.value.inj h
    exact excess?_int_eq_none_iff.mp held.fits
  | bool value =>
    obtain rfl := Checked.value.inj h
    cases value <;> exact short_of_lt 1 (by decide) (by decide) (by decide)
  | float value => exact short_wholeOfReal? (Checked.ofOption_eq_value_iff.mp h)
  | str value => exact short_whole? (Checked.ofOption_eq_value_iff.mp h)
  | _ => simp [whole] at h

end Record

end Flowplan
