import Flowplan.Json.Reader
import Flowplan.Json.Writer
import Mathlib.Tactic.IntervalCases

namespace Flowplan

namespace Json

/-- Nothing follows a number, or a character that no number goes on with. -/
def EndsNumber (rest : List Char) : Prop :=
  ∀ c ∈ rest.head?, c.isDigit = false ∧ c ≠ '.' ∧ c ≠ 'e' ∧ c ≠ 'E'

/-- The digits in front of a point: a zero stands alone. -/
structure IsWhole (chars : List Char) : Prop where
  digits : ∀ c ∈ chars, c.isDigit
  nonempty : chars ≠ []
  lone_zero : chars.head? = some '0' → chars = ['0']

def digitValues (chars : List Char) : List Nat :=
  chars.map fun c => c.toNat - 0x30

theorem ofDigits_digitValues (chars : List Char) :
    Text.ofDigits (digitValues chars) = Nat.ofDigitChars 10 chars 0 := by
  rw [Text.ofDigits, digitValues, List.foldl_map, Nat.ofDigitChars_eq_foldl]
  rfl

theorem spanDigits_append {digits rest : List Char} (hd : ∀ c ∈ digits, c.isDigit)
    (hr : ∀ c ∈ rest.head?, c.isDigit = false) :
    spanDigits (digits ++ rest) = (digitValues digits, rest) := by
  have htake : (digits ++ rest).takeWhile Char.isDigit = digits := by
    rw [List.takeWhile_append_of_pos hd]
    cases rest with
    | nil => simp
    | cons c rest => simp [hr c (by simp)]
  have hdrop : (digits ++ rest).dropWhile Char.isDigit = rest := by
    rw [List.dropWhile_append_of_pos hd]
    cases rest with
    | nil => rfl
    | cons c rest => simp [hr c (by simp)]
  have hvalues : digits.filterMap Text.asciiDigit? = digitValues digits := by
    clear htake hdrop
    induction digits with
    | nil => rfl
    | cons c digits ih =>
      have hc := hd c (by simp)
      simp [digitValues, Text.asciiDigit?, hc, ih fun c hm => hd c (by simp [hm])]
  unfold spanDigits
  rw [htake, hdrop, hvalues]

theorem match_zero_of_ne {α : Type} {first : Char} (hz : first ≠ '0') (others : List Char)
    (zero : List Char → α) (other : α) :
    (match first :: others with
      | '0' :: rest => zero rest
      | _ => other) = other := by
  split
  next he => exact absurd (List.cons.inj he).1 hz
  next => rfl

theorem readNumber_whole (most : Nat) (negative : Bool) {digits rest : List Char}
    (whole : IsWhole digits) (hr : ∀ c ∈ rest.head?, c.isDigit = false) :
    readNumber most ((if negative then ['-'] else []) ++ digits ++ rest)
      = readMagnitude most negative (digitValues digits) rest := by
  obtain ⟨first, others, rfl⟩ := List.exists_cons_of_ne_nil whole.nonempty
  have hfirst := whole.digits first (by simp)
  have hspan := spanDigits_append whole.digits hr
  rw [List.cons_append] at hspan
  have hminus : first ≠ '-' := by
    rintro rfl
    simp at hfirst
  by_cases hz : first = '0'
  · obtain ⟨_, rfl⟩ := List.cons.inj (whole.lone_zero (by simp [hz]))
    subst hz
    cases negative <;> rfl
  · have hread : ∀ chars, (if (spanDigits (first :: (others ++ rest))).1.isEmpty
          then stop .value chars
          else readMagnitude most negative (spanDigits (first :: (others ++ rest))).1
            (spanDigits (first :: (others ++ rest))).2)
        = readMagnitude most negative (digitValues (first :: others)) rest := by
      intro chars
      simp [hspan, digitValues]
    cases negative with
    | true => exact (match_zero_of_ne hz _ _ _).trans (hread _)
    | false =>
      rw [← hread (first :: others ++ rest)]
      simp only [readNumber, Bool.false_eq_true, ↓reduceIte, List.nil_append, List.cons_append]
      split <;> simp_all

theorem readFraction_of_ends {rest : List Char} (ends : EndsNumber rest) :
    readFraction rest = ([], rest) := by
  cases rest with
  | nil => rfl
  | cons c rest =>
    have hc := ends c (by simp)
    simp only [readFraction]
    split <;> simp_all

theorem readExponent_of_ends {rest : List Char} (ends : EndsNumber rest) :
    readExponent rest = (none, rest) := by
  cases rest with
  | nil => rfl
  | cons c rest =>
    have hc := ends c (by simp)
    simp [readExponent, hc]

/-- The digits of a number other than zero. -/
structure IsSignificant (chars : List Char) : Prop where
  digits : ∀ c ∈ chars, c.isDigit
  nonempty : chars ≠ []
  head : chars.head? ≠ some '0'

theorem IsSignificant.isWhole {chars : List Char} (significant : IsSignificant chars) :
    IsWhole chars :=
  ⟨significant.digits, significant.nonempty, fun h => absurd h significant.head⟩

theorem isSignificant_toDigits {n : Nat} (hn : n ≠ 0) : IsSignificant (Nat.toDigits 10 n) where
  digits _ hm := Nat.isDigit_of_mem_toDigits (by decide) (by decide) hm
  nonempty := Nat.toDigits_ne_nil
  head := by
    induction n using Nat.strongRecOn with
    | ind n ih =>
      by_cases hlt : n < 10
      · rw [Nat.toDigits_of_lt_base hlt]
        interval_cases n <;> first | exact absurd rfl hn | decide
      · have hlast := ih (n / 10) (by omega) (by omega)
        obtain ⟨first, others, he⟩ :=
          List.exists_cons_of_ne_nil (Nat.toDigits_ne_nil (n := n / 10) (b := 10))
        rw [Nat.toDigits_of_base_le (by decide) (by omega), he]
        rw [he] at hlast
        simpa using hlast

theorem isWhole_zero : IsWhole ['0'] where
  digits := by simp
  nonempty := List.cons_ne_nil _ _
  lone_zero _ := rfl

theorem isWhole_toDigits (n : Nat) : IsWhole (Nat.toDigits 10 n) := by
  by_cases hn : n = 0
  · subst hn
    exact isWhole_zero
  · exact (isSignificant_toDigits hn).isWhole

theorem toList_toString (n : Int) :
    (toString n).toList
      = (if decide (n < 0) then ['-'] else []) ++ Nat.toDigits 10 n.natAbs := by
  cases n with
  | ofNat m => simp [ToString.toString, Int.repr]
  | negSucc m => simp [ToString.toString, Int.repr]

/-- An integer reads back, unless it has too many digits. -/
theorem readNumber_int (most : Nat) (n : Int) {rest : List Char} (ends : EndsNumber rest) :
    readNumber most ((toString n).toList ++ rest)
      = if most < (Nat.toDigits 10 n.natAbs).length
        then .error (.limit (.digits (Nat.toDigits 10 n.natAbs).length))
        else .ok (int n, rest) := by
  have hlength : (digitValues (Nat.toDigits 10 n.natAbs)).length
      = (Nat.toDigits 10 n.natAbs).length := by simp [digitValues]
  have hvalue : (if n < 0 then -(n.natAbs : Int) else n.natAbs) = n := by
    split <;> omega
  rw [toList_toString, readNumber_whole most _ (isWhole_toDigits _) fun c hc => (ends c hc).1]
  unfold readMagnitude
  simp only [readFraction_of_ends ends, readExponent_of_ends ends, hlength, ofDigits_digitValues,
    Nat.ofDigitChars_ten_toDigits, decide_eq_true_eq, hvalue]
  simp

end Json

end Flowplan
