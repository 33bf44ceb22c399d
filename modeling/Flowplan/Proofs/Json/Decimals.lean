import Flowplan.Proofs.Json.Integers
import Flowplan.Proofs.Number.Doubles

namespace Flowplan

namespace Json

open Binary64 Number

/-- Behind a sign or none, the characters read as the double nearest to a value. -/
def Spells (chars : List Char) (value : Rat) : Prop :=
  ∀ most negative rest, EndsNumber rest →
    readNumber most ((if negative then ['-'] else []) ++ chars ++ rest)
      = .ok (float (signed negative (ofRat value)), rest)

theorem readFraction_point {fraction rest : List Char} (hd : ∀ c ∈ fraction, c.isDigit)
    (hn : fraction ≠ []) (hr : ∀ c ∈ rest.head?, c.isDigit = false) :
    readFraction ('.' :: (fraction ++ rest)) = (digitValues fraction, rest) := by
  simp [readFraction, spanDigits_append hd hr, digitValues, hn]

theorem readExponent_power (down : Bool) {power rest : List Char} (hd : ∀ c ∈ power, c.isDigit)
    (hn : power ≠ []) (hr : ∀ c ∈ rest.head?, c.isDigit = false) :
    readExponent ('e' :: (if down then '-' else '+') :: (power ++ rest))
      = (some ((if down then -1 else 1) * (Nat.ofDigitChars 10 power 0 : Int)), rest) := by
  have hempty : (digitValues power).isEmpty = false := by simp [digitValues, hn]
  cases down <;>
    simp [readExponent, spanDigits_append hd hr, hempty, ofDigits_digitValues]

theorem digitValues_append (first second : List Char) :
    digitValues first ++ digitValues second = digitValues (first ++ second) :=
  List.map_append.symm

theorem not_isEmpty_digitValues {chars : List Char} (hn : chars ≠ []) :
    ¬(digitValues chars).isEmpty := by
  simpa [digitValues] using hn

theorem spells_point {whole fraction : List Char} (hw : IsWhole whole)
    (hd : ∀ c ∈ fraction, c.isDigit) (hn : fraction ≠ []) :
    Spells (whole ++ '.' :: fraction)
      (Nat.ofDigitChars 10 (whole ++ fraction) 0 * 10 ^ (-fraction.length : Int)) := by
  intro most negative rest ends
  have hpoint : ∀ c ∈ ('.' :: (fraction ++ rest)).head?, c.isDigit = false := by simp
  have hlength : (digitValues fraction).length = fraction.length := by simp [digitValues]
  have hread := readNumber_whole most negative hw hpoint
  rw [List.append_assoc, List.append_assoc, List.cons_append, ← List.append_assoc, hread]
  unfold readMagnitude
  simp only [readFraction_point hd hn fun c hc => (ends c hc).1, readExponent_of_ends ends]
  rw [if_neg fun h => not_isEmpty_digitValues hn h.1, digitValues_append, ofDigits_digitValues,
    ofDecimal_eq, hlength, Option.getD_none, zero_sub]

theorem spells_power {whole fraction power : List Char} (down : Bool) (hw : IsWhole whole)
    (hd : ∀ c ∈ fraction, c.isDigit) (hp : ∀ c ∈ power, c.isDigit) (hn : power ≠ []) :
    Spells (whole ++ (if fraction.isEmpty then [] else '.' :: fraction)
        ++ 'e' :: (if down then '-' else '+') :: power)
      (Nat.ofDigitChars 10 (whole ++ fraction) 0
        * 10 ^ ((if down then -1 else 1) * (Nat.ofDigitChars 10 power 0 : Int)
          - fraction.length)) := by
  intro most negative rest ends
  have hmark : ∀ c ∈ ('e' :: (if down then '-' else '+') :: (power ++ rest)).head?,
      c.isDigit = false := by simp
  have hlength : (digitValues fraction).length = fraction.length := by simp [digitValues]
  have hfraction : readFraction ((if fraction.isEmpty then [] else '.' :: fraction)
      ++ 'e' :: (if down then '-' else '+') :: (power ++ rest))
      = (digitValues fraction, 'e' :: (if down then '-' else '+') :: (power ++ rest)) := by
    cases fraction with
    | nil => rfl
    | cons c fraction => exact readFraction_point hd (by simp) hmark
  have hpoint : ∀ c ∈ ((if fraction.isEmpty then [] else '.' :: fraction)
      ++ 'e' :: (if down then '-' else '+') :: (power ++ rest)).head?, c.isDigit = false := by
    cases fraction <;> simp
  have hread := readNumber_whole most negative hw hpoint
  simp only [List.append_assoc, List.cons_append] at hread ⊢
  rw [hread]
  unfold readMagnitude
  simp only [hfraction, readExponent_power down hp hn fun c hc => (ends c hc).1]
  rw [if_neg (by simp), digitValues_append, ofDigits_digitValues, ofDecimal_eq, hlength,
    Option.getD_some]

theorem Spells.of_eq {chars : List Char} {value other : Rat} (spells : Spells chars value)
    (h : value = other) : Spells chars other :=
  h ▸ spells

theorem isDigit_of_mem_replicate {count : Nat} : ∀ c ∈ List.replicate count '0', c.isDigit := by
  intro c hc
  rw [List.eq_of_mem_replicate hc]
  rfl

theorem ofDigitChars_lone_zero (n : Nat) : Nat.ofDigitChars 10 ['0'] n = n * 10 := by
  simp [Nat.ofDigitChars_cons, Nat.mul_comm]

section Layouts

variable {chars : List Char} (significant : IsSignificant chars)

include significant

theorem spells_below_one (count : Nat) :
    Spells ('0' :: '.' :: (List.replicate count '0' ++ chars))
      (Nat.ofDigitChars 10 chars 0 * 10 ^ (-(count + chars.length) : Int)) := by
  have hdigits : ∀ c ∈ List.replicate count '0' ++ chars, c.isDigit := by
    intro c hc
    rcases List.mem_append.mp hc with hz | hm
    · exact isDigit_of_mem_replicate c hz
    · exact significant.digits c hm
  have hvalue : Nat.ofDigitChars 10 (['0'] ++ (List.replicate count '0' ++ chars)) 0
      = Nat.ofDigitChars 10 chars 0 := by
    rw [Nat.ofDigitChars_append, ofDigitChars_lone_zero, Nat.ofDigitChars_append,
      Nat.ofDigitChars_replicate_zero, Nat.zero_mul, Nat.mul_zero]
  refine (spells_point isWhole_zero hdigits (by simp [significant.nonempty])).of_eq ?_
  rw [hvalue, List.length_append, List.length_replicate, Nat.cast_add]

theorem spells_integer (count : Nat) :
    Spells (chars ++ (List.replicate count '0' ++ ['.', '0']))
      (Nat.ofDigitChars 10 chars 0 * 10 ^ (count : Int)) := by
  have hwhole : IsSignificant (chars ++ List.replicate count '0') := by
    refine ⟨?_, by simp [significant.nonempty], ?_⟩
    · intro c hc
      rcases List.mem_append.mp hc with hm | hz
      · exact significant.digits c hm
      · exact isDigit_of_mem_replicate c hz
    · rw [List.head?_append_of_ne_nil _ significant.nonempty]
      exact significant.head
  have hspells := spells_point hwhole.isWhole isWhole_zero.digits (by decide)
  rw [List.append_assoc] at hspells
  refine hspells.of_eq ?_
  have hten : (10 : Rat) ^ (-1 : Int) = 1 / 10 := by norm_num
  rw [Nat.ofDigitChars_append, Nat.ofDigitChars_append, Nat.ofDigitChars_replicate_zero,
    ofDigitChars_lone_zero, List.length_singleton, Nat.cast_one, hten, zpow_natCast]
  push_cast
  ring

theorem spells_split (count : Nat) (hpos : 0 < count) (hlt : count < chars.length) :
    Spells (chars.take count ++ '.' :: chars.drop count)
      (Nat.ofDigitChars 10 chars 0 * 10 ^ ((count : Int) - chars.length)) := by
  have hwhole : IsSignificant (chars.take count) := by
    refine ⟨fun c hc => significant.digits c (List.mem_of_mem_take hc), ?_, ?_⟩
    · simp [significant.nonempty, hpos.ne']
    · rw [List.head?_take, if_neg hpos.ne']
      exact significant.head
  refine (spells_point hwhole.isWhole
    (fun c hc => significant.digits c (List.mem_of_mem_drop hc)) (by simpa using hlt)).of_eq ?_
  rw [List.take_append_drop, List.length_drop]
  congr 2
  omega

theorem spells_scientific (down : Bool) (power : Nat) :
    Spells (chars.take 1 ++ (if (chars.drop 1).isEmpty then [] else '.' :: chars.drop 1)
        ++ 'e' :: (if down then '-' else '+')
          :: ((if power < 10 then ['0'] else []) ++ Nat.toDigits 10 power))
      (Nat.ofDigitChars 10 chars 0
        * 10 ^ ((if down then -1 else 1) * (power : Int) + 1 - chars.length)) := by
  have hwhole : IsSignificant (chars.take 1) := by
    refine ⟨fun c hc => significant.digits c (List.mem_of_mem_take hc), ?_, ?_⟩
    · simp [significant.nonempty]
    · rw [List.head?_take, if_neg one_ne_zero]
      exact significant.head
  have hdigits : ∀ c ∈ (if power < 10 then ['0'] else []) ++ Nat.toDigits 10 power,
      c.isDigit := by
    intro c hc
    rcases List.mem_append.mp hc with hz | hm
    · split at hz <;> simp_all
    · exact (isWhole_toDigits power).digits c hm
  have hvalue : Nat.ofDigitChars 10 ((if power < 10 then ['0'] else []) ++ Nat.toDigits 10 power) 0
      = power := by
    rw [Nat.ofDigitChars_append]
    split
    · rw [ofDigitChars_lone_zero, Nat.zero_mul, Nat.ofDigitChars_ten_toDigits]
    · rw [Nat.ofDigitChars_nil, Nat.ofDigitChars_ten_toDigits]
  have hlength : 0 < chars.length := List.length_pos_iff.mpr significant.nonempty
  refine (spells_power down hwhole.isWhole
    (fun c hc => significant.digits c (List.mem_of_mem_drop hc)) hdigits (by simp)).of_eq ?_
  rw [List.take_append_drop, List.length_drop, hvalue]
  congr 2
  omega

end Layouts

theorem spells_text {d : Decimal} (hd : d.digits ≠ 0) : Spells d.text.toList d.value := by
  have hn := dropZeros_digits_ne_zero d.digits.log2 hd
  rw [← dropZeros_value d.digits.log2 d]
  unfold Decimal.text
  generalize dropZeros d.digits.log2 d = d at hn ⊢
  obtain ⟨n, exponent⟩ := d
  dsimp only at hn ⊢
  have significant := isSignificant_toDigits hn
  have hlength : (toString n).length = (Nat.toDigits 10 n).length := by
    simp [← String.length_toList]
  have hvalue : ∀ k : Int, k = exponent →
      (Nat.ofDigitChars 10 (Nat.toDigits 10 n) 0 : Rat) * 10 ^ k = Decimal.value ⟨n, exponent⟩ := by
    rintro _ rfl
    rw [Nat.ofDigitChars_ten_toDigits]
    rfl
  rw [hlength]
  split
  · split
    · have spells := spells_below_one significant
        (-(exponent + (Nat.toDigits 10 n).length)).toNat
      rw [hvalue _ (by omega)] at spells
      simpa [zeros] using spells
    split
    · have spells := spells_integer significant
        ((exponent + (Nat.toDigits 10 n).length).toNat - (Nat.toDigits 10 n).length)
      rw [hvalue _ (by omega)] at spells
      simpa [zeros] using spells
    · have spells := spells_split significant
        (exponent + (Nat.toDigits 10 n).length).toNat (by omega) (by omega)
      rw [hvalue _ (by omega)] at spells
      simpa using spells
  · have spells := spells_scientific significant
      (decide (exponent + (Nat.toDigits 10 n).length < 1))
      (exponent + (Nat.toDigits 10 n).length - 1).natAbs
    rw [hvalue _ (by
      simp only [decide_eq_true_eq]
      split <;> omega)] at spells
    have hempty : ((toString n).drop 1).toString.isEmpty
        = ((Nat.toDigits 10 n).drop 1).isEmpty := by
      rw [Bool.eq_iff_iff, String.isEmpty_iff, ← String.toList_eq_nil_iff, List.isEmpty_iff]
      simp
    rw [hempty]
    simp only [decide_eq_true_eq] at spells
    split_ifs at spells ⊢ <;> simpa using spells

theorem spells_zero : Spells ['0', '.', '0'] 0 := by
  refine (spells_point isWhole_zero isWhole_zero.digits (by decide)).of_eq ?_
  norm_num [Nat.ofDigitChars_cons]

/-- The text of a double other than the infinite ones and the one that is no number. -/
theorem readNumber_text (most : Nat) {x : Binary64} (double : x.IsDouble)
    (hx : x.value?.isSome) {rest : List Char} (ends : EndsNumber rest) :
    readNumber most (x.text.toList ++ rest) = .ok (float x, rest) := by
  have hzero : ofRat 0 = .finite 0 := ofRat_of_tiny le_rfl (two_zpow_pos _)
  cases x with
  | nan => simp [value?] at hx
  | infinity negative => simp [value?] at hx
  | negativeZero =>
    have hread := spells_zero most true rest ends
    rw [hzero] at hread
    simpa [text, signed] using hread
  | finite q =>
    by_cases hq : q = 0
    · subst hq
      have hread := spells_zero most false rest ends
      rw [hzero] at hread
      simpa [text, signed] using hread
    have habs : (Binary64.finite |q|).IsDouble := by
      rcases abs_choice q with h | h <;> rw [h]
      · exact double
      · exact ⟨double.1.neg, by rw [abs_neg]; exact double.2⟩
    have hshort := shortest_toBinary64 habs (abs_pos.mpr hq)
    have hdigits : (shortest |q|).digits ≠ 0 := by
      intro h
      rw [Decimal.toBinary64, h, ofDecimal, if_pos rfl] at hshort
      exact hq (abs_eq_zero.mp (Binary64.finite.inj hshort).symm)
    rw [Decimal.toBinary64_eq] at hshort
    have hread := spells_text hdigits most (decide (q < 0)) rest ends
    rw [hshort] at hread
    have hsigned : signed (decide (q < 0)) (.finite |q|) = .finite q := by
      rcases lt_or_gt_of_ne hq with hneg | hpos
      · simp [signed, hneg, hq, abs_of_neg hneg]
      · simp [signed, not_lt.mpr hpos.le, abs_of_pos hpos]
    rw [hsigned] at hread
    rw [Binary64.text, if_neg hq, ratAbs_eq, ← hread]
    by_cases hneg : q < 0 <;> simp [hneg]

end Json

end Flowplan
