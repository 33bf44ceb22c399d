import Flowplan.Blueprint.Schedule
import Flowplan.Proofs.Number.Bounds
import Flowplan.Proofs.Number.Sums
import Flowplan.Proofs.Record.Reading
import Flowplan.Proofs.Text.Words
import Mathlib.Algebra.Order.BigOperators.Group.List
import Mathlib.Data.List.TakeWhile
import Mathlib.Data.Nat.Digits.Defs

namespace Flowplan

namespace Text

theorem ofDigits_eq (digits : List Nat) : ofDigits digits = Nat.ofDigits 10 digits.reverse := by
  rw [ofDigits, Nat.ofDigits_eq_foldr, List.foldr_reverse]
  congr 1
  funext value digit
  exact Nat.add_comm _ _

theorem isBlank_of_digit {c : Char} {digit : Nat} (h : digitValue? c = some digit) :
    isBlank c = false := by
  have hapart : ∀ base ∈ digitZeros, ∀ range ∈ blankRanges,
      range.2 < base ∨ base + 10 ≤ range.1 := by decide
  obtain ⟨base, hfind, -⟩ := Option.map_eq_some_iff.mp h
  have hbase := List.find?_some hfind
  simp only [Bool.and_eq_true, decide_eq_true_eq] at hbase
  refine List.any_eq_false.mpr fun range hrange => ?_
  have := hapart base (List.mem_of_find?_eq_some hfind) range hrange
  simp only [Bool.and_eq_true, decide_eq_true_eq]
  omega

/-- Blanks, then the digits of a number, which no further digit follows. -/
def StartsWith (text : String) (digits : List Nat) : Prop :=
  digits ≠ [] ∧ ∃ blanks number rest, text.toList = blanks ++ number ++ rest ∧
    (∀ c ∈ blanks, isBlank c) ∧ number.map digitValue? = digits.map some ∧
    ∀ c ∈ rest.head?, digitValue? c = none

theorem map_takeWhile_isSome (digit? : Char → Option Nat) (chars : List Char) :
    (chars.takeWhile (digit? · |>.isSome)).map digit?
      = (leadingDigits digit? chars).map some := by
  unfold leadingDigits
  induction chars with
  | nil => rfl
  | cons c rest ih =>
    cases hc : digit? c with
    | none => simp [hc]
    | some digit => simpa [List.takeWhile_cons, hc] using ih

/-- The digits that a text starts with, none if it starts with no number. -/
def firstDigits (text : String) : List Nat :=
  leadingDigits digitValue? (text.toList.dropWhile isBlank)

theorem firstDigits_of_startsWith {text : String} {digits : List Nat}
    (h : StartsWith text digits) : firstDigits text = digits := by
  obtain ⟨hne, blanks, number, rest, htext, hblank, hnumber, hrest⟩ := h
  have hdigit : ∀ c ∈ number, (digitValue? c).isSome := by
    intro c hc
    obtain ⟨digit, -, he⟩ := List.mem_map.mp (hnumber ▸ List.mem_map_of_mem hc)
    exact he ▸ rfl
  have hdrop : text.toList.dropWhile isBlank = number ++ rest := by
    rw [htext, List.append_assoc, List.dropWhile_append_of_pos hblank]
    cases number with
    | nil => exact absurd (List.map_eq_nil_iff.mp hnumber.symm) hne
    | cons c others =>
      obtain ⟨digit, hc⟩ := Option.isSome_iff_exists.mp (hdigit c List.mem_cons_self)
      rw [List.cons_append, List.dropWhile_cons_of_neg (by rw [isBlank_of_digit hc]; decide)]
  have htake : (number ++ rest).takeWhile (digitValue? · |>.isSome) = number := by
    rw [List.takeWhile_append_of_pos hdigit]
    cases rest with
    | nil => simp
    | cons c others =>
      rw [List.takeWhile_cons_of_neg (by rw [hrest c rfl]; decide), List.append_nil]
  have hmap := map_takeWhile_isSome digitValue? (number ++ rest)
  rw [htake, hnumber] at hmap
  rw [firstDigits, hdrop]
  exact (List.map_injective_iff.mpr (Option.some_injective Nat) hmap).symm

theorem startsWith_firstDigits {text : String} (h : firstDigits text ≠ []) :
    StartsWith text (firstDigits text) := by
  refine ⟨h, text.toList.takeWhile isBlank,
    (text.toList.dropWhile isBlank).takeWhile (digitValue? · |>.isSome),
    (text.toList.dropWhile isBlank).dropWhile (digitValue? · |>.isSome), ?_,
    fun c hc => List.mem_takeWhile_imp hc, map_takeWhile_isSome _ _, ?_⟩
  · rw [List.append_assoc, List.takeWhile_append_dropWhile, List.takeWhile_append_dropWhile]
  · intro c hc
    have := List.head?_dropWhile_not (digitValue? · |>.isSome)
      (text.toList.dropWhile isBlank)
    rw [Option.mem_def.mp hc] at this
    simpa using this

theorem startsWith_iff {text : String} {digits : List Nat} :
    StartsWith text digits ↔ digits ≠ [] ∧ firstDigits text = digits := by
  constructor
  · exact fun h => ⟨h.1, firstDigits_of_startsWith h⟩
  · rintro ⟨hne, rfl⟩
    exact startsWith_firstDigits hne

end Text

namespace Schedule

open Text

/-- The number that a duration starts with, or another one if it starts with none. -/
def States (duration : String) (other number : Nat) : Prop :=
  (∃ digits, StartsWith duration digits ∧ number = Nat.ofDigits 10 digits.reverse) ∨
    (∀ digits, ¬StartsWith duration digits) ∧ number = other

/-- The days that a duration takes, by its unit and the number in front. -/
inductive Takes (duration : String) : Nat → Prop where
  | weeks {number : Nat} (unit : Holds duration "week") (states : States duration 1 number) :
    Takes duration (5 * number)
  | days {number : Nat} (noWeeks : ¬Holds duration "week") (unit : Holds duration "day")
    (states : States duration 3 number) : Takes duration number
  | unknown (noWeeks : ¬Holds duration "week") (noDays : ¬Holds duration "day") :
    Takes duration 5

/-- The number in front of the unit has more digits than the text of a number may have. -/
def Overlong (duration : String) : Prop :=
  (Holds duration "week" ∨ Holds duration "day") ∧
    ∃ digits, StartsWith duration digits ∧ mostDigits < digits.length

/-- The number in front, however many digits it has. -/
def statedNumber (duration : String) (other : Nat) : Nat :=
  if firstDigits duration = [] then other else ofDigits (firstDigits duration)

def takenDays (duration : String) : Nat :=
  if mentions duration "week" then 5 * statedNumber duration 1
  else if mentions duration "day" then statedNumber duration 3
  else 5

theorem states_iff {duration : String} {other number : Nat} :
    States duration other number ↔ statedNumber duration other = number := by
  unfold States statedNumber
  by_cases h : firstDigits duration = []
  · have hnone : ∀ digits, ¬StartsWith duration digits :=
      fun digits hs => hs.1 ((firstDigits_of_startsWith hs).symm.trans h)
    simp [h, hnone, eq_comm]
  · simp only [startsWith_iff, if_neg h, ofDigits_eq]
    constructor
    · rintro (⟨digits, ⟨-, rfl⟩, rfl⟩ | ⟨hnone, -⟩)
      · rfl
      · exact absurd ⟨h, rfl⟩ (hnone _)
    · rintro rfl
      exact .inl ⟨_, ⟨h, rfl⟩, rfl⟩

theorem takes_iff {duration : String} {number : Nat} :
    Takes duration number ↔ takenDays duration = number := by
  unfold takenDays
  simp only [mentions_iff]
  constructor
  · rintro (⟨hweek, hstates⟩ | ⟨hweek, hday, hstates⟩ | ⟨hweek, hday⟩)
    · rw [if_pos hweek, states_iff.mp hstates]
    · rw [if_neg hweek, if_pos hday, states_iff.mp hstates]
    · rw [if_neg hweek, if_neg hday]
  · rintro rfl
    split_ifs with hweek hday
    · exact .weeks hweek (states_iff.mpr rfl)
    · exact .days hweek hday (states_iff.mpr rfl)
    · exact .unknown hweek hday

theorem forall₂_takes_iff {durations : List String} {counts : List Nat} :
    List.Forall₂ Takes durations counts ↔ durations.map takenDays = counts := by
  have htakes : Takes = fun duration number => takenDays duration = number := by
    funext duration number
    exact propext takes_iff
  rw [htakes, ← List.forall₂_eq_eq_eq, List.forall₂_map_left_iff]

theorem leadingNumber_eq (duration : String) (other : Nat) :
    leadingNumber duration other =
      if mostDigits < (firstDigits duration).length then
        .error (.limit (.digits (firstDigits duration).length))
      else .ok (statedNumber duration other) := by
  change (if (firstDigits duration).isEmpty then Except.ok other
    else if mostDigits < (firstDigits duration).length then
      Except.error (Fault.limit (.digits (firstDigits duration).length))
    else .ok (ofDigits (firstDigits duration))) = _
  unfold statedNumber
  by_cases h : firstDigits duration = []
  · simp [h]
  · simp [h]

theorem overlong_iff {duration : String} :
    Overlong duration ↔ (mentions duration "week" ∨ mentions duration "day") ∧
      mostDigits < (firstDigits duration).length := by
  simp only [Overlong, mentions_iff, startsWith_iff]
  refine and_congr_right fun _ => ⟨?_, fun h => ?_⟩
  · rintro ⟨digits, ⟨-, rfl⟩, h⟩
    exact h
  · exact ⟨_, ⟨List.ne_nil_of_length_pos (by omega), rfl⟩, h⟩

theorem days_of_not_overlong {duration : String} (h : ¬Overlong duration) :
    days duration = .ok (takenDays duration) := by
  have hshort : mentions duration "week" ∨ mentions duration "day" →
      ¬mostDigits < (firstDigits duration).length :=
    fun hunit hlong => h (overlong_iff.mpr ⟨hunit, hlong⟩)
  unfold days takenDays
  split_ifs with hweek hday
  · rw [leadingNumber_eq, if_neg (hshort (.inl hweek)), Nat.mul_comm]
    rfl
  · rw [leadingNumber_eq, if_neg (hshort (.inr hday))]
  · rfl

theorem days_of_overlong {duration : String} (h : Overlong duration) :
    days duration = .error (.limit (.digits (firstDigits duration).length)) := by
  obtain ⟨hunit, hlong⟩ := overlong_iff.mp h
  unfold days
  split_ifs with hweek hday
  · rw [leadingNumber_eq, if_pos hlong]
    rfl
  · rw [leadingNumber_eq, if_pos hlong]
  · exact absurd hunit (not_or.mpr ⟨hweek, hday⟩)

theorem totalTime_of_overlong {durations : List String} {duration : String}
    (hm : duration ∈ durations) (h : Overlong duration) :
    ∃ count, totalTime durations = .error (.limit (.digits count)) := by
  cases hdays : durations.mapM days with
  | ok counts =>
    obtain ⟨count, -, hcount⟩ := exists_mem_of_forall₂ (mapM_eq_ok_iff.mp hdays).flip hm
    cases (days_of_overlong h).symm.trans hcount
  | error fault =>
    obtain ⟨before, first, after, -, -, hfault⟩ := mapM_eq_error_iff.mp hdays
    have hfirst : Overlong first := by
      by_contra hreadable
      cases (days_of_not_overlong hreadable).symm.trans hfault
    cases (days_of_overlong hfirst).symm.trans hfault
    exact ⟨_, map_eq_error_iff.mpr (bind_eq_error_iff.mpr (.inl hdays))⟩

/-- Weeks of five days that have as many days as the durations take, and no week more. -/
def WeeksFor (durations : List String) (count : Nat) : Prop :=
  IsLeast {weeks : Nat | (durations.map takenDays).sum ≤ 5 * weeks} count

theorem exists_totalTime {durations : List String}
    (readable : ∀ duration ∈ durations, ¬Overlong duration)
    (few : (durations.map takenDays).sum < 2 ^ 53) :
    ∃ count : Nat, totalTime durations = .ok s!"{count} weeks" ∧ WeeksFor durations count := by
  have hdays : durations.mapM days = .ok (durations.map takenDays) := by
    rw [mapM_eq_ok_iff, List.forall₂_map_right_iff, List.forall₂_same]
    exact fun duration hm => days_of_not_overlong (readable duration hm)
  obtain ⟨count, hcount, hleast⟩ :=
    Figure.exists_ceiling_quotient (b := 5) (by norm_num) (by norm_num) few
  refine ⟨count, ?_, ?_⟩
  · refine map_eq_ok_iff.mpr ⟨count, bind_eq_ok_iff.mpr ⟨_, hdays, ?_⟩, rfl⟩
    rw [Number.total_eq_sum]
    exact hcount
  · simpa only [WeeksFor, Nat.mul_comm 5] using hleast

theorem WeeksFor.le {durations others : List String} {count more : Nat}
    (h : WeeksFor durations count) (h' : WeeksFor others more)
    (hle : (durations.map takenDays).sum ≤ (others.map takenDays).sum) : count ≤ more :=
  h.2 (hle.trans h'.1)

theorem WeeksFor.append {before after : List String} {first second count : Nat}
    (hbefore : WeeksFor before first) (hafter : WeeksFor after second)
    (h : WeeksFor (before ++ after) count) : count ≤ first + second := by
  have hl : (before.map takenDays).sum ≤ 5 * first := hbefore.1
  have hr : (after.map takenDays).sum ≤ 5 * second := hafter.1
  have hsum : ((before ++ after).map takenDays).sum ≤ 5 * (first + second) := by
    rw [List.map_append, List.sum_append]
    omega
  exact h.2 hsum

/-- Durations that can be read take the least number of weeks that has all their days. This number
does not depend on their order, it does not fall when durations are added, and it is at most the sum
of those of two parts. A number of too many digits in front of a unit is the only thing that cannot
be read. -/
theorem totalTime_least (durations : List String) :
    ∃ counts : List Nat,
      (∀ others, List.Forall₂ Takes durations others ↔ others = counts) ∧
      ((∃ duration ∈ durations, Overlong duration) →
        ∃ digits, totalTime durations = .error (.limit (.digits digits))) ∧
      ((∀ duration ∈ durations, ¬Overlong duration) → counts.sum < 2 ^ 53 →
        ∃ count : Nat, totalTime durations = .ok s!"{count} weeks" ∧
          IsLeast {weeks : Nat | counts.sum ≤ 5 * weeks} count ∧
          (∀ others, others.Perm durations → totalTime others = totalTime durations) ∧
          (∀ fewer, fewer.Sublist durations →
            ∃ less ≤ count, totalTime fewer = .ok s!"{less} weeks") ∧
          ∀ before after, durations = before ++ after → ∃ first second : Nat,
            totalTime before = .ok s!"{first} weeks" ∧
              totalTime after = .ok s!"{second} weeks" ∧ count ≤ first + second) := by
  refine ⟨durations.map takenDays, fun others => forall₂_takes_iff.trans eq_comm, ?_, ?_⟩
  · rintro ⟨duration, hm, h⟩
    exact totalTime_of_overlong hm h
  intro readable few
  have hpart : ∀ part : List String, part.Sublist durations → ∃ less : Nat,
      totalTime part = .ok s!"{less} weeks" ∧ WeeksFor part less ∧
        (part.map takenDays).sum ≤ (durations.map takenDays).sum := by
    intro part hsub
    have hsum := (hsub.map takenDays).sum_le_sum fun _ _ => Nat.zero_le _
    obtain ⟨less, hless, hweeks⟩ := exists_totalTime
      (fun duration hm => readable duration (hsub.subset hm)) (hsum.trans_lt few)
    exact ⟨less, hless, hweeks, hsum⟩
  obtain ⟨count, hcount, hweeks⟩ := exists_totalTime readable few
  refine ⟨count, hcount, hweeks, ?_, ?_, ?_⟩
  · intro others perm
    have hsum := (perm.map takenDays).sum_eq
    obtain ⟨other, hother, hsame⟩ := exists_totalTime
      (fun duration hm => readable duration (perm.mem_iff.mp hm)) (hsum.trans_lt few)
    have he : other = count := le_antisymm (hsame.le hweeks hsum.le) (hweeks.le hsame hsum.ge)
    rw [hother, hcount, he]
  · intro fewer hsub
    obtain ⟨less, hless, hfewer, hsum⟩ := hpart fewer hsub
    exact ⟨less, hfewer.le hweeks hsum, hless⟩
  · rintro before after rfl
    obtain ⟨first, hfirst, hbefore, -⟩ := hpart before (List.sublist_append_left before after)
    obtain ⟨second, hsecond, hafter, -⟩ := hpart after (List.sublist_append_right before after)
    exact ⟨first, second, hfirst, hsecond, hbefore.append hafter hweeks⟩

theorem totalTime_least_mixed :
    (∀ duration ∈ ["2-3 weeks", "3 or 4 days", "a day or two", "soon"], ¬Overlong duration) ∧
      ∃ count : Nat, totalTime ["2-3 weeks", "3 or 4 days", "a day or two", "soon"]
        = .ok s!"{count} weeks" ∧ IsLeast {weeks : Nat | 21 ≤ 5 * weeks} count := by
  have readable : ∀ duration ∈ ["2-3 weeks", "3 or 4 days", "a day or two", "soon"],
      ¬Overlong duration := by
    simp only [overlong_iff]
    decide +kernel
  obtain ⟨counts, hcounts, -, htime⟩ :=
    totalTime_least ["2-3 weeks", "3 or 4 days", "a day or two", "soon"]
  have hdays : [10, 3, 3, 5] = counts :=
    (hcounts _).mp (forall₂_takes_iff.mpr (by decide +kernel))
  obtain ⟨count, hcount, hleast, -⟩ := htime readable (by rw [← hdays]; decide)
  rw [← hdays] at hleast
  exact ⟨readable, count, hcount, hleast⟩

/-- No week at all, in many digits. -/
def zeroWeeks (count : Nat) : String :=
  String.ofList (List.replicate count '0' ++ " week".toList)

theorem holds_zeroWeeks (count : Nat) : Holds (zeroWeeks count) "week" := by
  refine ⟨List.replicate count '0' ++ [' '], [], ?_⟩
  rw [zeroWeeks, @String.toList_ofList (_ ++ _), List.append_nil, List.append_assoc]
  rfl

theorem startsWith_zeroWeeks {count : Nat} (h : 0 < count) :
    StartsWith (zeroWeeks count) (List.replicate count 0) := by
  refine ⟨List.ne_nil_of_length_pos (by rwa [List.length_replicate]), [],
    List.replicate count '0', " week".toList, ?_, by simp, ?_, fun c hc => ?_⟩
  · rw [zeroWeeks, String.toList_ofList, List.nil_append]
  · rw [List.map_replicate, List.map_replicate]
    rfl
  · obtain rfl : ' ' = c := Option.some.inj hc
    decide

theorem takes_zeroWeeks {count : Nat} (h : 0 < count) : Takes (zeroWeeks count) (5 * 0) := by
  refine .weeks (holds_zeroWeeks count) (.inl ⟨_, startsWith_zeroWeeks h, ?_⟩)
  rw [List.reverse_replicate, Nat.ofDigits_replicate_zero]

theorem totalTime_zeroWeeks {count : Nat} (h : mostDigits < count) :
    totalTime [zeroWeeks count] = .error (.limit (.digits count)) := by
  have hstarts := startsWith_zeroWeeks (Nat.zero_lt_of_lt h)
  have hlong : Overlong (zeroWeeks count) :=
    ⟨.inl (holds_zeroWeeks count), _, hstarts, by rwa [List.length_replicate]⟩
  refine map_eq_error_iff.mpr (bind_eq_error_iff.mpr (.inl (bind_eq_error_iff.mpr (.inl ?_))))
  rw [days_of_overlong hlong, firstDigits_of_startsWith hstarts, List.length_replicate]

/-- A duration is not read in too many digits, not even one of no time at all. -/
theorem totalTime_overlong :
    List.Forall₂ Takes [zeroWeeks 4301] [0] ∧ [0].sum < 2 ^ 50 ∧
      totalTime [zeroWeeks 4301] = .error (.limit (.digits 4301)) ∧
      ∀ count : Nat, totalTime [zeroWeeks 4301] ≠ .ok s!"{count} weeks" := by
  have hfault : totalTime [zeroWeeks 4301] = .error (.limit (.digits 4301)) :=
    totalTime_zeroWeeks (by decide)
  refine ⟨.cons (takes_zeroWeeks (by decide)) .nil, by decide, hfault, fun count h => ?_⟩
  cases hfault.symm.trans h

end Schedule

end Flowplan
