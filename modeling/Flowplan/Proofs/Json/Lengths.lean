import Flowplan.Proofs.Json.Strings

namespace Flowplan

namespace Json

theorem length_skipSpace_le (chars : List Char) : (skipSpace chars).length ≤ chars.length :=
  (List.dropWhile_sublist _).length_le

theorem length_spanDigits_le (chars : List Char) :
    (spanDigits chars).1.length ≤ chars.length ∧ (spanDigits chars).2.length ≤ chars.length :=
  ⟨Nat.le_trans (List.length_filterMap_le _ _) (List.takeWhile_sublist _).length_le,
    (List.dropWhile_sublist _).length_le⟩

theorem length_readFraction_le (chars : List Char) :
    (readFraction chars).2.length ≤ chars.length := by
  unfold readFraction
  split
  next rest =>
    have := (length_spanDigits_le rest).2
    split <;> simp only [List.length_cons] <;> omega
  next => exact Nat.le_refl _

theorem length_readExponent_le (chars : List Char) :
    (readExponent chars).2.length ≤ chars.length := by
  have hsigned : ∀ (sign : Int) (rest : List Char), rest.length ≤ chars.length →
      (if (spanDigits rest).1.isEmpty then (none, chars)
        else (some (sign * Text.ofDigits (spanDigits rest).1), (spanDigits rest).2)).2.length
        ≤ chars.length := by
    intro sign rest hrest
    have := (length_spanDigits_le rest).2
    split <;> dsimp only <;> omega
  unfold readExponent
  dsimp only
  split
  · split
    · split
      · exact hsigned _ _ (by simp only [List.length_cons]; omega)
      · exact hsigned _ _ (by simp only [List.length_cons]; omega)
      · exact hsigned _ _ (by simp only [List.length_cons]; omega)
    · exact Nat.le_refl _
  · exact Nat.le_refl _

/-- The reading meets no limit, and what it leaves is no longer than the characters. -/
def Finishes {α : Type} (chars : List Char) (read : Except Stop (α × List Char)) : Prop :=
  (∃ flaw left, read = .error (.flaw flaw left)) ∨
    ∃ a rest, read = .ok (a, rest) ∧ rest.length ≤ chars.length

theorem finishes_stop {α : Type} (chars : List Char) (flaw : Flaw) (rest : List Char) :
    Finishes chars (stop flaw rest : Read α) :=
  .inl ⟨flaw, rest.length, rfl⟩

theorem finishes_ok {α : Type} (a : α) {rest chars : List Char} (h : rest.length ≤ chars.length) :
    Finishes chars (.ok (a, rest)) :=
  .inr ⟨a, rest, rfl, h⟩

theorem Finishes.of_le {α : Type} {shorter chars : List Char} {read : Except Stop (α × List Char)}
    (finishes : Finishes shorter read) (h : shorter.length ≤ chars.length) :
    Finishes chars read := by
  rcases finishes with hflaw | ⟨a, rest, hread, hrest⟩
  · exact .inl hflaw
  · exact .inr ⟨a, rest, hread, Nat.le_trans hrest h⟩

theorem Finishes.map {α β : Type} {chars : List Char} {read : Except Stop (α × List Char)}
    (finishes : Finishes chars read) (f : α → β) :
    Finishes chars (read.map fun read => (f read.1, read.2)) := by
  rcases finishes with ⟨flaw, left, rfl⟩ | ⟨a, rest, rfl, hrest⟩
  · exact .inl ⟨flaw, left, rfl⟩
  · exact finishes_ok (f a) hrest

theorem Finishes.bind {α β : Type} {chars : List Char} {read : Except Stop (α × List Char)}
    {f : α × List Char → Except Stop (β × List Char)} (finishes : Finishes chars read)
    (h : ∀ a rest, rest.length ≤ chars.length → Finishes chars (f (a, rest))) :
    Finishes chars (read >>= f) := by
  rcases finishes with ⟨flaw, left, rfl⟩ | ⟨a, rest, rfl, hrest⟩
  · exact .inl ⟨flaw, left, rfl⟩
  · exact h a rest hrest

theorem finishes_readString (start : Nat) (chars : List Char) :
    Finishes chars (readString start chars) := by
  fun_induction readString start chars
  case case2 => exact finishes_ok [] (by simp)
  case case5 ih | case6 ih | case7 ih | case10 ih | case13 ih =>
    exact (ih.map _).of_le (by simp only [List.length_cons]; omega)
  all_goals exact .inl ⟨_, _, rfl⟩

theorem finishes_readMagnitude {most : Nat} (negative : Bool) {digits : List Nat}
    (hd : digits.length ≤ most) (rest : List Char) :
    Finishes rest (readMagnitude most negative digits rest) := by
  have hfraction := length_readFraction_le rest
  have hexponent := length_readExponent_le (readFraction rest).2
  have hrest := Nat.le_trans hexponent hfraction
  unfold readMagnitude
  dsimp only
  split
  · rw [if_neg (Nat.not_lt.mpr hd)]
    exact finishes_ok _ hrest
  · exact finishes_ok _ hrest

/-- What stands behind a sign, or all of an unsigned text, is no longer than the text. -/
theorem length_unsigned_le {chars body : List Char} {negative : Bool}
    (h : (match chars with
      | '-' :: rest => (true, rest)
      | _ => (false, chars)) = (negative, body)) : body.length ≤ chars.length := by
  split at h
  · obtain ⟨-, rfl⟩ := Prod.mk.inj h
    simp
  · obtain ⟨-, rfl⟩ := Prod.mk.inj h
    exact Nat.le_refl _

theorem finishes_readNumber {most : Nat} {chars : List Char} (h : chars.length ≤ most) :
    Finishes chars (readNumber most chars) := by
  unfold readNumber
  split
  next negative body hbody =>
    have hlength := length_unsigned_le hbody
    split
    next rest =>
      simp only [List.length_cons] at hlength
      have hd : [0].length ≤ most := by
        rw [List.length_singleton]
        omega
      exact (finishes_readMagnitude negative hd rest).of_le (by omega)
    next =>
      have hspan := length_spanDigits_le body
      split
      · exact finishes_stop _ _ _
      · exact (finishes_readMagnitude negative (by omega) _).of_le (by omega)

/-- A reader meets no limit that is as wide as the text is long. -/
structure FinishesWith (most fuel : Nat) : Prop where
  value : ∀ room chars, chars.length ≤ room → chars.length ≤ most →
    Finishes chars (readValue most room fuel chars)
  items : ∀ room chars, chars.length ≤ room → chars.length ≤ most →
    Finishes chars (readItems most room fuel chars)
  members : ∀ room chars, chars.length ≤ room → chars.length ≤ most →
    Finishes chars (readMembers most room fuel chars)

theorem FinishesWith.value_succ {most fuel : Nat} (finishes : FinishesWith most fuel) {room : Nat}
    {chars : List Char} (hr : chars.length ≤ room) (hm : chars.length ≤ most) :
    Finishes chars (readValue most room (fuel + 1) chars) := by
  revert hr hm
  rw [readValue.eq_def]
  dsimp only
  split
  case h_1 rest =>
    intro _ _
    exact ((finishes_readString _ rest).map fun text => ofRaw ⟨text⟩).of_le (by simp)
  case h_2 rest =>
    intro hr hm
    simp only [List.length_cons] at hr hm
    have hspace := length_skipSpace_le rest
    rw [if_neg (by omega)]
    split
    next last he =>
      rw [he, List.length_cons] at hspace
      exact finishes_ok _ (by simp only [List.length_cons]; omega)
    next =>
      exact ((finishes.members _ _ (by omega) (by omega)).map fun members =>
        obj (mergeMembers members)).of_le (by simp only [List.length_cons]; omega)
  case h_3 rest =>
    intro hr hm
    simp only [List.length_cons] at hr hm
    have hspace := length_skipSpace_le rest
    rw [if_neg (by omega)]
    split
    next last he =>
      rw [he, List.length_cons] at hspace
      exact finishes_ok _ (by simp only [List.length_cons]; omega)
    next =>
      exact ((finishes.items _ _ (by omega) (by omega)).map arr).of_le
        (by simp only [List.length_cons]; omega)
  case h_10 =>
    intro _ hm
    exact finishes_readNumber hm
  all_goals exact fun _ _ => finishes_ok _ (by simp only [List.length_cons]; omega)

theorem FinishesWith.items_succ {most fuel : Nat} (finishes : FinishesWith most fuel) {room : Nat}
    {chars : List Char} (hr : chars.length ≤ room) (hm : chars.length ≤ most) :
    Finishes chars (readItems most room (fuel + 1) chars) := by
  rw [readItems]
  refine (finishes.value _ _ hr hm).bind fun item rest hrest => ?_
  have hspace := length_skipSpace_le rest
  dsimp only
  split
  next last he =>
    rw [he, List.length_cons] at hspace
    exact finishes_ok _ (by omega)
  next next he =>
    rw [he, List.length_cons] at hspace
    have hnext := length_skipSpace_le next
    exact ((finishes.items _ _ (by omega) (by omega)).map (item :: ·)).of_le (by omega)
  next => exact finishes_stop _ _ _

theorem FinishesWith.members_succ {most fuel : Nat} (finishes : FinishesWith most fuel)
    {room : Nat} {chars : List Char} (hr : chars.length ≤ room) (hm : chars.length ≤ most) :
    Finishes chars (readMembers most room (fuel + 1) chars) := by
  revert hr hm
  rw [readMembers.eq_def]
  dsimp only
  split
  next body =>
    intro hr hm
    simp only [List.length_cons] at hr hm
    have hname : Finishes ('"' :: body) (readString ('"' :: body).length body) :=
      (finishes_readString _ body).of_le (by simp)
    refine hname.bind fun name rest hrest => ?_
    rw [List.length_cons] at hrest
    have hspace := length_skipSpace_le rest
    dsimp only
    split
    next colon he =>
      rw [he, List.length_cons] at hspace
      have hcolon := length_skipSpace_le colon
      refine ((finishes.value _ _ (by omega) (by omega)).of_le (by
        rw [List.length_cons]
        omega)).bind fun value last hlast => ?_
      rw [List.length_cons] at hlast
      have hlength := length_skipSpace_le last
      dsimp only
      split
      next ending he =>
        rw [he, List.length_cons] at hlength
        exact finishes_ok _ (by rw [List.length_cons]; omega)
      next more he =>
        rw [he, List.length_cons] at hlength
        have hmore := length_skipSpace_le more
        exact ((finishes.members _ _ (by omega) (by omega)).map
          (((RawText.mk name).shown, value) :: ·)).of_le (by rw [List.length_cons]; omega)
      next => exact finishes_stop _ _ _
    next => exact finishes_stop _ _ _
  next => exact fun _ _ => finishes_stop _ _ _

theorem finishesWith (most fuel : Nat) : FinishesWith most fuel := by
  induction fuel with
  | zero =>
    exact ⟨fun _ chars _ _ => by simpa [readValue] using finishes_stop chars .value chars,
      fun _ chars _ _ => by simpa [readItems] using finishes_stop chars .value chars,
      fun _ chars _ _ => by simpa [readMembers] using finishes_stop chars .value chars⟩
  | succ fuel ih =>
    exact ⟨fun _ _ hr hm => ih.value_succ hr hm, fun _ _ hr hm => ih.items_succ hr hm,
      fun _ _ hr hm => ih.members_succ hr hm⟩

/-- No limit is met that is as wide as the text is long. -/
theorem parseWithin_ne_beyond {limits : Limits} {text : String}
    (hn : text.toList.length ≤ limits.nesting) (hd : text.toList.length ≤ limits.digits)
    (limit : Limit) : parseWithin limits text ≠ .error (.beyond limit) := by
  have hspace := length_skipSpace_le text.toList
  have htext : ∀ limit, readText limits text.toList ≠ .error (.limit limit) := by
    intro limit
    unfold readText
    split
    · simp
    · rcases (finishesWith limits.digits (2 * text.toList.length + 2)).value limits.nesting
        (skipSpace text.toList) (by omega) (by omega) with ⟨flaw, left, he⟩ | ⟨value, rest, he, -⟩
      · simp [he, bind, Except.bind]
      · simp only [he, bind, Except.bind]
        split <;> simp
  simp only [parseWithin]
  cases hread : readText limits text.toList with
  | ok value => simp [Except.mapError]
  | error stop =>
    cases stop with
    | flaw flaw left => simp [Except.mapError]
    | limit limit => exact absurd hread (htext limit)

end Json

end Flowplan
