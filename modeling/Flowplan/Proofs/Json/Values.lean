import Flowplan.Proofs.Json.Decimals
import Flowplan.Proofs.Json.Limits
import Flowplan.Proofs.Json.Sound
import Flowplan.Proofs.Json.Strings

namespace Flowplan

namespace Json

/-- What a reader gives that meets a limit or none. -/
def within (excess : Option Limit) (read : α) : Except Stop α :=
  match excess with
  | none => .ok read
  | some limit => .error (.limit limit)

theorem within_ne_stop (excess : Option Limit) (read : α × List Char) (flaw : Flaw)
    (rest : List Char) : within excess read ≠ stop flaw rest := by
  cases excess <;> simp [within, stop]

/-- A value can start here: the first character is no blank, and closes no list. -/
def Starts (chars : List Char) : Prop :=
  ∃ c rest, chars = c :: rest ∧ isSpace c = false ∧ c ≠ ']' ∧ c ≠ '\uFEFF'

theorem skipSpace_cons {c : Char} (hc : isSpace c = false) (rest : List Char) :
    skipSpace (c :: rest) = c :: rest := by
  simp [skipSpace, hc]

theorem Starts.skipSpace_eq {chars : List Char} (starts : Starts chars) :
    skipSpace chars = chars := by
  obtain ⟨c, rest, rfl, hc, -⟩ := starts
  exact skipSpace_cons hc rest

theorem skipSpace_newline (depth : Nat) (chars : List Char) :
    skipSpace (newline depth ++ chars) = skipSpace chars := by
  have hspaces : ∀ c ∈ newline depth, isSpace c := by
    intro c hc
    rcases List.mem_cons.mp hc with rfl | hr
    · rfl
    · rw [List.eq_of_mem_replicate hr]
      rfl
  exact List.dropWhile_append_of_pos hspaces

theorem readNumber_eq_stop {most : Nat} {c : Char} (hd : c.isDigit = false) (hm : c ≠ '-')
    (rest : List Char) : readNumber most (c :: rest) = stop .value (c :: rest) := by
  have hz : c ≠ '0' := by
    rintro rfl
    simp at hd
  unfold readNumber
  split
  next negative body he =>
    have hbody : (negative, body) = (false, c :: rest) := by
      rw [← he]
      split <;> simp_all
    obtain ⟨rfl, rfl⟩ := Prod.mk.inj hbody
    split <;> simp_all [spanDigits]

/-- What starts like no other value is a number. -/
theorem readValue_eq_readNumber {most room fuel : Nat} {chars : List Char}
    (h : readNumber most chars ≠ stop .value chars) :
    readValue most room (fuel + 1) chars = readNumber most chars := by
  rw [readValue.eq_def]
  dsimp only
  split
  case h_9 => exact absurd (by simp [readNumber, spanDigits]) h
  case h_10 => rfl
  all_goals exact absurd (readNumber_eq_stop (by decide) (by decide) _) h

theorem starts_of_readNumber {most : Nat} {chars : List Char}
    (h : readNumber most chars ≠ stop .value chars) : Starts chars := by
  cases chars with
  | nil => exact absurd rfl h
  | cons c rest =>
    refine ⟨c, rest, rfl, ?_, ?_, ?_⟩
    · by_contra hspace
      simp only [isSpace, Bool.not_eq_false, Bool.or_eq_true, decide_eq_true_eq] at hspace
      rcases hspace with ((rfl | rfl) | rfl) | rfl <;>
        exact h (readNumber_eq_stop (by decide) (by decide) rest)
    · rintro rfl
      exact h (readNumber_eq_stop (by decide) (by decide) rest)
    · rintro rfl
      exact h (readNumber_eq_stop (by decide) (by decide) rest)

theorem starts_of_readValue {most room fuel : Nat} {chars : List Char}
    (h : readValue most room fuel chars ≠ stop .value chars) : Starts chars := by
  cases fuel with
  | zero => exact absurd (by rw [readValue]) h
  | succ fuel =>
    rw [readValue.eq_def] at h
    dsimp only at h
    split at h
    case h_10 => exact starts_of_readNumber h
    all_goals exact ⟨_, _, rfl, by decide, by decide, by decide⟩

theorem readValue_array {most room fuel : Nat} (depth : Nat) {chars : List Char}
    (starts : Starts chars) :
    readValue most (room + 1) (fuel + 1) ('[' :: (newline depth ++ chars))
      = (readItems most room fuel chars).map fun (items, rest) => (arr items, rest) := by
  rw [readValue]
  obtain ⟨c, rest, rfl, hc, hclose, -⟩ := starts
  simp only [skipSpace_newline, skipSpace_cons hc]
  simp [hclose]

theorem readItems_last {most room fuel : Nat} {chars rest : List Char} {item : Json} (depth : Nat)
    (h : readValue most room fuel chars = .ok (item, newline depth ++ ']' :: rest)) :
    readItems most room (fuel + 1) chars = .ok ([item], rest) := by
  rw [readItems, h]
  simp only [bind, Except.bind, skipSpace_newline]
  rfl

theorem readItems_more {most room fuel : Nat} {chars next : List Char} {item : Json} (depth : Nat)
    (h : readValue most room fuel chars = .ok (item, ',' :: (newline depth ++ next)))
    (starts : Starts next) :
    readItems most room (fuel + 1) chars
      = (readItems most room fuel next).map fun (items, rest) => (item :: items, rest) := by
  rw [readItems, h]
  simp only [bind, Except.bind, skipSpace_cons (show isSpace ',' = false from rfl),
    skipSpace_newline, starts.skipSpace_eq]

theorem readItems_error {most room fuel : Nat} {chars : List Char} {stop : Stop}
    (h : readValue most room fuel chars = .error stop) :
    readItems most room (fuel + 1) chars = .error stop := by
  rw [readItems, h]
  rfl

theorem readValue_object {most room fuel : Nat} (depth : Nat) (name : String)
    (chars : List Char) :
    readValue most (room + 1) (fuel + 1) ('{' :: (newline depth ++ (writeString name ++ chars)))
      = (readMembers most room fuel (writeString name ++ chars)).map
        fun (members, rest) => (obj (mergeMembers members), rest) := by
  obtain ⟨body, hbody, -⟩ := exists_readString_writeString name chars
  rw [readValue, hbody]
  simp only [skipSpace_newline, skipSpace_cons (show isSpace '"' = false from rfl)]
  simp

/-- What the reader makes of the text behind a member. -/
def continueMembers (most room fuel : Nat) (name : String) (read : Json × List Char) :
    Read (List (String × Json)) :=
  match skipSpace read.2 with
  | '}' :: rest => .ok ([(name, read.1)], rest)
  | ',' :: rest =>
    (readMembers most room fuel (skipSpace rest)).map fun (members, rest) =>
      ((name, read.1) :: members, rest)
  | rest => stop .comma rest

theorem readMembers_writeString {most room fuel : Nat} (name : String) {chars : List Char}
    (starts : Starts chars) :
    readMembers most room (fuel + 1) (writeString name ++ ':' :: ' ' :: chars)
      = (readValue most room fuel chars).bind (continueMembers most room fuel name) := by
  obtain ⟨body, hbody, hread⟩ := exists_readString_writeString name (':' :: ' ' :: chars)
  have hblank : skipSpace (' ' :: chars) = chars :=
    (List.dropWhile_cons_of_pos rfl).trans starts.skipSpace_eq
  have hname : (RawText.mk (RawText.ofString name).joined.points).shown = name := by
    rw [RawText.joined_ofString]
    exact RawText.shown_ofString name
  rw [readMembers.eq_def, hbody]
  simp only [hread, bind, Except.bind, skipSpace_cons (show isSpace ':' = false from rfl), hblank,
    hname]
  rfl

theorem readMembers_last {most room fuel : Nat} {chars rest : List Char} {value : Json}
    (name : String) (depth : Nat) (starts : Starts chars)
    (h : readValue most room fuel chars = .ok (value, newline depth ++ '}' :: rest)) :
    readMembers most room (fuel + 1) (writeString name ++ ':' :: ' ' :: chars)
      = .ok ([(name, value)], rest) := by
  rw [readMembers_writeString name starts, h]
  simp only [Except.bind, continueMembers, skipSpace_newline]
  rfl

theorem readMembers_more {most room fuel : Nat} {chars next : List Char} {value : Json}
    (name : String) (depth : Nat) (starts : Starts chars)
    (h : readValue most room fuel chars = .ok (value, ',' :: (newline depth ++ '"' :: next))) :
    readMembers most room (fuel + 1) (writeString name ++ ':' :: ' ' :: chars)
      = (readMembers most room fuel ('"' :: next)).map fun (members, rest) =>
        ((name, value) :: members, rest) := by
  rw [readMembers_writeString name starts, h]
  simp only [Except.bind, continueMembers, skipSpace_cons (show isSpace ',' = false from rfl),
    skipSpace_newline, skipSpace_cons (show isSpace '"' = false from rfl)]

theorem readMembers_error {most room fuel : Nat} {chars : List Char} {stop : Stop}
    (name : String) (starts : Starts chars)
    (h : readValue most room fuel chars = .error stop) :
    readMembers most room (fuel + 1) (writeString name ++ ':' :: ' ' :: chars)
      = .error stop := by
  rw [readMembers_writeString name starts, h]
  rfl

theorem endsNumber_comma (rest : List Char) : EndsNumber (',' :: rest) := by
  simp [EndsNumber]

theorem endsNumber_newline (depth : Nat) (rest : List Char) :
    EndsNumber (newline depth ++ rest) := by
  simp [EndsNumber, newline]

theorem endsNumber_items (depth closing : Nat) (items : List Json) (rest : List Char) :
    EndsNumber (writeIndentedItems depth items ++ (newline closing ++ rest)) := by
  cases items with
  | nil => exact endsNumber_newline _ _
  | cons => exact endsNumber_comma _

/-- At a depth the value reads back, whatever follows that does not go on with a number. -/
def ReadsBack (most room depth : Nat) (value : Json) : Prop :=
  ∀ fuel rest, (writeIndented depth value).length < fuel → EndsNumber rest →
    readValue most room fuel (writeIndented depth value ++ rest)
      = within (value.excess? most room) (value.joined, rest)

theorem ReadsBack.starts {most room depth : Nat} {value : Json}
    (reads : ReadsBack most room depth value) {rest : List Char} (ends : EndsNumber rest) :
    Starts (writeIndented depth value ++ rest) := by
  have hread := reads _ rest (Nat.lt_succ_self _) ends
  exact starts_of_readValue (hread.trans_ne (within_ne_stop _ _ _ _))

theorem readItems_written {most room depth : Nat} (closing : Nat) {item : Json}
    {items : List Json} (reads : ∀ value ∈ item :: items, ReadsBack most room depth value)
    {fuel : Nat}
    (hfuel : (writeIndented depth item).length + (writeIndentedItems depth items).length + 1 < fuel)
    (rest : List Char) :
    readItems most room fuel (writeIndented depth item
        ++ (writeIndentedItems depth items ++ (newline closing ++ ']' :: rest)))
      = within (excessOfItems? most room (item :: items))
        (joinedItems (item :: items), rest) := by
  induction items generalizing item fuel with
  | nil =>
    obtain ⟨fuel, rfl⟩ : ∃ n, fuel = n + 1 := ⟨fuel - 1, by omega⟩
    have hread := reads item (by simp) fuel (newline closing ++ ']' :: rest) (by omega)
      (endsNumber_newline _ _)
    simp only [writeIndentedItems, List.nil_append, excessOfItems?, Option.or_none]
    cases hx : item.excess? most room with
    | none =>
      rw [hx] at hread
      exact readItems_last closing hread
    | some limit =>
      rw [hx] at hread
      exact readItems_error hread
  | cons next items ih =>
    obtain ⟨fuel, rfl⟩ : ∃ n, fuel = n + 1 := ⟨fuel - 1, by omega⟩
    have hread := fun rest => reads item (by simp) fuel (',' :: rest) (by omega)
      (endsNumber_comma _)
    rw [excessOfItems?]
    simp only [writeIndentedItems, List.cons_append, List.append_assoc]
    cases hx : item.excess? most room with
    | none =>
      simp only [hx] at hread
      have hstarts :=
        (reads next (by simp)).starts (endsNumber_items depth closing items (']' :: rest))
      simp only [writeIndentedItems, List.length_cons, List.length_append] at hfuel
      rw [readItems_more depth (hread _) hstarts, ih (fun value hm => reads value (by simp_all))
        (by omega), Option.none_or]
      cases excessOfItems? most room (next :: items) <;> rfl
    | some limit =>
      simp only [hx] at hread
      exact readItems_error (hread _)

theorem readMembers_written {most room depth : Nat} (closing : Nat) {member : String × Json}
    {members : List (String × Json)}
    (reads : ∀ entry ∈ member :: members, ReadsBack most room depth entry.2) {fuel : Nat}
    (hfuel : (writeIndented depth member.2).length
      + (writeIndentedMembers depth members).length + 1 < fuel) (rest : List Char) :
    readMembers most room fuel (writeString member.1 ++ ':' :: ' ' :: (writeIndented depth member.2
        ++ (writeIndentedMembers depth members ++ (newline closing ++ '}' :: rest))))
      = within (excessOfMembers? most room (member :: members))
        (joinedMembers (member :: members), rest) := by
  induction members generalizing member fuel with
  | nil =>
    obtain ⟨fuel, rfl⟩ : ∃ n, fuel = n + 1 := ⟨fuel - 1, by omega⟩
    have hread := reads member (by simp) fuel (newline closing ++ '}' :: rest) (by omega)
      (endsNumber_newline _ _)
    have hstarts := (reads member (by simp)).starts (endsNumber_newline closing ('}' :: rest))
    simp only [writeIndentedMembers, List.nil_append, excessOfMembers?, Option.or_none]
    cases hx : member.2.excess? most room with
    | none =>
      rw [hx] at hread
      exact readMembers_last member.1 closing hstarts hread
    | some limit =>
      rw [hx] at hread
      exact readMembers_error member.1 hstarts hread
  | cons next members ih =>
    obtain ⟨fuel, rfl⟩ : ∃ n, fuel = n + 1 := ⟨fuel - 1, by omega⟩
    have hread := fun rest => reads member (by simp) fuel (',' :: rest) (by omega)
      (endsNumber_comma _)
    have hstarts := fun rest => (reads member (by simp)).starts (endsNumber_comma rest)
    rw [excessOfMembers?]
    simp only [writeIndentedMembers, List.cons_append, List.append_assoc]
    cases hx : member.2.excess? most room with
    | none =>
      simp only [hx] at hread
      simp only [writeIndentedMembers, List.length_cons, List.length_append] at hfuel
      have hnext := @ih next (fun entry hm => reads entry (by simp_all)) fuel (by omega)
      obtain ⟨body, hbody, -⟩ := exists_readString_writeString next.1 (':' :: ' ' ::
        (writeIndented depth next.2
          ++ (writeIndentedMembers depth members ++ (newline closing ++ '}' :: rest))))
      rw [hbody] at hnext ⊢
      rw [readMembers_more member.1 depth (hstarts _) (hread _), hnext, Option.none_or]
      cases excessOfMembers? most room (next :: members) <;> rfl
    | some limit =>
      simp only [hx] at hread
      exact readMembers_error member.1 (hstarts _) (hread _)

theorem readsBack_int (most room depth : Nat) (value : Int) :
    ReadsBack most room depth (int value) := by
  intro fuel rest hfuel ends
  obtain ⟨fuel, rfl⟩ : ∃ n, fuel = n + 1 := ⟨fuel - 1, by omega⟩
  have hread := readNumber_int most value ends
  simp only [writeIndented, writeScalar]
  rw [readValue_eq_readNumber, hread, excess?]
  · split <;> rfl
  · rw [hread]
    split <;> simp [stop]

theorem readsBack_float (most room depth : Nat) {value : Binary64} (double : value.IsDouble) :
    ReadsBack most room depth (float value) := by
  intro fuel rest hfuel ends
  obtain ⟨fuel, rfl⟩ : ∃ n, fuel = n + 1 := ⟨fuel - 1, by omega⟩
  simp only [writeIndented, writeScalar, writeFloat, excess?, within]
  have hfinite : value.value?.isSome → readValue most room (fuel + 1) (value.text.toList ++ rest)
      = .ok (float value, rest) := by
    intro hvalue
    have hread := readNumber_text most double hvalue ends
    rw [readValue_eq_readNumber, hread]
    rw [hread]
    simp [stop]
  cases value with
  | nan => simp [readValue, joined]
  | infinity negative => cases negative <;> simp [readValue, joined]
  | negativeZero => exact hfinite rfl
  | finite q => exact hfinite rfl

theorem readsBack_arr {most room depth : Nat} {items : List Json}
    (reads : ∀ item ∈ items, ReadsBack most (room - 1) (depth + 1) item) :
    ReadsBack most room depth (arr items) := by
  intro fuel rest hfuel ends
  obtain ⟨fuel, rfl⟩ : ∃ n, fuel = n + 1 := ⟨fuel - 1, by omega⟩
  cases items with
  | nil =>
    cases room <;>
      simp [writeIndented, writeScalar, readValue, excess?, excessOfItems?, within, skipSpace,
        isSpace, joined, joinedItems]
  | cons item items =>
    cases room with
    | zero => simp [writeIndented, readValue, excess?, within]
    | succ room =>
      rw [Nat.add_sub_cancel] at reads
      have hstarts := (reads item (by simp)).starts
        (endsNumber_items (depth + 1) depth items (']' :: rest))
      simp only [writeIndented, List.length_cons, List.length_append, newline] at hfuel
      simp only [writeIndented, List.cons_append, List.nil_append, List.append_assoc]
      rw [readValue_array _ hstarts, readItems_written depth reads (by omega), excess?,
        if_neg (Nat.succ_ne_zero room), Nat.add_sub_cancel]
      cases excessOfItems? most room (item :: items) <;> rfl

theorem readsBack_obj {most room depth : Nat} {members : List (String × Json)}
    (keyed : Keyed members)
    (reads : ∀ member ∈ members, ReadsBack most (room - 1) (depth + 1) member.2) :
    ReadsBack most room depth (obj members) := by
  intro fuel rest hfuel ends
  obtain ⟨fuel, rfl⟩ : ∃ n, fuel = n + 1 := ⟨fuel - 1, by omega⟩
  cases members with
  | nil =>
    cases room <;>
      simp [writeIndented, writeScalar, readValue, excess?, excessOfMembers?, within, skipSpace,
        isSpace, joined, joinedMembers]
  | cons member members =>
    cases room with
    | zero => simp [writeIndented, readValue, excess?, within]
    | succ room =>
      rw [Nat.add_sub_cancel] at reads
      simp only [writeIndented, List.length_cons, List.length_append, newline] at hfuel
      simp only [writeIndented, List.cons_append, List.nil_append, List.append_assoc]
      rw [readValue_object, readMembers_written depth reads (by omega), excess?,
        if_neg (Nat.succ_ne_zero room), Nat.add_sub_cancel]
      cases excessOfMembers? most room (member :: members) with
      | none => simp [within, Except.map, mergeMembers_of_keyed (keyed_joinedMembers keyed), joined]
      | some limit => rfl

theorem readsBack_ofRaw (most room depth : Nat) (raw : RawText) :
    ReadsBack most room depth (ofRaw raw) := by
  intro fuel rest hfuel ends
  obtain ⟨fuel, rfl⟩ : ∃ n, fuel = n + 1 := ⟨fuel - 1, by omega⟩
  obtain ⟨body, hbody, hread⟩ := exists_readString_writeString raw rest
  have hwritten : writeIndented depth (ofRaw raw) = writeString raw ∧
      (ofRaw raw).excess? most room = none := by
    rcases ofRaw_cases raw with ⟨text, rfl, h⟩ | ⟨text, rfl, h⟩ <;> rw [h] <;> exact ⟨rfl, rfl⟩
  rw [hwritten.1, hwritten.2, hbody, readValue.eq_def, joined_ofRaw]
  simp only [hread, Except.map, within]

/-- Every value that is sound reads back with its halves joined, at any depth and with room for any
nesting. -/
theorem readsBack (most : Nat) {value : Json} (sound : value.Sound) :
    ∀ room depth, ReadsBack most room depth value := by
  induction value using induct with
  | int value => exact fun room depth => readsBack_int most room depth value
  | float value => exact fun room depth => readsBack_float most room depth sound
  | null =>
    intro room depth fuel rest hfuel ends
    obtain ⟨fuel, rfl⟩ : ∃ n, fuel = n + 1 := ⟨fuel - 1, by omega⟩
    simp [writeIndented, writeScalar, readValue, excess?, within, joined]
  | bool value =>
    intro room depth fuel rest hfuel ends
    obtain ⟨fuel, rfl⟩ : ∃ n, fuel = n + 1 := ⟨fuel - 1, by omega⟩
    cases value <;> simp [writeIndented, writeScalar, readValue, excess?, within, joined]
  | str value =>
    intro room depth
    have reads := readsBack_ofRaw most room depth value
    rwa [ofRaw_ofString] at reads
  | torn value =>
    intro room depth
    have reads := readsBack_ofRaw most room depth value.raw
    rwa [ofRaw_raw] at reads
  | arr items ih =>
    intro room depth
    have hitems := soundItems_iff.mp sound
    exact readsBack_arr fun item hm => ih item hm (hitems item hm) _ _
  | obj members ih =>
    intro room depth
    obtain ⟨keyed, hmembers⟩ := sound
    have hvalues := soundMembers_iff.mp hmembers
    exact readsBack_obj keyed fun member hm => ih member hm (hvalues member hm) _ _

/-- A text that a value was written as gives the value with its halves joined, or the first limit
that it is beyond. -/
theorem parseWithin_indented (limits : Limits) {value : Json} (sound : value.Sound) :
    parseWithin limits value.indented = match value.excess? limits.digits limits.nesting with
      | none => .ok value.joined
      | some limit => .error (.beyond limit) := by
  have reads := readsBack limits.digits sound limits.nesting 0
  have ends : EndsNumber [] := by simp [EndsNumber]
  have hstarts := reads.starts ends
  have hread := reads (2 * (writeIndented 0 value).length + 2) [] (by omega) ends
  rw [List.append_nil] at hstarts hread
  have htext : readText limits (writeIndented 0 value)
      = within (value.excess? limits.digits limits.nesting) value.joined := by
    have hblank := hstarts.skipSpace_eq
    obtain ⟨c, rest, hchars, -, -, hmark⟩ := hstarts
    unfold readText
    split
    next he => exact absurd (List.cons.inj (hchars.symm.trans he)).1 hmark
    next =>
      rw [hblank, hread]
      cases value.excess? limits.digits limits.nesting <;> rfl
  unfold parseWithin indented
  simp only [String.toList_ofList]
  rw [htext]
  cases value.excess? limits.digits limits.nesting <;> rfl

end Json

end Flowplan
