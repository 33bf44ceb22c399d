import Flowplan.Proofs.Json.Limits
import Flowplan.Proofs.Json.Strings

namespace Flowplan

namespace Json

theorem mem_spanDigits_lt {chars : List Char} : ∀ digit ∈ (spanDigits chars).1, digit < 10 := by
  intro digit hm
  obtain ⟨c, -, hc⟩ := List.mem_filterMap.mp hm
  unfold Text.asciiDigit? at hc
  split at hc
  next h =>
    have : c.toNat ≤ 57 := by
      simp only [Char.isDigit, Bool.and_eq_true, decide_eq_true_eq] at h
      exact h.2
    obtain rfl := Option.some.inj hc
    omega
  next => simp at hc

theorem ofDigits_lt {digits : List Nat} (h : ∀ digit ∈ digits, digit < 10) :
    Text.ofDigits digits < 10 ^ digits.length := by
  have hfold : ∀ (digits : List Nat) (value : Nat), (∀ digit ∈ digits, digit < 10) →
      digits.foldl (fun value digit => 10 * value + digit) value
        < (value + 1) * 10 ^ digits.length := by
    intro digits
    induction digits with
    | nil => simp
    | cons digit digits ih =>
      intro value h
      have hdigit := h digit (by simp)
      have hrest := ih (10 * value + digit) fun d hd => h d (by simp [hd])
      rw [List.foldl_cons, List.length_cons, Nat.pow_succ]
      calc _ < (10 * value + digit + 1) * 10 ^ digits.length := hrest
        _ ≤ (10 * (value + 1)) * 10 ^ digits.length := Nat.mul_le_mul_right _ (by omega)
        _ = (value + 1) * (10 ^ digits.length * 10) := by ring
  unfold Text.ofDigits
  simpa using hfold digits 0 h

theorem length_toDigits_ofDigits {digits : List Nat} (h : ∀ digit ∈ digits, digit < 10)
    (hn : digits ≠ []) : (Nat.toDigits 10 (Text.ofDigits digits)).length ≤ digits.length :=
  (Nat.length_toDigits_le_iff (by decide) (List.length_pos_iff.mpr hn)).mpr (ofDigits_lt h)

theorem readMagnitude_held {most : Nat} {negative : Bool} {digits : List Nat}
    {rest rest' : List Char} {value : Json} (hd : ∀ digit ∈ digits, digit < 10) (hn : digits ≠ [])
    (h : readMagnitude most negative digits rest = .ok (value, rest')) (room : Nat) :
    Held most room value := by
  unfold readMagnitude at h
  dsimp only at h
  split at h
  · split at h
    · simp at h
    next hmost =>
      obtain ⟨rfl, -⟩ := Prod.mk.inj (Except.ok.inj h)
      refine ⟨trivial, rfl, ?_⟩
      have hlength := length_toDigits_ofDigits hd hn
      cases negative
      · simp [excess?]
        omega
      · simp [excess?]
        omega
  · obtain ⟨rfl, -⟩ := Prod.mk.inj (Except.ok.inj h)
    exact ⟨Binary64.isDouble_ofDecimal _ _ _, rfl, rfl⟩

theorem readNumber_held {most : Nat} {chars rest : List Char} {value : Json}
    (h : readNumber most chars = .ok (value, rest)) (room : Nat) : Held most room value := by
  unfold readNumber at h
  split at h
  next negative body _ =>
    split at h
    · exact readMagnitude_held (by simp) (by simp) h room
    · split at h
      · simp [stop] at h
      next hempty =>
        exact readMagnitude_held mem_spanDigits_lt (by simpa using hempty) h room

/-- What a reader gives with some fuel is sound and within its limits. -/
structure GivesHeld (most fuel : Nat) : Prop where
  value : ∀ room chars value rest,
    readValue most room fuel chars = .ok (value, rest) → Held most room value
  items : ∀ room chars items rest,
    readItems most room fuel chars = .ok (items, rest) → ∀ item ∈ items, Held most room item
  members : ∀ room chars members rest, readMembers most room fuel chars = .ok (members, rest) →
    ∀ member ∈ members, Held most room member.2

theorem GivesHeld.value_succ {most fuel : Nat} (gives : GivesHeld most fuel) {room : Nat}
    {chars : List Char} {value : Json} {rest : List Char}
    (h : readValue most room (fuel + 1) chars = .ok (value, rest)) : Held most room value := by
  rw [readValue.eq_def] at h
  dsimp only at h
  split at h
  case h_1 =>
    obtain ⟨_, hread, he⟩ := map_eq_ok_iff.mp h
    obtain ⟨rfl, -⟩ := Prod.mk.inj he
    exact held_ofRaw _ _ (congrArg RawText.mk (settles_readString hread).joined_eq)
  case h_2 =>
    cases room with
    | zero => simp at h
    | succ room =>
      rw [if_neg (Nat.succ_ne_zero room)] at h
      split at h
      · obtain ⟨rfl, -⟩ := Prod.mk.inj (Except.ok.inj h)
        exact held_obj List.nodup_nil (by simp)
      · obtain ⟨⟨members, _⟩, hmembers, he⟩ := map_eq_ok_iff.mp h
        obtain ⟨rfl, -⟩ := Prod.mk.inj he
        exact held_obj (keyed_mergeMembers members)
          (forall_mergeMembers (gives.members _ _ _ _ hmembers))
  case h_3 =>
    cases room with
    | zero => simp at h
    | succ room =>
      rw [if_neg (Nat.succ_ne_zero room)] at h
      split at h
      · obtain ⟨rfl, -⟩ := Prod.mk.inj (Except.ok.inj h)
        exact held_arr (by simp)
      · obtain ⟨⟨items, _⟩, hitems, he⟩ := map_eq_ok_iff.mp h
        obtain ⟨rfl, -⟩ := Prod.mk.inj he
        exact held_arr (gives.items _ _ _ _ hitems)
  case h_10 => exact readNumber_held h room
  all_goals
    obtain ⟨rfl, -⟩ := Prod.mk.inj (Except.ok.inj h)
    exact ⟨trivial, rfl, rfl⟩

theorem GivesHeld.items_succ {most fuel : Nat} (gives : GivesHeld most fuel) {room : Nat}
    {chars : List Char} {items : List Json} {rest : List Char}
    (h : readItems most room (fuel + 1) chars = .ok (items, rest)) :
    ∀ item ∈ items, Held most room item := by
  rw [readItems, bind_eq_ok_iff] at h
  obtain ⟨⟨item, next⟩, hitem, h⟩ := h
  have held := gives.value _ _ _ _ hitem
  dsimp only at h
  split at h
  · obtain ⟨rfl, -⟩ := Prod.mk.inj (Except.ok.inj h)
    simpa using held
  · obtain ⟨⟨others, _⟩, hothers, he⟩ := map_eq_ok_iff.mp h
    obtain ⟨rfl, -⟩ := Prod.mk.inj he
    simpa using ⟨held, gives.items _ _ _ _ hothers⟩
  · simp [stop] at h

theorem GivesHeld.members_succ {most fuel : Nat} (gives : GivesHeld most fuel) {room : Nat}
    {chars : List Char} {members : List (String × Json)} {rest : List Char}
    (h : readMembers most room (fuel + 1) chars = .ok (members, rest)) :
    ∀ member ∈ members, Held most room member.2 := by
  rw [readMembers.eq_def] at h
  dsimp only at h
  split at h
  · obtain ⟨⟨name, afterName⟩, -, h⟩ := bind_eq_ok_iff.mp h
    dsimp only at h
    split at h
    · obtain ⟨⟨value, next⟩, hvalue, h⟩ := bind_eq_ok_iff.mp h
      have held := gives.value _ _ _ _ hvalue
      dsimp only at h
      split at h
      · obtain ⟨rfl, -⟩ := Prod.mk.inj (Except.ok.inj h)
        simpa using held
      · obtain ⟨⟨others, _⟩, hothers, he⟩ := map_eq_ok_iff.mp h
        obtain ⟨rfl, -⟩ := Prod.mk.inj he
        intro member hm
        rcases List.mem_cons.mp hm with rfl | hm
        · exact held
        · exact gives.members _ _ _ _ hothers member hm
      · simp [stop] at h
    · simp [stop] at h
  · simp [stop] at h

theorem givesHeld (most fuel : Nat) : GivesHeld most fuel := by
  induction fuel with
  | zero =>
    exact ⟨fun _ _ _ _ h => by simp [readValue, stop] at h,
      fun _ _ _ _ h => by simp [readItems, stop] at h,
      fun _ _ _ _ h => by simp [readMembers, stop] at h⟩
  | succ fuel ih =>
    exact ⟨fun _ _ _ _ h => ih.value_succ h, fun _ _ _ _ h => ih.items_succ h,
      fun _ _ _ _ h => ih.members_succ h⟩

theorem parseWithin_eq_ok_iff {limits : Limits} {text : String} {value : Json} :
    parseWithin limits text = .ok value ↔ readText limits text.toList = .ok value := by
  simp only [parseWithin]
  cases readText limits text.toList <;> simp [Except.mapError]

/-- A text gives no value that the reader cannot hold. -/
theorem held_of_parseWithin {limits : Limits} {text : String} {value : Json}
    (h : parseWithin limits text = .ok value) : Held limits.digits limits.nesting value := by
  have htext := parseWithin_eq_ok_iff.mp h
  unfold readText at htext
  split at htext
  · simp at htext
  · obtain ⟨⟨read, rest⟩, hread, hrest⟩ := bind_eq_ok_iff.mp htext
    dsimp only at hrest
    split at hrest
    · obtain rfl := Except.ok.inj hrest
      exact (givesHeld _ _).value _ _ _ _ hread
    · simp at hrest

/-- The results are the same, unless the first one is that a limit is met. -/
def Agrees {α : Type} (first second : Except Stop α) : Prop :=
  first = second ∨ ∃ limit, first = .error (.limit limit)

theorem Agrees.bind {α β : Type} {first second : Except Stop α} {f g : α → Except Stop β}
    (agrees : Agrees first second) (h : ∀ a, Agrees (f a) (g a)) :
    Agrees (first >>= f) (second >>= g) := by
  rcases agrees with rfl | ⟨limit, rfl⟩
  · cases first with
    | ok a => exact h a
    | error stop => exact .inl rfl
  · exact .inr ⟨limit, rfl⟩

theorem Agrees.map {α β : Type} {first second : Except Stop α} (agrees : Agrees first second)
    (f : α → β) : Agrees (first.map f) (second.map f) := by
  rcases agrees with rfl | ⟨limit, rfl⟩
  · exact .inl rfl
  · exact .inr ⟨limit, rfl⟩

theorem readNumber_agrees {most most' : Nat} (hm : most ≤ most') (chars : List Char) :
    Agrees (readNumber most chars) (readNumber most' chars) := by
  have hmagnitude : ∀ negative digits rest, Agrees (readMagnitude most negative digits rest)
      (readMagnitude most' negative digits rest) := by
    intro negative digits rest
    unfold readMagnitude
    dsimp only
    split
    · by_cases hmost : most < digits.length
      · exact .inr ⟨.digits digits.length, by rw [if_pos hmost]⟩
      · have hmost' : ¬most' < digits.length := by omega
        rw [if_neg hmost, if_neg hmost']
        exact .inl rfl
    · exact .inl rfl
  unfold readNumber
  split
  split
  · exact hmagnitude _ _ _
  · split
    · exact .inl rfl
    · exact hmagnitude _ _ _

/-- With wider limits a reader gives the same, unless it met a limit. -/
structure AgreesWith (most most' fuel : Nat) : Prop where
  value : ∀ room room' chars, room ≤ room' →
    Agrees (readValue most room fuel chars) (readValue most' room' fuel chars)
  items : ∀ room room' chars, room ≤ room' →
    Agrees (readItems most room fuel chars) (readItems most' room' fuel chars)
  members : ∀ room room' chars, room ≤ room' →
    Agrees (readMembers most room fuel chars) (readMembers most' room' fuel chars)

theorem AgreesWith.value_succ {most most' fuel : Nat} (hm : most ≤ most')
    (agrees : AgreesWith most most' fuel) {room room' : Nat} (hr : room ≤ room')
    (chars : List Char) :
    Agrees (readValue most room (fuel + 1) chars) (readValue most' room' (fuel + 1) chars) := by
  rw [readValue.eq_def, readValue.eq_def most']
  dsimp only
  split
  case h_2 =>
    by_cases hroom : room = 0
    · exact .inr ⟨.objects, by rw [if_pos hroom]⟩
    have hroom' : room' ≠ 0 := by omega
    rw [if_neg hroom, if_neg hroom']
    split
    · exact .inl rfl
    · exact (agrees.members _ _ _ (by omega)).map _
  case h_3 =>
    by_cases hroom : room = 0
    · exact .inr ⟨.arrays, by rw [if_pos hroom]⟩
    have hroom' : room' ≠ 0 := by omega
    rw [if_neg hroom, if_neg hroom']
    split
    · exact .inl rfl
    · exact (agrees.items _ _ _ (by omega)).map _
  case h_10 => exact readNumber_agrees hm _
  all_goals exact .inl rfl

theorem AgreesWith.items_succ {most most' fuel : Nat}
    (agrees : AgreesWith most most' fuel) {room room' : Nat} (hr : room ≤ room')
    (chars : List Char) :
    Agrees (readItems most room (fuel + 1) chars) (readItems most' room' (fuel + 1) chars) := by
  rw [readItems, readItems]
  refine (agrees.value _ _ _ hr).bind fun (item, rest) => ?_
  dsimp only
  split
  · exact .inl rfl
  · exact (agrees.items _ _ _ hr).map _
  · exact .inl rfl

theorem AgreesWith.members_succ {most most' fuel : Nat}
    (agrees : AgreesWith most most' fuel) {room room' : Nat} (hr : room ≤ room')
    (chars : List Char) :
    Agrees (readMembers most room (fuel + 1) chars) (readMembers most' room' (fuel + 1) chars) := by
  rw [readMembers.eq_def, readMembers.eq_def most']
  dsimp only
  split
  · refine Agrees.bind (.inl rfl) fun (name, rest) => ?_
    dsimp only
    split
    · refine (agrees.value _ _ _ hr).bind fun (value, rest) => ?_
      dsimp only
      split
      · exact .inl rfl
      · exact (agrees.members _ _ _ hr).map _
      · exact .inl rfl
    · exact .inl rfl
  · exact .inl rfl

theorem agreesWith {most most' : Nat} (hm : most ≤ most') (fuel : Nat) :
    AgreesWith most most' fuel := by
  induction fuel with
  | zero =>
    exact ⟨fun _ _ _ _ => .inl (by simp [readValue]), fun _ _ _ _ => .inl (by simp [readItems]),
      fun _ _ _ _ => .inl (by simp [readMembers])⟩
  | succ fuel ih =>
    exact ⟨fun _ _ chars hr => ih.value_succ hm hr chars,
      fun _ _ chars hr => ih.items_succ hr chars,
      fun _ _ chars hr => ih.members_succ hr chars⟩

/-- Wider limits change nothing for a text on which no limit was met. -/
theorem parseWithin_of_le {limits wider : Limits} (hl : limits ≤ wider) {text : String}
    (h : ∀ limit, parseWithin limits text ≠ .error (.beyond limit)) :
    parseWithin wider text = parseWithin limits text := by
  have htext : Agrees (readText limits text.toList) (readText wider text.toList) := by
    unfold readText
    split
    · exact .inl rfl
    · refine ((agreesWith hl.2 _).value _ _ _ hl.1).bind fun (value, rest) => ?_
      exact .inl rfl
  simp only [parseWithin] at h ⊢
  rcases htext with he | ⟨limit, he⟩
  · rw [he]
  · exact absurd (by rw [he]; rfl) (h limit)

end Json

end Flowplan
