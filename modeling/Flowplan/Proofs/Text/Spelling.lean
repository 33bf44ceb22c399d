import Flowplan.Proofs.Text.Folding

namespace Flowplan.Text

/-- What folding makes of the characters that it expands. -/
def expansions : List (List Char) :=
  foldExpansions.map fun entry => entry.2.map Char.ofNat

/-- An expansion that begins with a letter of the word does not go on as the word does. -/
def isUnmixed : List Char → Bool
  | [] => true
  | letter :: rest =>
    (expansions.all fun image =>
      image.head? ≠ some letter || rest.head?.any fun next => image.tail.head? ≠ some next)
      && isUnmixed rest

/-- No expansion holds the letter behind its first character. -/
def startsAlone (letter : Char) : Bool :=
  expansions.all fun image => letter ∉ image.tail

theorem tail_ne_nil_of_mem_expansions : ∀ image ∈ expansions, image.tail ≠ [] := by
  decide +kernel

theorem mem_expansions_of_lookup {code : Nat} {codes : List Nat}
    (h : foldExpansions.lookup code = some codes) : codes.map Char.ofNat ∈ expansions :=
  List.mem_map_of_mem (f := fun entry => entry.2.map Char.ofNat) (mem_of_lookup_eq_some h)

theorem foldChar_eq_singleton_or_mem (c : Char) :
    (∃ d, foldChar c = [d]) ∨ foldChar c ∈ expansions := by
  unfold foldChar mapCode
  split
  · exact .inl ⟨_, rfl⟩
  split
  next codes hlookup => exact .inr (mem_expansions_of_lookup hlookup)
  next => exact .inl ⟨_, rfl⟩

/-- The characters fold to the letters of the word, one to each. -/
def FoldsTo (word piece : List Char) : Prop :=
  List.Forall₂ (fun letter c => foldChar c = [letter]) word piece

theorem not_prefix_of_mem_expansions {image word : List Char} (himage : image ∈ expansions)
    (unmixed : isUnmixed word) (hword : word ≠ []) (more : List Char) :
    ¬word <+: image ++ more := by
  intro h
  have htail := tail_ne_nil_of_mem_expansions image himage
  match image, word with
  | [], _ | [_], _ => exact htail rfl
  | _, [] => exact hword rfl
  | first :: next :: image, letter :: rest =>
    have hapart := List.all_eq_true.mp (Bool.and_eq_true_iff.mp unmixed).1 _ himage
    obtain ⟨rfl, hnext⟩ := List.cons_prefix_cons.mp h
    cases rest with
    | nil => simp at hapart
    | cons other rest =>
      obtain ⟨rfl, -⟩ := List.cons_prefix_cons.mp hnext
      simp at hapart

theorem exists_foldsTo_of_prefix {word text : List Char} (unmixed : isUnmixed word)
    (h : word <+: text.flatMap foldChar) : ∃ piece, piece <+: text ∧ FoldsTo word piece := by
  induction word generalizing text with
  | nil => exact ⟨[], List.nil_prefix, .nil⟩
  | cons letter rest ih =>
    cases text with
    | nil => exact absurd (List.prefix_nil.mp h) (by simp)
    | cons c text =>
      rw [List.flatMap_cons] at h
      rcases foldChar_eq_singleton_or_mem c with ⟨d, hd⟩ | hexpanded
      · rw [hd, List.singleton_append, List.cons_prefix_cons] at h
        obtain ⟨rfl, h⟩ := h
        obtain ⟨piece, hpiece, hfolds⟩ := ih (Bool.and_eq_true_iff.mp unmixed).2 h
        exact ⟨c :: piece, List.cons_prefix_cons.mpr ⟨rfl, hpiece⟩, .cons hd hfolds⟩
      · exact absurd h (not_prefix_of_mem_expansions hexpanded unmixed (by simp) _)

/-- A word that stands behind the first character of what a character and a text fold to stands in
the folded text. -/
theorem infix_of_append_eq {letter c d : Char} {rest before after folded : List Char}
    (alone : startsAlone letter)
    (h : d :: before ++ (letter :: rest ++ after) = foldChar c ++ folded) :
    letter :: rest <:+: folded := by
  have hout : letter ∉ (foldChar c).tail := by
    rcases foldChar_eq_singleton_or_mem c with ⟨image, himage⟩ | hexpanded
    · simp [himage]
    · simpa using List.all_eq_true.mp alone _ hexpanded
  obtain ⟨first, tail, himage⟩ := List.exists_cons_of_ne_nil (foldChar_ne_nil c)
  rw [himage] at h hout
  obtain ⟨-, h⟩ := List.cons.inj h
  rcases List.append_eq_append_iff.mp h with ⟨middle, htail, hrest⟩ | ⟨middle, -, hfolded⟩
  · cases middle with
    | nil => exact ⟨[], after, hrest⟩
    | cons other middle =>
      obtain ⟨rfl, -⟩ := List.cons.inj hrest
      exact absurd (show letter ∈ tail by simp [htail]) hout
  · exact ⟨middle, after, by simp [hfolded]⟩

/-- A word that stands in the folded text is spelled by a piece of the text, unless an expansion has
a part in it. -/
theorem exists_foldsTo_of_infix {letter : Char} {rest text : List Char}
    (alone : startsAlone letter) (unmixed : isUnmixed (letter :: rest))
    (h : letter :: rest <:+: text.flatMap foldChar) :
    ∃ piece, piece <:+: text ∧ FoldsTo (letter :: rest) piece := by
  induction text with
  | nil => exact absurd (List.infix_nil.mp h) (by simp)
  | cons c text ih =>
    obtain ⟨before, after, he⟩ := h
    rw [List.append_assoc] at he
    cases before with
    | nil =>
      obtain ⟨piece, hpiece, hfolds⟩ := exists_foldsTo_of_prefix unmixed ⟨after, he⟩
      exact ⟨piece, hpiece.isInfix, hfolds⟩
    | cons d before =>
      obtain ⟨piece, hpiece, hfolds⟩ := ih (infix_of_append_eq alone he)
      exact ⟨piece, hpiece.trans (List.suffix_cons c text).isInfix, hfolds⟩

theorem toLower_of_isBlank {c : Char} (h : isBlank c) : c.toLower = c := by
  have hcodes : ∀ code ∈ blankCodes, (Char.ofNat code).toLower = Char.ofNat code := by
    decide +kernel
  rw [← Char.ofNat_toNat c, hcodes c.toNat (isBlank_iff.mp h)]

/-- An ASCII character that nothing outside ASCII folds to; the long s folds to `s`, and the sign
for the kelvin to `k`. -/
def foldsFromAscii (letter : Char) : Bool :=
  letter.toNat < 0x80 && letter ≠ 's' && letter ≠ 'k'

theorem target_of_mem_foldRanges : ∀ range ∈ foldRanges, ∀ image ∈ range.steps range.target,
    0x80 ≤ image ∨ image = 's'.toNat ∨ image = 'k'.toNat := by
  decide +kernel

theorem toLower_of_foldChar {c letter : Char} (h : foldChar c = [letter])
    (plain : foldsFromAscii letter) : c.toLower = letter := by
  simp only [foldsFromAscii, Bool.and_eq_true, decide_eq_true_eq] at plain
  obtain ⟨⟨ascii, hs⟩, hk⟩ := plain
  unfold foldChar at h
  split at h
  · exact List.singleton_inj.mp h
  next hc =>
    unfold mapCode at h
    split at h
    next codes hlookup =>
      have htail := tail_ne_nil_of_mem_expansions _ (mem_expansions_of_lookup hlookup)
      exact absurd (by rw [h]; rfl) htail
    next =>
      obtain rfl := List.singleton_inj.mp h
      cases hfind : foldRanges.findSome? (·.image? c.toNat) with
      | none =>
        rw [hfind, Option.getD_none, Char.ofNat_toNat] at ascii
        exact absurd ascii hc
      | some image =>
        rw [hfind, Option.getD_some] at ascii hs hk
        obtain ⟨range, hm, himage⟩ := List.exists_of_findSome?_eq_some hfind
        have htarget := (CaseRange.mem_steps_of_image? himage).2
        rcases target_of_mem_foldRanges range hm image htarget with hlarge | rfl | rfl
        · have himages : image ∈ foldImages := List.mem_append_right _
            (List.mem_append_left _ (List.mem_flatMap.mpr ⟨range, hm, htarget⟩))
          rw [toNat_ofNat_foldImages image himages] at ascii
          exact absurd ascii (Nat.not_lt.mpr hlarge)
        · exact absurd (Char.ofNat_toNat 's') hs
        · exact absurd (Char.ofNat_toNat 'k') hk

end Flowplan.Text
