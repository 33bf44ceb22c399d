import Flowplan.Proofs.Entries
import Flowplan.Proofs.Text.Words
import Flowplan.Text.Blank
import Flowplan.Text.Fold
import Mathlib.Data.List.Range

namespace Flowplan

/-- A set of numbers as the bits of one number. -/
def bitsOf (codes : List Nat) : Nat :=
  codes.foldr (fun code bits => bits ||| 1 <<< code) 0

theorem testBit_bitsOf (codes : List Nat) (code : Nat) :
    (bitsOf codes).testBit code = decide (code ∈ codes) := by
  induction codes with
  | nil => simp [bitsOf]
  | cons first rest ih =>
    have hcons : bitsOf (first :: rest) = bitsOf rest ||| 1 <<< first := rfl
    rw [hcons, Nat.testBit_or, ih, Nat.one_shiftLeft, Nat.testBit_two_pow]
    by_cases h : first = code
    · simp [h]
    · simp [h, Ne.symm h]

/-- Sets that have no bit in common have no element in common. -/
theorem disjoint_of_bitsOf {as bs : List Nat} (h : bitsOf as &&& bitsOf bs = 0) :
    as.Disjoint bs := by
  intro code ha hb
  have hbit := Nat.testBit_and (bitsOf as) (bitsOf bs) code
  rw [h, testBit_bitsOf, testBit_bitsOf] at hbit
  simp [ha, hb] at hbit

namespace Text

/-- As many code points from `start` on as the range moves, at the same distances. -/
def CaseRange.steps (range : CaseRange) (start : Nat) : List Nat :=
  List.range' start ((range.last - range.first) / range.stride + 1) range.stride

theorem CaseRange.mem_steps_of_image? {range : CaseRange} {code image : Nat}
    (h : range.image? code = some image) :
    code ∈ range.steps range.first ∧ image ∈ range.steps range.target := by
  unfold CaseRange.image? at h
  split at h
  next hin =>
    obtain ⟨hfirst, hlast, hstride⟩ := hin
    have hbound : (code - range.first) / range.stride
        < (range.last - range.first) / range.stride + 1 :=
      Nat.lt_succ_of_le (Nat.div_le_div_right (by omega))
    have hdistance : range.stride * ((code - range.first) / range.stride) = code - range.first :=
      Nat.mul_div_cancel' (Nat.dvd_of_mod_eq_zero hstride)
    have himage : image = range.target + (code - range.first) := (Option.some.inj h).symm
    unfold CaseRange.steps
    simp only [List.mem_range']
    exact ⟨⟨_, hbound, by omega⟩, _, hbound, by omega⟩
  next => simp at h

section CaseMap

variable {ranges : List CaseRange} {expansions : List (Nat × List Nat)}

/-- The code points that a case map has an entry for. -/
def movedBy (ranges : List CaseRange) (expansions : List (Nat × List Nat)) : List Nat :=
  ranges.flatMap (fun range => range.steps range.first) ++ expansions.map (·.1)

/-- The code points that stand for others in a case map. -/
def imagesOf (ranges : List CaseRange) (expansions : List (Nat × List Nat)) : List Nat :=
  ranges.flatMap (fun range => range.steps range.target) ++ expansions.flatMap (·.2)

theorem mapCode_of_not_mem {code : Nat} (h : code ∉ movedBy ranges expansions) :
    mapCode ranges expansions code = [code] := by
  obtain ⟨hranges, hexpansions⟩ := not_or.mp (List.mem_append.not.mp h)
  have hlookup : expansions.lookup code = none := by
    refine List.lookup_eq_none_iff.mpr fun entry hm => ?_
    have hne : code ≠ entry.1 := fun he => hexpansions (he ▸ List.mem_map_of_mem hm)
    simpa using hne
  have hfind : ranges.findSome? (·.image? code) = none := by
    refine List.findSome?_eq_none_iff.mpr fun range hm => ?_
    by_contra hne
    obtain ⟨image, himage⟩ := Option.ne_none_iff_exists'.mp hne
    exact hranges (List.mem_flatMap.mpr ⟨range, hm, (CaseRange.mem_steps_of_image? himage).1⟩)
  rw [mapCode, hlookup, hfind]
  rfl

theorem mapCode_cases (ranges : List CaseRange) (expansions : List (Nat × List Nat)) (code : Nat) :
    mapCode ranges expansions code = [code] ∨
      ∀ image ∈ mapCode ranges expansions code, image ∈ imagesOf ranges expansions := by
  unfold mapCode imagesOf
  split
  next codes hlookup =>
    refine .inr fun image hm => List.mem_append_right _ ?_
    exact List.mem_flatMap.mpr ⟨(code, codes), mem_of_lookup_eq_some hlookup, hm⟩
  next =>
    cases hfind : ranges.findSome? (·.image? code) with
    | none => exact .inl rfl
    | some image =>
      obtain ⟨range, hm, himage⟩ := List.exists_of_findSome?_eq_some hfind
      refine .inr fun other hother => List.mem_append_left _ ?_
      rw [Option.getD_some, List.mem_singleton] at hother
      subst other
      exact List.mem_flatMap.mpr ⟨range, hm, (CaseRange.mem_steps_of_image? himage).2⟩

end CaseMap

/-- The code points that folding moves, ASCII capitals first. -/
def movedCodes : List Nat :=
  List.range' 0x41 26 ++ movedBy foldRanges foldExpansions

def foldImages : List Nat :=
  List.range' 0x61 26 ++ imagesOf foldRanges foldExpansions

def blankCodes : List Nat :=
  blankRanges.flatMap fun range => List.range' range.1 (range.2 + 1 - range.1)

theorem isBlank_iff {c : Char} : isBlank c ↔ c.toNat ∈ blankCodes := by
  simp only [isBlank, inRanges, blankCodes, List.any_eq_true, List.mem_flatMap, List.mem_range'_1,
    Bool.and_eq_true, decide_eq_true_eq]
  refine exists_congr fun range => and_congr_right fun _ => ?_
  omega

-- Each of these compares some fourteen hundred code points on both sides; as sets of bits that
-- takes one operation, where comparing them in pairs would take two million.
theorem foldImages_disjoint_movedCodes : foldImages.Disjoint movedCodes :=
  disjoint_of_bitsOf (by decide +kernel)

theorem foldImages_disjoint_blankCodes : foldImages.Disjoint blankCodes :=
  disjoint_of_bitsOf (by decide +kernel)

theorem blankCodes_disjoint_movedCodes : blankCodes.Disjoint movedCodes :=
  disjoint_of_bitsOf (by decide +kernel)

theorem toNat_ofNat_foldImages : ∀ code ∈ foldImages, (Char.ofNat code).toNat = code := by
  decide +kernel

/-- ASCII folding keeps a character or makes a small letter of a capital. -/
theorem toLower_cases : ∀ code < 0x80, (Char.ofNat code).toLower = Char.ofNat code ∨
    code ∈ movedCodes ∧ (Char.ofNat code).toLower.toNat ∈ foldImages := by
  decide +kernel

theorem foldChar_of_not_mem {c : Char} (h : c.toNat ∉ movedCodes) : foldChar c = [c] := by
  unfold foldChar
  split
  next hascii =>
    have hlower := (toLower_cases c.toNat hascii).resolve_right fun hmoved => h hmoved.1
    rw [Char.ofNat_toNat] at hlower
    rw [hlower]
  next =>
    rw [mapCode_of_not_mem fun hm => h (List.mem_append_right _ hm), List.map_singleton,
      Char.ofNat_toNat]

/-- A character folds to itself or to images of folding. -/
theorem foldChar_cases (c : Char) :
    foldChar c = [c] ∨ ∀ d ∈ foldChar c, d.toNat ∈ foldImages := by
  unfold foldChar
  split
  next hascii =>
    have hlower := toLower_cases c.toNat hascii
    rw [Char.ofNat_toNat] at hlower
    refine hlower.imp (congrArg ([·])) fun himage d hd => ?_
    rw [List.mem_singleton.mp hd]
    exact himage.2
  next =>
    refine (mapCode_cases foldRanges foldExpansions c.toNat).imp (fun hself => ?_)
      fun himages d hd => ?_
    · rw [hself, List.map_singleton, Char.ofNat_toNat]
    · obtain ⟨image, hm, rfl⟩ := List.mem_map.mp hd
      have himage : image ∈ foldImages := List.mem_append_right _ (himages image hm)
      rwa [toNat_ofNat_foldImages image himage]

/-- What a character folds to is left alone by folding. -/
theorem foldChar_of_mem_foldChar {c d : Char} (h : d ∈ foldChar c) : foldChar d = [d] := by
  rcases foldChar_cases c with hself | himages
  · rw [hself, List.mem_singleton] at h
    rw [h, hself]
  · exact foldChar_of_not_mem (foldImages_disjoint_movedCodes (himages d h))

theorem fold_fold (text : String) : fold (fold text) = fold text := by
  rw [← String.toList_inj, toList_fold (fold text), toList_fold, List.flatMap_assoc]
  refine List.flatMap_congr fun c _ => ?_
  calc (foldChar c).flatMap foldChar
      = (foldChar c).flatMap fun d => [d] :=
        List.flatMap_congr fun d hd => foldChar_of_mem_foldChar hd
    _ = foldChar c := List.flatMap_singleton' _

theorem foldChar_of_isBlank {c : Char} (h : isBlank c) : foldChar c = [c] :=
  foldChar_of_not_mem (blankCodes_disjoint_movedCodes (isBlank_iff.mp h))

/-- Only blanks fold to blanks. -/
theorem isBlank_of_mem_foldChar {c d : Char} (hd : d ∈ foldChar c) (h : isBlank d) :
    isBlank c := by
  rcases foldChar_cases c with hself | himages
  · rw [hself, List.mem_singleton] at hd
    exact hd ▸ h
  · exact absurd (isBlank_iff.mp h) (foldImages_disjoint_blankCodes (himages d hd))

theorem expansion_ne_nil : ∀ entry ∈ foldExpansions, entry.2 ≠ [] := by
  decide +kernel

/-- No character is folded away. -/
theorem foldChar_ne_nil (c : Char) : foldChar c ≠ [] := by
  unfold foldChar mapCode
  split
  next => simp
  next =>
    split
    next codes hlookup =>
      simpa using expansion_ne_nil (c.toNat, codes) (mem_of_lookup_eq_some hlookup)
    next => simp

/-- The piece stands somewhere in the text, whatever the case of either. -/
def HoldsFolded (text piece : String) : Prop :=
  Holds (fold text) (fold piece)

instance (text piece : String) : Decidable (HoldsFolded text piece) :=
  inferInstanceAs (Decidable (Holds _ _))

theorem Holds.folded {text piece : String} (h : Holds text piece) : HoldsFolded text piece := by
  unfold HoldsFolded
  unfold Holds at h ⊢
  rw [toList_fold, toList_fold]
  obtain ⟨before, after, he⟩ := h
  exact ⟨before.flatMap foldChar, after.flatMap foldChar, by simp [← he]⟩

end Text

end Flowplan
