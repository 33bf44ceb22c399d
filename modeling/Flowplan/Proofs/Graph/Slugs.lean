import Flowplan.Graph.Slug
import Flowplan.Proofs.Text.Splitting
import Flowplan.Proofs.Text.Trimming

namespace Flowplan.Graph

/-- Small letters and digits, at least one in each run. -/
def AreRuns (runs : List (List Char)) : Prop :=
  ∀ run ∈ runs, run ≠ [] ∧ ∀ c ∈ run, isSlugChar c

instance (runs : List (List Char)) : Decidable (AreRuns runs) :=
  decidable_of_iff (runs.all fun run => !run.isEmpty && run.all isSlugChar) (by simp [AreRuns])

/-- Runs of small letters and digits, at least one, with single hyphens between them. -/
def IsSlug (text : String) : Prop :=
  ∃ runs, runs ≠ [] ∧ AreRuns runs ∧ text.toList = ['-'].intercalate runs

/-- Writes one hyphen for each run of characters that no slug has; `inGap` tells whether the hyphen
of the run being read was written. -/
def hyphenate (inGap : Bool) : List Char → List Char
  | [] => []
  | c :: rest =>
    if isSlugChar c then c :: hyphenate false rest
    else if inGap then hyphenate true rest
    else '-' :: hyphenate true rest

/-- The runs that make up the slug of a text. -/
def slugRuns (run text : List Char) : List (List Char) :=
  Text.runsFrom (fun c => !isSlugChar c) run text

theorem ne_hyphen_of_isSlugChar {c : Char} (h : isSlugChar c) : c ≠ '-' := by
  rintro rfl
  exact absurd h (by decide)

section Runs

variable {run : List Char} {c : Char} (rest : List Char)

theorem slugRuns_cons_of_isSlugChar (h : isSlugChar c) :
    slugRuns run (c :: rest) = slugRuns (c :: run) rest := by
  simp [slugRuns, Text.runsFrom, h]

theorem slugRuns_cons_of_not (h : isSlugChar c = false) (hrun : run ≠ []) :
    slugRuns run (c :: rest) = run.reverse :: slugRuns [] rest := by
  simp [slugRuns, Text.runsFrom, h, hrun]

theorem slugRuns_nil_cons_of_not (h : isSlugChar c = false) :
    slugRuns [] (c :: rest) = slugRuns [] rest := by
  simp [slugRuns, Text.runsFrom, h]

end Runs

theorem mem_slugRuns {run text piece : List Char} (hrun : ∀ c ∈ run, isSlugChar c)
    (hm : piece ∈ slugRuns run text) : piece ≠ [] ∧ ∀ c ∈ piece, isSlugChar c := by
  induction text generalizing run with
  | nil =>
    unfold slugRuns Text.runsFrom at hm
    split at hm
    · simp at hm
    next hne =>
      rw [List.mem_singleton.mp hm]
      exact ⟨by simpa using hne, fun c hc => hrun c (List.mem_reverse.mp hc)⟩
  | cons c rest ih =>
    cases hc : isSlugChar c with
    | true =>
      rw [slugRuns_cons_of_isSlugChar rest hc] at hm
      exact ih (List.forall_mem_cons.mpr ⟨hc, hrun⟩) hm
    | false =>
      by_cases hne : run = []
      · subst hne
        rw [slugRuns_nil_cons_of_not rest hc] at hm
        exact ih hrun hm
      · rw [slugRuns_cons_of_not rest hc hne] at hm
        rcases List.mem_cons.mp hm with rfl | hm
        · exact ⟨by simpa using hne, fun d hd => hrun d (List.mem_reverse.mp hd)⟩
        · exact ih (by simp) hm

theorem areRuns_slugRuns (text : List Char) : AreRuns (slugRuns [] text) :=
  fun _ hm => mem_slugRuns (by simp) hm

/-- Runs that hyphens join are found again. -/
theorem slugRuns_intercalate {runs : List (List Char)} (h : AreRuns runs) :
    slugRuns [] (['-'].intercalate runs) = runs := by
  have hlone : ∀ run : List Char, run ≠ [] → (∀ c ∈ run, isSlugChar c) →
      slugRuns [] run = [run] := by
    intro run hne hchars
    have hinside : ∀ c ∈ run, (!isSlugChar c) = false := fun c hc => by simp [hchars c hc]
    have happend := Text.runsFrom_append hinside [] []
    rw [List.append_nil, List.append_nil] at happend
    rw [slugRuns, happend, Text.runsFrom, if_neg (by simpa using hne), List.reverse_reverse]
  induction runs with
  | nil => rfl
  | cons run rest ih =>
    obtain ⟨⟨hne, hchars⟩, hrest⟩ := List.forall_mem_cons.mp h
    by_cases he : rest = []
    · rw [he, List.intercalate_singleton, hlone run hne hchars]
    · rw [List.intercalate_cons_of_ne_nil he, List.append_assoc, List.singleton_append, slugRuns,
        Text.runsFrom_separator (by decide)]
      exact congrArg₂ (· ++ ·) (hlone run hne hchars) (ih hrest)

/-- What is read of a text after a run that was read of it. -/
theorem exists_hyphenate_eq (text : List Char) :
    (∀ run ≠ [], ∃ trail, (∀ c ∈ trail, c = '-') ∧
      run.reverse ++ hyphenate false text = ['-'].intercalate (slugRuns run text) ++ trail) ∧
    ∃ trail, (∀ c ∈ trail, c = '-') ∧
      hyphenate true text = ['-'].intercalate (slugRuns [] text) ++ trail := by
  induction text with
  | nil =>
    refine ⟨fun run hne => ⟨[], by simp, ?_⟩, [], by simp, rfl⟩
    simp [hyphenate, slugRuns, Text.runsFrom, hne]
  | cons c rest ih =>
    obtain ⟨hinside, trail, htrail, hgap⟩ := ih
    cases hc : isSlugChar c with
    | true =>
      refine ⟨fun run _ => ?_, ?_⟩
      · rw [slugRuns_cons_of_isSlugChar rest hc, hyphenate, if_pos hc]
        simpa using hinside (c :: run) (List.cons_ne_nil _ _)
      · rw [slugRuns_cons_of_isSlugChar rest hc, hyphenate, if_pos hc]
        simpa using hinside [c] (List.cons_ne_nil _ _)
    | false =>
      refine ⟨fun run hne => ?_, ?_⟩
      · rw [slugRuns_cons_of_not rest hc hne, hyphenate, if_neg (by simp [hc]),
          if_neg Bool.false_ne_true, hgap]
        by_cases he : slugRuns [] rest = []
        · refine ⟨'-' :: trail, List.forall_mem_cons.mpr ⟨rfl, htrail⟩, ?_⟩
          rw [he, List.intercalate_singleton]
          rfl
        · refine ⟨trail, htrail, ?_⟩
          rw [List.intercalate_cons_of_ne_nil he]
          simp
      · rw [slugRuns_nil_cons_of_not rest hc, hyphenate, if_neg (by simp [hc]), if_pos rfl]
        exact ⟨trail, htrail, hgap⟩

theorem exists_hyphenate_false_eq (text : List Char) :
    ∃ lead trail, (∀ c ∈ lead, c = '-') ∧ (∀ c ∈ trail, c = '-') ∧
      hyphenate false text = lead ++ ['-'].intercalate (slugRuns [] text) ++ trail := by
  cases text with
  | nil => exact ⟨[], [], by simp, by simp, rfl⟩
  | cons c rest =>
    obtain ⟨hinside, trail, htrail, hgap⟩ := exists_hyphenate_eq rest
    cases hc : isSlugChar c with
    | true =>
      obtain ⟨trail, htrail, h⟩ := hinside [c] (List.cons_ne_nil _ _)
      refine ⟨[], trail, by simp, htrail, ?_⟩
      rw [slugRuns_cons_of_isSlugChar rest hc, hyphenate, if_pos hc]
      exact h
    | false =>
      refine ⟨['-'], trail, by simp, htrail, ?_⟩
      rw [slugRuns_nil_cons_of_not rest hc, hyphenate, if_neg (by simp [hc]),
        if_neg Bool.false_ne_true, hgap]
      simp

theorem intercalate_ne_nil {runs : List (List Char)} (h : AreRuns runs) (hne : runs ≠ []) :
    ['-'].intercalate runs ≠ [] := by
  obtain ⟨run, rest, rfl⟩ := List.exists_cons_of_ne_nil hne
  have hrun : run ≠ [] := (h run List.mem_cons_self).1
  by_cases he : rest = []
  · rwa [he, List.intercalate_singleton]
  · rw [List.intercalate_cons_of_ne_nil he]
    simp

/-- Runs that hyphens join have none before them and none after them. -/
theorem bare_intercalate {runs : List (List Char)} (h : AreRuns runs) :
    Text.Bare (· = '-') (['-'].intercalate runs) := by
  induction runs with
  | nil => exact ⟨by simp, by simp⟩
  | cons run rest ih =>
    obtain ⟨⟨hne, hchars⟩, hrest⟩ := List.forall_mem_cons.mp h
    have hplain : ∀ c ∈ run, decide (c = '-') = false := fun c hc =>
      decide_eq_false (ne_hyphen_of_isSlugChar (hchars c hc))
    by_cases he : rest = []
    · rw [he, List.intercalate_singleton]
      exact ⟨fun c hc => hplain c (List.mem_of_mem_head? hc),
        fun c hc => hplain c (List.mem_of_mem_getLast? hc)⟩
    · have hlater : ['-'].intercalate rest ≠ [] := intercalate_ne_nil hrest he
      rw [List.intercalate_cons_of_ne_nil he, List.append_assoc]
      constructor
      · intro c hc
        rw [List.head?_append_of_ne_nil _ hne] at hc
        exact hplain c (List.mem_of_mem_head? hc)
      · intro c hc
        rw [List.singleton_append, List.getLast?_append_of_ne_nil _ (List.cons_ne_nil _ _),
          List.getLast?_cons_of_ne_nil hlater] at hc
        exact (ih hrest).last c hc

theorem trimmed_hyphenate (text : List Char) :
    Text.trimmed (· = '-') (hyphenate false text) = ['-'].intercalate (slugRuns [] text) := by
  obtain ⟨lead, trail, hlead, htrail, h⟩ := exists_hyphenate_false_eq text
  have bare := bare_intercalate (areRuns_slugRuns text)
  rw [h, bare.trimmed_append (by simpa using hlead) (by simpa using htrail)]

theorem toList_slug (name : String) :
    (slug name).toList = if slugRuns [] (Text.fold name).toList = [] then "graph".toList
      else ['-'].intercalate (slugRuns [] (Text.fold name).toList) := by
  have hslug : slug name = if slugRuns [] (Text.fold name).toList = [] then "graph"
      else "-".intercalate ((slugRuns [] (Text.fold name).toList).map String.ofList) := by
    simp only [slug, slugRuns, List.isEmpty_iff]
    rfl
  rw [hslug, apply_ite String.toList, String.toList_intercalate, List.map_map]
  congr 2
  exact List.map_id'' (fun run => String.toList_ofList) _

/-- Whatever is no small letter and no digit of the folded name becomes hyphens, one for each run,
and those at the ends go. -/
theorem slug_eq_stripped (name : String) :
    slug name =
      (let stripped := Text.trimmed (· = '-') (hyphenate false (Text.fold name).toList)
       if stripped = [] then "graph" else String.ofList stripped) := by
  rw [← String.toList_inj, toList_slug]
  simp only [trimmed_hyphenate, apply_ite String.toList, String.toList_ofList]
  by_cases h : slugRuns [] (Text.fold name).toList = []
  · rw [h, if_pos rfl, List.intercalate_nil, if_pos rfl]
  · have hne := intercalate_ne_nil (areRuns_slugRuns _) h
    rw [if_neg h, if_neg hne]

theorem isSlug_slug (name : String) : IsSlug (slug name) := by
  have htoList := toList_slug name
  by_cases h : slugRuns [] (Text.fold name).toList = []
  · rw [if_pos h] at htoList
    exact ⟨["graph".toList], by simp, by decide, by rw [htoList, List.intercalate_singleton]⟩
  · rw [if_neg h] at htoList
    exact ⟨_, h, areRuns_slugRuns _, htoList⟩

theorem toLower_slugChars : ∀ code < 0x80,
    Char.ofNat code = '-' ∨ isSlugChar (Char.ofNat code) →
      (Char.ofNat code).toLower = Char.ofNat code := by
  decide

/-- Folding leaves alone what slugs are made of. -/
theorem foldChar_of_isSlugChar {c : Char} (h : c = '-' ∨ isSlugChar c) :
    Text.foldChar c = [c] := by
  have hascii : c.toNat < 0x80 := by
    rcases h with rfl | h
    · decide
    · simp only [isSlugChar, Bool.or_eq_true, Bool.and_eq_true, decide_eq_true_eq] at h
      have hle : c ≤ 'z' := h.elim (·.2) fun hdigit =>
        Char.le_trans hdigit.2 (by decide : '9' ≤ 'z')
      have : c.toNat ≤ 0x7A := UInt32.le_iff_toNat_le.mp (Char.le_def.mp hle)
      omega
  have hlower := toLower_slugChars c.toNat hascii
  rw [Char.ofNat_toNat] at hlower
  rw [Text.foldChar, if_pos hascii, hlower h]

theorem mem_intercalate {runs : List (List Char)} (h : AreRuns runs) {c : Char}
    (hm : c ∈ ['-'].intercalate runs) : c = '-' ∨ isSlugChar c := by
  induction runs with
  | nil => simp at hm
  | cons run rest ih =>
    obtain ⟨⟨-, hchars⟩, hrest⟩ := List.forall_mem_cons.mp h
    by_cases he : rest = []
    · rw [he, List.intercalate_singleton] at hm
      exact .inr (hchars c hm)
    · rw [List.intercalate_cons_of_ne_nil he, List.append_assoc] at hm
      rcases List.mem_append.mp hm with hm | hm
      · exact .inr (hchars c hm)
      · rcases List.mem_cons.mp hm with rfl | hm
        · exact .inl rfl
        · exact ih hrest hm

theorem IsSlug.ne_empty {text : String} (isSlug : IsSlug text) : text ≠ "" := by
  obtain ⟨runs, hne, h, he⟩ := isSlug
  rintro rfl
  exact intercalate_ne_nil h hne he.symm

theorem IsSlug.mem {text : String} (isSlug : IsSlug text) {c : Char} (hm : c ∈ text.toList) :
    c = '-' ∨ isSlugChar c := by
  obtain ⟨runs, -, h, he⟩ := isSlug
  exact mem_intercalate h (he ▸ hm)

theorem IsSlug.fold_eq {text : String} (isSlug : IsSlug text) : Text.fold text = text := by
  rw [← String.toList_inj, Text.toList_fold]
  calc text.toList.flatMap Text.foldChar
      = text.toList.flatMap fun c => [c] :=
        List.flatMap_congr fun c hc => foldChar_of_isSlugChar (isSlug.mem hc)
    _ = text.toList := List.flatMap_singleton' _

theorem IsSlug.slug_eq {text : String} (isSlug : IsSlug text) : slug text = text := by
  obtain ⟨runs, hne, h, he⟩ := isSlug
  rw [← String.toList_inj, toList_slug, IsSlug.fold_eq ⟨runs, hne, h, he⟩, he,
    slugRuns_intercalate h, if_neg hne]

end Flowplan.Graph
