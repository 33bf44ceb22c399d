import Flowplan.Pipeline
import Flowplan.Proofs.Graph.Slugs
import Mathlib.Data.List.Nodup

namespace Flowplan

/-- The name of the file of the workflow with a number, for a slug. -/
def workflowFile (number : Nat) (slug : String) : String :=
  s!"{number}_{slug}.json"

theorem toList_workflowFile (number : Nat) (slug : String) :
    (workflowFile number slug).toList
      = Nat.toDigits 10 number ++ '_' :: (slug.toList ++ ".json".toList) := by
  have h : workflowFile number slug = toString number ++ "_" ++ slug ++ ".json" := by
    simp [workflowFile, ToString.toString, String.append_assoc]
  rw [h]
  simp

/-- The digits before the underscore give the number back. -/
theorem number_eq_of_workflowFile_eq {m n : Nat} {slug slug' : String}
    (h : workflowFile m slug = workflowFile n slug') : m = n := by
  have hdigits : ∀ (number : Nat) (text : String),
      (workflowFile number text).toList.takeWhile Char.isDigit = Nat.toDigits 10 number := by
    intro number text
    have hnumber : ∀ c ∈ Nat.toDigits 10 number, c.isDigit := fun c hc =>
      Nat.isDigit_of_mem_toDigits (by omega) (by omega) hc
    rw [toList_workflowFile, List.takeWhile_append_of_pos hnumber,
      List.takeWhile_cons_of_neg (by decide), List.append_nil]
  calc m = Nat.ofDigitChars 10 (Nat.toDigits 10 m) 0 := Nat.ofDigitChars_ten_toDigits.symm
    _ = Nat.ofDigitChars 10 (Nat.toDigits 10 n) 0 := by
      rw [← hdigits m slug, h, hdigits n slug']
    _ = n := Nat.ofDigitChars_ten_toDigits

/-- The first character of the name is a digit. -/
theorem workflowFile_ne {number : Nat} {slug name : String}
    (h : ∀ c ∈ name.toList.head?, c.isDigit = false) : workflowFile number slug ≠ name := by
  rintro rfl
  obtain ⟨c, rest, hc⟩ := List.exists_cons_of_ne_nil (Nat.toDigits_ne_nil (b := 10) (n := number))
  have hfirst : c ∈ (workflowFile number slug).toList.head? := by
    rw [toList_workflowFile, hc]
    rfl
  have hdigit : c.isDigit :=
    Nat.isDigit_of_mem_toDigits (by omega) (by omega) (hc ▸ List.mem_cons_self)
  rw [h c hfirst] at hdigit
  contradiction

theorem Graph.IsSlug.mem_workflowFile {text : String} (isSlug : Graph.IsSlug text) {number : Nat}
    {c : Char} (hm : c ∈ (workflowFile number text).toList) : c ≠ '/' ∧ c ≠ '\\' := by
  rw [toList_workflowFile] at hm
  rcases List.mem_append.mp hm with hm | hm
  · have hdigit : c.isDigit := Nat.isDigit_of_mem_toDigits (by omega) (by omega) hm
    constructor <;> rintro rfl <;> exact absurd hdigit (by decide)
  rcases List.mem_cons.mp hm with rfl | hm
  · decide
  rcases List.mem_append.mp hm with hm | hm
  · rcases isSlug.mem hm with rfl | hslug
    · decide
    · constructor <;> rintro rfl <;> exact absurd hslug (by decide)
  · constructor <;> rintro rfl <;> exact absurd hm (by decide)

namespace Run

variable {run : Run} {file : String}

theorem names_graphFiles (run : Run) :
    run.graphFiles.map (·.1)
      = run.graphs.mapIdx fun i graph => workflowFile (i + 1) (Graph.slug graph.name.shown) := by
  refine List.ext_getElem (by simp [graphFiles]) fun i _ _ => ?_
  simp only [graphFiles, List.getElem_map, List.getElem_mapIdx]
  rfl

theorem nodup_names_graphFiles (run : Run) : (run.graphFiles.map (·.1)).Nodup := by
  rw [names_graphFiles, List.nodup_iff_injective_get]
  intro i j h
  simp only [List.get_eq_getElem, List.getElem_mapIdx] at h
  exact Fin.ext (Nat.succ.inj (number_eq_of_workflowFile_eq h))

theorem mem_names_graphFiles (hm : file ∈ run.graphFiles.map (·.1)) :
    ∃ number name, file = workflowFile number (Graph.slug name) := by
  rw [names_graphFiles] at hm
  obtain ⟨i, hi, rfl⟩ := List.mem_mapIdx.mp hm
  exact ⟨_, _, rfl⟩

theorem not_mem_of_mem_graphFiles (hm : file ∈ run.graphFiles.map (·.1)) :
    file ∉ ["blueprint.json", "blueprint.md", "run_summary.json"] := by
  obtain ⟨number, name, rfl⟩ := mem_names_graphFiles hm
  intro hfixed
  have hletter : ∀ fixed ∈ ["blueprint.json", "blueprint.md", "run_summary.json"],
      ∀ c ∈ fixed.toList.head?, c.isDigit = false := by
    simp
  exact workflowFile_ne (hletter _ hfixed) rfl

theorem ne_separator_of_mem_graphFiles (hm : file ∈ run.graphFiles.map (·.1)) {c : Char}
    (hc : c ∈ file.toList) : c ≠ '/' ∧ c ≠ '\\' := by
  obtain ⟨number, name, rfl⟩ := mem_names_graphFiles hm
  exact (Graph.isSlug_slug name).mem_workflowFile hc

/-- No file of a run takes the place of another one. -/
theorem nodup_names_artifacts (run : Run) : (run.artifacts.map (·.1)).Nodup := by
  have hnames : run.artifacts.map (·.1)
      = "blueprint.json" :: "blueprint.md"
        :: (run.graphFiles.map (·.1) ++ ["run_summary.json"]) := by
    simp [artifacts, documents]
  have hfixed : ∀ fixed ∈ ["blueprint.json", "blueprint.md", "run_summary.json"],
      fixed ∉ run.graphFiles.map (·.1) := fun fixed hm h => not_mem_of_mem_graphFiles h hm
  simp only [List.forall_mem_cons] at hfixed
  obtain ⟨hjson, hmarkdown, hsummary, -⟩ := hfixed
  rw [hnames, List.nodup_cons, List.nodup_cons, List.nodup_append]
  simp only [List.mem_cons, List.mem_append, List.not_mem_nil, or_false, not_or]
  refine ⟨⟨by decide, hjson, by decide⟩, ⟨hmarkdown, by decide⟩, nodup_names_graphFiles run,
    List.nodup_singleton _, ?_⟩
  rintro name hm _ rfl rfl
  exact hsummary hm

end Run

/-- The slug of every name is one or more runs of letters and digits with single hyphens between
them, and its own slug: of the folded name, whatever is no such letter or digit becomes hyphens, one
for each run, and those at the ends go. So the files of the workflows have names of their own,
whatever the workflows are called, that name files of the directory itself. -/
theorem slug_normal_and_files_distinct :
    (∀ name, Graph.slug name ≠ "" ∧ Graph.IsSlug (Graph.slug name)
      ∧ Graph.slug (Graph.slug name) = Graph.slug name
      ∧ Graph.slug name =
        (let stripped := Text.trimmed (· = '-') (Graph.hyphenate false (Text.fold name).toList)
         if stripped = [] then "graph" else String.ofList stripped))
    ∧ ∀ run : Run, (run.graphFiles.map (·.1)).Nodup ∧ (run.artifacts.map (·.1)).Nodup
      ∧ ∀ file ∈ run.graphFiles.map (·.1),
        file ∉ ["blueprint.json", "blueprint.md", "run_summary.json"]
          ∧ ∀ c ∈ file.toList, c ≠ '/' ∧ c ≠ '\\' := by
  refine ⟨fun name => ?_, fun run => ?_⟩
  · have isSlug := Graph.isSlug_slug name
    exact ⟨isSlug.ne_empty, isSlug, isSlug.slug_eq, Graph.slug_eq_stripped name⟩
  · refine ⟨run.nodup_names_graphFiles, run.nodup_names_artifacts, fun file hm => ?_⟩
    exact ⟨Run.not_mem_of_mem_graphFiles hm, fun c hc => Run.ne_separator_of_mem_graphFiles hm hc⟩

end Flowplan
