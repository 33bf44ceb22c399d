import Flowplan.Messages
import Flowplan.Proofs.Json.Lengths
import Flowplan.Proofs.Json.Parsing
import Flowplan.Proofs.Text.Lines

namespace Flowplan

namespace Json

/-- What a text is to any reader that it does not exceed, if it is within the usual limits. -/
theorem parse_eq_ok_of_parseWithin {limits : Limits} {text : String} {value : Json}
    (hwithin : ∀ limit, parse text ≠ .error (.beyond limit))
    (h : parseWithin limits text = .ok value) : parse text = .ok value := by
  let wider : Limits := ⟨max limits.nesting Limits.standard.nesting,
    max limits.digits Limits.standard.digits⟩
  have hlimits : limits ≤ wider := ⟨le_max_left _ _, le_max_left _ _⟩
  have hstandard : Limits.standard ≤ wider := ⟨le_max_right _ _, le_max_right _ _⟩
  calc parse text = parseWithin wider text := (parseWithin_of_le hstandard hwithin).symm
    _ = parseWithin limits text := parseWithin_of_le hlimits (by simp [h])
    _ = .ok value := h

theorem length_lt_of_beyond {text : String} {limit : Limit}
    (h : parse text = .error (.beyond limit)) : Limits.standard.nesting < text.toList.length := by
  by_contra hle
  exact parseWithin_ne_beyond (show _ ≤ Limits.standard.nesting by omega)
    (by simp only [Limits.standard, Text.mostDigits] at hle ⊢; omega) limit h

end Json

namespace Path

theorem splitSlashes_of_not_mem {chars : List Char} (h : '/' ∉ chars) (name : List Char) :
    splitSlashes name chars = [name.reverse ++ chars] := by
  induction chars generalizing name with
  | nil => simp [splitSlashes]
  | cons c rest ih =>
    simp only [List.mem_cons, not_or] at h
    obtain ⟨hc, hrest⟩ := h
    rw [splitSlashes, if_neg (Ne.symm hc), ih hrest]
    simp

section Lone

variable {name : String} (h : '/' ∉ name.toList)
include h

theorem parts_lone : parts name = [name] := by
  simp [parts, splitSlashes_of_not_mem h]

theorem start_lone : start name = [] := by
  have hstart : name.startsWith "/" = false := by
    rw [String.startsWith_string_eq_false_iff]
    exact fun hlead => h (hlead.subset List.mem_cons_self)
  rw [start, hstart, if_neg Bool.false_ne_true]

/-- A name that has no slash leads to itself. -/
theorem normalize_lone (hempty : name ≠ "") (hdot : name ≠ ".") : normalize name = name := by
  have hanchor : anchor name = "" := by
    unfold anchor
    split <;> simp_all
  have hcomponents : components name = [name] := by
    simp [components, parts_lone h, hempty, hdot]
  rw [normalize, ofComponents, hanchor, hcomponents]
  simp [hempty]

end Lone

end Path

namespace FileTree

variable {tree : FileTree}

theorem exists_long_of_follow {names parts : List String}
    (h : tree.follow names parts = .unnameable) :
    ∃ part ∈ parts, longestName < part.utf8ByteSize := by
  have hlookUp : ∀ names, tree.lookUp names ≠ .unnameable := by
    intro names
    unfold lookUp
    split
    · simp
    · simp
    · split <;> simp
  induction parts generalizing names with
  | nil => exact absurd h (hlookUp names)
  | cons part rest ih =>
    unfold follow at h
    split at h
    · split at h
      next hlong => exact ⟨part, List.mem_cons_self, hlong⟩
      next =>
        obtain ⟨long, hm, hlong⟩ := ih h
        exact ⟨long, List.mem_cons_of_mem _ hm, hlong⟩
    · simp at h
    · exact absurd h (hlookUp names)

theorem long_of_find {path : String} (h : tree.find path = .unnameable) :
    longestPath < path.utf8ByteSize ∨
      ∃ part ∈ Path.parts path, longestName < part.utf8ByteSize := by
  unfold find at h
  split at h
  · simp at h
  split at h
  next hlong => exact .inl hlong
  next => exact .inr (exists_long_of_follow h)

/-- No file has a name of more than 255 bytes. -/
theorem find_long {name : String} (hroot : ∃ names, tree.lookUp [] = .directory names)
    (hslash : '/' ∉ name.toList) (hnull : '\x00' ∉ name.toList)
    (hlong : longestName < name.utf8ByteSize) : tree.find name = .unnameable := by
  obtain ⟨names, hroot⟩ := hroot
  rw [find, if_neg (by simpa using hnull)]
  split
  · rfl
  · rw [Path.start_lone hslash, Path.parts_lone hslash, follow, hroot]
    exact if_pos hlong

theorem find_empty_ne_file (path : String) (bytes : List Nat) : empty.find path ≠ .file bytes := by
  have hlookUp : ∀ names, empty.lookUp names ≠ .file bytes := by
    intro names
    by_cases h : names = [] ∨ names = ["/"]
    · simp [lookUp, empty, h]
    · simp [lookUp, empty, h]
  have hfollow : ∀ names parts, empty.follow names parts ≠ .file bytes := by
    intro names parts
    induction parts generalizing names with
    | nil => exact hlookUp names
    | cons part rest ih =>
      unfold follow
      split
      · split
        · simp
        · exact ih _
      · simp
      · exact hlookUp names
  unfold find
  split
  · simp
  split
  · simp
  · exact hfollow _ _

end FileTree

namespace Messages

/-- What is read for an input: the text of the file that it names, or else the input itself. -/
inductive HasContent (tree : FileTree) (input : String) : String → Prop
  | file {bytes : List Nat} {content : String}
      (found : tree.find (Path.normalize input) = .file bytes)
      (decoded : textOfBytes bytes = .ok content) : HasContent tree input content
  | literal (absent : ∀ bytes, tree.find (Path.normalize input) ≠ .file bytes) :
      HasContent tree input input

theorem ofLines_eq (content : String) :
    ofLines content
      = (((Text.lines content).filter (!Text.allBlank ·)).map Text.trim).map Json.str := by
  rw [ofLines, List.map_map]
  rfl

section Content

variable {content : String} {messages : List Json}

theorem ofContent_eq_error_iff {fault : Fault} :
    ofContent content = .error fault ↔
      ∃ limit, Json.parse content = .error (.beyond limit) ∧ fault = .limit limit := by
  unfold ofContent
  split
  next h => simp [h]
  next h => simp [h, eq_comm]
  next h =>
    simp only [reduceCtorEq, false_iff, not_exists, not_and]
    exact fun limit hlimit => absurd hlimit (h limit)

theorem within_of_ofContent (h : ofContent content = .ok messages) (limit : Json.Limit) :
    Json.parse content ≠ .error (.beyond limit) := by
  intro hlimit
  rw [ofContent_eq_error_iff.mpr ⟨limit, hlimit, rfl⟩] at h
  contradiction

theorem ofContent_of_list {limits : Json.Limits} {items : List Json}
    (h : ofContent content = .ok messages)
    (hitems : Json.parseWithin limits content = .ok (.arr items)) : messages = items := by
  have hparse := Json.parse_eq_ok_of_parseWithin (within_of_ofContent h) hitems
  rw [ofContent, hparse] at h
  exact (Except.ok.inj h).symm

theorem ofContent_of_not_list (h : ofContent content = .ok messages)
    (hother : ∀ items, Json.parse content ≠ .ok (.arr items)) :
    messages = ofLines content := by
  unfold ofContent at h
  split at h
  next items hparse => exact absurd hparse (hother items)
  next => contradiction
  next => exact (Except.ok.inj h).symm

end Content

section Input

variable {tree : FileTree} {input content : String}

theorem read_eq (given : HasContent tree input content) :
    (tree.find (Path.normalize input) = .unnameable ∧
      read tree input = .error (.longPath (Path.normalize input))) ∨
    (tree.find (Path.normalize input) ≠ .unnameable ∧ read tree input = ofContent content) := by
  cases given with
  | file found decoded => exact .inr ⟨by simp [found], by simp [read, found, decoded, Except.bind]⟩
  | literal absent =>
    cases hfind : tree.find (Path.normalize input) with
    | unnameable => exact .inl ⟨rfl, by simp [read, hfind]⟩
    | file bytes => exact absurd hfind (absent bytes)
    | _ => exact .inr ⟨by simp, by simp [read, hfind]⟩

/-- A list in JSON is read as it is, and any other content as lines that conserve it, unless the
input makes no path or the content meets a limit of the reader, which takes an input or a content
that is long. -/
theorem read_conserves (given : HasContent tree input content) :
    (∀ fault, read tree input = .error fault ↔
      (tree.find (Path.normalize input) = .unnameable ∧
        fault = .longPath (Path.normalize input)) ∨
      (tree.find (Path.normalize input) ≠ .unnameable ∧
        ∃ limit, Json.parse content = .error (.beyond limit) ∧ fault = .limit limit)) ∧
    (∀ fault, read tree input = .error fault →
      FileTree.longestPath < (Path.normalize input).utf8ByteSize ∨
      (∃ part ∈ Path.parts (Path.normalize input),
        FileTree.longestName < part.utf8ByteSize) ∨
      Json.Limits.standard.nesting < content.toList.length) ∧
    ∀ messages, read tree input = .ok messages →
      (∀ limits items, Json.parseWithin limits content = .ok (.arr items) → messages = items) ∧
      ((∀ items, Json.parse content ≠ .ok (.arr items)) →
        ∃ texts, messages = texts.map Json.str ∧ Text.Conserves content texts) := by
  have hfault : ∀ fault, read tree input = .error fault ↔
      (tree.find (Path.normalize input) = .unnameable ∧
        fault = .longPath (Path.normalize input)) ∨
      (tree.find (Path.normalize input) ≠ .unnameable ∧
        ∃ limit, Json.parse content = .error (.beyond limit) ∧ fault = .limit limit) := by
    intro fault
    rcases read_eq given with ⟨hname, hread⟩ | ⟨hname, hread⟩
    · simp [hname, hread, eq_comm]
    · simp [hname, hread, ofContent_eq_error_iff]
  refine ⟨hfault, fun fault h => ?_, fun messages h => ?_⟩
  · rcases (hfault fault).mp h with ⟨hname, -⟩ | ⟨-, limit, hlimit, -⟩
    · rcases FileTree.long_of_find hname with hlong | hlong
      · exact .inl hlong
      · exact .inr (.inl hlong)
    · exact .inr (.inr (Json.length_lt_of_beyond hlimit))
  · rcases read_eq given with ⟨-, hread⟩ | ⟨-, hread⟩
    · rw [hread] at h
      contradiction
    · rw [hread] at h
      refine ⟨fun limits items => ofContent_of_list h, fun hother => ?_⟩
      rw [ofContent_of_not_list h hother, ofLines_eq]
      exact ⟨_, rfl, Text.conserves_trim_lines content⟩

end Input

/-- Two lines, with a blank one between them. -/
def twoLines : String :=
  "stripe\r\n\n  hub spot \u2028"

theorem parse_twoLines (items : List Json) : Json.parse twoLines ≠ .ok (.arr items) := by
  have hchars : twoLines.toList = 's' :: "tripe\r\n\n  hub spot \u2028".toList := by
    decide +kernel
  intro h
  simp [Json.parse, Json.parseWithin, hchars, Json.readText, Json.skipSpace, Json.isSpace,
    Json.readValue, Json.readNumber, Json.stop, Json.spanDigits, Except.mapError, bind,
    Except.bind] at h

theorem read_conserves_twoLines : HasContent .empty twoLines twoLines ∧
    ∃ texts, read .empty twoLines = .ok (texts.map Json.str) ∧ Text.Conserves twoLines texts := by
  have given : HasContent .empty twoLines twoLines :=
    .literal fun bytes => FileTree.find_empty_ne_file _ bytes
  obtain ⟨-, hlong, hmessages⟩ := read_conserves given
  refine ⟨given, ?_⟩
  cases hread : read .empty twoLines with
  | error fault => exact absurd (hlong fault hread) (by decide +kernel)
  | ok messages =>
    obtain ⟨texts, rfl, conserves⟩ := (hmessages messages hread).2 parse_twoLines
    exact ⟨texts, rfl, conserves⟩

/-- A text that could be a name but for its length is refused, whatever it says. -/
theorem read_of_long {tree : FileTree} {name : String}
    (hroot : ∃ names, tree.lookUp [] = .directory names) (hslash : '/' ∉ name.toList)
    (hnull : '\x00' ∉ name.toList) (hlong : FileTree.longestName < name.utf8ByteSize) :
    read tree name = .error (.longPath name) := by
  have hempty : name ≠ "" := by
    rintro rfl
    contradiction
  have hdot : name ≠ "." := by
    rintro rfl
    contradiction
  simp only [read, Path.normalize_lone hslash hempty hdot,
    FileTree.find_long hroot hslash hnull hlong]

/-- A line of three hundred characters. -/
def longLine : String :=
  String.ofList (List.replicate 300 'y')

theorem eq_of_mem_longLine {c : Char} (hc : c ∈ longLine.toList) : c = 'y' := by
  have hchars : longLine.toList = List.replicate 300 'y' := String.toList_ofList
  exact (List.mem_replicate.mp (hchars ▸ hc)).2

/-- A long line is no name of a file, but it is refused for that. -/
theorem read_longLine : HasContent .empty longLine longLine ∧
    Text.Conserves longLine [longLine] ∧ read .empty longLine = .error (.longPath longLine) := by
  refine ⟨.literal fun bytes => FileTree.find_empty_ne_file _ bytes, ?_, ?_⟩
  · refine Text.conserves_word (by decide +kernel) fun c hc => ?_
    rw [eq_of_mem_longLine hc]
    decide
  · refine read_of_long ⟨[], rfl⟩ ?_ ?_ (by decide +kernel)
    · exact fun hm => absurd (eq_of_mem_longLine hm) (by decide)
    · exact fun hm => absurd (eq_of_mem_longLine hm) (by decide)

end Messages

end Flowplan
