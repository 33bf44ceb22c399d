import Flowplan.Proofs.Graph.Acyclic

namespace Flowplan.Graph

open Relation

/-- The names that a search is inside of, and those that it has done with. -/
structure Marks where
  visiting : List String
  done : List String

/-- Marks a name for as long as it follows what the name leads to; the mark stays where a cycle is
met. There is no answer if more than `room` calls come to be inside each other. -/
def searchInPlace (connections : Connections) : Nat → String → StateT Marks Option Bool
  | 0, _ => failure
  | room + 1, name => do
    let marks ← get
    if name ∈ marks.done then return false
    if name ∈ marks.visiting then return true
    set { marks with visiting := name :: marks.visiting }
    if ← (successors connections name).anyM (searchInPlace connections room) then return true
    modify fun marks => ⟨marks.visiting.filter (· ≠ name), name :: marks.done⟩
    return false

/-- Searches from each source in turn, with the marks that the searches before have left. -/
def searchAllInPlace (connections : Connections) (room : Nat) : Option Bool :=
  ((connections.map (·.1)).anyM (searchInPlace connections room)).run' ⟨[], []⟩

/-- The marks at the end of a call, after what the name leads to was searched. -/
def leave (name : String) (result : Bool × Marks) : Bool × Marks :=
  if result.1 then result
  else (false, ⟨result.2.visiting.filter (· ≠ name), name :: result.2.done⟩)

section Search

variable {connections : Connections} {room : Nat} {marks : Marks} {name : String}

theorem searchInPlace_of_done (hd : name ∈ marks.done) :
    (searchInPlace connections (room + 1) name).run marks = some (false, marks) := by
  simp [searchInPlace, hd]

theorem searchInPlace_of_visiting (hd : name ∉ marks.done) (hv : name ∈ marks.visiting) :
    (searchInPlace connections (room + 1) name).run marks = some (true, marks) := by
  simp [searchInPlace, hd, hv]

theorem searchInPlace_of_fresh (hd : name ∉ marks.done) (hv : name ∉ marks.visiting) :
    (searchInPlace connections (room + 1) name).run marks =
      (((successors connections name).anyM (searchInPlace connections room)).run
        ⟨name :: marks.visiting, marks.done⟩).map (leave name) := by
  simp only [searchInPlace, StateT.run_bind, StateT.run_get, pure_bind, if_neg hd, if_neg hv,
    StateT.run_set]
  cases ((successors connections name).anyM (searchInPlace connections room)).run
      ⟨name :: marks.visiting, marks.done⟩ with
  | none => rfl
  | some result =>
    obtain ⟨met, after⟩ := result
    cases met <;> rfl

/-- The names after one that meets a cycle are not searched. -/
theorem run_anyM_cons (search : String → StateT Marks Option Bool) (name : String)
    (rest : List String) (marks : Marks) :
    ((name :: rest).anyM search).run marks = ((search name).run marks).bind fun result =>
      if result.1 then some result else (rest.anyM search).run result.2 := by
  rw [List.anyM_cons, StateT.run_bind]
  cases (search name).run marks with
  | none => rfl
  | some result =>
    obtain ⟨met, after⟩ := result
    cases met <;> rfl

/-- What a search comes to that meets a cycle where a walk gives up, and else leaves the marks on
the path as they were. -/
def Follows (path : List String) : Option (List String) → Option (Bool × Marks) → Prop
  | some done, run => run = some (false, ⟨path, done⟩)
  | none, run => ∃ marks, run = some (true, marks)

/-- A call that meets no cycle takes off its own mark and no other. -/
theorem leave_of_not_met {path : List String} (h : name ∉ path) (done : List String) :
    leave name (false, ⟨name :: path, done⟩) = (false, ⟨path, name :: done⟩) := by
  have hpath : (name :: path).filter (· ≠ name) = path := by
    rw [List.filter_cons_of_neg (by simp), List.filter_eq_self]
    intro other hm
    have : other ≠ name := fun he => h (he ▸ hm)
    simpa using this
  simp only [leave, hpath, Bool.false_eq_true, if_false]

/-- The sources outside the path bound the calls that come to be inside each other. -/
theorem follows_searchInPlace (connections : Connections) :
    (∀ path done name, ∀ room > sourcesOutside connections path,
      Follows path (visit connections path done name)
        ((searchInPlace connections room name).run ⟨path, done⟩)) ∧
    (∀ path done names, ∀ room, (names ≠ [] → sourcesOutside connections path < room) →
      Follows path (visitAll connections path done names)
        ((names.anyM (searchInPlace connections room)).run ⟨path, done⟩)) := by
  apply visit.mutual_induct
  case case1 =>
    intro path done name hd room hroom
    obtain ⟨room, rfl⟩ := Nat.exists_eq_add_of_lt hroom
    rw [searchInPlace_of_done hd, visit, if_pos hd]
    rfl
  case case2 =>
    intro path done name hd hv room hroom
    obtain ⟨room, rfl⟩ := Nat.exists_eq_add_of_lt hroom
    rw [searchInPlace_of_visiting hd hv, visit, if_neg hd, dif_pos hv]
    exact ⟨_, rfl⟩
  case case3 =>
    intro path done name hd hv ih room hroom
    obtain ⟨room, rfl⟩ := Nat.exists_eq_add_of_lt hroom
    have hless : successors connections name ≠ [] →
        sourcesOutside connections (name :: path) < sourcesOutside connections path + room :=
      fun hs => Nat.lt_add_right room (sourcesOutside_cons_lt hv hs)
    have hnext := ih (sourcesOutside connections path + room) hless
    rw [searchInPlace_of_fresh hd hv, visit, if_neg hd, dif_neg hv]
    cases hresult : visitAll connections (name :: path) done (successors connections name) with
    | none =>
      rw [hresult] at hnext
      obtain ⟨marks, hrun⟩ := hnext
      exact ⟨marks, by rw [hrun]; rfl⟩
    | some after =>
      rw [hresult] at hnext
      have hrun : _ = some (false, Marks.mk (name :: path) after) := hnext
      rw [hrun, Option.map_some, Option.map_some, leave_of_not_met hv]
      rfl
  case case4 =>
    intro path done room _
    rw [visitAll]
    rfl
  case case5 =>
    intro path done name rest middle hv ihv ih room hroom
    have hroom := hroom (List.cons_ne_nil _ _)
    have hfirst := ihv room hroom
    rw [hv] at hfirst
    have hfirst : _ = some (false, Marks.mk path middle) := hfirst
    rw [run_anyM_cons, hfirst, visitAll, hv]
    exact ih room fun _ => hroom
  case case6 =>
    intro path done name rest hv ih room hroom
    have hfirst := ih room (hroom (List.cons_ne_nil _ _))
    rw [hv] at hfirst
    obtain ⟨marks, hfirst⟩ := hfirst
    rw [run_anyM_cons, hfirst, visitAll, hv]
    exact ⟨marks, rfl⟩

theorem searchAllInPlace_of_lt (h : connections.length < room) :
    searchAllInPlace connections room = some (hasCycle connections) := by
  have hroom : sourcesOutside connections [] < room := by simpa [sourcesOutside] using h
  have hfollows := (follows_searchInPlace connections).2 [] [] (connections.map (·.1)) room
    fun _ => hroom
  rw [searchAllInPlace, StateT.run'_eq, hasCycle]
  cases hresult : visitAll connections [] [] (connections.map (·.1)) with
  | none =>
    rw [hresult] at hfollows
    obtain ⟨marks, hrun⟩ := hfollows
    rw [hrun]
    rfl
  | some done =>
    rw [hresult] at hfollows
    have hrun : _ = some (false, Marks.mk [] done) := hfollows
    rw [hrun]
    rfl

/-- What one search keeps of the results of another, all searches in turn keep. -/
theorem run_anyM_of_run {search wider : String → StateT Marks Option Bool}
    (h : ∀ name marks result, (search name).run marks = some result →
      (wider name).run marks = some result)
    (names : List String) (marks : Marks) {result : Bool × Marks}
    (hr : (names.anyM search).run marks = some result) :
    (names.anyM wider).run marks = some result := by
  induction names generalizing marks with
  | nil => exact hr
  | cons name rest ih =>
    rw [run_anyM_cons] at hr ⊢
    obtain ⟨first, hfirst, hr⟩ := Option.bind_eq_some_iff.mp hr
    rw [h name marks first hfirst, Option.bind_some]
    split at hr
    next hmet => rw [if_pos hmet, hr]
    next hmet =>
      rw [if_neg hmet]
      exact ih first.2 hr

/-- A search that ends comes to the same with room for one more call. -/
theorem searchInPlace_succ (connections : Connections) (room : Nat) :
    ∀ name marks result, (searchInPlace connections room name).run marks = some result →
      (searchInPlace connections (room + 1) name).run marks = some result := by
  induction room with
  | zero =>
    intro name marks result h
    exact nomatch h
  | succ room ih =>
    intro name marks result h
    by_cases hd : name ∈ marks.done
    · rwa [searchInPlace_of_done hd] at h ⊢
    by_cases hv : name ∈ marks.visiting
    · rwa [searchInPlace_of_visiting hd hv] at h ⊢
    · rw [searchInPlace_of_fresh hd hv] at h ⊢
      obtain ⟨inner, hinner, rfl⟩ := Option.map_eq_some_iff.mp h
      rw [run_anyM_of_run ih _ _ hinner, Option.map_some]

theorem searchAllInPlace_add (connections : Connections) (room more : Nat) {answer : Bool}
    (h : searchAllInPlace connections room = some answer) :
    searchAllInPlace connections (room + more) = some answer := by
  induction more with
  | zero => exact h
  | succ more ih =>
    rw [searchAllInPlace, StateT.run'_eq] at ih ⊢
    obtain ⟨result, hresult, rfl⟩ := Option.map_eq_some_iff.mp ih
    rw [← Nat.add_assoc, run_anyM_of_run (searchInPlace_succ connections _) _ _ hresult]
    rfl

end Search

/-- The search ends on every map of connections, with no more calls inside each other than there are
sources and one; where it ends, it answers whether some name leads back to itself, along one edge or
along several. -/
theorem searchAllInPlace_exact {connections : Connections} (keyed : Keyed connections) :
    (∀ room > connections.length,
      searchAllInPlace connections room = some (hasCycle connections)) ∧
    (∀ room answer, searchAllInPlace connections room = some answer →
      answer = hasCycle connections) ∧
    (hasCycle connections = true ↔ ∃ name, TransGen (Leads connections) name name) := by
  refine ⟨fun room h => searchAllInPlace_of_lt h, fun room answer h => ?_, hasCycle_iff keyed⟩
  have hmore := searchAllInPlace_add connections room (connections.length + 1) h
  rw [searchAllInPlace_of_lt (Nat.lt_add_left room (Nat.lt_succ_self _))] at hmore
  exact (Option.some.inj hmore).symm

/-- Two edges to one name, an edge from a name to itself, and an edge to a name that is no source.
-/
def tangled : Connections := [
  ("Start", [.main "Fetch", .main "Fetch", .main "Log"]),
  ("Fetch", [.main "Notify", .main "Fetch"])]

theorem searchAllInPlace_exact_tangled :
    Keyed tangled ∧ searchAllInPlace tangled 3 = some true ∧ hasCycle tangled = true := by
  have keyed : Keyed tangled := by decide
  have hcycle : hasCycle tangled = true := by
    refine (searchAllInPlace_exact keyed).2.2.mpr ⟨"Fetch", .single ?_⟩
    exact ⟨[.main "Notify", .main "Fetch"], by simp [tangled], by simp [Edge.main]⟩
  have hsearch := (searchAllInPlace_exact keyed).1 3 (by decide)
  exact ⟨keyed, hcycle ▸ hsearch, hcycle⟩

end Flowplan.Graph
