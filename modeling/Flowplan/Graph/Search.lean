import Flowplan.Graph.Basic
import Flowplan.Number.Total

namespace Flowplan.Graph

abbrev Connections := List (String × List Edge)

def successors (connections : Connections) (name : String) : List String :=
  ((connections.lookup name).getD []).map (·.target)

theorem successors_cons_self (entry : String × List Edge) (rest : Connections) :
    successors (entry :: rest) entry.1 = entry.2.map (·.target) := by
  obtain ⟨source, edges⟩ := entry
  simp [successors]

theorem successors_cons_of_ne {entry : String × List Edge} {name : String} (rest : Connections)
    (h : name ≠ entry.1) : successors (entry :: rest) name = successors rest name := by
  obtain ⟨source, edges⟩ := entry
  simp [successors, List.lookup_cons, beq_eq_false_iff_ne.mpr h]

/-- The edges that leave a source outside a list of names. -/
def edgesOutside (connections : Connections) (seen : List String) : Nat :=
  Number.total ((connections.filter fun entry => entry.1 ∉ seen).map (·.2.length))

theorem edgesOutside_cons_entry (entry : String × List Edge) (rest : Connections)
    (seen : List String) :
    edgesOutside (entry :: rest) seen
      = (if entry.1 ∈ seen then 0 else entry.2.length) + edgesOutside rest seen := by
  by_cases h : entry.1 ∈ seen <;> simp [edgesOutside, Number.total, h]

theorem edgesOutside_cons_le (connections : Connections) (name : String) (seen : List String) :
    edgesOutside connections (name :: seen) ≤ edgesOutside connections seen := by
  induction connections with
  | nil => simp [edgesOutside]
  | cons entry rest ih =>
    rw [edgesOutside_cons_entry, edgesOutside_cons_entry]
    by_cases h : entry.1 ∈ seen <;> by_cases hn : entry.1 = name <;> simp [h, hn] <;> omega

theorem edgesOutside_cons_add_successors_le (connections : Connections) {name : String}
    {seen : List String} (h : name ∉ seen) :
    edgesOutside connections (name :: seen) + (successors connections name).length
      ≤ edgesOutside connections seen := by
  induction connections with
  | nil => simp [edgesOutside, successors]
  | cons entry rest ih =>
    have hle := edgesOutside_cons_le rest name seen
    rw [edgesOutside_cons_entry, edgesOutside_cons_entry]
    by_cases hn : name = entry.1
    · subst hn
      rw [successors_cons_self]
      simp [h]
      omega
    · rw [successors_cons_of_ne rest hn]
      by_cases hm : entry.1 ∈ seen <;> simp [hm, Ne.symm hn] <;> omega

/-- The names seen so far and all that the pending ones lead to. -/
def reachFrom (connections : Connections) (seen : List String) : List String → List String
  | [] => seen
  | name :: pending =>
    if _h : name ∈ seen then reachFrom connections seen pending
    else reachFrom connections (name :: seen) (successors connections name ++ pending)
  termination_by pending => edgesOutside connections seen + pending.length
  decreasing_by
    · simp
    · have := edgesOutside_cons_add_successors_le connections ‹_›
      simp only [List.length_append, List.length_cons]
      omega

/-- The names that a path of any length leads to. -/
def reachable (connections : Connections) (start : String) : List String :=
  reachFrom connections [] [start]

def sourcesOutside (connections : Connections) (path : List String) : Nat :=
  (connections.filter fun entry => entry.1 ∉ path).length

theorem sourcesOutside_cons_entry (entry : String × List Edge) (rest : Connections)
    (path : List String) :
    sourcesOutside (entry :: rest) path
      = (if entry.1 ∈ path then 0 else 1) + sourcesOutside rest path := by
  by_cases h : entry.1 ∈ path <;> simp [sourcesOutside, h, Nat.add_comm]

theorem sourcesOutside_cons_le (connections : Connections) (name : String) (path : List String) :
    sourcesOutside connections (name :: path) ≤ sourcesOutside connections path := by
  induction connections with
  | nil => simp [sourcesOutside]
  | cons entry rest ih =>
    rw [sourcesOutside_cons_entry, sourcesOutside_cons_entry]
    refine Nat.add_le_add ?_ ih
    by_cases h : entry.1 ∈ path
    · simp [h]
    · rw [if_neg h]
      split <;> decide

theorem sourcesOutside_cons_lt {connections : Connections} {name : String} {path : List String}
    (h : name ∉ path) (hs : successors connections name ≠ []) :
    sourcesOutside connections (name :: path) < sourcesOutside connections path := by
  induction connections with
  | nil => exact absurd rfl hs
  | cons entry rest ih =>
    rw [sourcesOutside_cons_entry, sourcesOutside_cons_entry]
    by_cases hn : name = entry.1
    · have hle := sourcesOutside_cons_le rest name path
      rw [if_pos (hn ▸ List.mem_cons_self), if_neg (hn ▸ h)]
      omega
    · have hlt := ih (successors_cons_of_ne rest hn ▸ hs)
      have hi : (entry.1 ∈ name :: path) ↔ entry.1 ∈ path := by simp [Ne.symm hn]
      simp only [hi]
      exact Nat.add_lt_add_left hlt _

mutual

/-- Follows every path from a name. The path so far leads to it, and no cycle can be reached from
the names that are done. Gives the names done afterwards, or nothing if there is a cycle. -/
def visit (connections : Connections) (path done : List String) (name : String) :
    Option (List String) :=
  if name ∈ done then some done
  else if _h : name ∈ path then none
  else (visitAll connections (name :: path) done (successors connections name)).map (name :: ·)
  termination_by (sourcesOutside connections path, 1)
  decreasing_by
    by_cases hs : successors connections name = []
    · have := sourcesOutside_cons_le connections name path
      rw [hs]
      rcases Nat.lt_or_eq_of_le this with h | h
      · exact Prod.Lex.left _ _ h
      · rw [h]
        exact Prod.Lex.right _ (by simp)
    · exact Prod.Lex.left _ _ (sourcesOutside_cons_lt ‹_› hs)

def visitAll (connections : Connections) (path done : List String) :
    List String → Option (List String)
  | [] => some done
  | name :: rest =>
    match visit connections path done name with
    | some done => visitAll connections path done rest
    | none => none
  termination_by names => (sourcesOutside connections path, 2 * names.length)
  decreasing_by
    · exact Prod.Lex.right _ (by simp; omega)
    · exact Prod.Lex.right _ (by simp)

end

/-- Some name leads back to itself. -/
def hasCycle (connections : Connections) : Bool :=
  (visitAll connections [] [] (connections.map (·.1))).isNone

end Flowplan.Graph
