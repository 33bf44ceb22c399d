namespace Flowplan

/-- A source of identifiers, which it numbers from one. -/
structure Ids where
  used : Nat
  deriving DecidableEq

namespace Ids

def start : Ids := ⟨0⟩

def fresh (ids : Ids) : String × Ids :=
  (s!"id-{ids.used + 1}", ⟨ids.used + 1⟩)

theorem fresh_ne_empty (ids : Ids) : ids.fresh.1 ≠ "" := by
  simp [fresh]

end Ids

end Flowplan
