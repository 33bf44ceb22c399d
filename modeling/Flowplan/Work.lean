import Flowplan.Fault

namespace Flowplan

/-- Work on a state that is overwritten where it stands. A fault ends it and undoes nothing of what
was written before. -/
abbrev Work (σ : Type) := ExceptT Fault (StateM σ)

namespace Work

variable {σ α : Type}

/-- What comes of the work, and the state that it leaves behind. -/
def on (work : Work σ α) (state : σ) : Outcome α × σ :=
  work.run.run state

/-- The result of the work with the state that it leaves behind, unless it fails. -/
def finish (work : Work σ α) (state : σ) : Outcome (α × σ) :=
  (work.on state).1.map (·, (work.on state).2)

end Work

end Flowplan
