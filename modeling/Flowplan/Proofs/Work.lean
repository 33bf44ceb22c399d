import Flowplan.Work

namespace Flowplan

namespace Work

variable {σ α β : Type}

theorem on_lift (outcome : Outcome α) (state : σ) :
    (liftM outcome : Work σ α).on state = (outcome, state) := rfl

theorem on_pure (a : α) (state : σ) : (pure a : Work σ α).on state = (.ok a, state) := rfl

theorem on_bind (work : Work σ α) (next : α → Work σ β) (state : σ) :
    (work >>= next).on state = match work.on state with
      | (.ok a, after) => (next a).on after
      | (.error fault, after) => (.error fault, after) := by
  unfold on
  rw [ExceptT.run_bind, StateT.run_bind]
  rcases work.run.run state with ⟨outcome, after⟩
  cases outcome <;> rfl

theorem on_bind_ok {work : Work σ α} {state after : σ} {a : α}
    (h : work.on state = (.ok a, after)) (next : α → Work σ β) :
    (work >>= next).on state = (next a).on after := by
  rw [on_bind, h]

theorem on_lift_bind_ok {outcome : Outcome α} {a : α} (h : outcome = .ok a)
    (next : α → Work σ β) (state : σ) :
    ((liftM outcome : Work σ α) >>= next).on state = (next a).on state :=
  on_bind_ok (by rw [on_lift, h]) next

theorem on_lift_bind_error {outcome : Outcome α} {fault : Fault} (h : outcome = .error fault)
    (next : α → Work σ β) (state : σ) :
    ((liftM outcome : Work σ α) >>= next).on state = (.error fault, state) := by
  rw [on_bind, on_lift, h]

theorem on_modify_bind (write : σ → σ) (next : Unit → Work σ β) (state : σ) :
    (modify write >>= next).on state = (next ()).on (write state) :=
  on_bind_ok rfl next

theorem on_get_bind (next : σ → Work σ β) (state : σ) :
    (get >>= next).on state = (next state).on state :=
  on_bind_ok rfl next

theorem finish_eq_ok_iff {work : Work σ α} {state : σ} {result : α × σ} :
    work.finish state = .ok result ↔ work.on state = (.ok result.1, result.2) := by
  obtain ⟨a, after⟩ := result
  unfold finish
  rcases work.on state with ⟨outcome, left⟩
  cases outcome <;> simp [Except.map]

theorem finish_of_error {work : Work σ α} {state after : σ} {fault : Fault}
    (h : work.on state = (.error fault, after)) : work.finish state = .error fault := by
  rw [finish, h]
  rfl

theorem on_forM {work : α → Work σ Unit} {write : σ → α → σ}
    (h : ∀ a state, (work a).on state = (.ok (), write state a)) (as : List α) (state : σ) :
    (as.forM work).on state = (.ok (), as.foldl write state) := by
  induction as generalizing state with
  | nil => rfl
  | cons a rest ih =>
    change (work a >>= fun _ => rest.forM work).on state = _
    rw [on_bind, h, List.foldl_cons]
    exact ih (write state a)

theorem on_forM_modify (write : σ → α → σ) (as : List α) (state : σ) :
    (as.forM fun a => modify fun state => write state a : Work σ Unit).on state
      = (.ok (), as.foldl write state) :=
  on_forM (fun _ _ => rfl) as state

/-- The work gives a value that it reads off the state, and leaves the state as it is. -/
def Reads (work : Work σ α) (value : σ → α) : Prop :=
  ∀ state, work.on state = (.ok (value state), state)

theorem reads_pure (a : α) : Reads (pure a : Work σ α) fun _ => a :=
  fun _ => rfl

end Work

end Flowplan
