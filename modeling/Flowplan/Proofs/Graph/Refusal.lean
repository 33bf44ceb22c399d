import Flowplan.Graph.Document

namespace Flowplan

namespace Graph

/-- If there is no result, the reason concerns the document. -/
def BlamesDocument {α : Type} (outcome : Outcome α) : Prop :=
  ∀ fault, outcome = .error fault → ∃ cause, fault = .document cause

theorem blames_ok {α : Type} (a : α) : BlamesDocument (.ok a) := by
  simp [BlamesDocument]

theorem blames_refuse {α : Type} (cause : DocumentFault) :
    BlamesDocument (refuse cause : Outcome α) := by
  intro fault he
  exact ⟨cause, (Except.error.inj he).symm⟩

theorem BlamesDocument.bind {α β : Type} {outcome : Outcome α} {f : α → Outcome β}
    (blames : BlamesDocument outcome) (h : ∀ a, BlamesDocument (f a)) :
    BlamesDocument (outcome >>= f) := by
  cases outcome with
  | ok a => exact h a
  | error fault => exact fun _ he => blames _ (congrArg _ (Except.error.inj he))

theorem BlamesDocument.map {α β : Type} {outcome : Outcome α} (blames : BlamesDocument outcome)
    (f : α → β) : BlamesDocument (outcome.map f) := by
  cases outcome with
  | ok a => exact blames_ok (f a)
  | error fault => exact fun _ he => blames _ (congrArg _ (Except.error.inj he))

theorem blames_mapM {α β : Type} {f : α → Outcome β} (h : ∀ a, BlamesDocument (f a))
    (list : List α) : BlamesDocument (list.mapM f) := by
  induction list with
  | nil => exact blames_ok []
  | cons a rest ih =>
    rw [List.mapM_cons]
    exact (h a).bind fun _ => ih.bind fun _ => blames_ok _

theorem blames_accept {α : Type} (read : Checked α) : BlamesDocument (accept read) := by
  cases read with
  | value a => exact blames_ok a
  | flaws count => exact blames_refuse _

theorem blames_key (members : Record.Members) (name : String) :
    BlamesDocument (key members name) := by
  unfold key
  split
  · exact blames_ok _
  · exact blames_refuse _

theorem blames_parts (json : Json) : BlamesDocument (parts json) := by
  unfold parts
  split
  · exact blames_ok _
  · exact blames_refuse _

theorem blames_readNode (json : Json) : BlamesDocument (readNode json) := by
  cases json with
  | obj members =>
    refine (blames_key _ _).bind fun _ => (blames_key _ _).bind fun _ => (blames_key _ _).bind
      fun _ => BlamesDocument.bind ?_ fun _ => blames_accept _
    unfold readPosition
    split
    · exact blames_ok _
    · exact (blames_parts _).map _
  | _ => exact blames_refuse _

theorem blames_readNodes (members : Record.Members) : BlamesDocument (readNodes members) := by
  unfold readNodes
  split
  · exact blames_mapM blames_readNode _
  · exact blames_refuse _

theorem blames_readChannels (source : String) (json : Json) :
    BlamesDocument (readChannels source json) := by
  have hedge : ∀ json, BlamesDocument (readEdge source json) := by
    intro json
    cases json with
    | obj members =>
      unfold readEdge
      dsimp only
      split
      · exact blames_refuse _
      · exact blames_accept _
    | _ => exact blames_refuse _
  have hslot : ∀ json, BlamesDocument (readSlot source json) := by
    intro json
    cases json with
    | arr items => exact blames_mapM hedge items
    | _ => exact blames_refuse _
  cases json with
  | obj channels => exact (blames_parts _).bind fun slots => (blames_mapM hslot slots).map _
  | _ => exact blames_refuse _

theorem blames_readConnections (json : Json) : BlamesDocument (readConnections json) := by
  cases json with
  | obj members =>
    exact blames_mapM (fun entry => (blames_readChannels entry.1 entry.2).map _) members
  | _ => exact blames_refuse _

theorem blames_ofDocument (json : Json) : BlamesDocument (ofDocument json) := by
  cases json with
  | obj members =>
    refine (blames_readNodes members).bind fun _ => (blames_key _ _).bind fun _ =>
      (blames_key _ _).bind fun _ => (blames_readConnections _).bind fun _ =>
        (blames_accept _).bind fun graph => ?_
    split
    · exact blames_refuse _
    · exact blames_ok _
  | _ => exact blames_refuse _

end Graph

end Flowplan
