import Flowplan.Proofs.Graph.Layout
import Flowplan.Proofs.Graph.MainPath

namespace Flowplan.Graph.Canvas

/-- What can be asked of a canvas. A node is described for the place where the next one would go, by
a draft or as `Draft.ofMembers` reads what a caller wants; a description with flaws is refused. -/
inductive Operation where
  | node (name : String) (describe : Int × Int → Checked Draft)
  | uniqueName (name : String)
  | nextId
  | advance

namespace Operation

/-- The name that is asked for. -/
def requested : Operation → Option String
  | node name _ => some name
  | uniqueName name => some name
  | nextId => none
  | advance => none

/-- The node that is asked for, if its description has no flaws. -/
def draft? (operation : Operation) (place : Int × Int) : Option Draft :=
  match operation with
  | node _ describe => (describe place).value?
  | _ => none

def takesId : Operation → Bool
  | node _ _ => true
  | nextId => true
  | _ => false

def isAdvance : Operation → Bool
  | advance => true
  | _ => false

end Operation

/-- What an operation has used up, and the node that it has made. -/
structure Receipt where
  id : Option String
  name : Option String
  node : Option Node

def perform (canvas : Canvas) : Operation → Receipt × Canvas
  | .node name describe =>
    let (node, after) := canvas.request name (describe canvas.cursor)
    (⟨canvas.nextId.1, (canvas.nextId.2.uniqueName name).1, node.value?⟩, after)
  | .uniqueName name =>
    let (free, after) := canvas.uniqueName name
    (⟨none, free, none⟩, after)
  | .nextId =>
    let (id, after) := canvas.nextId
    (⟨id, none, none⟩, after)
  | .advance => (⟨none, none, none⟩, canvas.advance 1)

def performAll (canvas : Canvas) : List Operation → List Receipt × Canvas
  | [] => ([], canvas)
  | operation :: rest =>
    let (receipt, canvas) := canvas.perform operation
    let (receipts, canvas) := performAll canvas rest
    (receipt :: receipts, canvas)

/-- The ids used up, in order. -/
def usedIds (receipts : List Receipt) : List String :=
  receipts.filterMap (·.id)

/-- The names used up, the last one first. -/
def usedNames (receipts : List Receipt) : List String :=
  (receipts.filterMap (·.name)).reverse

def advances (operations : List Operation) : Nat :=
  operations.countP Operation.isAdvance

/-- What an operation gives when the names in `used` were used up before it and the canvas was
advanced `moves` times. -/
structure Operation.Yields (used : List String) (moves : Nat) (operation : Operation)
    (receipt : Receipt) : Prop where
  id : receipt.id.isSome = operation.takesId
  name : Option.Rel (Seeks used) operation.requested receipt.name
  made : ∀ node, receipt.node = some node ↔
    ∃ draft ∈ operation.draft? (onPath moves), ∃ id ∈ receipt.id, ∃ free ∈ receipt.name,
      free ≠ "" ∧ node = draft.node id free (onPath moves)
  place : ∀ node ∈ receipt.node, ∀ draft ∈ operation.draft? (onPath moves),
    node.position = draft.position.getD (300 + 400 * moves, 300)

section Perform

variable (canvas : Canvas) (operation : Operation)

theorem value?_request (name : String) (body : Checked Draft) (node : Node) :
    (canvas.request name body).1.value? = some node ↔
      ∃ draft ∈ body.value?, freeName canvas.taken name ≠ "" ∧
        node = draft.node (idAfter canvas.count) (freeName canvas.taken name) canvas.cursor := by
  have hrequest : (canvas.request name body).1
      = (fun free (draft : Draft) => draft.node (idAfter canvas.count) free canvas.cursor)
        <$> (if (freeName canvas.taken name).isEmpty then .flaws 1
          else .value (freeName canvas.taken name)) <*> body := rfl
  rw [hrequest, Checked.value?_eq_some_iff, Checked.apply_eq_value_iff]
  constructor
  · rintro ⟨make, draft, hmake, rfl, rfl⟩
    obtain ⟨free, hfree, rfl⟩ := Checked.fmap_eq_value_iff.mp hmake
    split at hfree
    next => contradiction
    next hne =>
      obtain rfl := Checked.value.inj hfree
      exact ⟨draft, rfl, fun he => hne (String.isEmpty_iff.mpr he), rfl⟩
  · rintro ⟨draft, hdraft, hne, rfl⟩
    refine ⟨fun draft => draft.node (idAfter canvas.count) (freeName canvas.taken name)
      canvas.cursor, draft, ?_, Checked.value?_eq_some_iff.mp hdraft, rfl⟩
    rw [if_neg fun he => hne (String.isEmpty_iff.mp he)]
    rfl

theorem taken_perform :
    (canvas.perform operation).2.taken
      = (canvas.perform operation).1.name.toList ++ canvas.taken := by
  cases operation <;> rfl

theorem nodup_taken_perform (fresh : canvas.taken.Nodup) :
    (canvas.perform operation).2.taken.Nodup := by
  cases operation with
  | node name describe => exact List.nodup_cons.mpr ⟨freeName_not_mem canvas.taken name, fresh⟩
  | uniqueName name => exact List.nodup_cons.mpr ⟨freeName_not_mem canvas.taken name, fresh⟩
  | nextId => exact fresh
  | advance => exact fresh

theorem column_perform :
    (canvas.perform operation).2.column = canvas.column + advances [operation] := by
  cases operation <;> rfl

theorem count_perform :
    (canvas.perform operation).2.count
      = canvas.count + (canvas.perform operation).1.id.toList.length := by
  cases operation <;> rfl

theorem id_perform :
    ∀ id ∈ (canvas.perform operation).1.id, id = idAfter canvas.count := by
  cases operation <;> simp [perform, nextId, idAfter]

theorem seeks_perform :
    Option.Rel (Seeks canvas.taken) operation.requested (canvas.perform operation).1.name := by
  cases operation with
  | node name describe => exact .some (seeks_freeName canvas.taken name)
  | uniqueName name => exact .some (seeks_freeName canvas.taken name)
  | nextId => exact .none
  | advance => exact .none

theorem yields_perform :
    operation.Yields canvas.taken canvas.column (canvas.perform operation).1 := by
  have hmade : ∀ node, (canvas.perform operation).1.node = some node ↔
      ∃ draft ∈ operation.draft? (onPath canvas.column),
        ∃ id ∈ (canvas.perform operation).1.id, ∃ free ∈ (canvas.perform operation).1.name,
          free ≠ "" ∧ node = draft.node id free (onPath canvas.column) := by
    intro node
    cases operation with
    | node name describe =>
      refine (value?_request canvas name (describe canvas.cursor) node).trans ⟨?_, ?_⟩
      · rintro ⟨draft, hdraft, hne, rfl⟩
        exact ⟨draft, hdraft, _, rfl, _, rfl, hne, rfl⟩
      · rintro ⟨draft, hdraft, _, hid, _, hfree, hne, rfl⟩
        obtain rfl := Option.some.inj hid
        obtain rfl := Option.some.inj hfree
        exact ⟨draft, hdraft, hne, rfl⟩
    | uniqueName name => simp [perform, Operation.draft?]
    | nextId => simp [perform, Operation.draft?]
    | advance => simp [perform, Operation.draft?]
  have hid : (canvas.perform operation).1.id.isSome = operation.takesId := by
    cases operation <;> rfl
  refine ⟨hid, seeks_perform canvas operation, hmade, ?_⟩
  intro node hnode draft hdraft
  obtain ⟨described, hdescribed, _, _, _, _, _, rfl⟩ := (hmade node).mp hnode
  rw [Option.mem_unique hdraft hdescribed]
  rfl

end Perform

section Run

theorem usedNames_cons (receipt : Receipt) (receipts : List Receipt) :
    usedNames (receipt :: receipts) = usedNames receipts ++ receipt.name.toList := by
  rw [usedNames, usedNames, List.filterMap_cons]
  cases receipt.name <;> simp

theorem usedIds_cons (receipt : Receipt) (receipts : List Receipt) :
    usedIds (receipt :: receipts) = receipt.id.toList ++ usedIds receipts := by
  rw [usedIds, usedIds, List.filterMap_cons]
  cases receipt.id <;> simp

theorem advances_append (before after : List Operation) :
    advances (before ++ after) = advances before + advances after :=
  List.countP_append

theorem taken_performAll (canvas : Canvas) (operations : List Operation) :
    (canvas.performAll operations).2.taken
      = usedNames (canvas.performAll operations).1 ++ canvas.taken := by
  induction operations generalizing canvas with
  | nil => rfl
  | cons operation rest ih =>
    rw [performAll, usedNames_cons, List.append_assoc, ← taken_perform]
    exact ih (canvas.perform operation).2

theorem nodup_taken_performAll {canvas : Canvas} (fresh : canvas.taken.Nodup)
    (operations : List Operation) : (canvas.performAll operations).2.taken.Nodup := by
  induction operations generalizing canvas with
  | nil => exact fresh
  | cons operation rest ih => exact ih (nodup_taken_perform canvas operation fresh)

theorem column_performAll (canvas : Canvas) (operations : List Operation) :
    (canvas.performAll operations).2.column = canvas.column + advances operations := by
  induction operations generalizing canvas with
  | nil => rfl
  | cons operation rest ih =>
    have hadvances := advances_append [operation] rest
    rw [List.singleton_append] at hadvances
    rw [performAll, hadvances, ← Nat.add_assoc, ← column_perform]
    exact ih (canvas.perform operation).2

/-- The ids used up have consecutive numbers. -/
theorem usedIds_performAll (canvas : Canvas) (operations : List Operation) :
    ∃ count, usedIds (canvas.performAll operations).1
      = (List.range' canvas.count count).map idAfter := by
  induction operations generalizing canvas with
  | nil => exact ⟨0, rfl⟩
  | cons operation rest ih =>
    obtain ⟨count, hrest⟩ := ih (canvas.perform operation).2
    have hcount := count_perform canvas operation
    have hid := id_perform canvas operation
    rw [performAll, usedIds_cons, hrest]
    cases hr : (canvas.perform operation).1.id with
    | none =>
      rw [hr] at hcount
      exact ⟨count, by rw [hcount]; rfl⟩
    | some id =>
      rw [hr] at hcount
      refine ⟨count + 1, ?_⟩
      rw [hcount, hid id hr, List.range'_succ]
      rfl

theorem performAll_append (canvas : Canvas) (before after : List Operation) :
    (canvas.performAll (before ++ after)).1
      = (canvas.performAll before).1 ++ ((canvas.performAll before).2.performAll after).1 := by
  induction before generalizing canvas with
  | nil => rfl
  | cons operation rest ih => exact congrArg _ (ih (canvas.perform operation).2)

end Run

theorem idAfter_injective : Function.Injective idAfter := by
  have hlist : ∀ count, (idAfter count).toList = "node_".toList ++ Nat.toDigits 10 (count + 1) := by
    intro count
    simp [idAfter, ToString.toString]
  intro m n h
  have hl := congrArg String.toList h
  rw [hlist, hlist] at hl
  exact Nat.succ_injective (eq_of_toDigits_eq (List.append_cancel_left hl))

/-- Whatever is asked of a new canvas, no name and no id is used up twice. Each name is found by a
search that ends, as the one asked for or its first numbered form that was not used before; a node
is made from each description without flaws under a name that is not empty, and one without a place
of its own stands in the column to which the advances before it have led. -/
theorem performAll_yields (operations : List Operation) :
    (usedNames (empty.performAll operations).1).Nodup ∧
      (usedIds (empty.performAll operations).1).Nodup ∧
      ∀ before operation after, operations = before ++ operation :: after →
        ∃ receipt later,
          (empty.performAll operations).1 = (empty.performAll before).1 ++ receipt :: later ∧
          operation.Yields (usedNames (empty.performAll before).1) (advances before) receipt := by
  have htaken : ∀ operations, (empty.performAll operations).2.taken
      = usedNames (empty.performAll operations).1 :=
    fun operations => (taken_performAll empty operations).trans (List.append_nil _)
  refine ⟨?_, ?_, ?_⟩
  · rw [← htaken]
    exact nodup_taken_performAll List.nodup_nil operations
  · obtain ⟨count, hids⟩ := usedIds_performAll empty operations
    rw [hids]
    exact (List.nodup_range' 1).map idAfter_injective
  · rintro before operation after rfl
    have hyields := yields_perform (empty.performAll before).2 operation
    rw [htaken, column_performAll, show empty.column = 0 from rfl, Nat.zero_add] at hyields
    exact ⟨_, _, performAll_append empty before (operation :: after), hyields⟩

/-- A node, a text that looks like its next numbered form, and two nodes that are refused, one for
its name and one for its description. -/
def crowding : List Operation := [
  .node "Step" fun _ => .value .manualTrigger,
  .uniqueName "Step 2",
  .node "" fun _ => .value .manualTrigger,
  .advance,
  .node "Step" fun _ => .flaws 1,
  .nextId]

/-- One more node of the same name. -/
def latecomer : Operation :=
  .node "Step" fun _ => .value .manualTrigger

theorem performAll_yields_crowding :
    usedNames (empty.performAll crowding).1 = ["Step 3", "", "Step 2", "Step"] ∧
      ∃ receipt later,
        (empty.performAll (crowding ++ [latecomer])).1
          = (empty.performAll crowding).1 ++ receipt :: later ∧
        latecomer.Yields ["Step 3", "", "Step 2", "Step"] 1 receipt ∧
        receipt.name = some "Step 4" := by
  have hnames : usedNames (empty.performAll crowding).1 = ["Step 3", "", "Step 2", "Step"] := by
    decide
  obtain ⟨-, -, hsplit⟩ := performAll_yields (crowding ++ [latecomer])
  obtain ⟨receipt, later, hreceipts, hyields⟩ := hsplit crowding latecomer [] rfl
  rw [hnames] at hyields
  refine ⟨hnames, receipt, later, hreceipts, hyields, ?_⟩
  have hseek : seek ["Step 3", "", "Step 2", "Step"] "Step" 4 "Step" 2 = some "Step 4" := by decide
  have hname : Option.Rel (Seeks ["Step 3", "", "Step 2", "Step"]) (some "Step") receipt.name :=
    hyields.name
  cases hr : receipt.name with
  | none => rw [hr] at hname; contradiction
  | some free =>
    rw [hr] at hname
    cases hname with
    | some hseeks => rw [hseeks.exact 4 _ hseek]

end Flowplan.Graph.Canvas
