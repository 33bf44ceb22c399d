namespace Flowplan

/-- What reading a record gives: its value, or how many of its leaves are missing or wrong. -/
inductive Checked (α : Type) where
  | value (a : α)
  | flaws (count : Nat)
  deriving DecidableEq

namespace Checked

def map (f : α → β) : Checked α → Checked β
  | value a => value (f a)
  | flaws count => flaws count

/-- The flaws of both parts count, whichever is read first. -/
def seq (f : Checked (α → β)) (x : Checked α) : Checked β :=
  match f, x with
  | value f, value a => value (f a)
  | value _, flaws count => flaws count
  | flaws count, value _ => flaws count
  | flaws m, flaws n => flaws (m + n)

instance : Applicative Checked where
  pure := value
  map := map
  seq f x := seq f (x ())

def value? : Checked α → Option α
  | value a => some a
  | flaws _ => none

def ofOption : Option α → Checked α
  | some a => value a
  | none => flaws 1

/-- A value that breaks a rule is one flaw. -/
def guard (rule : α → Bool) : Checked α → Checked α
  | value a => if rule a then value a else flaws 1
  | flaws count => flaws count

def each (read : α → Checked β) : List α → Checked (List β)
  | [] => value []
  | a :: rest => seq (map List.cons (read a)) (each read rest)

end Checked

end Flowplan
