import Flowplan.Numeral
import Flowplan.Record.Checked
import Flowplan.Record.Label

namespace Flowplan.Record

/-- Two to the power of 63. -/
def wordBound : Int := 9223372036854775808

/-- A double without a fraction counts as an integer within the range of 64 bits. -/
def wholeOfReal? (x : Binary64) : Option Int :=
  x.whole?.filter fun n => -wordBound < n && n < wordBound

def raw (json : Json) : Checked RawText :=
  .ofOption json.raw?

/-- A text of which a half is not kept: a replacement character stands for it. -/
def text : Json → Checked String
  | .str value => .value value
  | .torn value => .value value.raw.shown
  | _ => .flaws 1

/-- A text whose length is checked; no half may stand alone in it. -/
def nonempty : Json → Checked String
  | .str value => if value.isEmpty then .flaws 1 else .value value
  | _ => .flaws 1

def whole : Json → Checked Int
  | .int value => .value value
  | .bool value => .value (if value then 1 else 0)
  | .float value => .ofOption (wholeOfReal? value)
  | .str value => .ofOption (Numeral.whole? value)
  | _ => .flaws 1

/-- An integer that is not below a bound. -/
def wholeFrom (least : Int) (json : Json) : Checked Int :=
  (whole json).guard fun n => least ≤ n

def natural (json : Json) : Checked Nat :=
  (wholeFrom 0 json).map Int.toNat

def real : Json → Checked Binary64
  | .float value => .value value
  | .bool value => .value (.finite (if value then 1 else 0))
  | .int value =>
    match Binary64.ofInt value with
    | .infinity _ => .flaws 1
    | x => .value x
  | .str value => .ofOption (Numeral.real? value)
  | _ => .flaws 1

/-- A double between zero and one. -/
def share (json : Json) : Checked Binary64 :=
  (real json).guard fun x => x.atLeast 0 && x.atMost 1

def flagOfText? (text : String) : Option Bool :=
  let word := String.ofList (text.toList.map Char.toLower)
  if word ∈ ["true", "t", "yes", "y", "on", "1"] then some true
  else if word ∈ ["false", "f", "no", "n", "off", "0"] then some false
  else none

def flag : Json → Checked Bool
  | .bool value => .value value
  | .int value =>
    .ofOption (if value = 0 then some false else if value = 1 then some true else none)
  | .float value =>
    .ofOption (if value.isZero then some false
      else if value = .finite 1 then some true else none)
  | .str value => .ofOption (flagOfText? value)
  | _ => .flaws 1

def choice [Labelled α] : Json → Checked α
  | .str value => .ofOption (Labelled.ofLabel? value)
  | _ => .flaws 1

end Flowplan.Record
