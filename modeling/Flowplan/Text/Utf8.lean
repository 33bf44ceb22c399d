import Flowplan.Text.Quoted

namespace Flowplan.Text

inductive Utf8Flaw where
  | start
  | continuation
  | ending

/-- The bytes from `first` up to `last` that do not belong to any character. -/
structure Utf8Fault where
  flaw : Utf8Flaw
  byte : Nat
  first : Nat
  last : Nat

def Utf8Flaw.message : Utf8Flaw → String
  | .start => "invalid start byte"
  | .continuation => "invalid continuation byte"
  | .ending => "unexpected end of data"

def Utf8Fault.message (fault : Utf8Fault) : String :=
  let place :=
    if fault.first = fault.last then
      s!"byte 0x{String.ofList (hexDigits 2 fault.byte)} in position {fault.first}"
    else s!"bytes in position {fault.first}-{fault.last}"
  s!"'utf-8' codec can't decode {place}: {fault.flaw.message}"

def isContinuation (byte : Nat) : Bool :=
  0x80 ≤ byte && byte < 0xC0

/-- The second byte decides whether a form is the shortest one and no surrogate. -/
def isSecond (lead byte : Nat) : Bool :=
  isContinuation byte &&
    if lead = 0xE0 then 0xA0 ≤ byte
    else if lead = 0xED then byte < 0xA0
    else if lead = 0xF0 then 0x90 ≤ byte
    else if lead = 0xF4 then byte < 0x90
    else true

/-- How many bytes a character takes that begins with this byte. -/
def sequenceLength? (lead : Nat) : Option Nat :=
  if lead < 0x80 then some 1
  else if lead < 0xC2 then none
  else if lead < 0xE0 then some 2
  else if lead < 0xF0 then some 3
  else if lead < 0xF5 then some 4
  else none

/-- The bytes after the lead that can stand there, at most `count` of them. -/
def followers (lead count : Nat) : List Nat → List Nat
  | [] => []
  | byte :: rest =>
    if count = 0 || !isSecond lead byte then []
    else byte :: (rest.take (count - 1)).takeWhile isContinuation

def charOfBytes (lead length : Nat) (rest : List Nat) : Char :=
  let bits := if length = 1 then lead else lead % Nat.pow 2 (7 - length)
  Char.ofNat (rest.foldl (fun value byte => 64 * value + byte % 64) bits)

/-- Reads characters from the bytes; `position` is the offset of the first of them. -/
def decodeUtf8From (position : Nat) : List Nat → Except Utf8Fault (List Char)
  | [] => .ok []
  | lead :: rest =>
    match sequenceLength? lead with
    | none => .error ⟨.start, lead, position, position⟩
    | some length =>
      let follow := followers lead (length - 1) rest
      if follow.length + 1 = length then do
        let chars ← decodeUtf8From (position + length) (rest.drop (length - 1))
        pure (charOfBytes lead length follow :: chars)
      else
        let flaw := if follow.length = rest.length then .ending else .continuation
        .error ⟨flaw, lead, position, position + follow.length⟩
termination_by bytes => bytes.length
decreasing_by simp only [List.length_cons, List.length_drop]; omega

def decodeUtf8 (bytes : List Nat) : Except Utf8Fault String :=
  (decodeUtf8From 0 bytes).map String.ofList

end Flowplan.Text
