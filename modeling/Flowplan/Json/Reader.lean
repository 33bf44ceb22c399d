import Flowplan.Json.Limits

namespace Flowplan.Json

/-- What ends the reading of a text: a flaw, with the characters that are left at it, or a value
beyond the limits. -/
inductive Stop where
  | flaw (flaw : Flaw) (left : Nat)
  | limit (limit : Limit)

abbrev Read (α : Type) := Except Stop (α × List Char)

def stop (flaw : Flaw) (rest : List Char) : Read α :=
  .error (.flaw flaw rest.length)

def isSpace (c : Char) : Bool :=
  c = ' ' || c = '\t' || c = '\n' || c = '\r'

def skipSpace (chars : List Char) : List Char :=
  chars.dropWhile isSpace

def hexValue? (c : Char) : Option Nat :=
  if '0' ≤ c ∧ c ≤ '9' then some (c.toNat - 0x30)
  else if 'a' ≤ c ∧ c ≤ 'f' then some (c.toNat - 0x57)
  else if 'A' ≤ c ∧ c ≤ 'F' then some (c.toNat - 0x37)
  else none

def hexCode? (a b c d : Char) : Option Nat := do
  pure (0x1000 * (← hexValue? a) + 0x100 * (← hexValue? b) + 0x10 * (← hexValue? c)
    + (← hexValue? d))

def isHighSurrogate (code : Nat) : Bool :=
  0xD800 ≤ code && code < 0xDC00

def isLowSurrogate (code : Nat) : Bool :=
  0xDC00 ≤ code && code < 0xE000

def charOfPair (high low : Nat) : Char :=
  Char.ofNat (0x10000 + 0x400 * (high - 0xD800) + (low - 0xDC00))

def escaped? : Char → Option Char
  | '"' => some '"'
  | '\\' => some '\\'
  | '/' => some '/'
  | 'b' => some '\x08'
  | 'f' => some '\x0c'
  | 'n' => some '\n'
  | 'r' => some '\r'
  | 't' => some '\t'
  | _ => none

/-- Reads a string after its opening quote; `start` characters were left at that quote. -/
def readString (start : Nat) : List Char → Read (List Text.Point)
  | [] => .error (.flaw .openString start)
  | '"' :: rest => .ok ([], rest)
  | '\\' :: 'u' :: a :: b :: c :: d :: e :: rest =>
    match hexCode? a b c d with
    | none => .error (.flaw .unicodeEscape (rest.length + 6))
    | some high =>
      match isHighSurrogate high, e, rest with
      | true, '\\', 'u' :: f :: g :: h :: i :: j :: rest =>
        match hexCode? f g h i with
        | none => .error (.flaw .unicodeEscape (rest.length + 6))
        | some low =>
          if isLowSurrogate low then
            (readString start (j :: rest)).map
              fun (text, rest) => (.char (charOfPair high low) :: text, rest)
          else
            (readString start ('\\' :: 'u' :: f :: g :: h :: i :: j :: rest)).map
              fun (text, rest) => (.ofUnit high :: text, rest)
      | _, e, rest =>
        (readString start (e :: rest)).map fun (text, rest) => (.ofUnit high :: text, rest)
  | '\\' :: 'u' :: rest => .error (.flaw .unicodeEscape (rest.length + 1))
  | '\\' :: c :: rest =>
    match escaped? c with
    | none => .error (.flaw .escape (rest.length + 2))
    | some c => (readString start rest).map fun (text, rest) => (.char c :: text, rest)
  | ['\\'] => .error (.flaw .openString start)
  | c :: rest =>
    if c.toNat ≤ 0x1F then .error (.flaw .controlCharacter (rest.length + 1))
    else (readString start rest).map fun (text, rest) => (.char c :: text, rest)

/-- The digits at the head of a text and what follows them. -/
def spanDigits (chars : List Char) : List Nat × List Char :=
  ((chars.takeWhile Char.isDigit).filterMap Text.asciiDigit?, chars.dropWhile Char.isDigit)

/-- The digits after a point, if at least one follows it. -/
def readFraction (chars : List Char) : List Nat × List Char :=
  match chars with
  | '.' :: rest => if (spanDigits rest).1.isEmpty then ([], chars) else spanDigits rest
  | _ => ([], chars)

/-- The exponent, if its mark and sign are followed by a digit. -/
def readExponent (chars : List Char) : Option Int × List Char :=
  let signed (sign : Int) (rest : List Char) : Option Int × List Char :=
    if (spanDigits rest).1.isEmpty then (none, chars)
    else (some (sign * Text.ofDigits (spanDigits rest).1), (spanDigits rest).2)
  match chars with
  | c :: rest =>
    if c = 'e' ∨ c = 'E' then
      match rest with
      | '+' :: rest => signed 1 rest
      | '-' :: rest => signed (-1) rest
      | rest => signed 1 rest
    else (none, chars)
  | [] => (none, chars)

/-- A number with a fraction or an exponent is a double, any other an integer of at most `most`
digits. -/
def readMagnitude (most : Nat) (negative : Bool) (digits : List Nat) (rest : List Char) :
    Read Json :=
  let (fraction, rest) := readFraction rest
  let (power, rest) := readExponent rest
  if fraction.isEmpty ∧ power.isNone then
    if most < digits.length then .error (.limit (.digits digits.length))
    else
      let n : Int := Text.ofDigits digits
      .ok (int (if negative then -n else n), rest)
  else
    .ok (float (Binary64.ofDecimal negative (Text.ofDigits (digits ++ fraction))
      (power.getD 0 - fraction.length)), rest)

/-- A leading zero stands alone before the point. -/
def readNumber (most : Nat) (chars : List Char) : Read Json :=
  let (negative, body) := match chars with
    | '-' :: rest => (true, rest)
    | _ => (false, chars)
  match body with
  | '0' :: rest => readMagnitude most negative [0] rest
  | _ =>
    if (spanDigits body).1.isEmpty then stop .value chars
    else readMagnitude most negative (spanDigits body).1 (spanDigits body).2

mutual

/-- Reads the value at the head of a text; `fuel` bounds the length of the text, `most` the digits
of an integer, and `room` is the number of containers that may still be opened inside each other. -/
def readValue (most room : Nat) : Nat → List Char → Read Json
  | 0, chars => stop .value chars
  | fuel + 1, chars =>
    match chars with
    | '"' :: rest =>
      (readString chars.length rest).map fun (text, rest) => (ofRaw ⟨text⟩, rest)
    | '{' :: rest =>
      if room = 0 then .error (.limit .objects)
      else
        match skipSpace rest with
        | '}' :: rest => .ok (obj [], rest)
        | rest =>
          (readMembers most (room - 1) fuel rest).map fun (members, rest) =>
            (obj (mergeMembers members), rest)
    | '[' :: rest =>
      if room = 0 then .error (.limit .arrays)
      else
        match skipSpace rest with
        | ']' :: rest => .ok (arr [], rest)
        | rest => (readItems most (room - 1) fuel rest).map fun (items, rest) => (arr items, rest)
    | 'n' :: 'u' :: 'l' :: 'l' :: rest => .ok (null, rest)
    | 't' :: 'r' :: 'u' :: 'e' :: rest => .ok (bool true, rest)
    | 'f' :: 'a' :: 'l' :: 's' :: 'e' :: rest => .ok (bool false, rest)
    | 'N' :: 'a' :: 'N' :: rest => .ok (float .nan, rest)
    | 'I' :: 'n' :: 'f' :: 'i' :: 'n' :: 'i' :: 't' :: 'y' :: rest =>
      .ok (float (.infinity false), rest)
    | '-' :: 'I' :: 'n' :: 'f' :: 'i' :: 'n' :: 'i' :: 't' :: 'y' :: rest =>
      .ok (float (.infinity true), rest)
    | chars => readNumber most chars

def readItems (most room : Nat) : Nat → List Char → Except Stop (List Json × List Char)
  | 0, chars => stop .value chars
  | fuel + 1, chars => do
    let (item, rest) ← readValue most room fuel chars
    match skipSpace rest with
    | ']' :: rest => .ok ([item], rest)
    | ',' :: rest =>
      (readItems most room fuel (skipSpace rest)).map fun (items, rest) => (item :: items, rest)
    | rest => stop .comma rest

def readMembers (most room : Nat) :
    Nat → List Char → Except Stop (List (String × Json) × List Char)
  | 0, chars => stop .value chars
  | fuel + 1, chars =>
    match chars with
    | '"' :: rest => do
      let (name, rest) ← readString chars.length rest
      match skipSpace rest with
      | ':' :: rest =>
        let (value, rest) ← readValue most room fuel (skipSpace rest)
        match skipSpace rest with
        | '}' :: rest => .ok ([((RawText.mk name).shown, value)], rest)
        | ',' :: rest =>
          (readMembers most room fuel (skipSpace rest)).map fun (members, rest) =>
            (((RawText.mk name).shown, value) :: members, rest)
        | rest => stop .comma rest
      | rest => stop .colon rest
    | chars => stop .memberName chars

end

/-- Reads a text that holds one value and blanks around it. -/
def readText (limits : Limits) (chars : List Char) : Except Stop Json :=
  match chars with
  | '\uFEFF' :: _ => .error (.flaw .byteOrderMark chars.length)
  | _ => do
    let (value, rest) ← readValue limits.digits limits.nesting (2 * chars.length + 2)
      (skipSpace chars)
    match skipSpace rest with
    | [] => .ok value
    | rest => .error (.flaw .surplus rest.length)

def parseWithin (limits : Limits) (text : String) : Except Refusal Json :=
  let chars := text.toList
  (readText limits chars).mapError fun
    | .flaw flaw left => .malformed (.locate chars (chars.length - left) flaw)
    | .limit limit => .beyond limit

def parse (text : String) : Except Refusal Json :=
  parseWithin .standard text

end Flowplan.Json
