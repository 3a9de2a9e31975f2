import Stratalog.Json.Basic
import Stratalog.Text.Digits

/-!
# Reading JSON

Reading follows the grammar of JSON without extensions: no comments, no trailing commas, no leading
zeros, no bare control characters in texts, nothing after the value but blanks.

A number is accumulated digit by digit in a word of sixty-four bits; digits that no longer fit are
counted and dropped, and the floating-point number is made from what was kept.
-/

namespace Stratalog.Json

/-- The blanks of JSON. -/
def isBlank (c : Char) : Bool :=
  c = ' ' || c = '\n' || c = '\t' || c = '\r'

/-- Drop blanks. -/
def skipBlanks (cs : List Char) : List Char :=
  cs.dropWhile isBlank

/-- The character a one-letter escape stands for. -/
def escaped? (c : Char) : Option Char :=
  if c = '"' then some '"'
  else if c = '\\' then some '\\'
  else if c = '/' then some '/'
  else if c = 'b' then some '\x08'
  else if c = 'f' then some '\x0c'
  else if c = 'n' then some '\n'
  else if c = 'r' then some '\r'
  else if c = 't' then some '\t'
  else none

/-- Whether a code unit is the first half of a surrogate pair. -/
def isHighSurrogate (n : Nat) : Bool :=
  0xD800 ≤ n && n < 0xDC00

/-- Whether a code unit is the second half of a surrogate pair. -/
def isLowSurrogate (n : Nat) : Bool :=
  0xDC00 ≤ n && n < 0xE000

/-- The characters read so far in a quoted text, last first. They are missing once half a surrogate
pair stood alone; `high` is a first half that waits for its second. -/
structure Quoted where
  read : Option (List Char) := some []
  high : Option Nat := none

namespace Quoted

/-- Add a character. -/
def push (quoted : Quoted) (c : Char) : Quoted :=
  { read := if quoted.high.isSome then none else quoted.read.map (c :: ·) }

/-- Add a code unit. -/
def pushUnit (quoted : Quoted) (unit : Nat) : Quoted :=
  if isHighSurrogate unit then
    { read := if quoted.high.isSome then none else quoted.read, high := some unit }
  else if isLowSurrogate unit then
    match quoted.high with
    | some high =>
      let c := Char.ofNat (0x10000 + (high - 0xD800) * 0x400 + (unit - 0xDC00))
      { read := quoted.read.map (c :: ·) }
    | none => { read := none }
  else quoted.push (Char.ofNat unit)

/-- The text that was read. -/
def text? (quoted : Quoted) : Option String :=
  if quoted.high.isSome then none else quoted.read.map fun cs => String.ofList cs.reverse

end Quoted

/-- Read the characters of a quoted text after its opening quote. -/
def readChars (quoted : Quoted) : List Char → Option (Option String × List Char)
  | [] => none
  | '"' :: rest => some (quoted.text?, rest)
  | '\\' :: 'u' :: a :: b :: c :: d :: rest =>
    match Text.digits? 16 [a, b, c, d] with
    | some unit => readChars (quoted.pushUnit unit) rest
    | none => none
  | '\\' :: c :: rest =>
    match escaped? c with
    | some c => readChars (quoted.push c) rest
    | none => none
  | c :: rest =>
    if c.toNat < 0x20 || c = '\\' then none else readChars (quoted.push c) rest

/-- The digits at the front of a text, as numbers, and the rest. -/
def spanDigits : List Char → List Nat × List Char
  | [] => ([], [])
  | c :: rest =>
    match Text.digit? 10 c with
    | some d =>
      let (ds, rest) := spanDigits rest
      (d :: ds, rest)
    | none => ([], c :: rest)

/-- Add digits to a significand while it fits sixty-four bits; the digits left over come with it. -/
def accumulate (significand : Nat) : List Nat → Nat × List Nat
  | [] => (significand, [])
  | d :: ds =>
    if 10 * significand + d < Nat.pow 2 64 then accumulate (10 * significand + d) ds
    else (significand, d :: ds)

/-- A floating-point number from its parts, unless it is out of range. -/
def real? (negative : Bool) (significand : Nat) (exponent : Int) : Option Number := do
  let m ← Magnitude.ofRatio? significand 1
  let m ← Magnitude.ofScientific? (exponent.natAbs / 308 + 2) m exponent
  return .real ⟨negative, m⟩

/-- A whole number, or the nearest floating-point number where none fits. Minus zero is no whole
number. -/
def whole? (negative : Bool) (n : Nat) : Option Number :=
  if !negative then some (.natural n.toUInt64)
  else if n = 0 then some (.real ⟨true, ⟨0, Magnitude.leastExponent⟩⟩)
  else if n ≤ Nat.pow 2 63 then some (.negative (Int64.ofInt (-n)))
  else real? true n 0

/-- The exponent part of a number: whether it is negative, its digits, and the rest. -/
def readExponent : List Char → Option (Bool × List Nat × List Char)
  | c :: rest =>
    let (negative, rest) :=
      if c = '-' then (true, rest) else if c = '+' then (false, rest) else (false, c :: rest)
    let (digits, rest) := spanDigits rest
    if digits.isEmpty then none else some (negative, digits, rest)
  | [] => none

/-- The number of digits as a value. -/
def digitsValue (digits : List Nat) : Nat :=
  digits.foldl (fun n d => 10 * n + d) 0

/-- A floating-point number with an exponent part. An exponent past thirty-one bits makes zero or
is out of range. -/
def scaled? (negative : Bool) (significand : Nat) (exponent : Int) (below : Bool)
    (digits : List Nat) : Option Number :=
  let shift := digitsValue digits
  if Nat.pow 2 31 ≤ shift then
    if significand ≠ 0 ∧ !below then none
    else some (.real ⟨negative, ⟨0, Magnitude.leastExponent⟩⟩)
  else real? negative significand (if below then exponent - shift else exponent + shift)

/-- A number as a value of the tree. -/
def ofNumber? : Option Number → Json
  | some n => .number n
  | none => .unreadable

/-- Read a number after its sign. -/
def readNumber (negative : Bool) (cs : List Char) : Option (Json × List Char) :=
  let (digits, rest) := spanDigits cs
  if digits.isEmpty || (digits.head? == some 0 && 1 < digits.length) then none
  else
    let (significand, dropped) := accumulate 0 digits
    let exponent : Int := dropped.length
    match rest with
    | '.' :: after =>
      let (fraction, rest) := spanDigits after
      if fraction.isEmpty then none
      else
        let (significand, left) := accumulate significand fraction
        let exponent := exponent - (fraction.length - left.length : Nat)
        match rest with
        | c :: after =>
          if c = 'e' || c = 'E' then
            (readExponent after).map fun (below, shift, rest) =>
              (ofNumber? (scaled? negative significand exponent below shift), rest)
          else some (ofNumber? (real? negative significand exponent), rest)
        | [] => some (ofNumber? (real? negative significand exponent), rest)
    | c :: after =>
      if c = 'e' || c = 'E' then
        (readExponent after).map fun (below, shift, rest) =>
          (ofNumber? (scaled? negative significand exponent below shift), rest)
      else if dropped.isEmpty then some (ofNumber? (whole? negative significand), rest)
      else some (ofNumber? (real? negative significand exponent), rest)
    | [] =>
      if dropped.isEmpty then some (ofNumber? (whole? negative significand), rest)
      else some (ofNumber? (real? negative significand exponent), rest)

/-- A text as a value of the tree. -/
def ofString? : Option String → Json
  | some text => .string text
  | none => .unreadable

/-- Fields as an object of the tree; a name that cannot be read spoils it. -/
def ofFields? : Option (List (String × Json)) → Json
  | some fields => .object fields
  | none => .unreadable

mutual

/-- Read a value. -/
def readValue : (fuel : Nat) → List Char → Option (Json × List Char)
  | 0, _ => none
  | fuel + 1, cs =>
    match skipBlanks cs with
    | '"' :: rest => (readChars {} rest).map fun (text, rest) => (ofString? text, rest)
    | '[' :: rest =>
      match skipBlanks rest with
      | ']' :: rest => some (.array [], rest)
      | rest => (readItems fuel [] rest).map fun (items, rest) => (.array items, rest)
    | 'n' :: 'u' :: 'l' :: 'l' :: rest => some (.null, rest)
    | 't' :: 'r' :: 'u' :: 'e' :: rest => some (.bool true, rest)
    | 'f' :: 'a' :: 'l' :: 's' :: 'e' :: rest => some (.bool false, rest)
    | '-' :: rest => readNumber true rest
    | c :: rest =>
      if c = '\x7b' then
        match skipBlanks rest with
        | d :: after =>
          if d = '\x7d' then some (.object [], after)
          else (readFields fuel (some []) (d :: after)).map fun (fields, rest) =>
            (ofFields? fields, rest)
        | [] => none
      else readNumber false (c :: rest)
    | [] => none

/-- Read the items of an array up to its end; those read so far come last first. -/
def readItems : (fuel : Nat) → List Json → List Char → Option (List Json × List Char)
  | 0, _, _ => none
  | fuel + 1, read, cs =>
    match readValue fuel cs with
    | none => none
    | some (item, rest) =>
      match skipBlanks rest with
      | ',' :: rest => readItems fuel (item :: read) rest
      | ']' :: rest => some ((item :: read).reverse, rest)
      | _ => none

/-- Read the fields of an object up to its end; those read so far come last first, and are missing
once a name could not be read. -/
def readFields : (fuel : Nat) → Option (List (String × Json)) → List Char →
    Option (Option (List (String × Json)) × List Char)
  | 0, _, _ => none
  | fuel + 1, read, cs =>
    match skipBlanks cs with
    | '"' :: rest =>
      match readChars {} rest with
      | none => none
      | some (name, rest) =>
        match skipBlanks rest with
        | ':' :: rest =>
          match readValue fuel rest with
          | none => none
          | some (value, rest) =>
            let read := match name, read with
              | some name, some read => some ((name, value) :: read)
              | _, _ => none
            match skipBlanks rest with
            | ',' :: rest => readFields fuel read rest
            | c :: rest => if c = '\x7d' then some (read.map List.reverse, rest) else none
            | [] => none
        | _ => none
    | _ => none

end

/-- The value a text is the written form of. -/
def parse? (text : String) : Option Json :=
  let cs := text.toList
  match readValue (2 * cs.length + 2) cs with
  | some (json, rest) => if (skipBlanks rest).isEmpty then some json else none
  | none => none

end Stratalog.Json
