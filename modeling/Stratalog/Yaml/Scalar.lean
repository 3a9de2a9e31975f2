import Stratalog.Json.Binary64
import Stratalog.Text.Digits

/-!
# YAML scalars

A scalar may stand plain or in one of several quoting styles. What a plain scalar is depends on
its text: nothing at all, a flag, a number, or else a text. A number whose digits begin with a
zero that is not needed is a text.
-/

namespace Stratalog.Yaml

export Text (digits?)

/-- How a scalar is written. -/
inductive ScalarStyle where
  | plain
  | single
  | double
  | literal
  | folded
  deriving DecidableEq, Repr, Inhabited

/-- Whether a character ends a line. -/
def isBreak (c : Char) : Bool :=
  c = '\n' || c = '\r' || c = '\x85' || c = '\u2028' || c = '\u2029'

/-- Whether a character is a blank or a tab. -/
def isBlank (c : Char) : Bool :=
  c = ' ' || c = '\t'

/-- Whether a word ends before what follows: a blank, a line end or nothing. -/
def endsWord : Option Char → Bool
  | none => true
  | some c => isBlank c || isBreak c || c = '\x00'

/-- Whether a text means that there is nothing. -/
def isNull (text : String) : Bool :=
  ["", "~", "null", "Null", "NULL"].contains text

/-- Whether a text is a flag. -/
def isFlag (text : String) : Bool :=
  ["true", "True", "TRUE", "false", "False", "FALSE"].contains text

/-- The characters behind a sign, if there is one. -/
def unsigned : List Char → List Char
  | '-' :: rest | '+' :: rest => rest
  | cs => cs

/-- Whether a text has digits only, the first of several being zero. -/
def hasIdleZero (cs : List Char) : Bool :=
  match unsigned cs with
  | '0' :: c :: rest => (c :: rest).all Char.isDigit
  | _ => false

/-- The number behind a base mark, or a decimal one. -/
def basedNumber? : List Char → Option Nat
  | '0' :: 'x' :: rest => digits? 16 rest
  | '0' :: 'o' :: rest => digits? 8 rest
  | '0' :: 'b' :: rest => digits? 2 rest
  | cs => if hasIdleZero cs then none else digits? 10 cs

/-- A natural number, perhaps with a plus. -/
def natural? (text : String) : Option Nat :=
  match text.toList with
  | '+' :: rest => basedNumber? rest
  | cs => basedNumber? cs

/-- Whether a text is a whole number of a hundred and twenty-eight bits. -/
def isInteger (text : String) : Bool :=
  (natural? text).any (· < Nat.pow 2 128) ||
    match text.toList with
    | '-' :: rest => (basedNumber? rest).any (· ≤ Nat.pow 2 127)
    | _ => false

/-- A decimal number with a point or an exponent: its digits as a number and its exponent. -/
def decimal? (cs : List Char) : Option (Nat × Int) :=
  let whole := cs.takeWhile Char.isDigit
  let rest := cs.dropWhile Char.isDigit
  let (fraction, rest) :=
    match rest with
    | '.' :: rest => (rest.takeWhile Char.isDigit, rest.dropWhile Char.isDigit)
    | _ => ([], rest)
  let places : Int := fraction.length
  match digits? 10 (whole ++ fraction), rest with
  | some number, [] => some (number, -places)
  | some number, e :: rest =>
    if e = 'e' ∨ e = 'E' then
      (digits? 10 (unsigned rest)).map fun exponent =>
        (number, (if rest.head? = some '-' then -(exponent : Int) else exponent) - places)
    else none
  | none, _ => none

/-- Whether the number `digits · 10 ^ exponent` has a floating-point number near it. -/
def isFinite (digits : Nat) (exponent : Int) : Bool :=
  let length : Int := (toString digits).length
  digits = 0 || length + exponent ≤ 300 ||
    length + exponent ≤ 310 &&
      (let (n, d) := Magnitude.decimalRatio digits exponent
       (Magnitude.ofRatio? n d).isSome)

/-- Whether a text is a floating-point number, one beyond all bounds or one that is none. -/
def isReal (text : String) : Bool :=
  let body :=
    match text.toList with
    | '+' :: rest => if rest.head? = some '-' ∨ rest.head? = some '+' then [] else rest
    | '-' :: rest => if rest.head? = some '-' ∨ rest.head? = some '+' then [] else rest
    | cs => cs
  [".inf", ".Inf", ".INF"].contains (String.ofList body) ||
    [".nan", ".NaN", ".NAN"].contains text ||
    (decimal? body).any fun (digits, exponent) => isFinite digits exponent

/-- Whether a text, were it plain, would be taken for something else. -/
def isAmbiguous (text : String) : Bool :=
  isNull text || isFlag text || isInteger text || isReal text || hasIdleZero text.toList

end Stratalog.Yaml
