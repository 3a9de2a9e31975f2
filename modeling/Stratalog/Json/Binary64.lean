/-!
# Floating-point numbers

Numbers of the form `m · 2 ^ e` with a mantissa of at most 53 bits, as double-precision arithmetic
has them. Rounding, multiplication and division are done in exact natural arithmetic and rounded
once, half to even. A number is written with the fewest digits that read back as the same number.
-/

namespace Stratalog

/-- The magnitude of a double-precision number: `mantissa · 2 ^ exponent`. -/
structure Magnitude where
  mantissa : Nat
  exponent : Int
  deriving DecidableEq, Repr, Inhabited

/-- A double-precision number. -/
structure Binary64 where
  negative : Bool
  magnitude : Magnitude
  deriving DecidableEq, Repr, Inhabited

namespace Magnitude

/-- The least exponent. -/
def leastExponent : Int := -1074

/-- The greatest exponent of a full mantissa. -/
def greatestExponent : Int := 971

/-- The quotient rounded to the nearest whole number, half to even. -/
def roundQuotient (numerator denominator : Nat) : Nat :=
  let quotient := numerator / denominator
  let twice := 2 * (numerator % denominator)
  if twice < denominator then quotient
  else if twice = denominator then quotient + quotient % 2
  else quotient + 1

/-- The fraction `numerator / denominator` scaled by `2 ^ shift`, rounded. -/
def roundScaled (numerator denominator : Nat) (shift : Int) : Nat :=
  if 0 ≤ shift then roundQuotient (numerator * Nat.pow 2 shift.toNat) denominator
  else roundQuotient numerator (denominator * Nat.pow 2 (-shift).toNat)

/-- The nearest magnitude to a fraction, unless it is out of range. -/
def ofRatio? (numerator denominator : Nat) : Option Magnitude :=
  if numerator = 0 then some ⟨0, leastExponent⟩
  else
    let guess : Int := (numerator.log2 : Int) - denominator.log2 - 52
    let tooSmall := roundScaled numerator denominator (-guess) < Nat.pow 2 52
    let exponent := max leastExponent (if tooSmall then guess - 1 else guess)
    let mantissa := roundScaled numerator denominator (-exponent)
    let (mantissa, exponent) :=
      if mantissa = Nat.pow 2 53 then (Nat.pow 2 52, exponent + 1) else (mantissa, exponent)
    if exponent ≤ greatestExponent then some ⟨mantissa, exponent⟩ else none

/-- A magnitude as a fraction. -/
def ratio (m : Magnitude) : Nat × Nat :=
  if 0 ≤ m.exponent then (m.mantissa * Nat.pow 2 m.exponent.toNat, 1)
  else (m.mantissa, Nat.pow 2 (-m.exponent).toNat)

/-- The product of two magnitudes, rounded. -/
def mul? (a b : Magnitude) : Option Magnitude :=
  ofRatio? (a.ratio.1 * b.ratio.1) (a.ratio.2 * b.ratio.2)

/-- The quotient of two magnitudes, rounded. -/
def div? (a b : Magnitude) : Option Magnitude :=
  ofRatio? (a.ratio.1 * b.ratio.2) (a.ratio.2 * b.ratio.1)

/-- A power of ten, rounded. -/
def powerOfTen (n : Nat) : Magnitude :=
  (ofRatio? (Nat.pow 10 n) 1).getD default

/-- The significand times a power of ten: both are rounded, then combined and rounded again. An
exponent below `-308` is reached by dividing by `10 ^ 308` first, at most `fuel` times. -/
def ofScientific? : (fuel : Nat) → Magnitude → (exponent : Int) → Option Magnitude
  | 0, m, _ => some m
  | fuel + 1, m, exponent =>
    if 308 < exponent then if m.mantissa = 0 then some m else none
    else if 0 ≤ exponent then m.mul? (powerOfTen exponent.toNat)
    else if -308 ≤ exponent then m.div? (powerOfTen (-exponent).toNat)
    else if m.mantissa = 0 then some m
    else
      match m.div? (powerOfTen 308) with
      | some m => ofScientific? fuel m (exponent + 308)
      | none => none

/-- The number `digits · 10 ^ exponent` as a fraction. -/
def decimalRatio (digits : Nat) (exponent : Int) : Nat × Nat :=
  if 0 ≤ exponent then (digits * Nat.pow 10 exponent.toNat, 1) else (digits, Nat.pow 10 (-exponent).toNat)

/-- Whether a decimal reads back as a magnitude. -/
def readsBack (m : Magnitude) (digits : Nat) (exponent : Int) : Bool :=
  let (numerator, denominator) := decimalRatio digits exponent
  ofRatio? numerator denominator == some m

/-- The exponent of the leading decimal digit of a fraction, found from a guess in `fuel` steps. -/
def leadingExponent (numerator denominator : Nat) : Nat → Int → Int
  | 0, guess => guess
  | fuel + 1, guess =>
    let (n, d) := decimalRatio 1 guess
    if numerator * d < n * denominator then leadingExponent numerator denominator fuel (guess - 1)
    else
      let (n, d) := decimalRatio 1 (guess + 1)
      if n * denominator ≤ numerator * d then
        leadingExponent numerator denominator fuel (guess + 1)
      else guess

/-- The nearest decimal on the grid `10 ^ exponent` that reads back, if one does. -/
def decimalOnGrid? (m : Magnitude) (exponent : Int) : Option Nat :=
  let (numerator, denominator) := m.ratio
  let (n, d) := decimalRatio 1 exponent
  let below := numerator * d / (denominator * n)
  let nearest := roundQuotient (numerator * d) (denominator * n)
  [nearest, below, below + 1].find? fun digits => digits != 0 && m.readsBack digits exponent

/-- The decimal of fewest digits that reads back, trying grids from `digits` digits on. -/
def shortestFrom (m : Magnitude) (leading : Int) : (fuel digits : Nat) → Nat × Int
  | 0, _ => (0, 0)
  | fuel + 1, digits =>
    let exponent := leading - digits + 1
    match m.decimalOnGrid? exponent with
    | some found => (found, exponent)
    | none => shortestFrom m leading fuel (digits + 1)

/-- The decimal of fewest digits that reads back: its digits as a number, and its exponent. -/
def shortest (m : Magnitude) : Nat × Int :=
  let (numerator, denominator) := m.ratio
  let guess : Int := ((numerator.log2 : Int) - denominator.log2) * 30103 / 100000
  shortestFrom m (leadingExponent numerator denominator 8 guess) 18 1

end Magnitude

namespace Binary64

/-- Drop the zeros at the end of a number, counting them in the exponent. -/
def dropZeros : (fuel : Nat) → Nat → Int → Nat × Int
  | 0, digits, exponent => (digits, exponent)
  | fuel + 1, digits, exponent =>
    if digits ≠ 0 ∧ digits % 10 = 0 then dropZeros fuel (digits / 10) (exponent + 1)
    else (digits, exponent)

/-- The text of a magnitude: positional from a hundred-thousandth up to sixteen digits before the
point, with an exponent elsewhere. -/
def magnitudeText (m : Magnitude) : String :=
  if m.mantissa = 0 then "0.0"
  else
    let (digits, exponent) := m.shortest
    let (digits, exponent) := dropZeros 20 digits exponent
    let text := toString digits
    let length := text.length
    let point : Int := length + exponent
    if 0 ≤ exponent ∧ point ≤ 16 then
      text ++ String.ofList (List.replicate exponent.toNat '0') ++ ".0"
    else if 0 < point ∧ point ≤ 16 then
      String.ofList (text.toList.take point.toNat) ++ "." ++
        String.ofList (text.toList.drop point.toNat)
    else if -5 < point ∧ point ≤ 0 then
      "0." ++ String.ofList (List.replicate (-point).toNat '0') ++ text
    else
      let lead := String.ofList (text.toList.take 1)
      let rest := String.ofList (text.toList.drop 1)
      lead ++ (if length = 1 then "" else "." ++ rest) ++ "e" ++
        (if 0 < point then "+" else "") ++ toString (point - 1)

/-- The text of a number. -/
def text (x : Binary64) : String :=
  (if x.negative then "-" else "") ++ magnitudeText x.magnitude

end Binary64

end Stratalog
