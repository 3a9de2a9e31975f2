/-!
# Digits

Numbers are spelled in a base up to sixteen. The digits beyond nine are letters of either case.
-/

namespace Stratalog.Text

/-- The value of a digit. -/
def digit? (base : Nat) (c : Char) : Option Nat :=
  let value :=
    if '0' ≤ c ∧ c ≤ '9' then some (c.toNat - '0'.toNat)
    else if 'a' ≤ c ∧ c ≤ 'f' then some (c.toNat - 'a'.toNat + 10)
    else if 'A' ≤ c ∧ c ≤ 'F' then some (c.toNat - 'A'.toNat + 10)
    else none
  value.filter fun digit => digit < base

/-- The number that digits spell, after those that spell `number`. -/
def digitsFrom? (base : Nat) : Nat → List Char → Option Nat
  | number, [] => some number
  | number, c :: rest =>
    match digit? base c with
    | some digit => digitsFrom? base (base * number + digit) rest
    | none => none

/-- The number that one or more digits spell. -/
def digits? (base : Nat) (cs : List Char) : Option Nat :=
  if cs.isEmpty then none else digitsFrom? base 0 cs

end Stratalog.Text
