import Stratalog.Text.Digits

/-!
# Character sets

A set of characters is a list of closed ranges of code points, in any order and overlapping as
they may. Complements are taken within the code points.
-/

namespace Stratalog.Pattern

/-- A set of characters, as closed ranges of code points. -/
abbrev CharSet := List (Nat × Nat)

namespace CharSet

/-- The greatest code point. -/
def top : Nat := 0x10FFFF

/-- The set of one character. -/
def single (c : Char) : CharSet :=
  [(c.toNat, c.toNat)]

/-- Every character. -/
def all : CharSet :=
  [(0, top)]

/-- Whether a code point belongs to a set. -/
def hasCode (set : CharSet) (code : Nat) : Bool :=
  set.any fun range => range.1 ≤ code && code ≤ range.2

/-- Whether a character belongs to a set. -/
def mem (set : CharSet) (c : Char) : Bool :=
  set.hasCode c.toNat

/-- The gaps, from `start` on, between ranges sorted by their first code points. -/
def gaps (start : Nat) : CharSet → CharSet
  | [] => if start ≤ top then [(start, top)] else []
  | (first, last) :: rest =>
    if start < first then (start, first - 1) :: gaps (max start (last + 1)) rest
    else gaps (max start (last + 1)) rest

/-- The characters outside a set. -/
def complement (set : CharSet) : CharSet :=
  gaps 0 (set.mergeSort fun a b => a.1 ≤ b.1)

/-- The characters in both sets. -/
def inter (a b : CharSet) : CharSet :=
  a.flatMap fun (first, last) =>
    b.filterMap fun (first', last') =>
      if max first first' ≤ min last last' then some (max first first', min last last') else none

/-- The characters of the first set outside the second. -/
def diff (a b : CharSet) : CharSet :=
  a.inter b.complement

/-- The range that ends with a number, if one was read. -/
def closeRange (first number : Option Nat) : CharSet :=
  (number.map fun last => (first.getD last, last)).toList

/-- Read ranges of hexadecimal numbers: `first` is the range's start once its dash was met. -/
def readRanges (first number : Option Nat) : List Char → CharSet
  | [] => closeRange first number
  | '-' :: rest => readRanges number none rest
  | c :: rest =>
    match Text.digit? 16 c with
    | some digit => readRanges first (some (16 * number.getD 0 + digit)) rest
    | none => closeRange first number ++ readRanges none none rest

/-- The set written as blank-separated code points and ranges in hexadecimal. -/
def ofText (text : String) : CharSet :=
  readRanges none none text.toList

end CharSet

end Stratalog.Pattern
