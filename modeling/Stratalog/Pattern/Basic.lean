import Stratalog.Pattern.Category
import Stratalog.Text.CaseTable

/-!
# Patterns

A pattern describes texts: characters from sets, sequences, alternatives, repetitions, and
conditions on the place between two characters. A text matches when some part of it is described.

Matching follows sets of positions. From one place in the text a pattern leads to a list of
places; a repetition is followed until it leads nowhere new, so every match ends.
-/

namespace Stratalog

/-- A condition on a place in the text. -/
inductive Place where
  | textStart
  | textEnd
  | lineStart (carriageReturns : Bool)
  | lineEnd (carriageReturns : Bool)
  | boundary (unicode : Bool)
  | notBoundary (unicode : Bool)
  | wordStart (unicode : Bool)
  | wordEnd (unicode : Bool)
  | wordStartHalf (unicode : Bool)
  | wordEndHalf (unicode : Bool)
  deriving DecidableEq, Repr, Inhabited

/-- A description of texts. -/
inductive Pattern where
  | char (set : Pattern.CharSet)
  | place (condition : Place)
  | sequence (parts : List Pattern)
  | choice (branches : List Pattern)
  | repeated (body : Pattern) (least : Nat) (most : Option Nat)
  deriving Repr, Inhabited

namespace Pattern

/-- The characters of words among the first 128. -/
def asciiWord : CharSet :=
  CharSet.ofText "30-39 41-5A 5F 61-7A"

/-- Whether the character at a position is part of a word. -/
def isWordAt (unicode : Bool) (text : Array Char) (i : Nat) : Bool :=
  match text[i]? with
  | some c => (if unicode then wordCharacters else asciiWord).mem c
  | none => false

/-- Whether the character before a position is part of a word. -/
def isWordBefore (unicode : Bool) (text : Array Char) (i : Nat) : Bool :=
  0 < i && isWordAt unicode text (i - 1)

/-- Whether a line starts at a position. -/
def isLineStart (carriageReturns : Bool) (text : Array Char) (i : Nat) : Bool :=
  i == 0 || text[i - 1]? == some '\n' ||
    (carriageReturns && text[i - 1]? == some '\r' && text[i]? != some '\n')

/-- Whether a line ends at a position. -/
def isLineEnd (carriageReturns : Bool) (text : Array Char) (i : Nat) : Bool :=
  i == text.size ||
    (if carriageReturns then
      text[i]? == some '\r' ||
        (text[i]? == some '\n' && !(0 < i && text[i - 1]? == some '\r'))
    else text[i]? == some '\n')

/-- Whether a condition holds at a position. -/
def placeHolds (text : Array Char) (i : Nat) : Place → Bool
  | .textStart => i == 0
  | .textEnd => i == text.size
  | .lineStart cr => isLineStart cr text i
  | .lineEnd cr => isLineEnd cr text i
  | .boundary u => isWordBefore u text i != isWordAt u text i
  | .notBoundary u => isWordBefore u text i == isWordAt u text i
  | .wordStart u => !isWordBefore u text i && isWordAt u text i
  | .wordEnd u => isWordBefore u text i && !isWordAt u text i
  | .wordStartHalf u => !isWordBefore u text i
  | .wordEndHalf u => !isWordAt u text i

/-- Follow a step from each of the places, each place reached listed once. -/
def follow (step : Nat → List Nat) (places : List Nat) : List Nat :=
  (places.flatMap step).eraseDups

/-- Follow a step exactly `n` times. -/
def followTimes (step : Nat → List Nat) : Nat → List Nat → List Nat
  | 0, places => places
  | n + 1, places => followTimes step n (follow step places)

/-- Follow a step up to `n` times, adding the places reached to those found. -/
def followUpTo (step : Nat → List Nat) : Nat → List Nat → List Nat → List Nat
  | 0, found, _ => found
  | n + 1, found, places =>
    let fresh := (follow step places).filter fun i => !found.contains i
    if fresh.isEmpty then found else followUpTo step n (found ++ fresh) fresh

mutual

/-- The places a pattern leads to from a place in a text. -/
def leads (text : Array Char) : Pattern → Nat → List Nat
  | .char set, i =>
    match text[i]? with
    | some c => if set.mem c then [i + 1] else []
    | none => []
  | .place condition, i => if placeHolds text i condition then [i] else []
  | .sequence parts, i => leadsThrough text parts [i]
  | .choice branches, i => leadsAmong text branches i
  | .repeated body least most, i =>
    let must := followTimes (leads text body) least [i]
    let more := match most with
      | some most => most - least
      | none => text.size + 1
    followUpTo (leads text body) more must must

/-- The places a sequence leads to from any of the given places. -/
def leadsThrough (text : Array Char) : List Pattern → List Nat → List Nat
  | [], places => places
  | part :: rest, places => leadsThrough text rest (follow (leads text part) places)

/-- The places some branch leads to. -/
def leadsAmong (text : Array Char) : List Pattern → Nat → List Nat
  | [], _ => []
  | branch :: rest, i => leads text branch i ++ leadsAmong text rest i

end

/-- Whether some part of a text is described by a pattern. -/
def isFoundIn (pattern : Pattern) (text : String) : Bool :=
  let chars := text.toList.toArray
  (List.range (chars.size + 1)).any fun i => !(leads chars pattern i).isEmpty

/-- The characters equal to a character of the set up to case. -/
def caseVariants (unicode : Bool) (set : CharSet) : CharSet :=
  if unicode then
    set ++ (variantPairs Text.foldRuns).filterMap fun (code, variant) =>
      if set.hasCode code then some (variant, variant) else none
  else
    set ++ (asciiPairs.filterMap fun (code, variant) =>
      if set.hasCode code then some (variant, variant) else none)
where
  /-- The code points a run relates, in both directions. -/
  pairsOf : Text.CaseRun → List (Nat × Nat)
    | (first, count, step, target) =>
      (List.range count).flatMap fun i =>
        [(first + i * step, target + i * step), (target + i * step, first + i * step)]
  /-- The pairs of code points that differ only in case: a character and what it folds to, and two
  characters that fold to one. -/
  variantPairs (runs : List Text.CaseRun) : List (Nat × Nat) :=
    let direct := runs.flatMap pairsOf
    let shared := ((direct.mergeSort fun a b => a.1 ≤ b.1).splitBy fun a b => a.1 == b.1).flatMap
      fun group => group.flatMap fun a => group.filterMap fun b =>
        if a.2 == b.2 then none else some (a.2, b.2)
    direct ++ shared
  /-- The letters among the first 128 code points, in both cases. -/
  asciiPairs : List (Nat × Nat) :=
    pairsOf (0x41, 26, 1, 0x61)

end Pattern

end Stratalog
