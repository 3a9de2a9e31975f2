import Stratalog.Pattern.Basic
import Stratalog.Pattern.Property
import Stratalog.Pattern.Script

/-!
# Reading patterns

The written form of patterns: literals and escapes, `.` and bracketed classes with nested classes
and set operations, groups with flags and names, alternatives, anchors, and repetitions. Reading
fails on text that is no pattern; it says no more than that.

Flags hold from where they are set to the end of the enclosing group. Whether a repetition is
greedy makes no difference to what is found, so it is read and forgotten.
-/

namespace Stratalog.Pattern

/-- The flags in force at a place in the written form. -/
structure Mode where
  caseless : Bool := false
  multiLine : Bool := false
  dotAll : Bool := false
  carriageReturns : Bool := false
  unicode : Bool := true
  verbose : Bool := false
  deriving DecidableEq, Repr

/-- Drop blanks and comments; `comment` says that a comment is being dropped. -/
def dropBlanks : (comment : Bool) → List Char → List Char
  | _, [] => []
  | true, c :: rest => dropBlanks (c != '\n') rest
  | false, c :: rest =>
    if c == '#' then dropBlanks true rest
    else if blanks.mem c then dropBlanks false rest
    else c :: rest

/-- Drop what the mode says to ignore. -/
def Mode.skip (mode : Mode) (cs : List Char) : List Char :=
  if mode.verbose then dropBlanks false cs else cs

/-- What an escape or a single character stands for. -/
inductive Operand where
  | literal (c : Char)
  | set (set : CharSet)
  | place (condition : Place)

/-- The set of a character, with its case variants where case is ignored. -/
def Mode.fold (mode : Mode) (set : CharSet) : CharSet :=
  if mode.caseless then caseVariants mode.unicode set else set

/-- The pattern an operand makes outside brackets. -/
def Operand.toPattern (mode : Mode) : Operand → Pattern
  | .literal c => .char (mode.fold (.single c))
  | .set chars => .char chars
  | .place condition => .place condition

/-- The character of a code point, if there is one. -/
def charOfCode? (code : Nat) : Option Char :=
  if code.isValidChar then some (Char.ofNat code) else none

/-- Read exactly `n` hexadecimal digits. -/
def hexDigits (mode : Mode) : Nat → Nat → List Char → Option (Nat × List Char)
  | 0, value, cs => some (value, cs)
  | n + 1, value, cs =>
    match mode.skip cs with
    | c :: rest =>
      match Text.digit? 16 c with
      | some digit => hexDigits mode n (16 * value + digit) rest
      | none => none
    | [] => none

/-- Read hexadecimal digits up to a closing brace. -/
def hexBraced (mode : Mode) (empty : Bool) (value : Nat) : List Char → Option (Nat × List Char)
  | [] => none
  | c :: rest =>
    if c == '\x7d' then if empty then none else some (value, rest)
    else if mode.verbose && blanks.mem c then hexBraced mode empty value rest
    else
      match Text.digit? 16 c with
      | some digit => hexBraced mode false (16 * value + digit) rest
      | none => none

/-- Read the code point after a hexadecimal escape; `byte` says that it stands for a byte. -/
def hexEscape (mode : Mode) (digits : Nat) (cs : List Char) : Option (Operand × List Char) := do
  let cs := mode.skip cs
  let (code, rest) ← match cs with
    | '\x7b' :: rest => hexBraced mode true 0 rest
    | _ => hexDigits mode digits 0 cs
  let c ← charOfCode? code
  if !mode.unicode && digits == 2 && 0x7f < code && code ≤ 0xff then none
  else some (.literal c, rest)

/-- The characters that mean something and can be escaped. -/
def metaCharacters : List Char :=
  ['\\', '.', '+', '*', '?', '(', ')', '|', '[', ']', '\x7b', '\x7d', '^', '$', '#', '&', '-', '~']

/-- Whether a character may be escaped to stand for itself. -/
def isEscapable (c : Char) : Bool :=
  metaCharacters.contains c || (c.toNat < 128 && !c.isAlphanum && c != '<' && c != '>')

/-- Take characters up to a closing brace. -/
def untilBrace : List Char → Option (List Char × List Char)
  | [] => none
  | c :: rest =>
    if c == '\x7d' then some ([], rest)
    else (untilBrace rest).map fun (name, rest) => (c :: name, rest)

/-- A property name without the marks that do not count. -/
def looseName (name : List Char) : String :=
  let kept := name.filter fun c => !(c == ' ' || c == '_' || c == '-') && c.toNat < 128
  let lower := kept.map Char.toLower
  String.ofList (match lower with
    | 'i' :: 's' :: rest => if rest == ['c'] then lower else rest
    | _ => lower)

/-- The characters of a general category or of a class of categories. -/
def category? (name : String) : Option CharSet :=
  let name := (categoryAliases.lookup name).getD name
  if name == "any" then some .all
  else if name == "ascii" then some [(0, 0x7f)]
  else if name == "assigned" then
    some (categories.flatMap fun entry => entry.2.2)
  else if name == "cn" || name == "unassigned" then
    some (CharSet.complement (categories.flatMap fun entry => entry.2.2))
  else if name == "c" || name == "other" then
    some (CharSet.complement (categories.flatMap fun entry =>
      if ["cc", "cf", "co"].contains entry.1 then [] else entry.2.2))
  else
    match categories.find? fun entry => entry.1 == name || entry.2.1 == name with
    | some entry => some entry.2.2
    | none =>
      (categoryClasses.find? fun entry => entry.1 == name || entry.2.1 == name).map fun entry =>
        categories.flatMap fun category =>
          if entry.2.2.contains category.1 then category.2.2 else []

/-- The set that a table has under a short or a long name. -/
def listed? (table : List (String × String × String)) (name : String) : Option CharSet :=
  (table.find? fun entry => entry.1 == name || entry.2.1 == name).map fun entry =>
    CharSet.ofText entry.2.2

/-- The characters of a script. -/
def script? (name : String) : Option CharSet :=
  listed? scripts name

/-- Split at the first `=`, `:` or `!=`, the last of which negates. -/
def splitProperty : List Char → List Char × Option (Bool × List Char)
  | [] => ([], none)
  | '!' :: '=' :: rest => ([], some (true, rest))
  | c :: rest =>
    if c == '=' || c == ':' then ([], some (false, rest))
    else
      let (name, value) := splitProperty rest
      (c :: name, value)

/-- The characters with a named property. -/
def property? (text : List Char) : Option CharSet :=
  match splitProperty text with
  | (name, none) =>
    let name := looseName name
    (listed? properties name).or ((category? name).or (script? name))
  | (name, some (negated, value)) => do
    let name := looseName name
    let value := looseName value
    let set ← if name == "generalcategory" || name == "gc" then category? value
      else if name == "script" || name == "sc" then script? value
      else none
    return if negated then set.complement else set

/-- Read the name of a property, in braces or as one letter. -/
def propertyEscape (mode : Mode) (negated : Bool) (cs : List Char) :
    Option (Operand × List Char) := do
  if !mode.unicode then none
  else
    let (name, rest) ← match mode.skip cs with
      | '\x7b' :: rest => untilBrace rest
      | '\\' :: _ => none
      | c :: rest => some ([c], rest)
      | [] => none
    let set ← property? name
    let set := mode.fold set
    return (.set (if negated then set.complement else set), rest)

/-- The set of a class escape such as `\d`; its capital is the complement. -/
def classEscape (mode : Mode) (set ascii : CharSet) (negated : Bool) : Option Operand :=
  if mode.unicode then some (.set (if negated then set.complement else set))
  else if negated then none
  else some (.set ascii)

/-- The named kinds of word boundary. -/
def boundaryKind? (unicode : Bool) (name : String) : Option Place :=
  [("start", Place.wordStart unicode), ("end", .wordEnd unicode),
    ("start-half", .wordStartHalf unicode), ("end-half", .wordEndHalf unicode)].lookup name

/-- Read what may follow `\b` in braces. Braces that start no name are left for a repetition. -/
def boundaryEscape (mode : Mode) (cs : List Char) : Option (Operand × List Char) :=
  let plain := Operand.place (.boundary mode.unicode)
  let isNamed := fun c : Char => c.isAlpha || c == '-'
  match cs with
  | '\x7b' :: rest =>
    match mode.skip rest with
    | [] => none
    | c :: after =>
      if isNamed c then
        let name := (c :: after).takeWhile isNamed
        match (c :: after).dropWhile isNamed with
        | close :: rest =>
          if close == '\x7d' then
            (boundaryKind? mode.unicode (String.ofList name)).map fun place => (.place place, rest)
          else none
        | [] => none
      else some (plain, cs)
  | _ => some (plain, cs)

/-- Read an escape, after its backslash. -/
def escape (mode : Mode) : List Char → Option (Operand × List Char)
  | [] => none
  | c :: rest =>
    let found := fun operand : Option Operand => operand.map fun o => (o, rest)
    let literal := fun c : Char => some (Operand.literal c, rest)
    let digits := CharSet.ofText "30-39"
    let asciiBlanks := CharSet.ofText "9-D 20"
    match c with
    | 'x' => hexEscape mode 2 rest
    | 'u' => hexEscape mode 4 rest
    | 'U' => hexEscape mode 8 rest
    | 'p' => propertyEscape mode false rest
    | 'P' => propertyEscape mode true rest
    | 'd' => found (classEscape mode decimalDigits digits false)
    | 'D' => found (classEscape mode decimalDigits digits true)
    | 's' => found (classEscape mode blanks asciiBlanks false)
    | 'S' => found (classEscape mode blanks asciiBlanks true)
    | 'w' => found (classEscape mode wordCharacters asciiWord false)
    | 'W' => found (classEscape mode wordCharacters asciiWord true)
    | 'a' => literal '\x07'
    | 'f' => literal '\x0c'
    | 't' => literal '\t'
    | 'n' => literal '\n'
    | 'r' => literal '\r'
    | 'v' => literal '\x0b'
    | 'A' => some (.place .textStart, rest)
    | 'z' => some (.place .textEnd, rest)
    | 'b' => boundaryEscape mode rest
    | 'B' => some (.place (.notBoundary mode.unicode), rest)
    | '<' => some (.place (.wordStart mode.unicode), rest)
    | '>' => some (.place (.wordEnd mode.unicode), rest)
    | c => if isEscapable c then literal c else none

/-- The classes named inside brackets. -/
def namedClasses : List (String × String) :=
  [("alnum", "30-39 41-5A 61-7A"), ("alpha", "41-5A 61-7A"), ("ascii", "0-7F"), ("blank", "9 20"),
    ("cntrl", "0-1F 7F"), ("digit", "30-39"), ("graph", "21-7E"), ("lower", "61-7A"),
    ("print", "20-7E"), ("punct", "21-2F 3A-40 5B-60 7B-7E"), ("space", "9-D 20"),
    ("upper", "41-5A"), ("word", "30-39 41-5A 5F 61-7A"), ("xdigit", "30-39 41-46 61-66")]

/-- Read a named class after its opening bracket, if there is one. -/
def namedClass? (mode : Mode) (cs : List Char) : Option (CharSet × List Char) := do
  let rest ← match cs with
    | ':' :: rest => some rest
    | _ => none
  let (negated, rest) := match rest with
    | '^' :: rest => (true, rest)
    | _ => (false, rest)
  let name := rest.takeWhile fun c => c != ':'
  let rest ← match rest.drop name.length with
    | ':' :: ']' :: rest => some rest
    | _ => none
  let ranges ← namedClasses.lookup (String.ofList name)
  let set := mode.fold (.ofText ranges)
  return (if negated then set.complement else set, rest)

/-- The ways to combine two parts of a bracketed class. -/
inductive SetOperation where
  | intersection
  | difference
  | symmetricDifference

/-- Combine two parts of a bracketed class. -/
def SetOperation.apply (a b : CharSet) : SetOperation → CharSet
  | .intersection => a.inter b
  | .difference => a.diff b
  | .symmetricDifference => a.diff b ++ b.diff a

/-- Apply the operation that waits for its right side, if one does. -/
def settle (mode : Mode) (waiting : Option (CharSet × SetOperation)) (set : CharSet) : CharSet :=
  match waiting with
  | none => set
  | some (left, operation) => operation.apply (mode.fold left) (mode.fold set)

/-- Read one item of a bracketed class: a character or an escape. -/
def classItem (mode : Mode) : List Char → Option (Operand × List Char)
  | '\\' :: rest => escape mode rest
  | c :: rest =>
    if !mode.unicode && 0x7f < c.toNat then none else some (.literal c, rest)
  | [] => none

/-- The set of an item that stands alone; places have no place in a class. -/
def Operand.toSet? : Operand → Option CharSet
  | .literal c => some (.single c)
  | .set chars => some chars
  | .place _ => none

/-- Read one item or one range of a bracketed class. -/
def classRange (mode : Mode) (cs : List Char) : Option (CharSet × List Char) := do
  let (first, rest) ← classItem mode cs
  let rest := mode.skip rest
  let alone : Option (CharSet × List Char) := first.toSet?.map (·, rest)
  match rest with
  | [] => none
  | '-' :: after =>
    match mode.skip after with
    | [] => none
    | ']' :: _ => alone
    | '-' :: _ => alone
    | after =>
      let (last, rest) ← classItem mode after
      match first, last with
      | .literal a, .literal b =>
        if a.toNat ≤ b.toNat then some ([(a.toNat, b.toNat)], rest) else none
      | _, _ => none
  | _ => alone

/-- The dashes that open a class stand for themselves. -/
def leadingDashes (mode : Mode) : Nat → CharSet → List Char → CharSet × List Char
  | 0, set, cs => (set, cs)
  | fuel + 1, set, cs =>
    match cs with
    | '-' :: rest => leadingDashes mode fuel (set ++ .single '-') (mode.skip rest)
    | _ => (set, cs)

/-- Read the opening of a bracketed class: whether it is negated, and the literals that open it. -/
def classOpening (mode : Mode) (cs : List Char) : Bool × CharSet × List Char :=
  let cs := mode.skip cs
  let (negated, cs) := match cs with
    | '^' :: rest => (true, mode.skip rest)
    | _ => (false, cs)
  let (set, cs) := leadingDashes mode cs.length [] cs
  match set.isEmpty, cs with
  | true, ']' :: rest => (negated, .single ']', mode.skip rest)
  | _, _ => (negated, set, cs)

/-- Finish a bracketed class. -/
def closeClass (mode : Mode) (negated : Bool) (set : CharSet) : Option CharSet :=
  let set := mode.fold set
  if negated then if mode.unicode then some set.complement else none
  else some set

/-- Read the rest of a bracketed class up to its closing bracket. -/
def classBody (mode : Mode) : Nat → Option (CharSet × SetOperation) → CharSet → List Char →
    Option (CharSet × List Char)
  | 0, _, _, _ => none
  | fuel + 1, waiting, set, cs =>
    let operate := fun operation rest =>
      classBody mode fuel (some (settle mode waiting set, operation)) [] rest
    match mode.skip cs with
    | [] => none
    | ']' :: rest => some (settle mode waiting set, rest)
    | '&' :: '&' :: rest => operate .intersection rest
    | '-' :: '-' :: rest => operate .difference rest
    | '~' :: '~' :: rest => operate .symmetricDifference rest
    | '[' :: rest =>
      match namedClass? mode rest with
      | some (named, rest) => classBody mode fuel waiting (set ++ named) rest
      | none => do
        let (negated, opening, rest) := classOpening mode rest
        let (inner, rest) ← classBody mode fuel none opening rest
        let inner ← closeClass mode negated inner
        classBody mode fuel waiting (set ++ inner) rest
    | cs => do
      let (item, rest) ← classRange mode cs
      classBody mode fuel waiting (set ++ item) rest

/-- Read a bracketed class, after its opening bracket. -/
def bracketed (mode : Mode) (cs : List Char) : Option (Pattern × List Char) := do
  let (negated, opening, rest) := classOpening mode cs
  let (set, rest) ← classBody mode (cs.length + 1) none opening rest
  let set ← closeClass mode negated set
  return (.char set, rest)

/-- Read a decimal number between blanks. -/
def decimal (mode : Mode) (cs : List Char) : Option Nat × List Char :=
  let cs := cs.dropWhile blanks.mem
  let digits := (cs.takeWhile fun c => c.isDigit || (mode.verbose && blanks.mem c))
  let rest := (cs.drop digits.length).dropWhile blanks.mem
  let digits := digits.filter Char.isDigit
  (if digits.isEmpty then none
    else some (digits.foldl (fun n c => 10 * n + (c.toNat - '0'.toNat)) 0), rest)

/-- Forget whether a repetition is greedy. -/
def forgetGreed : List Char → List Char
  | '?' :: rest => rest
  | rest => rest

/-- Read the counts of a repetition, after the opening brace. -/
def counts (mode : Mode) (cs : List Char) : Option (Nat × Option Nat × List Char) := do
  let (least, rest) := decimal mode (mode.skip cs)
  let least ← least
  let (most, rest) ← match rest with
    | ',' :: rest =>
      match mode.skip rest with
      | [] => none
      | rest =>
        if rest.head? == some '\x7d' then some (none, rest)
        else
          let (most, rest) := decimal mode rest
          most.map fun most => (some most, rest)
    | _ => some (some least, rest)
  let rest ← match rest with
    | c :: rest => if c == '\x7d' then some rest else none
    | [] => none
  if least < Nat.pow 2 32 && most.all (fun m => least ≤ m && m < Nat.pow 2 32) then
    some (least, most, forgetGreed (mode.skip rest))
  else none

/-- The flags a letter stands for: their name, and how to set them. -/
def Mode.set (mode : Mode) (on : Bool) : Char → Option Mode
  | 'i' => some { mode with caseless := on }
  | 'm' => some { mode with multiLine := on }
  | 's' => some { mode with dotAll := on }
  | 'R' => some { mode with carriageReturns := on }
  | 'u' => some { mode with unicode := on }
  | 'x' => some { mode with verbose := on }
  | 'U' => some mode
  | _ => none

/-- Read flags up to the colon or parenthesis after them. `on` turns off at a minus sign, which
has to be followed by a flag. -/
def flags : Mode → (seen : List Char) → (on dangling : Bool) → List Char →
    Option (Mode × List Char × Bool)
  | _, _, _, _, [] => none
  | mode, seen, on, dangling, c :: rest =>
    if c == ':' || c == ')' then
      if dangling then none else some (mode, c :: rest, seen.isEmpty && on)
    else if c == '-' then
      if on then flags mode seen false true rest else none
    else if seen.contains c then none
    else
      match mode.set on c with
      | some mode => flags mode (c :: seen) on false rest
      | none => none

/-- Whether a character may stand in the name of a group. -/
def isNameCharacter (first : Bool) (c : Char) : Bool :=
  let letter := c == '_' || c.isAlpha || (127 < c.toNat && wordCharacters.mem c)
  if first then letter && !decimalDigits.mem c
  else letter || c.isDigit || c == '.' || c == '[' || c == ']'

/-- Read the name of a group up to the closing angle bracket. -/
def groupName (names : List String) (cs : List Char) : Option (String × List Char) :=
  let name := cs.takeWhile fun c => c != '>'
  let text := String.ofList name
  match cs.drop name.length, name with
  | _ :: rest, c :: tail =>
    if isNameCharacter true c && tail.all (isNameCharacter false) && !names.contains text
    then some (text, rest) else none
  | _, _ => none

/-- One pattern for the parts of a sequence, given last part first. -/
def ofParts (parts : List (Option Pattern)) : Pattern :=
  match parts.reverse.filterMap id with
  | [part] => part
  | parts => .sequence parts

/-- One pattern for the branches read before and the last one. -/
def ofBranches (before : List Pattern) (last : Pattern) : Pattern :=
  if before.isEmpty then last else .choice (before ++ [last])

/-- What reading a group's contents leaves: the pattern, the names given to groups, the rest. -/
structure Reading where
  pattern : Pattern
  names : List String
  rest : List Char

/-- The pattern for the dot. -/
def dot (mode : Mode) : Option Pattern :=
  let ends := if mode.carriageReturns then CharSet.ofText "A D" else CharSet.ofText "A"
  if !mode.unicode then none
  else some (.char (if mode.dotAll then .all else ends.complement))

/-- Read alternatives up to a closing parenthesis or the end. `parts` holds the current branch,
last part first; flags stand in it as `none` because they cannot be repeated. -/
def alternatives : Nat → Mode → List String → List Pattern → List (Option Pattern) →
    List Char → Option Reading
  | 0, _, _, _, _, _ => none
  | fuel + 1, mode, names, before, parts, cs =>
    let add := fun pattern rest => alternatives fuel mode names before (some pattern :: parts) rest
    let again := fun (least : Nat) (most : Option Nat) (rest : List Char) =>
      match parts with
      | some part :: parts =>
        alternatives fuel mode names before (some (.repeated part least most) :: parts) rest
      | _ => none
    match mode.skip cs with
    | [] => some ⟨ofBranches before (ofParts parts), names, []⟩
    | ')' :: rest => some ⟨ofBranches before (ofParts parts), names, ')' :: rest⟩
    | '|' :: rest => alternatives fuel mode names (before ++ [ofParts parts]) [] rest
    | '*' :: rest => again 0 none (forgetGreed rest)
    | '+' :: rest => again 1 none (forgetGreed rest)
    | '?' :: rest => again 0 (some 1) (forgetGreed rest)
    | '.' :: rest => do add (← dot mode) rest
    | '^' :: rest =>
      add (.place (if mode.multiLine then .lineStart mode.carriageReturns else .textStart)) rest
    | '$' :: rest =>
      add (.place (if mode.multiLine then .lineEnd mode.carriageReturns else .textEnd)) rest
    | '[' :: rest => do
      let (pattern, rest) ← bracketed mode rest
      add pattern rest
    | '\\' :: rest => do
      let (operand, rest) ← escape mode rest
      add (operand.toPattern mode) rest
    | '(' :: rest => do
      let group := fun inside names rest => do
        let inner ← alternatives fuel inside names [] [] rest
        match inner.rest with
        | _ :: rest => alternatives fuel mode inner.names before (some inner.pattern :: parts) rest
        | [] => none
      match mode.skip rest with
      | '?' :: 'P' :: '<' :: rest =>
        let (name, rest) ← groupName names rest
        group mode (name :: names) rest
      | '?' :: '<' :: rest =>
        let (name, rest) ← groupName names rest
        group mode (name :: names) rest
      | '?' :: rest =>
        let (inner, rest, empty) ← flags mode [] true false rest
        match rest with
        | ':' :: rest => group inner names rest
        | _ :: rest =>
          if empty then none else alternatives fuel inner names before (none :: parts) rest
        | [] => none
      | rest => group mode names rest
    | c :: rest =>
      if c == '\x7b' then do
        let (least, most, rest) ← counts mode rest
        again least most rest
      else if mode.caseless && !mode.unicode && 0x7f < c.toNat then none
      else add ((Operand.literal c).toPattern mode) rest

/-- The pattern a text is the written form of. -/
def parse? (text : String) : Option Pattern :=
  let cs := text.toList
  match alternatives (2 * cs.length + 2) {} [] [] [] cs with
  | some ⟨pattern, _, []⟩ => some pattern
  | _ => none

end Stratalog.Pattern
