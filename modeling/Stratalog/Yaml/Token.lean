import Stratalog.Yaml.Scalar

/-!
# YAML tokens

The tokens of a YAML text, and how each of them is read from the place it begins at: scalars in
every style, names, tags and directives. Line ends inside a scalar are folded: a single one counts
as a blank, and of several the first is dropped.
-/

namespace Stratalog.Yaml

/-- A token. -/
inductive Token where
  | version (major minor : Nat)
  | handle (name expansion : String)
  | documentStart
  | documentEnd
  | blockSequence
  | blockMapping
  | blockEnd
  | flowSequence
  | flowSequenceEnd
  | flowMapping
  | flowMappingEnd
  | dash
  | comma
  | key
  | value
  | alias (name : String)
  | anchor (name : String)
  | tag (handle suffix : String)
  | scalar (style : ScalarStyle) (text : String)
  deriving DecidableEq, Repr, Inhabited

/-- A place in a text. -/
structure Cursor where
  rest : List Char
  index : Nat := 0
  line : Nat := 0
  column : Nat := 0
  deriving Repr, Inhabited

namespace Cursor

/-- Move past one character. -/
def next (cursor : Cursor) : Cursor :=
  match cursor.rest with
  | [] => cursor
  | c :: rest =>
    if isBreak c then
      { rest, index := cursor.index + 1, line := cursor.line + 1, column := 0 }
    else { cursor with rest, index := cursor.index + 1, column := cursor.column + 1 }

/-- Move past several characters. -/
def skip : (count : Nat) → Cursor → Cursor
  | 0, cursor => cursor
  | count + 1, cursor => skip count cursor.next

/-- The character some places ahead. -/
def peek? (cursor : Cursor) (ahead : Nat) : Option Char :=
  cursor.rest[ahead]?

/-- The next character. -/
def head? (cursor : Cursor) : Option Char :=
  cursor.rest.head?

/-- Whether a word ends some places ahead. -/
def endsWordAt (cursor : Cursor) (ahead : Nat) : Bool :=
  endsWord (cursor.peek? ahead)

/-- Whether the text goes on with three of a character that stand alone at the begin of a line. -/
def atMarker (cursor : Cursor) (mark : Char) : Bool :=
  cursor.column = 0 && [mark, mark, mark].isPrefixOf cursor.rest && cursor.endsWordAt 3

/-- Whether a document begins or ends here. -/
def atDocumentMarker (cursor : Cursor) : Bool :=
  cursor.atMarker '-' || cursor.atMarker '.'

/-- The characters up to the first that fails a test, and the place after them. -/
def takeWhile (cursor : Cursor) (test : Char → Bool) : List Char × Cursor :=
  let taken := cursor.rest.takeWhile test
  (taken, cursor.skip taken.length)

end Cursor

/-- Blanks and line ends between two parts of a scalar. -/
structure Fold where
  blanks : List Char := []
  /-- Whether a line ended. -/
  broken : Bool := false
  /-- How the first line ended, unless it was continued. -/
  first : Option Char := none
  /-- How the lines after it ended. -/
  others : List Char := []
  deriving Repr, Inhabited

/-- What blanks and line ends come to between two parts of a scalar: a single line end is a blank,
of several the first counts for nothing. -/
def Fold.text (fold : Fold) : List Char :=
  if fold.broken then
    match fold.first with
    | some '\n' => if fold.others.isEmpty then [' '] else fold.others
    | first => first.toList ++ fold.others
  else fold.blanks

/-- Read blanks and line ends. After a line end no tab may stand left of column `limit`. -/
def readFold (limit : Nat) : (fuel : Nat) → Cursor → Fold → Option (Cursor × Fold)
  | 0, cursor, fold => some (cursor, fold)
  | fuel + 1, cursor, fold =>
    match cursor.head? with
    | none => some (cursor, fold)
    | some c =>
      if isBreak c then
        readFold limit fuel cursor.next
          (if fold.broken then { fold with others := fold.others ++ [c] }
           else { fold with blanks := [], broken := true, first := some c })
      else if isBlank c then
        if fold.broken then
          if c = '\t' ∧ cursor.column < limit then none else readFold limit fuel cursor.next fold
        else readFold limit fuel cursor.next { fold with blanks := fold.blanks ++ [c] }
      else some (cursor, fold)

/-- Whether a plain scalar goes on with a character, given the one after it. -/
def plainGoesOn (inFlow : Bool) (c : Char) (after : Option Char) : Bool :=
  !endsWord (some c) && !(c = ':' && endsWord after) &&
    !(inFlow && (c = ',' || c = '[' || c = ']' || c = '\x7b' || c = '\x7d'))

/-- Whether a colon inside a plain scalar is followed by what may not follow it there. -/
def isStrayColon (inFlow : Bool) (c : Char) (after : Option Char) : Bool :=
  inFlow && c = ':' &&
    after.any fun a => [',', '?', '[', ']', '\x7b', '\x7d'].contains a

/-- The characters of a plain scalar up to the next blank. -/
def readPlainWord (inFlow : Bool) : (fuel : Nat) → Cursor → Option (List Char × Cursor)
  | 0, cursor => some ([], cursor)
  | fuel + 1, cursor =>
    match cursor.head? with
    | none => some ([], cursor)
    | some c =>
      if isStrayColon inFlow c (cursor.peek? 1) then none
      else if plainGoesOn inFlow c (cursor.peek? 1) then
        (readPlainWord inFlow fuel cursor.next).map fun (word, cursor) => (c :: word, cursor)
      else some ([], cursor)

/-- The rest of a plain scalar behind blanks and line ends, whether a line end stands before the
place it ends at, and that place. -/
def readPlain (inFlow : Bool) (limit : Nat) :
    (fuel : Nat) → Cursor → Fold → Option (List Char × Bool × Cursor)
  | 0, cursor, fold => some ([], fold.broken, cursor)
  | fuel + 1, cursor, fold => do
    if cursor.atDocumentMarker || cursor.head? = some '#' then some ([], fold.broken, cursor)
    else
      let (word, after) ← readPlainWord inFlow cursor.rest.length cursor
      let start := if word.isEmpty then [] else fold.text ++ word
      if !after.head?.any fun c => isBlank c || isBreak c then
        some (start, word.isEmpty && fold.broken, after)
      else
        let fold := if word.isEmpty then fold else {}
        let (after, fold) ← readFold limit after.rest.length after fold
        if !inFlow && after.column < limit then some (start, fold.broken, after)
        else
          let (text, broken, after) ← readPlain inFlow limit fuel after fold
          some (start ++ text, broken, after)

/-- The character a letter stands for after a backslash. -/
def escapes : List (Char × Char) :=
  [('0', '\x00'), ('a', '\x07'), ('b', '\x08'), ('t', '\t'), ('\t', '\t'), ('n', '\n'),
    ('v', '\x0b'), ('f', '\x0c'), ('r', '\r'), ('e', '\x1b'), (' ', ' '), ('"', '"'), ('/', '/'),
    ('\\', '\\'), ('N', '\x85'), ('_', '\xa0'), ('L', '\u2028'), ('P', '\u2029')]

/-- The character of a code point. -/
def charOf? (code : Nat) : Option Char :=
  if h : code.isValidChar then some (Char.ofNatAux code h) else none

/-- The character that hexadecimal digits of a fixed count stand for. -/
def codeEscape? (count : Nat) (cursor : Cursor) : Option (Char × Cursor) := do
  let digits := cursor.rest.take count
  let code ← digits? 16 digits
  if digits.length = count then return (← charOf? code, cursor.skip count) else none

/-- The character that an escape behind a backslash stands for. -/
def readEscape (cursor : Cursor) : Option (Char × Cursor) :=
  match cursor.head? with
  | none => none
  | some 'x' => codeEscape? 2 cursor.next
  | some 'u' => codeEscape? 4 cursor.next
  | some 'U' => codeEscape? 8 cursor.next
  | some c => (escapes.lookup c).map fun found => (found, cursor.next)

/-- The characters of a quoted scalar up to the next blank or to its end, and whether a backslash
ends the line there. -/
def readQuotedWord (single : Bool) : (fuel : Nat) → Cursor → Option (List Char × Bool × Cursor)
  | 0, cursor => some ([], false, cursor)
  | fuel + 1, cursor =>
    let goOn := fun (c : Char) (cursor : Cursor) =>
      (readQuotedWord single fuel cursor).map fun (word, continued, cursor) =>
        (c :: word, continued, cursor)
    match cursor.head? with
    | none => some ([], false, cursor)
    | some c =>
      if endsWord (some c) then some ([], false, cursor)
      else if single then
        if c = '\'' then
          if cursor.peek? 1 = some '\'' then goOn '\'' (cursor.skip 2)
          else some ([], false, cursor)
        else goOn c cursor.next
      else if c = '"' then some ([], false, cursor)
      else if c = '\\' then
        if (cursor.peek? 1).any isBreak then some ([], true, cursor.skip 2)
        else
          match readEscape cursor.next with
          | some (found, cursor) => goOn found cursor
          | none => none
      else goOn c cursor.next

/-- The rest of a quoted scalar, and the place after its closing quote. -/
def readQuoted (single : Bool) : (fuel : Nat) → Cursor → Option (List Char × Cursor)
  | 0, _ => none
  | fuel + 1, cursor => do
    if cursor.atDocumentMarker then none
    else
      let (word, continued, after) ← readQuotedWord single cursor.rest.length cursor
      if after.head? = some (if single then '\'' else '"') then
        some (word, after.next)
      else
        match after.head? with
        | none => none
        | some c =>
          if !continued && !(isBlank c || isBreak c) then none
          else
            let (after, fold) ← readFold 0 after.rest.length after { broken := continued }
            let (text, after) ← readQuoted single fuel after
            some (word ++ fold.text ++ text, after)

/-- How the line ends after a block scalar are treated. -/
inductive Chomping where
  | strip
  | clip
  | keep
  deriving DecidableEq, Repr

/-- A sign that says how the last line ends are treated. -/
def readChomping (cursor : Cursor) : Option (Chomping × Cursor) :=
  match cursor.head? with
  | some '+' => some (.keep, cursor.next)
  | some '-' => some (.strip, cursor.next)
  | _ => none

/-- A digit that says how far the lines of a block scalar are indented; zero is refused. -/
def readIncrement (cursor : Cursor) : Option (Nat × Cursor) :=
  match cursor.head? with
  | some c =>
    if c.isDigit then
      if c = '0' then none else some (c.toNat - '0'.toNat, cursor.next)
    else some (0, cursor)
  | none => some (0, cursor)

/-- The hints behind the mark of a block scalar, in either order. -/
def readHints (cursor : Cursor) : Option (Chomping × Nat × Cursor) :=
  match readChomping cursor with
  | some (chomping, cursor) => do
    let (increment, cursor) ← readIncrement cursor
    return (chomping, increment, cursor)
  | none => do
    let (increment, after) ← readIncrement cursor
    match if increment = 0 then none else readChomping after with
    | some (chomping, after) => return (chomping, increment, after)
    | none => return (.clip, increment, after)

/-- Move past blanks and a comment to the end of the line; nothing else may stand there. -/
def toLineEnd (cursor : Cursor) : Option Cursor :=
  let (_, cursor) := cursor.takeWhile isBlank
  let cursor :=
    if cursor.head? = some '#' then (cursor.takeWhile fun c => !isBreak c).2 else cursor
  match cursor.head? with
  | none => some cursor
  | some c => if isBreak c then some cursor.next else none

/-- Read the empty lines and the indentation before a line of a block scalar: the line ends, the
widest indentation met, and the place of the line. `indent` is zero while it is not yet known. -/
def readIndentation (indent : Nat) :
    (fuel widest : Nat) → Cursor → Option (List Char × Nat × Cursor)
  | 0, widest, cursor => some ([], widest, cursor)
  | fuel + 1, widest, cursor =>
    let room := if indent = 0 then cursor.rest.length else indent - cursor.column
    let blanks := (cursor.rest.take room).takeWhile (· = ' ')
    let cursor := cursor.skip blanks.length
    let widest := max widest cursor.column
    match cursor.head? with
    | none => some ([], widest, cursor)
    | some c =>
      if c = '\t' ∧ (indent = 0 ∨ cursor.column < indent) then none
      else if isBreak c then
        (readIndentation indent fuel widest cursor.next).map fun (breaks, widest, cursor) =>
          (c :: breaks, widest, cursor)
      else some ([], widest, cursor)

/-- The lines of a block scalar from the place of a line on. `lead` is the end of the line before,
`breaks` are the empty lines after it, and `spaced` says whether that line began with a blank.
The result is the text so far, the last line end, and the empty lines at the end. -/
def readBlockLines (literal : Bool) (indent : Nat) :
    (fuel : Nat) → Cursor → (lead breaks : List Char) → (spaced : Bool) →
      Option (List Char × List Char × List Char × Cursor)
  | 0, cursor, lead, breaks, _ => some ([], lead, breaks, cursor)
  | fuel + 1, cursor, lead, breaks, spaced => do
    if cursor.column = indent && !cursor.rest.isEmpty then
      let blank := cursor.head?.any isBlank
      let join :=
        if !literal && lead = ['\n'] && !spaced && !blank then
          if breaks.isEmpty then [' '] else []
        else lead
      let (line, after) := cursor.takeWhile fun c => !isBreak c
      let lead := after.head?.toList
      let (next, _, after) ← readIndentation indent after.rest.length 0 after.next
      let (text, lead, last, after) ← readBlockLines literal indent fuel after lead next blank
      some (join ++ breaks ++ line ++ text, lead, last, after)
    else some ([], lead, breaks, cursor)

/-- A block scalar behind its mark, inside a collection at column `outer`, or none. -/
def readBlock (literal : Bool) (outer : Option Nat) (cursor : Cursor) :
    Option (List Char × Cursor) := do
  let (chomping, increment, cursor) ← readHints cursor
  let cursor ← toLineEnd cursor
  let given := if increment = 0 then 0 else outer.getD 0 + increment
  let (breaks, widest, cursor) ← readIndentation given (cursor.rest.length + 1) 0 cursor
  let least := match outer with
    | some column => max (column + 1) 1
    | none => 1
  let indent := if given = 0 then max widest least else given
  let (text, lead, last, cursor) ←
    readBlockLines literal indent (cursor.rest.length + 1) cursor [] breaks false
  let ending := match chomping with
    | .strip => []
    | .clip => lead
    | .keep => lead ++ last
  return (text ++ ending, cursor)

/-- Whether a character may stand in a name. -/
def isNameChar (c : Char) : Bool :=
  c.isAlphanum || c = '_' || c = '-'

/-- The name behind the mark of an anchor or an alias. -/
def readName (cursor : Cursor) : Option (String × Cursor) :=
  let (name, after) := cursor.takeWhile isNameChar
  let ends := after.endsWordAt 0 ||
    after.head?.any fun c => ['?', ':', ',', ']', '\x7d', '%', '@', '\x60'].contains c
  if name.isEmpty || !ends then none else some (String.ofList name, after)

/-- Whether a character may stand in a tag; some may only inside angle brackets. -/
def isTagChar (bracketed : Bool) (c : Char) : Bool :=
  isNameChar c ||
    [';', '/', '?', ':', '@', '&', '=', '+', '$', '.', '%', '!', '~', '*', '\'', '(', ')'].contains c ||
    bracketed && [',', '[', ']'].contains c

/-- A tag: the name of its handle, and its rest. A tag without a handle stands for itself. -/
def readTag (inFlow : Bool) (cursor : Cursor) : Option (Token × Cursor) := do
  let (token, after) ←
    if cursor.peek? 1 = some '<' then
      let (suffix, after) := (cursor.skip 2).takeWhile (isTagChar true)
      if suffix.isEmpty || after.head? != some '>' then none
      else some (Token.tag "" (String.ofList suffix), after.next)
    else
      let (name, after) := cursor.next.takeWhile isNameChar
      if after.head? = some '!' then
        let (suffix, after) := after.next.takeWhile (isTagChar false)
        if suffix.isEmpty then none
        else some (.tag (String.ofList ('!' :: name ++ ['!'])) (String.ofList suffix), after)
      else
        let (more, after) := after.takeWhile (isTagChar false)
        if (name ++ more).isEmpty then some (.tag "" "!", after)
        else some (.tag "!" (String.ofList (name ++ more)), after)
  if after.endsWordAt 0 || inFlow && after.head? = some ',' then some (token, after) else none

/-- The handle of a tag directive. -/
def readHandle (cursor : Cursor) : Option (String × Cursor) :=
  if cursor.head? = some '!' then
    let (name, after) := cursor.next.takeWhile isNameChar
    if after.head? = some '!' then some (String.ofList ('!' :: name ++ ['!']), after.next)
    else if name.isEmpty then some ("!", after)
    else none
  else none

/-- A number of a version directive. -/
def readNumber (cursor : Cursor) : Option (Nat × Cursor) :=
  let (digits, after) := cursor.takeWhile Char.isDigit
  if digits.length ≤ 9 then (digits? 10 digits).map (·, after) else none

/-- A directive line. -/
def readDirective (cursor : Cursor) : Option (Token × Cursor) := do
  let (name, after) := cursor.next.takeWhile isNameChar
  if name.isEmpty || !after.endsWordAt 0 then none
  else
    let (_, after) := after.takeWhile isBlank
    let (token, after) ←
      if name = ['Y', 'A', 'M', 'L'] then
        let (major, after) ← readNumber after
        if after.head? != some '.' then none
        else
          let (minor, after) ← readNumber after.next
          some (Token.version major minor, after)
      else if name = ['T', 'A', 'G'] then
        let (handle, after) ← readHandle after
        if !after.head?.any isBlank then none
        else
          let (expansion, after) := (after.takeWhile isBlank).2.takeWhile (isTagChar true)
          if expansion.isEmpty || !after.endsWordAt 0 then none
          else some (.handle handle (String.ofList expansion), after)
      else none
    return (token, ← toLineEnd after)

end Stratalog.Yaml
