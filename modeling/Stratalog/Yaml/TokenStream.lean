import Stratalog.Yaml.Token

/-!
# Token streams

A text as a list of tokens. Block collections show by indentation alone, so their beginnings and
ends become tokens of their own. A key shows only by the colon after it: whatever could be a key is
remembered, and once a colon follows on the same line, the tokens that announce the key are put in
front of it.
-/

namespace Stratalog.Yaml

/-- A token that could turn out to be a key. -/
structure KeyCandidate where
  /-- How many tokens stand before it. -/
  position : Nat
  index : Nat
  line : Nat
  column : Nat
  /-- Whether nothing but a key can stand there. -/
  required : Bool
  deriving Repr, Inhabited

/-- The state of reading tokens. -/
structure Scan where
  cursor : Cursor
  tokens : Array Token := #[]
  /-- The columns of the open block collections, innermost first. -/
  columns : List Nat := []
  /-- The candidate of each open flow collection and of the text around them, innermost first. -/
  candidates : List (Option KeyCandidate) := [none]
  /-- Whether a key may begin here. -/
  keyAllowed : Bool := true
  deriving Repr, Inhabited

namespace Scan

/-- Whether a flow collection is open. -/
def inFlow (scan : Scan) : Bool :=
  1 < scan.candidates.length

/-- The first column at which a scalar may go on: one past the innermost block collection. -/
def limit (scan : Scan) : Nat :=
  match scan.columns with
  | [] => 0
  | column :: _ => column + 1

/-- Add a token. -/
def push (scan : Scan) (token : Token) : Scan :=
  { scan with tokens := scan.tokens.push token }

/-- Move past some characters. -/
def skip (scan : Scan) (count : Nat) : Scan :=
  { scan with cursor := scan.cursor.skip count }

/-- Say whether a key may begin next. -/
def allowKey (scan : Scan) (allowed : Bool) : Scan :=
  { scan with keyAllowed := allowed }

/-- Move past blanks, comments and line ends. Behind a line end outside flow collections a key may
begin; where a key may begin there, no tab may stand. -/
def toToken : (fuel : Nat) → Scan → Scan
  | 0, scan => scan
  | fuel + 1, scan =>
    match scan.cursor.head? with
    | none => scan
    | some c =>
      if c = ' ' || c = '\t' && (scan.inFlow || !scan.keyAllowed) ||
          c = '\ufeff' && scan.cursor.column = 0 then
        toToken fuel (scan.skip 1)
      else if c = '#' then
        toToken fuel { scan with cursor := (scan.cursor.takeWhile fun c => !isBreak c).2 }
      else if isBreak c then
        let scan := scan.skip 1
        toToken fuel (if scan.inFlow then scan else scan.allowKey true)
      else scan

/-- Forget a candidate that lies on an earlier line or too far back, unless it is required. -/
def refresh (cursor : Cursor) : Option KeyCandidate → Option (Option KeyCandidate)
  | none => some none
  | some key =>
    if key.line < cursor.line || key.index + 1024 < cursor.index then
      if key.required then none else some none
    else some (some key)

/-- Forget all candidates that have become stale. -/
def dropStale (scan : Scan) : Option Scan := do
  return { scan with candidates := ← scan.candidates.mapM (refresh scan.cursor) }

/-- Forget the innermost candidate; one that is required has to be a key. -/
def dropCandidate (scan : Scan) : Option Scan :=
  match scan.candidates with
  | some key :: rest =>
    if key.required then none else some { scan with candidates := none :: rest }
  | _ => some scan

/-- Remember that the next token could be a key. -/
def offerKey (scan : Scan) : Option Scan :=
  if scan.keyAllowed then do
    let scan ← scan.dropCandidate
    let cursor := scan.cursor
    let key : KeyCandidate := {
      position := scan.tokens.size, index := cursor.index, line := cursor.line
      column := cursor.column
      required := !scan.inFlow && scan.columns.head? = some cursor.column }
    return { scan with candidates := some key :: scan.candidates.tail }
  else some scan

/-- Open a block collection at a column, with its token at a position, unless one is open there
already. -/
def openBlock (scan : Scan) (column position : Nat) (token : Token) : Scan :=
  if !scan.inFlow && scan.columns.all (· < column) then
    { scan with
      columns := column :: scan.columns
      tokens := scan.tokens.insertIdxIfInBounds position token }
  else scan

/-- Close the block collections at columns that fail a test, innermost first. -/
def closeWhile (test : Nat → Bool) (tokens : Array Token) : List Nat → Array Token × List Nat
  | [] => (tokens, [])
  | column :: rest =>
    if test column then closeWhile test (tokens.push .blockEnd) rest else (tokens, column :: rest)

/-- Close block collections, except inside a flow collection. -/
def closeBlocks (scan : Scan) (test : Nat → Bool) : Scan :=
  if scan.inFlow then scan
  else
    let (tokens, columns) := closeWhile test scan.tokens scan.columns
    { scan with tokens, columns }

/-- Begin something that ends every block collection. -/
def toOutermost (scan : Scan) : Option Scan := do
  return (← (scan.closeBlocks fun _ => true).dropCandidate).allowKey false

/-- The begin or the end of a document. -/
def readMarker (scan : Scan) (token : Token) : Option Scan := do
  return ((← scan.toOutermost).skip 3).push token

/-- A line of directives. -/
def readDirectiveLine (scan : Scan) : Option Scan := do
  let scan ← scan.toOutermost
  let (token, cursor) ← readDirective scan.cursor
  return { scan with cursor }.push token

/-- The begin of a flow collection. -/
def openFlow (scan : Scan) (token : Token) : Option Scan := do
  let scan ← scan.offerKey
  return (({ scan with candidates := none :: scan.candidates }.allowKey true).skip 1).push token

/-- The end of a flow collection. -/
def closeFlow (scan : Scan) (token : Token) : Option Scan := do
  let scan ← scan.dropCandidate
  let candidates := if scan.inFlow then scan.candidates.tail else scan.candidates
  return (({ scan with candidates }.allowKey false).skip 1).push token

/-- A comma between items of a flow collection. -/
def readComma (scan : Scan) : Option Scan := do
  return (((← scan.dropCandidate).allowKey true).skip 1).push .comma

/-- Open a block collection here, where one may begin. -/
def openHere (scan : Scan) (token : Token) : Option Scan :=
  if scan.inFlow then some scan
  else if scan.keyAllowed then
    some (scan.openBlock scan.cursor.column scan.tokens.size token)
  else none

/-- The dash of an item. -/
def readDash (scan : Scan) : Option Scan := do
  let scan ← (← scan.openHere .blockSequence).dropCandidate
  return ((scan.allowKey true).skip 1).push .dash

/-- The mark of a key. -/
def readKey (scan : Scan) : Option Scan := do
  let scan ← (← scan.openHere .blockMapping).dropCandidate
  return ((scan.allowKey !scan.inFlow).skip 1).push .key

/-- The colon behind a key, which announces the key if it was not marked. -/
def readValue (scan : Scan) : Option Scan := do
  let scan ←
    match scan.candidates with
    | some key :: rest =>
      let scan := { scan with
        candidates := none :: rest
        tokens := scan.tokens.insertIdxIfInBounds key.position .key }
      some ((scan.openBlock key.column key.position .blockMapping).allowKey false)
    | _ => do
      let scan ← scan.openHere .blockMapping
      some (scan.allowKey !scan.inFlow)
  return (scan.skip 1).push .value

/-- A token that could be a key, read from the place it begins at. -/
def readCandidate (scan : Scan) (read : Cursor → Option (Token × Cursor)) : Option Scan := do
  let scan ← scan.offerKey
  let (token, cursor) ← read scan.cursor
  return ({ scan with cursor }.allowKey false).push token

/-- A quoted scalar. -/
def readQuotedScalar (scan : Scan) (style : ScalarStyle) : Option Scan :=
  scan.readCandidate fun cursor =>
    (readQuoted (style = .single) (cursor.rest.length + 1) cursor.next).map fun (text, cursor) =>
      (.scalar style (String.ofList text), cursor)

/-- A block scalar. -/
def readBlockScalar (scan : Scan) (style : ScalarStyle) : Option Scan := do
  let scan ← scan.dropCandidate
  let (text, cursor) ← readBlock (style = .literal) scan.columns.head? scan.cursor.next
  return ({ scan with cursor }.allowKey true).push (.scalar style (String.ofList text))

/-- A plain scalar; a key may begin behind one that a line end follows. -/
def readPlainScalar (scan : Scan) : Option Scan := do
  let scan ← scan.offerKey
  let (text, broken, cursor) ←
    readPlain scan.inFlow scan.limit (scan.cursor.rest.length + 1) scan.cursor {}
  return ({ scan with cursor }.allowKey broken).push (.scalar .plain (String.ofList text))

/-- Whether a plain scalar may begin here. -/
def atPlain (scan : Scan) (c : Char) : Bool :=
  let indicator := ['-', '?', ':', ',', '[', ']', '\x7b', '\x7d', '#', '&', '*', '!', '|', '>',
    '\'', '"', '%', '@', '\x60'].contains c
  let blankNext := (scan.cursor.peek? 1).any isBlank
  !(endsWord (some c) || indicator) || c = '-' && !blankNext ||
    !scan.inFlow && (c = '?' || c = ':') && !scan.cursor.endsWordAt 1

/-- Read the token that begins with a character. -/
def readToken (scan : Scan) (c : Char) : Option Scan :=
  let cursor := scan.cursor
  if cursor.column = 0 && c = '%' then scan.readDirectiveLine
  else if cursor.atMarker '-' then scan.readMarker .documentStart
  else if cursor.atMarker '.' then scan.readMarker .documentEnd
  else if c = '[' then scan.openFlow .flowSequence
  else if c = '\x7b' then scan.openFlow .flowMapping
  else if c = ']' then scan.closeFlow .flowSequenceEnd
  else if c = '\x7d' then scan.closeFlow .flowMappingEnd
  else if c = ',' then scan.readComma
  else if c = '-' && cursor.endsWordAt 1 then scan.readDash
  else if c = '?' && (scan.inFlow || cursor.endsWordAt 1) then scan.readKey
  else if c = ':' && (scan.inFlow || cursor.endsWordAt 1) then scan.readValue
  else if c = '*' then
    scan.readCandidate fun cursor =>
      (readName cursor.next).map fun (name, cursor) => (.alias name, cursor)
  else if c = '&' then
    scan.readCandidate fun cursor =>
      (readName cursor.next).map fun (name, cursor) => (.anchor name, cursor)
  else if c = '!' then scan.readCandidate (readTag scan.inFlow)
  else if c = '|' && !scan.inFlow then scan.readBlockScalar .literal
  else if c = '>' && !scan.inFlow then scan.readBlockScalar .folded
  else if c = '\'' then scan.readQuotedScalar .single
  else if c = '"' then scan.readQuotedScalar .double
  else if scan.atPlain c then scan.readPlainScalar
  else none

/-- Read the remaining tokens. -/
def readAll : (fuel : Nat) → Scan → Option (Array Token)
  | 0, _ => none
  | fuel + 1, scan => do
    let scan ← (toToken scan.cursor.rest.length scan).dropStale
    match scan.cursor.head? with
    | none => return (← scan.toOutermost).tokens
    | some c => readAll fuel (← (scan.closeBlocks (scan.cursor.column < ·)).readToken c)

end Scan

/-- Whether a character may stand in a text at all. -/
def isAdmitted (c : Char) : Bool :=
  let n := c.toNat
  n = 0x9 || n = 0xA || n = 0xD || 0x20 ≤ n && n ≤ 0x7E || n = 0x85 ||
    0xA0 ≤ n && n ≤ 0xFFFD || 0x10000 ≤ n

/-- Every end of a line as the same character, except where a line or a paragraph separator ends
it. -/
def unifyBreaks : List Char → List Char
  | [] => []
  | '\r' :: '\n' :: rest => '\n' :: unifyBreaks rest
  | c :: rest => (if c = '\r' || c = '\x85' then '\n' else c) :: unifyBreaks rest

/-- The tokens of a text. -/
def tokens? (text : String) : Option (List Token) :=
  let cs := text.toList
  let cs := if cs.head? = some '\ufeff' then cs.drop 1 else cs
  if cs.all isAdmitted then
    let rest := unifyBreaks cs
    (Scan.readAll (rest.length + 1) { cursor := { rest } }).map Array.toList
  else none

end Stratalog.Yaml
