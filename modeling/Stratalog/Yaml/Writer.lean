import Stratalog.Document.Basic
import Stratalog.Yaml.Scalar

/-!
# Writing YAML

Lists and records are written in block style, two blanks per level; a list inside a record is not
indented, and an empty one is a pair of brackets. A choice is a tag before its content.

A text stands plain where it can. One that would be taken for something else is set in single
quotes, one with several lines as a literal block, and one that holds what no other style can
show in double quotes.
-/

namespace Stratalog.Yaml

/-- Whether a character may stand as it is. -/
def isPrintable (c : Char) : Bool :=
  let n := c.toNat
  c = '\n' || 0x20 ≤ n && n ≤ 0x7E || 0xA0 ≤ n && n ≠ 0xFEFF && n ≠ 0xFFFE && n ≠ 0xFFFF

/-- Whether some character is followed by another, both of given kinds. -/
def hasPair (first second : Char → Bool) : List Char → Bool
  | a :: b :: rest => first a && second b || hasPair first second (b :: rest)
  | _ => false

/-- Whether a blank stands before a line end. -/
def hasBlankBeforeBreak (cs : List Char) : Bool :=
  hasPair (· = ' ') isBreak cs

/-- Whether a text can stand in single quotes. -/
def canBeSingle (cs : List Char) : Bool :=
  cs.all isPrintable && !hasBlankBeforeBreak cs && !hasPair isBreak (· = ' ') cs

/-- Whether a text can stand as a literal block. -/
def canBeLiteral (cs : List Char) : Bool :=
  cs.all isPrintable && !hasBlankBeforeBreak cs && cs.getLast? != some ' '

/-- Whether, after `before`, a colon ends a word or a number sign begins one. -/
def hasMark (before : Char) : List Char → Bool
  | [] => false
  | c :: rest =>
    c = ':' && endsWord rest.head? || c = '#' && endsWord (some before) || hasMark c rest

/-- The characters that no plain text begins with. -/
def indicators : List Char :=
  ['#', ',', '[', ']', '\x7b', '\x7d', '&', '*', '!', '|', '>', '\'', '"', '%', '@', '\x60']

/-- Whether a text begins or reads like a part of the notation. -/
def looksStructural : List Char → Bool
  | [] => false
  | c :: rest =>
    ['-', '-', '-'].isPrefixOf (c :: rest) || ['.', '.', '.'].isPrefixOf (c :: rest) ||
      indicators.contains c || (c = '?' || c = ':' || c = '-') && endsWord rest.head? ||
      hasMark c rest

/-- Whether a text can stand plain. -/
def canBePlain (cs : List Char) : Bool :=
  cs.all (fun c => isPrintable c && !isBreak c) && cs.head? != some ' ' &&
    cs.getLast? != some ' ' && !looksStructural cs

/-- The style a text is written in. -/
def styleOf (text : String) : ScalarStyle :=
  let cs := text.toList
  if cs.contains '\n' then if canBeLiteral cs then .literal else .double
  else if !isAmbiguous text && canBePlain cs then .plain
  else if canBeSingle cs then .single
  else .double

/-- Blanks. -/
def pad (n : Nat) : List Char :=
  List.replicate n ' '

/-- A text inside single quotes; a line begins with `indent` blanks. -/
def writeSingle (indent : Nat) (fresh : Bool) : List Char → List Char
  | [] => if fresh then pad indent else []
  | c :: rest =>
    if isBreak c then c :: writeSingle indent true rest
    else (if fresh then pad indent else []) ++ (if c = '\'' then ['\'', c] else [c]) ++
      writeSingle indent false rest

/-- A hexadecimal digit in upper case. -/
def upperHexDigit (n : Nat) : Char :=
  (Nat.digitChar n).toUpper

/-- The last `count` hexadecimal digits of a number. -/
def hexDigits : (count : Nat) → Nat → List Char
  | 0, _ => []
  | count + 1, n => hexDigits count (n / 16) ++ [upperHexDigit (n % 16)]

/-- The characters with an escape of their own. -/
def namedEscapes : List (Char × Char) :=
  [('\x00', '0'), ('\x07', 'a'), ('\x08', 'b'), ('\t', 't'), ('\n', 'n'), ('\x0b', 'v'),
    ('\x0c', 'f'), ('\r', 'r'), ('\x1b', 'e'), ('"', '"'), ('\\', '\\'), ('\x85', 'N'),
    ('\u2028', 'L'), ('\u2029', 'P')]

/-- A character inside double quotes. -/
def escapeChar (c : Char) : List Char :=
  match namedEscapes.lookup c with
  | some name => ['\\', name]
  | none =>
    if isPrintable c then [c]
    else if c.toNat ≤ 0xFF then '\\' :: 'x' :: hexDigits 2 c.toNat
    else '\\' :: 'u' :: hexDigits 4 c.toNat

/-- The lines of a literal block, each behind `indent` blanks unless it is empty. -/
def writeLiteral (indent : Nat) (fresh : Bool) : List Char → List Char
  | [] => if fresh then [] else ['\n']
  | c :: rest =>
    if isBreak c then c :: writeLiteral indent true rest
    else (if fresh then pad indent else []) ++ c :: writeLiteral indent false rest

/-- Whether the line ends at the end of a literal block are all kept: there is more than one, or
nothing before it. -/
def keepsEnd (cs : List Char) : Bool :=
  match cs.reverse with
  | [c] => isBreak c
  | c :: d :: _ => isBreak c && isBreak d
  | [] => false

/-- What the head of a literal block says of its first and its last line. -/
def literalHints (cs : List Char) : List Char :=
  (if cs.head?.any fun c => c = ' ' || isBreak c then ['2'] else []) ++
    (if !cs.getLast?.any isBreak then ['-'] else if keepsEnd cs then ['+'] else [])

/-- A text as a scalar, with the end of its line; further lines begin with `indent` blanks. -/
def scalarText (indent : Nat) (text : String) : List Char :=
  let cs := text.toList
  match styleOf text with
  | .literal | .folded => '|' :: literalHints cs ++ '\n' :: writeLiteral indent true cs
  | .double => '"' :: cs.flatMap escapeChar ++ ['"', '\n']
  | .single => '\'' :: writeSingle indent false cs ++ ['\'', '\n']
  | .plain => cs ++ ['\n']

/-- A document that is no collection and no choice. -/
def atomText (indent : Nat) : Document → List Char
  | .flag true => ['t', 'r', 'u', 'e', '\n']
  | .flag false => ['f', 'a', 'l', 's', 'e', '\n']
  | .number n => (toString n).toList ++ ['\n']
  | .text value => scalarText indent value
  | _ => ['n', 'u', 'l', 'l', '\n']

/-- What a document stands behind: nothing, the dash of an item, or the colon of a field. -/
inductive Place where
  | root
  | item
  | field
  deriving DecidableEq, Repr

/-- What stands between the place of a document and a collection of its own indentation; behind a
tag a collection begins on a new line. -/
def opening (place : Place) (tagged : Bool) (indent : Nat) : List Char :=
  match place, tagged with
  | .root, false => []
  | .item, false => [' ']
  | _, _ => '\n' :: pad indent

/-- The blank before a scalar or a tag. -/
def gap (place : Place) (tagged : Bool) : List Char :=
  if place = .root && !tagged then [] else [' ']

/-- The indentation of a collection at a place. -/
def inner (place : Place) (indent : Nat) : Nat :=
  if place = .root then indent else indent + 2

mutual

/-- What follows the dash or the colon of a document in a collection indented by `indent`. -/
def write (place : Place) (tagged : Bool) (indent : Nat) : Document → List Char
  | .list [] => gap place tagged ++ ['[', ']', '\n']
  | .list (item :: items) =>
    let indent := if place = .field then indent else inner place indent
    opening place tagged indent ++ '-' :: write .item false indent item ++ writeItems indent items
  | .record [] => gap place tagged ++ ['\x7b', '\x7d', '\n']
  | .record ((name, content) :: fields) =>
    let indent := inner place indent
    opening place tagged indent ++ name.toList ++ ':' :: write .field false indent content ++
      writeFields indent fields
  | .choice name content =>
    gap place tagged ++ '!' :: name.toList ++ write place true indent content
  | document => gap place tagged ++ atomText (indent + 2) document

/-- Items, each on a line of its own. -/
def writeItems (indent : Nat) : List Document → List Char
  | [] => []
  | item :: items =>
    pad indent ++ '-' :: write .item false indent item ++ writeItems indent items

/-- Fields, each on a line of its own; their names are plain words. -/
def writeFields (indent : Nat) : List (String × Document) → List Char
  | [] => []
  | (name, content) :: fields =>
    pad indent ++ name.toList ++ ':' :: write .field false indent content ++
      writeFields indent fields

end

mutual

/-- The texts of a document in order. -/
def texts : Document → List String
  | .text value => [value]
  | .list items => textsOfItems items
  | .record fields => textsOfFields fields
  | .choice _ content => texts content
  | _ => []

/-- The texts of items in order. -/
def textsOfItems : List Document → List String
  | [] => []
  | item :: items => texts item ++ textsOfItems items

/-- The texts of fields in order. -/
def textsOfFields : List (String × Document) → List String
  | [] => []
  | (_, content) :: fields => texts content ++ textsOfFields fields

end

/-- Whether the last literal block of a document keeps all its line ends, so that the end of the
document has to be marked. -/
def endsOpen (document : Document) : Bool :=
  (((texts document).filter fun text => styleOf text = .literal).getLast?).any fun text =>
    keepsEnd text.toList

end Yaml

/-- A document as YAML. -/
def Document.toYaml (document : Document) : String :=
  String.ofList (Yaml.write .root false 0 document ++
    if Yaml.endsOpen document then ['.', '.', '.', '\n'] else [])

end Stratalog
