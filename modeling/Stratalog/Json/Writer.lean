import Std.Data.TreeMap.Lemmas
import Stratalog.Json.Basic

/-!
# Writing JSON

Two layouts: a compact one without blanks, and an indented one with a field or an item per line.
Both escape quotes, backslashes and control characters, and nothing else.

The writers put the text of a value in front of the text that follows it.
-/

namespace Stratalog.Json

/-- A hexadecimal digit in lower case. -/
def hexDigit (n : Nat) : Char :=
  Nat.digitChar n

/-- A character inside a quoted text. -/
def escapeChar (c : Char) : List Char :=
  if c = '"' then ['\\', '"']
  else if c = '\\' then ['\\', '\\']
  else if c = '\n' then ['\\', 'n']
  else if c = '\r' then ['\\', 'r']
  else if c = '\t' then ['\\', 't']
  else if c = '\x08' then ['\\', 'b']
  else if c = '\x0c' then ['\\', 'f']
  else if c.toNat < 0x20 then
    ['\\', 'u', '0', '0', hexDigit (c.toNat / 16), hexDigit (c.toNat % 16)]
  else [c]

/-- The characters of a text, escaped, in front of `rest`. -/
def writeChars (rest : List Char) : List Char → List Char
  | [] => rest
  | c :: cs => escapeChar c ++ writeChars rest cs

/-- A quoted text in front of `rest`. -/
def writeString (text : String) (rest : List Char) : List Char :=
  '"' :: writeChars ('"' :: rest) text.toList

/-- The text of a number. -/
def numberText : Number → String
  | .natural n => toString n.toNat
  | .negative n => toString n.toInt
  | .real x => x.text

/-- A value that is no array and no object, in front of `rest`. -/
def writeScalar (rest : List Char) : Json → List Char
  | .bool true => 't' :: 'r' :: 'u' :: 'e' :: rest
  | .bool false => 'f' :: 'a' :: 'l' :: 's' :: 'e' :: rest
  | .number n => (numberText n).toList ++ rest
  | .string text => writeString text rest
  | _ => 'n' :: 'u' :: 'l' :: 'l' :: rest

mutual

/-- A value in the compact layout, in front of `rest`. -/
def write (rest : List Char) : Json → List Char
  | .array items => '[' :: writeItems (']' :: rest) items
  | .object fields => '\x7b' :: writeFields ('\x7d' :: rest) fields
  | json => writeScalar rest json

/-- Items separated by commas, in front of `rest`. -/
def writeItems (rest : List Char) : List Json → List Char
  | [] => rest
  | item :: items => write (writeMoreItems rest items) item

/-- Items each behind a comma, in front of `rest`. -/
def writeMoreItems (rest : List Char) : List Json → List Char
  | [] => rest
  | item :: items => ',' :: write (writeMoreItems rest items) item

/-- Fields separated by commas, in front of `rest`. -/
def writeFields (rest : List Char) : List (String × Json) → List Char
  | [] => rest
  | (name, value) :: fields =>
    writeString name (':' :: write (writeMoreFields rest fields) value)

/-- Fields each behind a comma, in front of `rest`. -/
def writeMoreFields (rest : List Char) : List (String × Json) → List Char
  | [] => rest
  | (name, value) :: fields =>
    ',' :: writeString name (':' :: write (writeMoreFields rest fields) value)

end

/-- The compact text of a value. -/
def compact (json : Json) : String :=
  String.ofList (write [] json)

/-- A new line with the blanks of a nesting depth, in front of `rest`. -/
def newLine (depth : Nat) (rest : List Char) : List Char :=
  '\n' :: (List.replicate (2 * depth) ' ' ++ rest)

mutual

/-- A value in the indented layout, in front of `rest`. -/
def writePretty (depth : Nat) (rest : List Char) : Json → List Char
  | .array [] => '[' :: ']' :: rest
  | .array (item :: items) =>
    '[' :: newLine (depth + 1) (writePretty (depth + 1)
      (writePrettyItems (depth + 1) (newLine depth (']' :: rest)) items) item)
  | .object [] => '\x7b' :: '\x7d' :: rest
  | .object ((name, value) :: fields) =>
    '\x7b' :: newLine (depth + 1) (writeString name (':' :: ' ' :: writePretty (depth + 1)
      (writePrettyFields (depth + 1) (newLine depth ('\x7d' :: rest)) fields) value))
  | json => writeScalar rest json

/-- Items each behind a comma and on its own line, in front of `rest`. -/
def writePrettyItems (depth : Nat) (rest : List Char) : List Json → List Char
  | [] => rest
  | item :: items =>
    ',' :: newLine depth (writePretty depth (writePrettyItems depth rest items) item)

/-- Fields each behind a comma and on its own line, in front of `rest`. -/
def writePrettyFields (depth : Nat) (rest : List Char) : List (String × Json) → List Char
  | [] => rest
  | (name, value) :: fields =>
    ',' :: newLine depth (writeString name (':' :: ' ' :: writePretty depth
      (writePrettyFields depth rest fields) value))

end

/-- The indented text of a value. -/
def pretty (json : Json) : String :=
  String.ofList (writePretty 0 [] json)

mutual

/-- The value with the fields of each object in the order of their names, the last of each name
alone. -/
def canonical : Json → Json
  | .array items => .array (canonicalItems items)
  | .object fields => .object (canonicalFields fields).toList
  | json => json

/-- Each item in canonical form. -/
def canonicalItems : List Json → List Json
  | [] => []
  | item :: items => canonical item :: canonicalItems items

/-- The fields by name; later ones prevail. -/
def canonicalFields : List (String × Json) → Std.TreeMap String Json
  | [] => ∅
  | (name, value) :: fields => (canonicalFields fields).insertIfNew name (canonical value)

end

end Stratalog.Json
