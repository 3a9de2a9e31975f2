import Stratalog.Pattern.Category
import Stratalog.Text.CaseTable

/-!
# Lower case

The lower case of a text, character by character, with the two exceptions of the standard: the
dotted capital I becomes two characters, and a capital sigma that ends a word becomes the final
form of the letter.
-/

namespace Stratalog.Text

/-- The characters that a search for the end of a word passes over. -/
def caseIgnorable : Pattern.CharSet :=
  [Pattern.nonspacingMarks, Pattern.enclosingMarks, Pattern.formats, Pattern.modifierLetters,
    Pattern.modifierSymbols,
    Pattern.CharSet.ofText "27 2E 3A B7 387 55F 5F4 2018-2019 2024 2027 FE13 FE52 FE55 FF07 FF0E FF1A"].flatten

/-- The characters that have a case. -/
def cased : Pattern.CharSet :=
  [Pattern.upperLetters, Pattern.lowerLetters, Pattern.titleLetters,
    Pattern.CharSet.ofText "AA BA 2B0-2B8 2C0-2C1 2E0-2E4 37A 2160-217F 24B6-24E9"].flatten

/-- Whether the first character that counts has a case. -/
def meetsCased (chars : List Char) : Bool :=
  match chars.dropWhile caseIgnorable.mem with
  | c :: _ => cased.mem c
  | [] => false

/-- The lower case of the characters that follow `before`, which is given last character first. -/
def lowerAfter (before : List Char) : List Char → List Char
  | [] => []
  | c :: rest =>
    let lower :=
      if c.toNat < 128 then [c.toLower]
      else if c == 'Σ' then
        if meetsCased before && !meetsCased rest then ['ς'] else ['σ']
      else if c == 'İ' then ['i', Char.ofNat 0x307]
      else [Char.ofNat (applyRuns lowerRuns c.toNat)]
    lower ++ lowerAfter (c :: before) rest

/-- The lower case of a text. -/
def toLower (text : String) : String :=
  String.ofList (lowerAfter [] text.toList)

end Stratalog.Text
