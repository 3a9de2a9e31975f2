import Stratalog.Pattern.Category

/-!
# Quoted texts

A text between double quotes that can be read on any screen: quotes, backslashes and the common
control characters are written with a backslash, and whatever cannot be seen, or combines with the
character before it, as its code point in hexadecimal.
-/

namespace Stratalog.Text

open Pattern (CharSet)

/-- Marks and vowel signs that extend the character before them. -/
def extenders : CharSet :=
  [Pattern.nonspacingMarks, Pattern.enclosingMarks,
    CharSet.ofText "9BE 9D7 B3E B57 BBE BD7 CC0 CC2 CC7-CC8 CCA-CCB CD5-CD6 D3E D57 DCF DDF 1715
      1734 1B35 1B3B 1B3D 1B43-1B44 1BAA 1BF2-1BF3 200C 302E-302F A953 A9C0 FF9E-FF9F 111C0 11235
      1133E 1134D 11357 114B0 114BD 115AF 116B6 11930 1193D 11F41 16FF0-16FF1 1D165-1D166
      1D16D-1D172 E0020-E007F"].flatten

/-- The characters that can be seen: letters, marks, numbers, punctuation, symbols and the
blank. -/
def visible : CharSet :=
  let hidden := ["cc", "cf", "co", "zl", "zp", "zs"]
  let shown := Pattern.categories.filter fun (short, _) => !hidden.contains short
  CharSet.single ' ' ++ (shown.map fun (_, _, set) => set).flatten

/-- The hexadecimal digits of a number, without zeros in front. -/
def hexText (n : Nat) : String :=
  String.ofList (Nat.toDigits 16 n)

/-- A character as its code point. -/
def codeText (c : Char) : String :=
  "\\u\x7b" ++ hexText c.toNat ++ "\x7d"

/-- A character inside a quoted text. -/
def quoteChar (c : Char) : String :=
  if c = '\x00' then "\\0"
  else if c = '\t' then "\\t"
  else if c = '\r' then "\\r"
  else if c = '\n' then "\\n"
  else if c = '\\' then "\\\\"
  else if c = '"' then "\\\""
  else if ' ' ≤ c ∧ c ≤ '~' then c.toString
  else if extenders.mem c || !visible.mem c then codeText c
  else c.toString

/-- A text between quotes. -/
def quote (text : String) : String :=
  "\"" ++ String.join (text.toList.map quoteChar) ++ "\""

end Stratalog.Text
