import Stratalog.Json.Binary64

/-!
# JSON values

A document is read into a tree. Objects keep their fields in order and keep repeats, so that a
reader of the tree can refuse them. A number is a word of sixty-four bits where it fits one and a
floating-point number otherwise.

Some documents are well formed only as far as skipping over them goes: a number too large for any
representation, or a text with half a surrogate pair. Such a value stands in the tree as
`unreadable`; it may be ignored but not used.
-/

namespace Stratalog

/-- A number of a document. -/
inductive Number where
  | natural (n : UInt64)
  | negative (n : Int64)
  | real (x : Binary64)
  deriving DecidableEq, Repr, Inhabited

/-- A JSON document. -/
inductive Json where
  | null
  | bool (flag : Bool)
  | number (n : Number)
  | string (text : String)
  | array (items : List Json)
  | object (fields : List (String × Json))
  | unreadable
  deriving Repr, Inhabited

namespace Json

/-- A natural number. -/
def natural (n : Nat) : Json :=
  .number (.natural n.toUInt64)

/-- A whole number of sixty-four bits. -/
def integer (n : Int64) : Json :=
  if n < 0 then .number (.negative n) else .number (.natural n.toUInt64)

/-- A value, or null where there is none. -/
def orNull : Option Json → Json
  | some json => json
  | none => .null

/-- The value of the first field of a name. -/
def field? (json : Json) (name : String) : Option Json :=
  match json with
  | .object fields => fields.lookup name
  | _ => none

end Json

end Stratalog
