import Stratalog.Json.Basic

/-!
# Documents

What a report holds, before a format is chosen for it. A document is a tree of texts, numbers and
flags in lists and records; a choice between alternatives keeps the name of the one taken.

In JSON a choice is an object with one field. Other formats may show it in a way of their own.
-/

namespace Stratalog

/-- A tree to be written out. -/
inductive Document where
  | null
  | flag (value : Bool)
  | number (value : Int)
  | text (value : String)
  | list (items : List Document)
  | record (fields : List (String × Document))
  | choice (name : String) (content : Document)
  deriving Repr, Inhabited

namespace Document

/-- A natural number. -/
def natural (n : Nat) : Document :=
  .number n

/-- A whole number of sixty-four bits as JSON. -/
def numberJson (n : Int) : Json :=
  if n < 0 then .number (.negative (.ofInt n)) else .number (.natural n.toNat.toUInt64)

mutual

/-- A document as JSON. -/
def toJson : Document → Json
  | .null => .null
  | .flag value => .bool value
  | .number value => numberJson value
  | .text value => .string value
  | .list items => .array (listJson items)
  | .record fields => .object (recordJson fields)
  | .choice name content => .object [(name, toJson content)]

/-- Items as JSON. -/
def listJson : List Document → List Json
  | [] => []
  | item :: items => toJson item :: listJson items

/-- Fields as JSON. -/
def recordJson : List (String × Document) → List (String × Json)
  | [] => []
  | (name, content) :: fields => (name, toJson content) :: recordJson fields

end

end Document

end Stratalog
