import Stratalog.Json.Basic

/-!
# Taking JSON values apart

A record is written as an object or as an array of its fields in order. Unknown fields of an object
are ignored, repeated ones are refused. A choice between alternatives is written as the name of the
alternative or as an object with that name and a value.

Reading goes no deeper than a bound: `depth` counts the arrays and objects that may still be
opened. Some values are first read whole and then taken apart; they are called buffered, and inside
them an alternative without a value may also carry an empty object.
-/

namespace Stratalog.Json

/-- The number of arrays and objects that may be open at once. -/
def deepest : Nat := 127

mutual

/-- Whether a value can be used in full and opens no more than `depth` arrays and objects. -/
def isSound (depth : Nat) : Json → Bool
  | .unreadable => false
  | .array items =>
    match depth with
    | 0 => false
    | depth + 1 => areSound depth items
  | .object fields =>
    match depth with
    | 0 => false
    | depth + 1 => fieldsAreSound depth fields
  | _ => true

/-- Whether every item is sound. -/
def areSound (depth : Nat) : List Json → Bool
  | [] => true
  | item :: items => isSound depth item && areSound depth items

/-- Whether every field has a sound value. -/
def fieldsAreSound (depth : Nat) : List (String × Json) → Bool
  | [] => true
  | (_, value) :: fields => isSound depth value && fieldsAreSound depth fields

end

/-- A text. -/
def string? : Json → Option String
  | .string text => some text
  | _ => none

/-- A flag. -/
def bool? : Json → Option Bool
  | .bool flag => some flag
  | _ => none

/-- A natural number of sixty-four bits. -/
def natural? : Json → Option UInt64
  | .number (.natural n) => some n
  | _ => none

/-- A natural number of sixty-four bits, as a number without bound. -/
def size? (json : Json) : Option Nat :=
  json.natural?.map UInt64.toNat

/-- A natural number of thirty-two bits. -/
def natural32? (json : Json) : Option UInt32 :=
  match json.natural? with
  | some n => if n.toNat < Nat.pow 2 32 then some n.toUInt32 else none
  | none => none

/-- An integer of sixty-four bits. -/
def integer? : Json → Option Int64
  | .number (.natural n) => if n.toNat < Nat.pow 2 63 then some n.toInt64 else none
  | .number (.negative n) => some n
  | _ => none

/-- A value that may be null. -/
def optional? (read : Json → Option α) : Json → Option (Option α)
  | .null => some none
  | json => (read json).map some

/-- Read each item in order. -/
def readAll? (read : Json → Option α) : List Json → Option (List α)
  | [] => some []
  | item :: items =>
    match read item with
    | some a => (readAll? read items).map (a :: ·)
    | none => none

/-- An array of items, which may open one array or object less. -/
def array? (depth : Nat) (read : Nat → Json → Option α) : Json → Option (List α)
  | .array items =>
    match depth with
    | 0 => none
    | depth + 1 => readAll? (read depth) items
  | _ => none

/-- An array that may be missing. -/
def listOf? (depth : Nat) (read : Nat → Json → Option α) : Option Json → Option (List α)
  | none => some []
  | some json => json.array? depth read

/-- The values of the named fields of a record. -/
def fields? (names : List String) : Json → Option (List (Option Json))
  | .object fields =>
    if names.all fun name => (fields.countP fun field => field.1 == name) ≤ 1 then
      some (names.map fun name => fields.lookup name)
    else none
  | .array items =>
    if items.length ≤ names.length then some (names.mapIdx fun i _ => items[i]?) else none
  | _ => none

/-- The values of the named fields of a record, and how deep they may go. -/
def record? (depth : Nat) (names : List String) (json : Json) :
    Option (Nat × List (Option Json)) :=
  match depth with
  | 0 => none
  | depth + 1 => (fields? names json).map (depth, ·)

/-- The name of an alternative that has no value. -/
def choice? (buffered : Bool) (depth : Nat) : Json → Option String
  | .string name => some name
  | .object [(name, .null)] => if depth = 0 then none else some name
  | .object [(name, .object [])] => if buffered && 2 ≤ depth then some name else none
  | _ => none

end Stratalog.Json
