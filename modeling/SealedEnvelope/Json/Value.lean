import SealedEnvelope.Json.Number

/-!
JSON values. The members of an object are kept in the order of their keys, each key once.
-/

namespace SealedEnvelope.Json

/-- A JSON value. -/
inductive Value where
  | null
  | boolean (value : Bool)
  | number (value : Number)
  | string (value : String)
  | list (items : List Value)
  | object (members : List (String × Value))

/-- The members with one more, in the order of keys; a key that is there keeps its value.
Keys are ordered by code points, which is the order of their UTF-8 bytes. -/
def insertAbsent {α : Type} (member : String × α) : List (String × α) → List (String × α)
  | [] => [member]
  | head :: rest =>
    if member.1 < head.1 then member :: head :: rest
    else if member.1 = head.1 then head :: rest
    else head :: insertAbsent member rest

/-- The members of an object, from all that were written, last one first: the last of equal
keys wins. -/
def ofLastFirst {α : Type} (written : List (String × α)) : List (String × α) :=
  written.foldl (fun members member => insertAbsent member members) []

end SealedEnvelope.Json
