import CredentialBroker.Number.Binary64
import CredentialBroker.SortedMap

namespace CredentialBroker

/-!
# JSON documents

A document keeps its members in the order written, a repeated name included, so that the readers
of typed documents can refuse repetitions.  `Json.settled?` is the value a document denotes when
it is kept without being looked at: members sorted by name, the last of a repeated name winning.
-/

/-- A JSON document. -/
inductive Json where
  /-- The literal for absence. -/
  | null
  /-- A truth value. -/
  | bool (value : Bool)
  /-- A whole number between `-2^63` and `2^64 - 1`, written without fraction and exponent. -/
  | int (value : Int)
  /-- Any other number. -/
  | real (value : Binary64)
  /-- A text. -/
  | str (value : String)
  /-- A list. -/
  | arr (items : List Json)
  /-- An object: names and values as written. -/
  | obj (members : List (String × Json))
  /-- A part of a text that is grammatical and denotes no value: half a surrogate pair, octets
  that are not UTF-8, a number beyond the range, or containers nested too deeply.  Such a part may
  be skipped and may not be read. -/
  | illFormed
deriving Inhabited

namespace Json

/-- An object from its members. -/
def object (members : List (String × Json)) : Json := .obj members

/-- A list of texts. -/
def texts (xs : List String) : Json := .arr (xs.map .str)

/-- A text, or the literal for absence. -/
def textOrNull : Option String → Json
  | none => .null
  | some s => .str s

/-- An object with a member for each entry of a map. -/
def ofTexts (m : SortedMap String String) : Json :=
  .obj (m.entries.map fun e => (e.1, .str e.2))

mutual

/-- The value a document denotes, or nothing when a part of it denotes none. -/
def settled? : Json → Option Json
  | .illFormed => none
  | .arr items => (settledItems? items).map .arr
  | .obj members => (settledMembers? members).map fun es => .obj (SortedMap.ofList es).entries
  | .null => some .null
  | .bool b => some (.bool b)
  | .int n => some (.int n)
  | .real x => some (.real x)
  | .str s => some (.str s)

/-- The values of a list of documents. -/
def settledItems? : List Json → Option (List Json)
  | [] => some []
  | j :: js => do
    let v ← settled? j
    let vs ← settledItems? js
    pure (v :: vs)

/-- The values of a list of members. -/
def settledMembers? : List (String × Json) → Option (List (String × Json))
  | [] => some []
  | (k, j) :: ms => do
    let v ← settled? j
    let vs ← settledMembers? ms
    pure ((k, v) :: vs)

end

end Json

end CredentialBroker
