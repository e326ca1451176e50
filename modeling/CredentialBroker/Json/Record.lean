import CredentialBroker.Json.Basic
import CredentialBroker.Word

namespace CredentialBroker.Json

/-!
# Reading typed documents

A record is read from an object whose members are looked up by name, or from a list that gives
the fields in their order.  A field that is named twice is refused; a member that names no field
is skipped in a closed record and kept in an open one.

`required`, `defaulted` and `optional` say what an absent field means.
-/

/-- The value of the one member with the given name; nothing inside when there is none, and no
answer when there are several. -/
def member? (name : String) (members : List (String × Json)) : Option (Option Json) :=
  match members.filter fun m => m.1 = name with
  | [] => some none
  | [m] => some (some m.2)
  | _ => none

/-- The values of the named fields, in the order of the names. -/
def fields? (names : List String) : Json → Option (List (Option Json))
  | .obj members => names.mapM fun n => member? n members
  | .arr items =>
    if items.length ≤ names.length then
      some (items.map some ++ List.replicate (names.length - items.length) none)
    else none
  | _ => none

/-- The values of the named fields and, apart, the members that name none of them.  Only an
object has members to keep. -/
def openFields? (names : List String) :
    Json → Option (List (Option Json) × SortedMap String Json)
  | .obj members => do
    let values ← names.mapM fun n => member? n members
    let others ← settledMembers? (members.filter fun m => !names.contains m.1)
    pure (values, SortedMap.ofList others)
  | _ => none

variable {α : Type}

/-- A field that must be there. -/
def required (read : Json → Option α) : Option Json → Option α
  | none => none
  | some j => read j

/-- A field that has the value `d` when it is absent. -/
def defaulted (d : α) (read : Json → Option α) : Option Json → Option α
  | none => some d
  | some j => read j

/-- A field that may be absent or null. -/
def optional (read : Json → Option α) : Option Json → Option (Option α)
  | none | some .null => some none
  | some j => (read j).map some

/-- A text. -/
def text? : Json → Option String
  | .str s => some s
  | _ => none

/-- A truth value. -/
def flag? : Json → Option Bool
  | .bool b => some b
  | _ => none

/-- A whole number of 64 bits with sign. -/
def int64? : Json → Option Int
  | .int n => if n < Word.values 63 then some n else none
  | _ => none

/-- A list whose items are all read. -/
def list? (read : Json → Option α) : Json → Option (List α)
  | .arr items => items.mapM read
  | _ => none

/-- An object whose values are all texts; the last of a repeated name counts. -/
def textMap? : Json → Option (SortedMap String String)
  | .obj members => do
    let es ← members.mapM fun m => (text? m.2).map fun t => (m.1, t)
    pure (SortedMap.ofList es)
  | _ => none

/-- The member of a record for a value that is left out when absent. -/
def given (name : String) : Option Json → List (String × Json)
  | none => []
  | some v => [(name, v)]

/-- The member of a record for texts by name, left out when there are none. -/
def givenTexts (name : String) (m : SortedMap String String) : List (String × Json) :=
  if m.isEmpty then [] else [(name, ofTexts m)]

/-- An object read without looking at its members: the last value of each name. -/
def lastMember? (name : String) : Json → Option Json
  | .obj members => (SortedMap.find? name members.reverse)
  | _ => none

end CredentialBroker.Json
