import CredentialBroker.Json.Record

namespace CredentialBroker.Json

/-!
# Reading documents that leave things out

A document written by hand leaves out what has a default.  Each function here looks up a member
by its name, the last one when a name is repeated, and goes on with a default when there is none
or when it is of another kind.
-/

/-- The text in a member. -/
def textAt? (j : Json) (key : String) : Option String := (j.lastMember? key).bind text?

/-- The text in a member, empty by default. -/
def textAt (j : Json) (key : String) : String := (j.textAt? key).getD ""

/-- The truth value in a member. -/
def flagAt? (j : Json) (key : String) : Option Bool := (j.lastMember? key).bind flag?

/-- The whole number in a member, if it is one between `-2^63` and `2^63 - 1`. -/
def intAt? (j : Json) (key : String) : Option Int :=
  match j.lastMember? key with
  | some (.int n) => if n < Word.values 63 then some n else none
  | _ => none

/-- The natural number in a member. -/
def natAt? (j : Json) (key : String) : Option Nat :=
  match j.lastMember? key with
  | some (.int n) => if 0 ≤ n then some n.toNat else none
  | _ => none

/-- The natural number in a member, or a default. -/
def natAt (j : Json) (key : String) (d : Nat) : Nat := (j.natAt? key).getD d

/-- The items of the list in a member, none by default. -/
def itemsAt (j : Json) (key : String) : List Json :=
  match j.lastMember? key with
  | some (.arr items) => items
  | _ => []

/-- The members of the object in a member, none by default. -/
def membersAt (j : Json) (key : String) : List (String × Json) :=
  match j.lastMember? key with
  | some (.obj members) => members
  | _ => []

/-- The object in a member, the empty one by default. -/
def objectAt (j : Json) (key : String) : Json := .obj (j.membersAt key)

/-- The texts by name in a member; what is no text is left out. -/
def textMapAt (j : Json) (key : String) : SortedMap String String :=
  SortedMap.ofList ((j.membersAt key).filterMap fun m => (text? m.2).map fun t => (m.1, t))

/-- The value in a member, unless it is null. -/
def presentAt? (j : Json) (key : String) : Option Json :=
  match j.lastMember? key with
  | none | some .null => none
  | some value => some value

end CredentialBroker.Json
