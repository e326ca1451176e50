import CredentialBroker.Json.Record
import CredentialBroker.Text.Description

namespace CredentialBroker.Rest

/-!
# Ways to prove who calls

How a client of the cluster's interface proves who it is.  A client that acts for a caller has
the caller's bearer token and no other way.
-/

/-- A way to prove who calls. -/
inductive AuthMode where
  /-- A bearer token. -/
  | bearer (token : String)
  /-- A bearer token in a file, read for each request. -/
  | tokenFile (path : String)
  /-- A bearer token from a named issuer. -/
  | provider (name token : String)
  /-- A bearer token from a helper program, run for each request. -/
  | helper (command : String) (args : List String)
  /-- A user name and a password. -/
  | basic (username password : String)
deriving DecidableEq

namespace AuthMode

/-- Whether it is a bearer token and nothing else. -/
def isBearer : AuthMode → Bool
  | .bearer _ => true
  | _ => false

/-- The way described for logs. -/
def description : AuthMode → String
  | .bearer _ => "Bearer([REDACTED])"
  | .tokenFile path => "TokenFile(" ++ Text.quoted path ++ ")"
  | .provider name _ =>
    Description.record "AuthProvider"
      [("name", Text.quoted name), ("token", Description.redacted)]
  | .helper command _ => Description.partialRecord "ExecHelper" [("command", Text.quoted command)]
  | .basic username _ =>
    Description.record "Basic"
      [("username", Text.quoted username), ("password", Description.redacted)]

end AuthMode

/-- The token in the status of a helper's credential. -/
def helperStatusOfJson? (j : Json) : Option String := do
  match ← j.fields? ["token"] with
  | [token] => Json.required Json.text? token
  | _ => none

/-- The token in what a helper program prints. -/
def helperTokenOfJson? (j : Json) : Option String := do
  match ← j.fields? ["status"] with
  | [status] => Json.required helperStatusOfJson? status
  | _ => none

end CredentialBroker.Rest
