import CredentialBroker.Cluster.Identity
import CredentialBroker.Codec.Base64
import CredentialBroker.Json.Record
import CredentialBroker.Json.Reader
import CredentialBroker.Text.Blank
import CredentialBroker.Text.Split

namespace CredentialBroker.Bearer

/-!
# Bearer tokens in headers

`ofHeader?` takes the token from a header that must name the scheme; `normalize` takes a text for
the token itself when it names no scheme.  `claimedSubject?` reads who a signed token says it is
for, without looking at the signature: good enough for statistics and for nothing else.
-/

/-- The name of the scheme. -/
def scheme : List Char := "bearer".toList

/-- The token in a header of the form scheme, space, token. -/
def ofHeader? (value : String) : Option String := do
  let (name, token) ← Text.cut? ' ' (Text.trim value)
  if Text.sameLetters name.toList scheme then
    (some (Text.trim token)).filter (· ≠ "")
  else none

/-- The token in a text that may begin with the scheme. -/
def normalize (value : String) : String :=
  let trimmed := (Text.trim value).toList
  if Text.sameLetters trimmed scheme then ""
  else if Text.sameLetters (trimmed.take 7) (scheme ++ [' ']) then
    String.ofList (Text.trimChars (trimmed.drop 7))
  else String.ofList trimmed

/-- The subject that the second part of a signed token claims. -/
def claimedSubject? (token : String) : Option String := do
  let payload ← (Text.pieces '.' token)[1]?
  let octets ← Base64.decode? Base64.urlSafe .upToCanonical payload
  let claims ← Json.read? octets
  let claims ← claims.settled?
  match ← claims.lastMember? "sub" with
  | .str subject => some subject
  | _ => none

/-- The token a caller presents: the one of the authorization header, or else the forwarded one. -/
def ofCaller? (authorization forwarded : Option String) : Option String :=
  ((authorization.map normalize).filter (· ≠ "")).or
    ((forwarded.map Text.trim).filter (· ≠ ""))

end CredentialBroker.Bearer
