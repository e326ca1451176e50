import CredentialBroker.Codec.Base64
import CredentialBroker.Url.Reader

namespace CredentialBroker.Http

/-!
# Requests that are sent and their answers

A request as it leaves this program: its URL is read and its headers are legal.
-/

/-- A request to another program. -/
structure Request where
  /-- The method. -/
  method : String
  /-- Where it goes. -/
  url : Url
  /-- The headers, in order. -/
  headers : List (String × String)
  /-- The body. -/
  body : Bytes
deriving DecidableEq

/-- The answer to a request. -/
structure Response where
  /-- The status. -/
  status : Nat
  /-- The body. -/
  body : Bytes
deriving DecidableEq

/-- Why a request got no answer. -/
inductive Fault where
  /-- None came in time. -/
  | timedOut
  /-- None could be had. -/
  | failed (detail : String)
deriving DecidableEq

/-- Whether the status says that all went well. -/
def Response.isSuccess (r : Response) : Bool := 200 ≤ r.status && r.status < 300

/-- The first characters of the body, read as text. -/
def Response.excerpt (r : Response) : String :=
  String.ofList ((Text.ofUtf8Lossy r.body).toList.take 200)

/-- Whether a text may be the value of a header: no control characters but the tab. -/
def isHeaderValue (s : String) : Bool :=
  (Text.utf8 s).all fun b => b = 0x09 || (0x20 ≤ b && b ≠ 0x7F)

/-- The header of a user name with a password, which may be missing. -/
def basicHeader (username : String) (password : Option String) : String × String :=
  ("authorization", "Basic " ++
    Base64.encodePadded Base64.standard (Text.utf8 (username ++ ":" ++ password.getD "")))

/-- The header of the user information in a URL, as far as it is text. -/
def userHeader (u : Url) : List (String × String) :=
  match Text.ofUtf8? (Percent.decode u.username) with
  | none => []
  | some username =>
    let password := if u.password = "" then none else Text.ofUtf8? (Percent.decode u.password)
    if username = "" ∧ password = none then [] else [basicHeader username password]

/-- The URL without its user information. -/
def withoutUser (u : Url) : Url := { u with username := "", password := "" }

/-- A request to the URL a text names.  There is none when the text names no URL of the web or a
header is illegal.  User information in the URL goes into a header. -/
def Request.make? (method target : String) (headers : List (String × String)) (body : Bytes) :
    Option Request := do
  let url ← Url.read? target
  if (url.scheme = "http" ∨ url.scheme = "https") ∧ headers.all (fun h => isHeaderValue h.2) then
    some ⟨method, withoutUser url, userHeader url ++ headers, body⟩
  else none

end CredentialBroker.Http
