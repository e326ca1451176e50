import CredentialBroker.Codec.Form
import CredentialBroker.Codec.Percent
import CredentialBroker.Json.Writer
import CredentialBroker.Text.Split

namespace CredentialBroker.Web

/-!
# Requests to this program and their answers

A request has a method, a path and a query as they were sent, and headers.  A header counts only
when its octets are printable ASCII or tabs, and of several with one name the first counts.
-/

/-- A request without body. -/
structure Request where
  /-- The method. -/
  method : String
  /-- The path, escaped. -/
  path : String
  /-- The query, escaped. -/
  query : String
  /-- The headers, in order. -/
  headers : List (String × Bytes)
deriving DecidableEq

/-- An answer. -/
structure Response where
  /-- The status. -/
  status : Nat
  /-- The type of the content, if there is one. -/
  contentType : Option String
  /-- The content. -/
  body : String
deriving DecidableEq

namespace Request

/-- A character of a scheme. -/
def isSchemeChar (c : Char) : Bool :=
  c.isAlphanum || c = '+' || c = '-' || c = '.' || c = '~'

/-- A target as sent without the scheme and the host it may begin with. -/
def localTarget (target : List Char) : List Char :=
  match target.dropWhile isSchemeChar with
  | ':' :: '/' :: '/' :: rest =>
    match rest.dropWhile fun c => c ≠ '/' && c ≠ '?' with
    | '/' :: path => '/' :: path
    | query => '/' :: query
  | _ => target

/-- The request with a target as sent: a path, a query after a question mark, and no fragment. -/
def ofTarget (method target : String) (headers : List (String × Bytes)) : Request :=
  let target := localTarget (target.toList.takeWhile (· ≠ '#'))
  let path := target.takeWhile (· ≠ '?')
  ⟨method, String.ofList path, String.ofList (target.drop (path.length + 1)), headers⟩

/-- The text of octets that are all printable ASCII or tabs. -/
def printable? (bs : Bytes) : Option String :=
  if bs.all fun b => b = 0x09 || (0x20 ≤ b && b < 0x7F) then Text.ofUtf8? bs else none

/-- The value of a header. -/
def header? (r : Request) (name : String) : Option String :=
  (r.headers.find? fun h => Text.sameLetters h.1.toList name.toList).bind fun h => printable? h.2

/-- The parameters in the query. -/
def parameters (r : Request) : List (String × String) := Form.decode r.query

end Request

namespace Response

/-- An answer without content. -/
def empty (status : Nat) : Response := ⟨status, none, ""⟩

/-- A text. -/
def text (status : Nat) (body : String) : Response :=
  ⟨status, some "text/plain; charset=utf-8", body⟩

/-- A document. -/
def json (status : Nat) (body : Json) : Response :=
  ⟨status, some "application/json", Json.compact body⟩

/-- A page. -/
def html (status : Nat) (body : String) : Response :=
  ⟨status, some "text/html; charset=utf-8", body⟩

/-- The answer without its content. -/
def withoutBody (r : Response) : Response := { r with body := "" }

end Response

end CredentialBroker.Web
