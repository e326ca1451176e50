import CredentialBroker.Codec.Form

namespace CredentialBroker

/-!
# URLs

The parts of a URL after the rules of the URL standard: scheme, user information, host, port,
path, query and fragment, each kept in its written, already escaped form.
-/

/-- The path of a URL. -/
inductive UrlPath where
  /-- A path that is no hierarchy. -/
  | plain (text : String)
  /-- The segments after each slash. -/
  | segments (names : List String)
deriving DecidableEq

/-- A URL. -/
structure Url where
  /-- The scheme, in small letters. -/
  scheme : String
  /-- The user name, escaped. -/
  username : String
  /-- The password, escaped. -/
  password : String
  /-- The host, if the URL has an authority. -/
  host : Option String
  /-- The port, when it is not the one of the scheme. -/
  port : Option Nat
  /-- The path, escaped. -/
  path : UrlPath
  /-- The query, escaped. -/
  query : Option String
  /-- The fragment, escaped. -/
  fragment : Option String
deriving DecidableEq

namespace Url

/-- The port a special scheme has when none is written; no answer for other schemes. -/
def defaultPort? : String → Option Nat
  | "http" | "ws" => some 80
  | "https" | "wss" => some 443
  | "ftp" => some 21
  | _ => none

/-- A scheme whose URLs have an authority and a hierarchy. -/
def isSpecial (scheme : String) : Bool :=
  (defaultPort? scheme).isSome || scheme = "file"

/-- The text of a path. -/
def pathText (u : Url) : String :=
  match u.path with
  | .plain t => t
  | .segments names =>
    let text := String.join (names.map fun n => "/" ++ n)
    if u.host.isNone ∧ names.length > 1 ∧ names.head? = some "" then "/." ++ text else text

/-- The text of the authority, with the slashes before it. -/
def authorityText (u : Url) : String :=
  match u.host with
  | none => ""
  | some h =>
    let user :=
      if u.username = "" ∧ u.password = "" then ""
      else if u.password = "" then u.username ++ "@"
      else u.username ++ ":" ++ u.password ++ "@"
    let port := match u.port with
      | none => ""
      | some p => ":" ++ toString p
    "//" ++ user ++ h ++ port

/-- The text of a URL without its fragment. -/
def textWithoutFragment (u : Url) : String :=
  let query := match u.query with
    | none => ""
    | some q => "?" ++ q
  u.scheme ++ ":" ++ u.authorityText ++ u.pathText ++ query

/-- The text of a URL. -/
def text (u : Url) : String :=
  match u.fragment with
  | none => u.textWithoutFragment
  | some f => u.textWithoutFragment ++ "#" ++ f

/-- The URL with pairs added at the end of its query. -/
def appendPairs (u : Url) (ps : List (String × String)) : Url :=
  if ps.isEmpty then u
  else
    let added := Form.encode ps
    { u with query := some (match u.query with
        | none | some "" => added
        | some q => q ++ "&" ++ added) }

/-- The pairs of a URL's query. -/
def queryPairs (u : Url) : List (String × String) :=
  Form.decode (u.query.getD "")

/-- The segments of a URL's path, percent-decoded. -/
def decodedSegments (u : Url) : List Bytes :=
  match u.path with
  | .plain _ => []
  | .segments names => names.map Percent.decode

end Url

end CredentialBroker
