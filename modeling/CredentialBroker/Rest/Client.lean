import CredentialBroker.Effect.Action
import CredentialBroker.Json.Writer
import CredentialBroker.Rest.Answer
import CredentialBroker.Rest.Auth

namespace CredentialBroker.Rest

/-!
# A client of the cluster's interface

`RestClient.perform` makes a call: it gets the token to prove who calls, sends one request, and
reads the answer.  The client that acts for a caller (`RestClient.scopedTo`) differs in the way to
prove who calls and in nothing else.
-/

/-! ### What a client needs -/

/-- How a helper program went. -/
inductive HelperOutcome where
  /-- It could not be started. -/
  | notStarted (reason : String)
  /-- It did not end in time. -/
  | timedOut
  /-- It ended with a status and had printed something. -/
  | ended (status : Nat) (output : Bytes)
  /-- It was ended from outside. -/
  | killed (description : String)
deriving DecidableEq

/-- A request of a client to its surroundings. -/
inductive WireDemand where
  /-- Send a request and wait so long for an answer.  This is one send of the HTTP client: redirects
  that it follows are inside. -/
  | send (request : Http.Request) (timeout : Span)
  /-- Read a file. -/
  | file (path : String)
  /-- Run a helper program and wait so long for its end. -/
  | runHelper (command : String) (args : List String) (timeout : Span)
  /-- Trust the certificates of a bundle. -/
  | trust (bundle : Bytes)

/-- The type of the reply to a request. -/
@[reducible] def WireDemand.Reply : WireDemand → Type
  | .send .. => Except Http.Fault Http.Response
  | .file _ => Except String Bytes
  | .runHelper .. => HelperOutcome
  | .trust _ => Except TransportFault Unit

/-- The requests of a client. -/
@[reducible] def wire : Signature := ⟨WireDemand, WireDemand.Reply⟩

/-- A program of a client that ends with a value or an error of the cluster. -/
abbrev WireAction (α : Type) := ExceptT ClusterError (Program wire) α

/-! ### Clients -/

end Rest

/-- A client of the cluster's interface. -/
structure RestClient where
  /-- The base URL, without slashes at its end. -/
  baseUrl : String
  /-- How the client proves who calls. -/
  auth : Rest.AuthMode
  /-- How long to wait for an answer. -/
  timeout : Span
  /-- The custom resource that holds sessions. -/
  resource : SessionResource

namespace RestClient

open Rest

/-- The client for a base URL. -/
def of (baseUrl : String) (auth : AuthMode) (timeout : Span) (resource : SessionResource) :
    RestClient :=
  ⟨Text.trimEndOf '/' baseUrl, auth, timeout, resource⟩

/-- The client that proves who calls with the given token only. -/
def scopedTo (c : RestClient) (token : String) : RestClient := { c with auth := .bearer token }

/-- The octets of a file. -/
def fileOctets (path : String) : WireAction Bytes := do
  match ← ExceptT.lift (Program.request (σ := wire) (.file path)) with
  | .ok octets => pure octets
  | .error reason => throw (.transport (.file path reason))

/-- The token in a file, without the blanks around it. -/
def fileToken (path : String) : WireAction String := do
  let octets ← fileOctets path
  match Text.ofUtf8? octets with
  | some s => pure (Text.trim s)
  | none => throw (.transport (.file path "stream did not contain valid UTF-8"))

/-- The token that a helper program prints. -/
def helperToken (command : String) (args : List String) (timeout : Span) : WireAction String := do
  match ← ExceptT.lift (Program.request (σ := wire) (.runHelper command args timeout)) with
  | .timedOut => throw (.timeout "exec credential helper" timeout)
  | .notStarted reason => throw (.transport (.helperStart reason))
  | .killed description => throw (.transport (.helperExit description))
  | .ended status output =>
    if status ≠ 0 then
      throw (.transport (.helperExit ("exit status: " ++ toString status)))
    else
      match (Json.read? output).bind helperTokenOfJson? with
      | some token => pure token
      | none => throw (.transport (.helperOutput "not a document of the expected form"))

/-- The header that proves who calls. -/
def authorization (c : RestClient) : WireAction (String × String) :=
  let bearerHeader := fun token : String => ("authorization", "Bearer " ++ token)
  match c.auth with
  | .bearer token | .provider _ token => pure (bearerHeader token)
  | .tokenFile path => bearerHeader <$> fileToken path
  | .helper command args => bearerHeader <$> helperToken command args c.timeout
  | .basic username password => pure (Http.basicHeader username (some password))

/-- The headers of a request to the cluster. -/
def headers (authorization : String × String) (e : Endpoint) : List (String × String) :=
  [("accept", "application/json"), authorization] ++
    (match e.content with
      | none => []
      | some (type, _) => [("content-type", type)])

/-- The body of a request to the cluster. -/
def body (e : Endpoint) : Bytes :=
  match e.content with
  | none => []
  | some (_, document) => Text.utf8 (Json.compact document)

/-- The request of a call, with the header that proves who calls. -/
def request? (c : RestClient) (authorization : String × String) (call : Call) :
    Option Http.Request := do
  let e := endpoint c.resource call
  let r ← Http.Request.make? e.method (c.baseUrl ++ e.path) (headers authorization e) (body e)
  pure { r with url := r.url.appendPairs e.query }

/-- Sends the request of a call. -/
def send (c : RestClient) (call : Call) (request : Http.Request) : WireAction Http.Response := do
  match ← ExceptT.lift (Program.request (σ := wire) (.send request c.timeout)) with
  | .ok response => pure response
  | .error .timedOut => throw (.timeout (wording call).operation c.timeout)
  | .error (.failed detail) => throw (.transport (.request detail))

/-- Makes a call. -/
def perform (c : RestClient) (call : Call) : WireAction call.Reply := do
  let authorization ← c.authorization
  match c.request? authorization call with
  | none => throw (.transport (.request "builder error"))
  | some request =>
    let response ← c.send call request
    ExceptT.mk (pure (readAnswer call response))

/-- The client of a call made as someone: the platform's own, or one with a caller's token. -/
def actingAs (c : RestClient) : Client → RestClient
  | .platform => c
  | .bearer token => c.scopedTo token

/-- What comes of a call that is made as someone. -/
def serve (c : RestClient) (who : Client) (call : Call) :
    Program wire (Except ClusterError call.Reply) :=
  ((c.actingAs who).perform call).run

/-- The platform's own client as it is set up, its token in a file. -/
def setUp (baseUrl tokenFile : String) (caFile : Option String) (timeout : Span)
    (resource : SessionResource) : WireAction RestClient := do
  match caFile with
  | none => pure ()
  | some path =>
    let bundle ← fileOctets path
    match ← ExceptT.lift (Program.request (σ := wire) (.trust bundle)) with
    | .ok () => pure ()
    | .error fault => throw (.transport fault)
  pure (of baseUrl (.tokenFile tokenFile) timeout resource)

end RestClient

end CredentialBroker
