import CredentialBroker.Credential.Access
import CredentialBroker.Credential.Runner
import CredentialBroker.Credential.Usage
import CredentialBroker.Transition.Start
import CredentialBroker.Transition.Stop
import CredentialBroker.Web.Page
import CredentialBroker.Web.Route

namespace CredentialBroker.Web

/-!
# Answering requests

`Service.respond` is the answer to a request as a program.  The routes for users go to a handler
only with the client of the token presented; what is noted about the use of the token is a
program of its own (`Service.usage`), run beside the answer.
-/

/-- What this program answers requests with. -/
structure Service where
  /-- What issues credentials when a session is continued. -/
  issuer : Issuer
  /-- The policy of status writes. -/
  policy : RetryPolicy := .usual
  /-- The authorization flow. -/
  flow : OAuthFlow
  /-- Whether the use of access keys is noted. -/
  notesUsage : Bool := true

/-- The answer to a request that failed. -/
def errorResponse (e : CredentialError) : Response :=
  .json e.status (.obj [("error", .str e.publicMessage)])

/-- The answer to a request without a token. -/
def noCredentials : Response :=
  errorResponse (.unauthenticated "no user credentials on request")

/-- The name of the header with the token of a user behind an authenticating proxy. -/
def forwardedHeader : String := "x-forwarded-access-token"

/-- The token a request presents. -/
def Request.token? (r : Request) : Option String :=
  Bearer.ofCaller? (r.header? "authorization") (r.header? forwardedHeader)

/-- The outcome of an action as an answer. -/
def answer {α : Type} (a : Action CredentialError α) (f : α → Response) :
    Program demands Response := do
  match ← a.run with
  | .ok value => pure (f value)
  | .error e => pure (errorResponse e)

namespace Service

variable (s : Service)

/-- The answer to a start. -/
def start (who : Client) (ref : ObjectRef) : Program demands Response :=
  answer (Transition.start s.policy s.issuer who ref) fun outcome =>
    .json 202 (.obj ([("message", .str Transition.restartMessage), ("name", .str ref.name)] ++
      Json.given "phase" (outcome.session.status.phase.map .str) ++
      [("continuation", .bool outcome.continuation)]))

/-- The remark on a stop, and the phase of the session. -/
def stopRemark : StopOutcome → String × Option String
  | .stopped session => (Transition.stopMessage, session.status.phase)
  | .alreadyStopped session => ("Session already stopped", session.status.phase)
  | .gone => ("Session no longer exists", none)

/-- The answer to a stop. -/
def stop (who : Client) (ref : ObjectRef) : Program demands Response :=
  answer (Transition.stop s.policy who ref) fun outcome =>
    let (message, phase) := stopRemark outcome
    .json 200 (.obj ([("message", .str message), ("name", .str ref.name)] ++
      Json.given "phase" (phase.map .str)))

/-- The answer to the wish for an authorization flow. -/
def authorize (who : Client) (ref : ObjectRef) (provider : String) : Program demands Response :=
  answer (s.flow.begin who ref provider) fun request =>
    .json 200 (.obj [("url", .str request.url), ("state", .str request.state)])

/-- The answer to a user's request, as the user's client. -/
def respondTo (who : Client) : UserRoute → Program demands Response
  | .start project session =>
    match sessionRef project session with
    | .ok ref => s.start who ref
    | .error response => pure response
  | .stop project session =>
    match sessionRef project session with
    | .ok ref => s.stop who ref
    | .error response => pure response
  | .authorize project session provider =>
    match sessionRef project session, unescaped "provider" provider with
    | .ok ref, .ok provider => s.authorize who ref provider
    | .error response, _ | _, .error response => pure response

/-- The answer to a job that says who it is. -/
def verify (r : Request) (project session : String) : Program demands Response :=
  match sessionRef project session with
  | .error response => pure response
  | .ok ref =>
    match (r.header? "authorization").bind Bearer.ofHeader? with
    | none => pure (errorResponse (.unauthenticated "missing bearer token"))
    | some token => answer (verifyRunner token ref) fun runner =>
      .json 200 (.obj [("userId", .str runner.userId), ("identity", .str runner.identity)])

/-- The answer to a redirect of a provider. -/
def callback (r : Request) : Program demands Response :=
  match callbackParams r.parameters with
  | .error detail => pure (.text 400 ("Failed to deserialize query string: " ++ detail))
  | .ok params => do
    let outcome ← (s.flow.complete params).run
    pure (callbackResponse outcome)

/-- The answer to a request whose method its route does not allow. -/
def wrongMethod : Response := .empty 405

/-- The answer to a request on a route.  Where a token is wanted its absence comes before a wrong
method. -/
def respondOn (r : Request) (route : Route) : Program demands Response :=
  let allowed := route.allows r.method
  match route with
  | .user wish =>
    match r.token? with
    | none => pure noCredentials
    | some token => if allowed then s.respondTo (.bearer token) wish else pure wrongMethod
  | .verify project session => if allowed then verify r project session else pure wrongMethod
  | .callback => if allowed then s.callback r else pure wrongMethod
  | .health => pure (if allowed then .text 200 "ok" else wrongMethod)

/-- The answer to a request. -/
def respond (r : Request) : Program demands Response :=
  match Route.ofPath? r.path with
  | none => pure (.empty 404)
  | some route => do
    let response ← s.respondOn r route
    pure (if r.method = "HEAD" then response.withoutBody else response)

/-- What is done beside the answer to a request. -/
def usage (r : Request) : Program demands Unit :=
  match Route.ofPath? r.path, r.token? with
  | some (.user _), some token => Usage.program s.notesUsage token
  | _, _ => pure ()

end Service

end CredentialBroker.Web
