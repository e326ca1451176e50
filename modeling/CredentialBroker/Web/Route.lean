import CredentialBroker.Cluster.Ref
import CredentialBroker.Web.Message

namespace CredentialBroker.Web

/-!
# Routes

The paths this program answers.  A path is matched as it was sent, piece by piece; its parameters
are unescaped afterwards and may contain anything, slashes too.  An empty piece is a parameter like
any other: between two slashes there is a namespace whose name is empty.
-/

/-- A path that is answered to users, who must present a token; its parameters as they were
sent. -/
inductive UserRoute where
  /-- Start a session. -/
  | start (project session : String)
  /-- Stop a session. -/
  | stop (project session : String)
  /-- Begin an authorization flow. -/
  | authorize (project session provider : String)
deriving DecidableEq

/-- A path that is answered, its parameters as they were sent. -/
inductive Route where
  /-- What users ask for. -/
  | user (route : UserRoute)
  /-- Check who a job is. -/
  | verify (project session : String)
  /-- Take the redirect of a provider. -/
  | callback
  /-- Say that this program runs. -/
  | health
deriving DecidableEq

namespace Route

/-- The route of a path.  A parameter may be empty. -/
def ofPath? (path : String) : Option Route :=
  match Text.pieces '/' path with
  | ["", "api", "projects", project, "sessions", session, "start"] =>
    some (.user (.start project session))
  | ["", "api", "projects", project, "sessions", session, "stop"] =>
    some (.user (.stop project session))
  | ["", "api", "projects", project, "sessions", session, "oauth", provider, "url"] =>
    some (.user (.authorize project session provider))
  | ["", "api", "projects", project, "sessions", session, "runner", "verify"] =>
    some (.verify project session)
  | ["", "oauth2callback"] => some .callback
  | ["", "health"] => some .health
  | _ => none

/-- Whether a route is read, not posted to. -/
def isRead : Route → Bool
  | .user (.authorize ..) | .callback | .health => true
  | .user (.start ..) | .user (.stop ..) | .verify .. => false

/-- Whether a method is answered on a route. -/
def allows (route : Route) (method : String) : Bool :=
  if route.isRead then method = "GET" || method = "HEAD" else method = "POST"

end Route

/-- A parameter of a path, unescaped; the answer to a request where it is no text. -/
def unescaped (name value : String) : Except Response String :=
  match Text.ofUtf8? (Percent.decode value) with
  | some s => .ok s
  | none => .error (.text 400 ("Invalid URL: Invalid UTF-8 in `" ++ name ++ "`"))

/-- The session that a path names. -/
def sessionRef (project session : String) : Except Response ObjectRef := do
  let ns ← unescaped "project" project
  let name ← unescaped "session" session
  pure ⟨ns, name⟩

end CredentialBroker.Web
