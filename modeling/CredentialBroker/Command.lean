import CredentialBroker.Json.Writer
import CredentialBroker.Web.Setup

namespace CredentialBroker

/-!
# Commands

The command line: a command with its options as it is written, and what it prints.  Both commands
need the settings and the time and nothing else.
-/

/-- What the command line asks for. -/
inductive Command where
  /-- A state token for a session. -/
  | signState (provider project session : String)
  /-- The payload of a state token. -/
  | verifyState (token : String)
deriving DecidableEq

namespace Command

/-- How commands are written. -/
def usage : String :=
  "usage: sign-state [--provider PROVIDER] --project PROJECT --session SESSION\n" ++
  "       verify-state TOKEN"

/-- The values of options, each option followed by its value. -/
def options? (names : List String) : List String → Option (SortedMap String String)
  | [] => some ∅
  | name :: value :: rest => do
    let values ← options? names rest
    if names.contains name && !values.contains name then some (values.insert name value) else none
  | _ => none

/-- The command that arguments make up. -/
def ofArguments? : List String → Option Command
  | "sign-state" :: rest => do
    let values ← options? ["--provider", "--project", "--session"] rest
    let project ← values.get? "--project"
    let session ← values.get? "--session"
    pure (.signState ((values.get? "--provider").getD ProviderKind.google.text) project session)
  | ["verify-state", token] => some (.verifyState token)
  | _ => none

/-- What a command prints, or why it fails. -/
def run (s : Settings) (now : Timestamp) (c : Command) : Except String String :=
  match s.signer? with
  | none => .error "OAUTH_STATE_SECRET is not set"
  | some signer =>
    match c with
    | .signState provider project session =>
      .ok (signer.sign ⟨provider, project, session, now.seconds⟩)
    | .verifyState token =>
      match signer.verify token now.seconds with
      | .ok payload => .ok (Json.pretty payload.toJson)
      | .error e => .error e.message

end Command

end CredentialBroker
