import CredentialBroker.Credential.Error
import CredentialBroker.OAuth.Flow
import CredentialBroker.Web.Message

namespace CredentialBroker.Web

/-!
# The page after a redirect

What a user sees when a provider has sent them back: a title and a sentence.
-/

/-- The page with a title and a sentence. -/
def page (title body : String) : String :=
  "<!doctype html><html><head><title>" ++ title ++ "</title></head><body><h1>" ++ title ++
    "</h1><p>" ++ body ++ "</p><p>You can close this window.</p></body></html>"

/-- The title of the page after a flow that went well. -/
def completeTitle : String := "Authorization complete"

/-- The title of the page after a flow that did not. -/
def failedTitle : String := "Authorization failed"

/-- The answer to a redirect. -/
def callbackResponse : Except CredentialError CallbackOutcome → Response
  | .ok (.stored _ provider _) =>
    .html 200 (page completeTitle
      ("Your " ++ provider.text ++ " account is connected to the session."))
  | .ok (.providerDenied ..) =>
    .html 400 (page failedTitle "The provider did not grant access.")
  | .error e => .html e.status (page failedTitle e.publicMessage)

/-- The only value of a parameter that is given at most once. -/
def single? (name : String) (ps : List (String × String)) : Except String (Option String) :=
  match ps.filter fun p => p.1 = name with
  | [] => .ok none
  | [p] => .ok (some p.2)
  | _ => .error ("duplicate field `" ++ name ++ "`")

/-- What a redirect brings in its parameters. -/
def callbackParams (ps : List (String × String)) : Except String CallbackParams := do
  let code ← single? "code" ps
  let state ← single? "state" ps
  let error ← single? "error" ps
  let errorDescription ← single? "error_description" ps
  pure ⟨code, state, error, errorDescription⟩

end CredentialBroker.Web
