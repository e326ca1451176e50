import CredentialBroker.Text.Blank
import CredentialBroker.Text.Digits
import CredentialBroker.Text.Split
import CredentialBroker.Text.Utf8

namespace CredentialBroker

/-!
# Variables of the environment

A variable counts by its text without the blanks around it, and a blank one counts as not set.  A
variable that is set is read or refused, never replaced by a default.
-/

/-- The variables of the environment, as octets. -/
abbrev Environment := String → Option Bytes

/-- Why settings are refused. -/
inductive SettingsError where
  /-- A variable must be set. -/
  | missing (key hint : String)
  /-- The value of a variable is refused. -/
  | invalid (key reason : String)
deriving DecidableEq

/-- The refusal in words. -/
def SettingsError.message : SettingsError → String
  | .missing key hint => "Missing required configuration: " ++ key ++ ". " ++ hint
  | .invalid key reason => "Invalid configuration value for " ++ key ++ ": " ++ reason

/-- The name of the refusal. -/
def SettingsError.label : SettingsError → String
  | .missing .. => "MissingRequired"
  | .invalid .. => "InvalidValue"

namespace Environment

variable (env : Environment)

/-- The text of a variable that is set. -/
def text? (key : String) : Except SettingsError (Option String) :=
  match env key with
  | none => .ok none
  | some octets =>
    match Text.ofUtf8? octets with
    | none => .error (.invalid key "value is not valid unicode")
    | some s => .ok ((some (Text.trim s)).filter (· ≠ ""))

/-- The text of a variable, or a default. -/
def text (key d : String) : Except SettingsError String := do
  let found ← env.text? key
  pure (found.getD d)

/-- The number in a variable, at most `bound`, or a default. -/
def number (key : String) (bound d : Nat) : Except SettingsError Nat := do
  match ← env.text? key with
  | none => pure d
  | some s => (Text.number bound s).mapError fun f => .invalid key f.message

/-- The truth value that a word stands for, whatever the case of its letters. -/
def flagOf? (word : String) : Option Bool :=
  let word := Text.lowercase word
  if ["1", "true", "yes", "on"].contains word then some true
  else if ["0", "false", "no", "off"].contains word then some false
  else none

/-- The truth value in a variable, or a default. -/
def flag (key : String) (d : Bool) : Except SettingsError Bool := do
  match ← env.text? key with
  | none => pure d
  | some s =>
    match flagOf? s with
    | some b => pure b
    | none => throw (.invalid key ("expected a boolean, got '" ++ s ++ "'"))

end Environment

end CredentialBroker
