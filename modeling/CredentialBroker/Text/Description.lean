import CredentialBroker.Text.Quoted

namespace CredentialBroker.Description

/-!
# Descriptions for logs

The text of a value for a log line: a record as its name with its fields between braces, a list
between brackets, an absent value as a word.  What must not be shown is written as `redacted`.
-/

/-- The text in the place of a value that must not be shown. -/
def redacted : String := Text.quoted "[REDACTED]"

/-- The fields with their values, separated by commas. -/
def fieldTexts (fields : List (String × String)) : List String :=
  fields.map fun f => f.1 ++ ": " ++ f.2

/-- A record with all its fields. -/
def record (name : String) (fields : List (String × String)) : String :=
  name ++ " \x7b " ++ ", ".intercalate (fieldTexts fields) ++ " \x7d"

/-- A record that shows some of its fields. -/
def partialRecord (name : String) (fields : List (String × String)) : String :=
  name ++ " \x7b " ++ ", ".intercalate (fieldTexts fields ++ [".."]) ++ " \x7d"

/-- A list. -/
def list (items : List String) : String := "[" ++ ", ".intercalate items ++ "]"

/-- A list of texts. -/
def texts (xs : List String) : String := list (xs.map Text.quoted)

/-- A map of texts. -/
def textMap (entries : List (String × String)) : String :=
  "\x7b" ++ ", ".intercalate (entries.map fun e => Text.quoted e.1 ++ ": " ++ Text.quoted e.2) ++
    "\x7d"

/-- A value that may be absent. -/
def option {α : Type} (text : α → String) : Option α → String
  | none => "None"
  | some a => "Some(" ++ text a ++ ")"

end CredentialBroker.Description
