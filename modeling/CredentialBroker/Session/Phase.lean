namespace CredentialBroker

/-!
# Phases of a session

A session that has reached a terminal phase is over; starting it again continues it.
-/

/-- The phase a session reports in its status. -/
inductive Phase where
  /-- Asked for, not yet taken up. -/
  | pending
  /-- Its job is being made. -/
  | creating
  /-- Its job runs. -/
  | running
  /-- Its job has ended well. -/
  | completed
  /-- Its job has ended badly. -/
  | failed
  /-- A user has stopped it. -/
  | stopped
  /-- It could not be run. -/
  | error
deriving DecidableEq, Repr

namespace Phase

/-- All phases. -/
def all : List Phase := [.pending, .creating, .running, .completed, .failed, .stopped, .error]

/-- Whether the phase ends a session. -/
def isTerminal : Phase → Bool
  | .completed | .failed | .stopped | .error => true
  | .pending | .creating | .running => false

/-- The word for a phase. -/
def text : Phase → String
  | .pending => "Pending"
  | .creating => "Creating"
  | .running => "Running"
  | .completed => "Completed"
  | .failed => "Failed"
  | .stopped => "Stopped"
  | .error => "Error"

/-- The phase a word stands for, letter for letter. -/
def ofText? (s : String) : Option Phase := all.find? fun p => p.text = s

/-- What is said of a word that stands for no phase. -/
def unknownMessage (s : String) : String := "unknown session phase '" ++ s ++ "'"

@[simp] theorem ofText?_text (p : Phase) : ofText? p.text = some p := by
  cases p <;> decide +kernel

/-- A word stands for a phase exactly when it is the word for it. -/
theorem ofText?_eq_some_iff {s : String} {p : Phase} : ofText? s = some p ↔ p.text = s := by
  constructor
  · intro h
    simpa using List.find?_some h
  · rintro rfl
    exact ofText?_text p

end Phase

end CredentialBroker
