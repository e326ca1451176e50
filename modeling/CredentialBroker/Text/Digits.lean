namespace CredentialBroker.Text

/-!
# Reading numbers

Whole numbers without sign, written in decimal digits, an optional plus in front.  The reader
says why a text is no such number, and in which order the reasons are looked for.
-/

/-- Why a text is not a number within bounds. -/
inductive DigitsFault where
  /-- There is no text. -/
  | empty
  /-- Something else than digits is written, or no digit at all. -/
  | notADigit
  /-- The number is greater than the bound. -/
  | tooLarge
deriving DecidableEq, Repr

/-- The reason in words. -/
def DigitsFault.message : DigitsFault → String
  | .empty => "cannot parse integer from empty string"
  | .notADigit => "invalid digit found in string"
  | .tooLarge => "number too large to fit in target type"

/-- The number with the given digits after those of `n`; the first fault from the left counts. -/
def accumulate (bound : Nat) : Nat → List Char → Except DigitsFault Nat
  | n, [] => .ok n
  | n, c :: cs =>
    if c.isDigit then
      let m := n * 10 + (c.toNat - '0'.toNat)
      if bound < m then .error .tooLarge else accumulate bound m cs
    else .error .notADigit

/-- The number a text denotes, at most `bound`. -/
def number (bound : Nat) (s : String) : Except DigitsFault Nat :=
  match s.toList with
  | [] => .error .empty
  | ['+'] => .error .notADigit
  | '+' :: cs | cs => accumulate bound 0 cs

end CredentialBroker.Text
