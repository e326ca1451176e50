namespace CredentialBroker.Text

/-!
# Ranges of code points

A class of characters is a list of ranges of code points, first and last included.
-/

/-- Whether the code point of a character lies in one of the ranges. -/
def inRanges (ranges : List (Nat × Nat)) (c : Char) : Bool :=
  ranges.any fun r => r.1 ≤ c.toNat && c.toNat ≤ r.2

end CredentialBroker.Text
