namespace CredentialBroker.Word

/-!
# Words

How many values a word of so many bits has.  Lengths of time, numbers in documents and numbers in
settings are bounded by words of 16, 32, 63 and 64 bits.
-/

/-- The number of values of a word with the given number of bits. -/
def values (bits : Nat) : Nat := Nat.pow 2 bits

theorem values_63 : values 63 = 9223372036854775808 := rfl

theorem values_64 : values 64 = 18446744073709551616 := rfl

end CredentialBroker.Word
