import CredentialBroker.Text.Utf8

namespace CredentialBroker.Text

/-!
# Octets of characters

The octets of a text are those of its characters, and a character of ASCII is one octet.
-/

variable {c : Char} {cs : List Char}

/-- The octets of a list of characters. -/
def octetsOf (cs : List Char) : Bytes := cs.flatMap String.utf8EncodeChar

@[simp] theorem octetsOf_nil : octetsOf [] = [] := rfl

theorem octetsOf_cons : octetsOf (c :: cs) = String.utf8EncodeChar c ++ octetsOf cs :=
  List.flatMap_cons

theorem octetsOf_append {ds : List Char} : octetsOf (cs ++ ds) = octetsOf cs ++ octetsOf ds :=
  List.flatMap_append

theorem octetsOf_toList (s : String) : octetsOf s.toList = Text.utf8 s :=
  (Text.utf8_eq_flatMap s).symm

/-- A character of ASCII is one octet. -/
theorem encode_ascii (h : c.toNat < 0x80) : String.utf8EncodeChar c = [UInt8.ofNat c.toNat] := by
  have hle : c.val.toNat ≤ 0x7F := Nat.le_of_lt_succ h
  rw [String.utf8EncodeChar, if_pos hle]
  rfl

/-- The octet of a character of ASCII is read as that character. -/
theorem ofNat_octet (h : c.toNat < 0x80) : Char.ofNat (UInt8.ofNat c.toNat).toNat = c := by
  rw [UInt8.toNat_ofNat_of_lt' (Nat.lt_trans h (by decide)), Char.ofNat_toNat]

end CredentialBroker.Text
