import CredentialBroker.Text.Printable

namespace CredentialBroker.Text

/-!
# Quoted texts

A text between double quotes with everything escaped that would not show: `\0`, `\t`, `\n`,
`\r`, `\\` and `\"`, and any other hidden character by its code point in braces.
-/

/-- A number in hexadecimal digits. -/
def hexDigits (n : Nat) : List Char := Nat.toDigits 16 n

/-- A character as it is written between quotes. -/
def escapedChar (c : Char) : List Char :=
  match c with
  | '\x00' => ['\\', '0']
  | '\t' => ['\\', 't']
  | '\n' => ['\\', 'n']
  | '\r' => ['\\', 'r']
  | '\\' => ['\\', '\\']
  | '"' => ['\\', '"']
  | c => if shows c then [c] else "\\u\x7b".toList ++ hexDigits c.toNat ++ ['}']

/-- A text between double quotes. -/
def quoted (s : String) : String :=
  String.ofList ('"' :: s.toList.flatMap escapedChar ++ ['"'])

end CredentialBroker.Text
