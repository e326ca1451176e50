import CredentialBroker.Json.Basic
import CredentialBroker.Number.Shortest

namespace CredentialBroker.Json

/-!
# Writing JSON text

`compact` writes a document without blanks and `pretty` with two spaces for each level, an empty
container staying on one line.  Both escape quotes, backslashes and the control characters below
space, and nothing else.
-/

/-- A hexadecimal digit, small letters. -/
def hexChar (n : Nat) : Char :=
  if n < 10 then Char.ofNat (n + '0'.toNat) else Char.ofNat (n - 10 + 'a'.toNat)

/-- A character inside quotes. -/
def escapeChar (c : Char) : List Char :=
  match c with
  | '"' => ['\\', '"']
  | '\\' => ['\\', '\\']
  | '\x08' => ['\\', 'b']
  | '\x0C' => ['\\', 'f']
  | '\n' => ['\\', 'n']
  | '\r' => ['\\', 'r']
  | '\t' => ['\\', 't']
  | c =>
    if c.toNat < 0x20 then ['\\', 'u', '0', '0', hexChar (c.toNat / 16), hexChar (c.toNat % 16)]
    else [c]

/-- A text in quotes. -/
def quoted (s : String) : List Char :=
  '"' :: (s.toList.flatMap escapeChar ++ ['"'])

/-- A number in digits. -/
def digits (n : Int) : List Char := (toString n).toList

/-- The parts with a separator between them. -/
def separated (sep : List Char) : List (List Char) → List Char
  | [] => []
  | [x] => x
  | x :: xs => x ++ sep ++ separated sep xs

mutual

/-- The characters of a document written without blanks. -/
def compactChars : Json → List Char
  | .null | .illFormed => "null".toList
  | .bool true => "true".toList
  | .bool false => "false".toList
  | .int n => digits n
  | .real x => x.text
  | .str s => quoted s
  | .arr items => '[' :: (separated [','] (compactItems items) ++ [']'])
  | .obj members => '{' :: (separated [','] (compactMembers members) ++ ['}'])

/-- The items of a list, each written without blanks. -/
def compactItems : List Json → List (List Char)
  | [] => []
  | j :: js => compactChars j :: compactItems js

/-- The members of an object, each written without blanks. -/
def compactMembers : List (String × Json) → List (List Char)
  | [] => []
  | (k, j) :: ms => (quoted k ++ ':' :: compactChars j) :: compactMembers ms

end

/-- The start of a line at the given level. -/
def newline (level : Nat) : List Char := '\n' :: List.replicate (2 * level) ' '

/-- A container with its parts on lines of their own. -/
def block (opening closing : Char) (level : Nat) (parts : List (List Char)) : List Char :=
  if parts.isEmpty then [opening, closing]
  else opening :: (newline (level + 1) ++ separated (',' :: newline (level + 1)) parts
    ++ newline level ++ [closing])

mutual

/-- The characters of a document written over lines, nested `level` deep. -/
def prettyChars (level : Nat) : Json → List Char
  | .arr items => block '[' ']' level (prettyItems (level + 1) items)
  | .obj members => block '{' '}' level (prettyMembers (level + 1) members)
  | .null | .illFormed => "null".toList
  | .bool true => "true".toList
  | .bool false => "false".toList
  | .int n => digits n
  | .real x => x.text
  | .str s => quoted s

/-- The items of a list, each written over lines. -/
def prettyItems (level : Nat) : List Json → List (List Char)
  | [] => []
  | j :: js => prettyChars level j :: prettyItems level js

/-- The members of an object, each written over lines. -/
def prettyMembers (level : Nat) : List (String × Json) → List (List Char)
  | [] => []
  | (k, j) :: ms => (quoted k ++ ':' :: ' ' :: prettyChars level j) :: prettyMembers level ms

end

/-- The document on one line without blanks. -/
def compact (j : Json) : String := String.ofList (compactChars j)

/-- The document over lines, two spaces for each level. -/
def pretty (j : Json) : String := String.ofList (prettyChars 0 j)

end CredentialBroker.Json
