import CredentialBroker.Text.Utf8

namespace CredentialBroker.Base64

/-!
# Base64

Three octets are four symbols of six bits.  An `Alphabet` names the last two symbols; `encode`
writes without padding and `encodePadded` with it.  Reading is exact about the bits that a last
group leaves over (they must be zero); how many `=` may stand at the end is a `Padding`.
-/

/-- The two symbols that variants of the format differ in. -/
structure Alphabet where
  /-- The symbol of the value 62. -/
  symbol62 : Char
  /-- The symbol of the value 63. -/
  symbol63 : Char

/-- The standard alphabet. -/
def standard : Alphabet := ⟨'+', '/'⟩

/-- The alphabet for URLs and file names. -/
def urlSafe : Alphabet := ⟨'-', '_'⟩

/-- How many padding signs a text may end with. -/
inductive Padding where
  /-- As many as fill the last group. -/
  | canonical
  /-- Any number up to the canonical one. -/
  | upToCanonical
deriving DecidableEq

namespace Alphabet

/-- The symbol of a value below 64. -/
def symbol (al : Alphabet) (n : Nat) : Char :=
  if n < 26 then Char.ofNat (n + 'A'.toNat)
  else if n < 52 then Char.ofNat (n - 26 + 'a'.toNat)
  else if n < 62 then Char.ofNat (n - 52 + '0'.toNat)
  else if n = 62 then al.symbol62
  else al.symbol63

/-- The value of a symbol. -/
def value? (al : Alphabet) (c : Char) : Option Nat :=
  if 'A' ≤ c ∧ c ≤ 'Z' then some (c.toNat - 'A'.toNat)
  else if 'a' ≤ c ∧ c ≤ 'z' then some (c.toNat - 'a'.toNat + 26)
  else if '0' ≤ c ∧ c ≤ '9' then some (c.toNat - '0'.toNat + 52)
  else if c = al.symbol62 then some 62
  else if c = al.symbol63 then some 63
  else none

end Alphabet

/-! ### Writing -/

/-- The symbols of a sequence of octets. -/
def encodeChars (al : Alphabet) : Bytes → List Char
  | [] => []
  | [a] => [al.symbol (a.toNat / 4), al.symbol (a.toNat % 4 * 16)]
  | [a, b] =>
    [al.symbol (a.toNat / 4), al.symbol (a.toNat % 4 * 16 + b.toNat / 16),
     al.symbol (b.toNat % 16 * 4)]
  | a :: b :: c :: rest =>
    al.symbol (a.toNat / 4) :: al.symbol (a.toNat % 4 * 16 + b.toNat / 16) ::
      al.symbol (b.toNat % 16 * 4 + c.toNat / 64) :: al.symbol (c.toNat % 64) ::
      encodeChars al rest

/-- The number of padding signs that fill the last group of `n` symbols. -/
def fill (n : Nat) : Nat := (4 - n % 4) % 4

/-- The text of a sequence of octets, without padding. -/
def encode (al : Alphabet) (bs : Bytes) : String :=
  String.ofList (encodeChars al bs)

/-- The text of a sequence of octets, filled up to whole groups. -/
def encodePadded (al : Alphabet) (bs : Bytes) : String :=
  let cs := encodeChars al bs
  String.ofList (cs ++ List.replicate (fill cs.length) '=')

/-! ### Reading -/

/-- The octet with the given value. -/
def octet (n : Nat) : UInt8 := UInt8.ofNat n

/-- The octets of a list of symbol values; a last group of one value is refused, and so is one
whose unused bits are not zero. -/
def decodeValues : List Nat → Option Bytes
  | [] => some []
  | [_] => none
  | [x, y] => if y % 16 = 0 then some [octet (x * 4 + y / 16)] else none
  | [x, y, z] =>
    if z % 4 = 0 then some [octet (x * 4 + y / 16), octet (y % 16 * 16 + z / 4)] else none
  | x :: y :: z :: w :: rest =>
    (decodeValues rest).map fun bs =>
      octet (x * 4 + y / 16) :: octet (y % 16 * 16 + z / 4) :: octet (z % 4 * 64 + w) :: bs

/-- Whether `n` symbols may be followed by `pads` padding signs. -/
def Padding.admits (p : Padding) (n pads : Nat) : Bool :=
  match p with
  | .canonical => pads = fill n
  | .upToCanonical => pads ≤ fill n

/-- The octets of a list of characters: symbols, then padding signs to the end. -/
def decodeChars (al : Alphabet) (p : Padding) (cs : List Char) : Option Bytes :=
  let symbols := cs.takeWhile (· ≠ '=')
  let pads := cs.dropWhile (· ≠ '=')
  if pads.all (· = '=') && p.admits symbols.length pads.length then
    (symbols.mapM al.value?).bind decodeValues
  else none

/-- The octets that a text stands for. -/
def decode? (al : Alphabet) (p : Padding) (s : String) : Option Bytes :=
  decodeChars al p s.toList

end CredentialBroker.Base64
