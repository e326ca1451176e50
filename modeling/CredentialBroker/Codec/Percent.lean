import CredentialBroker.Text.Utf8

namespace CredentialBroker.Percent

/-!
# Percent encoding

An octet is written as `%` and two capital hexadecimal digits; a set of octets says which ones are
written so.  Decoding leaves a `%` without two digits as it is.
-/

/-- A hexadecimal digit, capital letters. -/
def hexChar (n : Nat) : Char :=
  if n < 10 then Char.ofNat (n + '0'.toNat) else Char.ofNat (n - 10 + 'A'.toNat)

/-- The value of an octet that is a hexadecimal digit. -/
def hexValue? (b : UInt8) : Option Nat :=
  if 0x30 ≤ b ∧ b ≤ 0x39 then some (b.toNat - 0x30)
  else if 0x41 ≤ b ∧ b ≤ 0x46 then some (b.toNat - 0x41 + 10)
  else if 0x61 ≤ b ∧ b ≤ 0x66 then some (b.toNat - 0x61 + 10)
  else none

/-- The three characters of an escaped octet. -/
def escape (b : UInt8) : List Char :=
  ['%', hexChar (b.toNat / 16), hexChar (b.toNat % 16)]

/-- A sequence of octets with those of a set escaped; the octets outside it must be ASCII. -/
def encodeOctets (escaped : UInt8 → Bool) (bs : Bytes) : List Char :=
  bs.flatMap fun b => if escaped b then escape b else [Char.ofNat b.toNat]

/-- A text with the octets of a set escaped. -/
def encode (escaped : UInt8 → Bool) (s : String) : String :=
  String.ofList (encodeOctets escaped (Text.utf8 s))

/-- The octets with every escape replaced by the octet it stands for. -/
def decodeOctets : Bytes → Bytes
  | [] => []
  | b :: rest =>
    if b = 0x25 then
      match rest with
      | x :: y :: rest' =>
        match hexValue? x, hexValue? y with
        | some h, some l => UInt8.ofNat (h * 16 + l) :: decodeOctets rest'
        | _, _ => b :: decodeOctets (x :: y :: rest')
      | [x] => [b, x]
      | [] => [b]
    else b :: decodeOctets rest

/-- The octets a text stands for. -/
def decode (s : String) : Bytes := decodeOctets (Text.utf8 s)

/-! ### Sets -/

/-- Control characters and everything outside ASCII. -/
def control (b : UInt8) : Bool := b < 0x20 || b ≥ 0x7F

/-- Whether an octet is one of the given ASCII characters. -/
def isOneOf (cs : String) (b : UInt8) : Bool := cs.toList.any fun c => c.toNat = b.toNat

/-- The octets escaped in a fragment. -/
def fragmentSet (b : UInt8) : Bool := control b || isOneOf " \"<>`" b

/-- The octets escaped in a path. -/
def pathSet (b : UInt8) : Bool := fragmentSet b || isOneOf "#?\x7b\x7d" b

/-- The octets escaped in the user information. -/
def userinfoSet (b : UInt8) : Bool := pathSet b || isOneOf "/:;=@[\\]^|" b

/-- The octets escaped in a query. -/
def querySet (b : UInt8) : Bool := control b || isOneOf " \"#<>" b

/-- The octets escaped in the query of a URL with a special scheme. -/
def specialQuerySet (b : UInt8) : Bool := querySet b || isOneOf "'" b

end CredentialBroker.Percent
