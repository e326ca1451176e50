import CredentialBroker.Codec.Percent

namespace CredentialBroker.Form

/-!
# Form encoding

The format `application/x-www-form-urlencoded`: pairs joined by `&`, name and value joined by
`=`, a blank written `+`, and every octet that is not a letter, a digit or one of `*-._` escaped.
Reading skips empty pairs, takes a pair without `=` as a name with an empty value, and reads the
decoded octets as text with replacement characters.
-/

/-- The octets that stand for themselves. -/
def plain (b : UInt8) : Bool :=
  (0x30 ≤ b && b ≤ 0x39) || (0x41 ≤ b && b ≤ 0x5A) || (0x61 ≤ b && b ≤ 0x7A) ||
    Percent.isOneOf "*-._" b

/-- One octet of a name or value. -/
def encodeOctet (b : UInt8) : List Char :=
  if b = 0x20 then ['+'] else if plain b then [Char.ofNat b.toNat] else Percent.escape b

/-- A name or value. -/
def encodeText (s : String) : List Char :=
  (Text.utf8 s).flatMap encodeOctet

/-- A pair. -/
def encodePair (p : String × String) : List Char :=
  encodeText p.1 ++ '=' :: encodeText p.2

/-- The pairs, joined. -/
def encodePairs : List (String × String) → List Char
  | [] => []
  | [p] => encodePair p
  | p :: ps => encodePair p ++ '&' :: encodePairs ps

/-- The text of a list of pairs. -/
def encode (ps : List (String × String)) : String := String.ofList (encodePairs ps)

/-- The parts of a sequence between the octets equal to `sep`. -/
def splitOctets (sep : UInt8) : Bytes → List Bytes
  | [] => [[]]
  | b :: bs =>
    if b = sep then [] :: splitOctets sep bs
    else match splitOctets sep bs with
      | [] => [[b]]
      | p :: ps => (b :: p) :: ps

/-- The text of a name or value as written. -/
def decodeText (bs : Bytes) : String :=
  Text.ofUtf8Lossy (Percent.decodeOctets (bs.map fun b => if b = 0x2B then 0x20 else b))

/-- The pair written in a sequence of octets: the name ends at the first `=`. -/
def decodePair (bs : Bytes) : String × String :=
  (decodeText (bs.takeWhile (· ≠ 0x3D)), decodeText ((bs.dropWhile (· ≠ 0x3D)).drop 1))

/-- The pairs written in a sequence of octets. -/
def decodeOctets (bs : Bytes) : List (String × String) :=
  ((splitOctets 0x26 bs).filter fun p => !p.isEmpty).map decodePair

/-- The pairs written in a text. -/
def decode (s : String) : List (String × String) := decodeOctets (Text.utf8 s)

end CredentialBroker.Form
