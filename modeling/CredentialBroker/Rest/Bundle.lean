import CredentialBroker.Codec.Base64
import CredentialBroker.Text.Split

namespace CredentialBroker.Rest

/-!
# Bundles of certificates

A bundle is a text with sections between a line `-----BEGIN label-----` and a line
`-----END label-----`; what stands outside sections is skipped.  The content of a section is base64,
and that of a certificate is a sequence of three parts: what is certified, how it is signed, and the
signature.
-/

namespace Bundle

/-- An octet sequence with a length of its own: a tag, the content, and what follows. -/
def element? : Bytes → Option (UInt8 × Bytes × Bytes)
  | tag :: n :: bs =>
    if n < 0x80 then
      if n.toNat ≤ bs.length then some (tag, bs.take n.toNat, bs.drop n.toNat) else none
    else
      let digits := bs.take (n.toNat - 0x80)
      let bs := bs.drop (n.toNat - 0x80)
      let length := digits.foldl (fun l b => l * 256 + b.toNat) 0
      if digits ≠ [] ∧ length ≤ bs.length then some (tag, bs.take length, bs.drop length) else none
  | _ => none

/-- The tags of the first elements, at most `count`, to the end of the octets. -/
def tags? : (count : Nat) → Bytes → Option (List UInt8)
  | _, [] => some []
  | 0, _ :: _ => none
  | count + 1, b :: bs => do
    let (tag, _, rest) ← element? (b :: bs)
    pure (tag :: (← tags? count rest))

/-- The tag of a sequence. -/
def sequenceTag : UInt8 := 0x30

/-- The tag of a string of bits. -/
def bitsTag : UInt8 := 0x03

/-- Whether octets have the form of a certificate. -/
def isCertificate (bs : Bytes) : Bool :=
  match element? bs with
  | some (tag, content, []) =>
    tag = sequenceTag && tags? 3 content = some [sequenceTag, sequenceTag, bitsTag]
  | _ => false

/-- What a line begins a section with. -/
def beginMark : List Char := "-----BEGIN ".toList

/-- The last hyphens of a line, counted without the blanks around them, and the line before. -/
def closingHyphens (line : List Char) : Nat × List Char :=
  let closing := line.reverse.takeWhile fun c => c = '-' || c = ' '
  let blanks := closing.reverse.takeWhile (· = ' ')
  ((closing.filter (· = '-')).length, line.take (line.length - closing.length + blanks.length))

/-- The label of the section that a line begins; nothing inside when the line is not closed by five
hyphens, nothing at all when it begins no section. -/
def opened? (line : List Char) : Option (Option (List Char)) :=
  if beginMark.isPrefixOf line then
    let (hyphens, front) := closingHyphens line
    some (if hyphens = 5 then some (front.drop beginMark.length) else none)
  else none

/-- The labels of sections whose content counts. -/
def labels : List String :=
  ["CERTIFICATE", "PUBLIC KEY", "RSA PRIVATE KEY", "PRIVATE KEY", "EC PRIVATE KEY", "X509 CRL",
   "CERTIFICATE REQUEST", "ECHCONFIG"]

/-- The octets of the content of a section. -/
def content? (cs : List Char) : Option Bytes :=
  Base64.decodeChars Base64.standard .upToCanonical (cs.filter fun c => !(c = ' ' || c = '\t'))

/-- The certificates in the lines of a bundle; `label` is that of the section that is open, and
`content` what it holds so far, or nothing when a section is not as it should be. -/
def certificatesIn? : (label : Option (List Char)) → (content : List Char) → List (List Char) →
    Option (List Bytes)
  | none, _, [] => some []
  | some _, _, [] => none
  | label, content, line :: lines =>
    match opened? line, label with
    | some label, _ => label.bind fun label => certificatesIn? (some label) content lines
    | none, none => certificatesIn? none content lines
    | none, some label =>
      if ("-----END ".toList ++ label ++ "-----".toList).isPrefixOf line then
        if (String.ofList label) ∈ labels then do
          let bs ← content? content
          let rest ← certificatesIn? none [] lines
          pure (if label = "CERTIFICATE".toList then bs :: rest else rest)
        else certificatesIn? none [] lines
      else certificatesIn? (some label) (content ++ line) lines

/-- The certificates of a bundle. -/
def certificates? (bundle : Bytes) : Option (List Bytes) :=
  let cs := bundle.map fun b => Char.ofNat b.toNat
  certificatesIn? none [] ((Text.piecesChars '\n' cs).flatMap (Text.piecesChars '\r'))

/-- Whether the certificates of a bundle can be trusted. -/
def isUsable (bundle : Bytes) : Bool := (certificates? bundle).any (·.all isCertificate)

end Bundle

end CredentialBroker.Rest
