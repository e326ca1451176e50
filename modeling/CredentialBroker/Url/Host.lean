import CredentialBroker.Codec.Percent
import CredentialBroker.Text.Split
import CredentialBroker.Url.Domain
import CredentialBroker.Word

namespace CredentialBroker.Url

/-!
# Hosts

The host of a URL with a special scheme is an address or a domain: it is percent-decoded and put in
the ASCII form of domains, and what then looks like an address of four numbers is one or is refused.
Other hosts are kept as written.
-/

/-- The characters no host may hold. -/
def hostForbidden (c : Char) : Bool :=
  c.toNat = 0 || c = '\t' || c = '\n' || c = '\r' || " #/:<>?@[\\]^|".toList.contains c

/-! ### Addresses of four numbers -/

/-- The value of digits in a base up to 16; no digits are zero. -/
def numberIn? (base : Nat) (cs : List Char) : Option Nat :=
  cs.foldlM (fun n c => do
    let d ← if c.isDigit then some (c.toNat - '0'.toNat)
      else if 'a' ≤ c ∧ c ≤ 'f' then some (c.toNat - 'a'.toNat + 10)
      else if 'A' ≤ c ∧ c ≤ 'F' then some (c.toNat - 'A'.toNat + 10)
      else none
    if d < base then some (n * base + d) else none) 0

/-- A part of an address: decimal, octal after a zero, hexadecimal after `0x`. -/
def addressPart? : List Char → Option Nat
  | [] => none
  | '0' :: 'x' :: cs | '0' :: 'X' :: cs => numberIn? 16 cs
  | '0' :: c :: cs => numberIn? 8 (c :: cs)
  | cs => numberIn? 10 cs

/-- The parts of a domain without the empty one that a dot at the end leaves. -/
def addressParts (cs : List Char) : List (List Char) :=
  let parts := Text.piecesChars '.' cs
  match parts.reverse with
  | [] :: p :: ps => (p :: ps).reverse
  | _ => parts

/-- Whether a domain is to be read as an address: its last part is a number. -/
def endsInNumber (cs : List Char) : Bool :=
  match (addressParts cs).getLast? with
  | some p => (!p.isEmpty && p.all Char.isDigit) ||
      (match p with
        | '0' :: 'x' :: ds | '0' :: 'X' :: ds => (numberIn? 16 ds).isSome
        | _ => false)
  | none => false

/-- The number that the parts of an address denote; the last part fills the octets left. -/
def addressValue? : List Nat → Option Nat
  | [] => none
  | ns =>
    let last := ns.getLastD 0
    let front := ns.dropLast
    if ns.length ≤ 4 ∧ (front.all fun n => decide (n < 256)) ∧
        last < Word.values (8 * (5 - ns.length)) then
      some (front.zipIdx.foldl (fun n p => n + p.1 * Word.values (8 * (3 - p.2))) last)
    else none

/-- The text of an address of four numbers. -/
def addressText? (cs : List Char) : Option String := do
  let ns ← (addressParts cs).mapM addressPart?
  let v ← addressValue? ns
  pure (".".intercalate ([v / 16777216, v / 65536 % 256, v / 256 % 256, v % 256].map toString))

/-! ### Addresses of eight pieces -/

/-- The two pieces of a trailing address of four numbers. -/
def embedded? (cs : List Char) : Option (List Nat) := do
  let parts := Text.piecesChars '.' cs
  if parts.length ≠ 4 then none
  let ns ← parts.mapM fun p =>
    if p.isEmpty ∨ (p.length > 1 ∧ p.head? = some '0') ∨ !p.all Char.isDigit then none
    else do
      let n ← numberIn? 10 p
      if n < 256 then some n else none
  match ns with
  | [a, b, c, d] => some [a * 256 + b, c * 256 + d]
  | _ => none

/-- The pieces of one side of an address; `last` says whether an address of four numbers may end
it. -/
def sidePieces? (last : Bool) (cs : List Char) : Option (List Nat) :=
  if cs.isEmpty then some []
  else
    let parts := Text.piecesChars ':' cs
    let n := parts.length
    (parts.zipIdx.mapM fun part : List Char × Nat =>
      if last ∧ part.2 + 1 = n ∧ part.1.contains '.' then embedded? part.1
      else if part.1.isEmpty ∨ part.1.length > 4 then none
      else (numberIn? 16 part.1).map fun v => [v]).map List.flatten

/-- The characters before and after the first doubled colon. -/
def cutDouble : List Char → Option (List Char × List Char)
  | [] => none
  | ':' :: ':' :: cs => some ([], cs)
  | c :: cs => (cutDouble cs).map fun p => (c :: p.1, p.2)

/-- The eight pieces of an address. -/
def pieces? (cs : List Char) : Option (List Nat) :=
  match cutDouble cs with
  | none => do
    let ps ← sidePieces? true cs
    if ps.length = 8 then some ps else none
  | some (l, r) => do
    let ls ← sidePieces? false l
    let rs ← sidePieces? true r
    if ls.length + rs.length ≤ 7 then
      some (ls ++ List.replicate (8 - ls.length - rs.length) 0 ++ rs)
    else none

/-- The start and length of the first longest run of zeros. -/
def longestRun (ps : List Nat) : Nat × Nat :=
  (List.range ps.length).foldl (fun best i =>
    let n := ((ps.drop i).takeWhile (· = 0)).length
    if n > best.2 then (i, n) else best) (0, 0)

/-- A number in hexadecimal digits. -/
def hexText (n : Nat) : String := String.ofList (Nat.toDigits 16 n)

/-- The text of an address of eight pieces, its longest run of zeros left out. -/
def piecesText (ps : List Nat) : String :=
  let (start, n) := longestRun ps
  if n < 2 then ":".intercalate (ps.map hexText)
  else ":".intercalate ((ps.take start).map hexText) ++ "::" ++
    ":".intercalate ((ps.drop (start + n)).map hexText)

/-! ### Hosts of URLs -/

/-- The host of a URL with a special scheme. -/
def specialHost? (cs : List Char) : Option String :=
  match cs with
  | '[' :: rest =>
    if rest.getLast? = some ']' then
      (pieces? rest.dropLast).map fun ps => "[" ++ piecesText ps ++ "]"
    else none
  | _ => do
    let decoded := Text.ofUtf8Lossy (Percent.decode (String.ofList cs))
    let domain ← Domain.toAscii? decoded.toList
    if domain.isEmpty then none
    else if endsInNumber domain then addressText? domain
    else some (String.ofList domain)

/-- The host of a URL with another scheme. -/
def plainHost? (cs : List Char) : Option String :=
  match cs with
  | '[' :: rest =>
    if rest.getLast? = some ']' then
      (pieces? rest.dropLast).map fun ps => "[" ++ piecesText ps ++ "]"
    else none
  | _ =>
    if cs.any hostForbidden then none else some (Percent.encode Percent.control (String.ofList cs))

end CredentialBroker.Url
