import CredentialBroker.Text.Joining
import CredentialBroker.Text.Normal
import CredentialBroker.Url.DomainMapping
import CredentialBroker.Url.Punycode

namespace CredentialBroker.Domain

/-!
# Domains

A domain is read after UTS 46: its characters are mapped, the result is put in composed form and
cut at the dots, and every label is checked.  In its ASCII form a label outside ASCII is `xn--` and
its encoding; a label that comes so is decoded and must be what encoding a checked label gives.
-/

/-- A label in both forms. -/
structure Label where
  /-- Its characters. -/
  characters : List Char
  /-- Its ASCII form. -/
  ascii : List Char
deriving DecidableEq

/-- What encoded labels begin with. -/
def encodedMark : List Char := ['x', 'n', '-', '-']

/-- The greatest length of a label outside ASCII. -/
def maxLabel : Nat := 1000

/-- The greatest length of what follows the mark of an encoded label. -/
def maxEncoded : Nat := 2000

/-- A character of ASCII. -/
def isAscii (c : Char) : Bool := c.toNat < 0x80

/-- The characters no domain may hold. -/
def isForbidden (c : Char) : Bool :=
  c.toNat ≤ 0x20 || c.toNat = 0x7F || "%#/:<>?@[\\]^|".toList.contains c

/-! ### Joiners -/

/-- Whether the nearest character that is not transparent has a property. -/
def nearest (p : Char → Bool) (cs : List Char) : Bool :=
  ((cs.dropWhile Text.isTransparent).head?.map p).getD false

/-- Whether a joiner may stand between the characters before it, in reverse, and those after it. -/
def mayJoin (joiner : Char) (before after : List Char) : Bool :=
  match before with
  | [] => false
  | b :: _ =>
    Text.combiningClass b = Text.viramaClass ||
      (joiner = '\u200C' && nearest Text.joinsNext before && nearest Text.joinsPrevious after)

/-- Whether every joiner among the characters after `before`, which is in reverse, may stand where
it does. -/
def joinersFit (before : List Char) : List Char → Bool
  | [] => true
  | c :: cs =>
    (!(c = '\u200C' || c = '\u200D') || mayJoin c before cs) && joinersFit (c :: before) cs

/-! ### Directions -/

/-- Whether a label has characters written from right to left. -/
def isRightward (label : List Char) : Bool :=
  label.any fun c => [.right, .arabic, .arabicNumber].contains (Text.direction c)

/-- The directions of the characters of a label without the marks at its end. -/
def directions (label : List Char) : List Text.Direction :=
  ((label.map Text.direction).reverse.dropWhile (· = .nonspacing)).reverse

/-- Whether a label reads the same way in a domain with characters written from right to left. -/
def isOriented (label : List Char) : Bool :=
  let ds := directions label
  match (label.map Text.direction).head? with
  | none => true
  | some .left =>
    (ds.all fun d => [.left, .europeanNumber, .sign, .separator, .terminator, .neutral, .boundary,
      .nonspacing].contains d) &&
    (ds.getLast?.any fun d => [.left, .europeanNumber].contains d)
  | some .right | some .arabic =>
    (ds.all fun d => [.right, .arabic, .arabicNumber, .europeanNumber, .sign, .separator,
      .terminator, .neutral, .boundary, .nonspacing].contains d) &&
    (ds.getLast?.any fun d => [.right, .arabic, .europeanNumber, .arabicNumber].contains d) &&
    !(ds.contains .europeanNumber && ds.contains .arabicNumber)
  | some _ => false

/-! ### Labels -/

/-- Whether a label may stand in a domain. -/
def isValid (label : List Char) : Bool :=
  !label.any isForbidden && !(label.head?.any Text.isMark) && joinersFit [] label &&
    (label.all isAscii || label.length ≤ maxLabel)

/-- Whether characters stand for themselves and are in composed form. -/
def isSettled (cs : List Char) : Bool :=
  (cs.all fun c => mapped? c = some [c]) && Text.normal cs = cs

/-- The label that what follows the mark of an encoded one denotes. -/
def decoded? (cs : List Char) : Option (List Char) := do
  if cs.all isAscii ∧ cs.length ≤ maxEncoded ∧ cs ≠ [] ∧ cs.getLast? ≠ some '-' then
    let label ← Punycode.decode? cs
    if isSettled label ∧ '.' ∉ label then some label else none
  else none

/-- The label written with the given mapped characters. -/
def label? (cs : List Char) : Option Label :=
  if encodedMark.isPrefixOf cs then do
    let label ← decoded? (cs.drop encodedMark.length)
    if isValid label then some ⟨label, cs⟩ else none
  else if isValid cs then
    some ⟨cs, if cs.all isAscii then cs else encodedMark ++ Punycode.encode cs⟩
  else none

/-- The ASCII form of a domain. -/
def toAscii? (cs : List Char) : Option (List Char) := do
  let mapped ← cs.mapM mapped?
  let labels ← (Text.piecesChars '.' (Text.normal mapped.flatten)).mapM label?
  let characters := labels.map (·.characters)
  if characters.any isRightward ∧ !characters.all isOriented then none
  else some (['.'].intercalate (labels.map (·.ascii)))

end CredentialBroker.Domain
