import CredentialBroker.Word

namespace CredentialBroker.Punycode

/-!
# Labels outside ASCII

The encoding of RFC 3492: the ASCII characters of a label come first, then the other characters in
the order of their code points, each as the distance from the one before in digits of base 36 whose
thresholds adapt.  Decoding puts the characters in one by one and fails where a word of 32 bits
would overflow.
-/

/-- The digit with the given value: letters, then figures. -/
def digit (n : Nat) : Char :=
  if n < 26 then Char.ofNat (n + 'a'.toNat) else Char.ofNat (n - 26 + '0'.toNat)

/-- The threshold of the digit at weight `k`. -/
def threshold (k bias : Nat) : Nat :=
  if k ≤ bias then 1 else if k ≥ bias + 26 then 26 else k - bias

/-- The number of divisions that bring a distance down, in steps of 36, and what is left. -/
def settle (delta k : Nat) : Nat × Nat :=
  if 455 < delta then settle (delta / 35) (k + 36) else (k, delta)
termination_by delta

/-- The bias after a distance. -/
def adapt (delta count : Nat) (first : Bool) : Nat :=
  let d := if first then delta / 700 else delta / 2
  let (k, d) := settle (d + d / count) 0
  k + 36 * d / (d + 38)

/-- The digits of a distance, from weight `k` on. -/
def distanceDigits (bias k q : Nat) : List Char :=
  let t := threshold k bias
  if q < t ∨ t = 0 then [digit q]
  else digit (t + (q - t) % (36 - t)) :: distanceDigits bias (k + 36) ((q - t) / (36 - t))
termination_by q
decreasing_by
  have h : (q - threshold k bias) / (36 - threshold k bias) ≤ q - threshold k bias :=
    Nat.div_le_self ..
  grind

/-- What has been written, with the distance and bias reached. -/
structure Progress where
  /-- The characters written, in order. -/
  output : List Char
  /-- The distance since the last one. -/
  delta : Nat
  /-- The bias for the next one. -/
  bias : Nat
  /-- The number of characters handled. -/
  handled : Nat

/-- One pass over the label for the code point `n`, of which `basic` is the number of ASCII
characters. -/
def pass (n basic : Nat) (p : Progress) (c : Char) : Progress :=
  if c.toNat < n then { p with delta := p.delta + 1 }
  else if c.toNat = n then
    { output := p.output ++ distanceDigits p.bias 36 p.delta
      delta := 0
      bias := adapt p.delta (p.handled + 1) (p.handled = basic)
      handled := p.handled + 1 }
  else p

/-- The passes for the given code points, in increasing order; `last` is the one before. -/
def passes (label : List Char) (basic : Nat) : Nat → Progress → List Nat → Progress
  | _, p, [] => p
  | last, p, n :: ns =>
    let p := { p with delta := p.delta + (n - last) * (p.handled + 1) }
    let p := label.foldl (pass n basic) p
    passes label basic (n + 1) { p with delta := p.delta + 1 } ns

/-- A label in ASCII characters. -/
def encode (label : List Char) : List Char :=
  let ascii := label.filter fun c => c.toNat < 0x80
  let others := ((label.map Char.toNat).filter (0x80 ≤ ·)).mergeSort.eraseDups
  let start : Progress :=
    ⟨if ascii.isEmpty then [] else ascii ++ ['-'], 0, 72, ascii.length⟩
  (passes label ascii.length 0x80 start others).output

/-! ### Decoding -/

/-- The value of a digit; small letters, then figures. -/
def digitValue? (c : Char) : Option Nat :=
  if 'a' ≤ c ∧ c ≤ 'z' then some (c.toNat - 'a'.toNat)
  else if c.isDigit then some (c.toNat - '0'.toNat + 26)
  else none

/-- A number of a word of 32 bits. -/
def word? (n : Nat) : Option Nat := if n < Word.values 32 then some n else none

/-- The sum of a number and the distance whose digits come first, from weight `k` on, and the
characters after them. -/
def addDistance? (bias : Nat) : (k weight sum : Nat) → List Char → Option (Nat × List Char)
  | _, _, _, [] => none
  | k, weight, sum, c :: cs => do
    let d ← digitValue? c
    let sum ← word? (sum + (← word? (d * weight)))
    let t := threshold k bias
    if d < t then some (sum, cs)
    else addDistance? bias (k + 36) (← word? (weight * (36 - t))) sum cs

/-- The character of a code point. -/
def character? (n : Nat) : Option Char := if n.isValidChar then some (Char.ofNat n) else none

/-- What has been put in, with the code point, the place and the bias reached. -/
structure Insertion where
  /-- The characters so far. -/
  output : List Char
  /-- The code point of the last one put in. -/
  code : Nat
  /-- The place for the next one. -/
  place : Nat
  /-- The bias for the next distance. -/
  bias : Nat

/-- Puts in the characters whose distances the digits denote; at most `count` of them. -/
def insertAll? : (count : Nat) → Insertion → List Char → Option (List Char)
  | _, p, [] => some p.output
  | 0, _, _ :: _ => none
  | count + 1, p, c :: cs => do
    let (sum, rest) ← addDistance? p.bias 36 1 p.place (c :: cs)
    let length := p.output.length + 1
    let code ← word? (p.code + sum / length)
    let x ← character? code
    let place := sum % length
    insertAll? count
      ⟨p.output.insertIdx place x, code, place + 1, adapt (sum - p.place) length (p.place = 0)⟩ rest

/-- The ASCII characters before the last hyphen, and the digits. -/
def cutBasic (cs : List Char) : List Char × List Char :=
  let digits := (cs.reverse.takeWhile (· ≠ '-')).reverse
  if digits.length + 1 < cs.length then (cs.take (cs.length - digits.length - 1), digits)
  else ([], cs)

/-- The label that ASCII characters encode. -/
def decode? (cs : List Char) : Option (List Char) :=
  let (basic, digits) := cutBasic cs
  insertAll? digits.length ⟨basic, 0x80, 0, 72⟩ digits

example : decode? "bcher-kva".toList = some "bücher".toList := by decide +kernel

example : encode "bücher".toList = "bcher-kva".toList := by decide +kernel

end CredentialBroker.Punycode
