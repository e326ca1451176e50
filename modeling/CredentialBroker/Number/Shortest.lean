import CredentialBroker.Number.Binary64

namespace CredentialBroker.Binary64

/-!
# The shortest decimal text of a number

Of the decimal numbers that round to a given number, the text shows one with the fewest digits,
and of these the nearest.  It is positional from `10 ^ -5` up to `10 ^ 16` and has an exponent
outside; a whole number is followed by `.0`.
-/

/-- A decimal number `digits * 10 ^ exponent`. -/
structure Decimal where
  /-- The digits as one number. -/
  digits : Nat
  /-- The power of ten they count. -/
  exponent : Int
deriving DecidableEq

/-- The power of ten of the leading digit of a magnitude other than zero. -/
def leadingExponent (x : Binary64) : Int :=
  ((Nat.toDigits 10 (x.units * Nat.pow 10 400 / one)).length : Int) - 401

/-- The magnitude in quarters of a unit, in which the bounds of what rounds to a number are
whole. -/
def quarters (x : Binary64) : Nat := 4 * x.units

/-- The distance in quarter units to the lower bound of what rounds to the number. -/
def roomBelow (x : Binary64) : Nat :=
  if x.mantissa = Word.values 52 ∧ 0 < x.power then Word.values x.power else 2 * Word.values x.power

/-- The distance in quarter units to the upper bound of what rounds to the number. -/
def roomAbove (x : Binary64) : Nat := 2 * Word.values x.power

/-- The distance in quarter units, times `10 ^ -exponent` for a negative exponent, between a
decimal number and the number, if the one rounds to the other. -/
def distance? (x : Binary64) (d : Decimal) : Option Nat :=
  let factor := Nat.pow 10 (-d.exponent).toNat
  let there := d.digits * Nat.pow 10 d.exponent.toNat * (4 * one)
  let here := x.quarters * factor
  let gap := there - here + (here - there)
  let room := (if there < here then x.roomBelow else x.roomAbove) * factor
  if gap < room ∨ (gap = room ∧ x.mantissa % 2 = 0) then some gap else none

/-- The decimal number of the given number of digits that rounds to the number, the nearer of
two. -/
def withDigits? (x : Binary64) (count : Nat) : Option Decimal :=
  let exponent := x.leadingExponent - count + 1
  let low := x.units * Nat.pow 10 (-exponent).toNat / (one * Nat.pow 10 exponent.toNat)
  let below : Decimal := ⟨low, exponent⟩
  let above : Decimal := ⟨low + 1, exponent⟩
  match x.distance? below, x.distance? above with
  | some b, some a => some (if a < b ∨ (a = b ∧ low % 2 = 1) then above else below)
  | some _, none => some below
  | none, some _ => some above
  | none, none => none

/-- The shortest decimal number that rounds to a number other than zero; 17 digits always do. -/
def shortest (x : Binary64) : Decimal :=
  ((List.range 17).findSome? fun n => x.withDigits? (n + 1)).getD ⟨0, 0⟩

/-- The text of a decimal number other than zero. -/
def Decimal.text (d : Decimal) : List Char :=
  let all := Nat.toDigits 10 d.digits
  let digits := (all.reverse.dropWhile (· = '0')).reverse
  let count : Int := digits.length
  let point : Int := all.length + d.exponent
  if count ≤ point ∧ point ≤ 16 then
    digits ++ List.replicate (point - count).toNat '0' ++ ['.', '0']
  else if 0 < point ∧ point ≤ 16 then digits.take point.toNat ++ '.' :: digits.drop point.toNat
  else if -5 < point ∧ point ≤ 0 then '0' :: '.' :: (List.replicate (-point).toNat '0' ++ digits)
  else
    let head := if count = 1 then digits else digits.take 1 ++ '.' :: digits.drop 1
    head ++ 'e' :: (toString (point - 1)).toList

/-- The text of a number. -/
def text (x : Binary64) : List Char :=
  (if x.negative then ['-'] else []) ++
    (if x.mantissa = 0 then ['0', '.', '0'] else x.shortest.text)

example : ofDecimal? false 1 (-1) = some ⟨false, 7205759403792794, 1018⟩ := by decide +kernel

example : text ⟨false, 7205759403792794, 1018⟩ = "0.1".toList := by decide +kernel

example : text ⟨true, 1, 0⟩ = "-5e-324".toList := by decide +kernel

end CredentialBroker.Binary64
