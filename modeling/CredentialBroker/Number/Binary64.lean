import CredentialBroker.Word

namespace CredentialBroker

/-!
# Binary numbers of 64 bits

A finite number of the binary format of 64 bits is kept as a sign and two natural numbers: its
magnitude is `mantissa * 2 ^ power` in units of `2 ^ -1074`, the least step of the format.  An
exact magnitude is a quotient of natural numbers in the same units, and `Binary64.round?` takes it
to the nearest number, the even one of two that are equally near.
-/

/-- A finite number of the binary format of 64 bits. -/
structure Binary64 where
  /-- Whether it has a minus sign, which a zero may have too. -/
  negative : Bool
  /-- The leading bits of its magnitude, at most 53. -/
  mantissa : Nat
  /-- How often the leading bits are doubled. -/
  power : Nat
deriving DecidableEq

namespace Binary64

/-- The number of units in one. -/
def one : Nat := Word.values 1074

/-- The greatest power. -/
def maxPower : Nat := 2045

/-- The magnitude in units. -/
def units (x : Binary64) : Nat := x.mantissa * Word.values x.power

/-- The nearest number to `num / den` units, or nothing when it lies beyond the greatest one. -/
def round? (negative : Bool) (num den : Nat) : Option Binary64 :=
  let power := (num / den).log2 - 52
  let step := den * Word.values power
  let low := num / step
  let twice := 2 * (num % step)
  let mantissa := if step < twice ∨ (twice = step ∧ low % 2 = 1) then low + 1 else low
  let x : Binary64 :=
    if mantissa = Word.values 53 then ⟨negative, Word.values 52, power + 1⟩
    else ⟨negative, mantissa, power⟩
  if x.power ≤ maxPower then some x else none

/-- The number nearest to a natural number. -/
def ofNat? (n : Nat) : Option Binary64 := round? false (n * one) 1

/-- The number nearest to a power of ten. -/
def powerOfTen? (n : Nat) : Option Binary64 := ofNat? (Nat.pow 10 n)

/-- The product, with the sign of the first number. -/
def scale? (x y : Binary64) : Option Binary64 := round? x.negative (x.units * y.units) one

/-- The quotient, with the sign of the first number. -/
def unscale? (x y : Binary64) : Option Binary64 := round? x.negative (x.units * one) y.units

/-- The number divided by a power of ten.  What is left of the exponent beyond the powers of the
format is taken off in steps, until nothing remains of the number. -/
def shrink? (x : Binary64) (places : Nat) : Option Binary64 :=
  if places ≤ 308 then do x.unscale? (← powerOfTen? places)
  else if x.mantissa = 0 then some x
  else do
    let y ← x.unscale? (← powerOfTen? 308)
    y.shrink? (places - 308)
termination_by places

/-- The number `digits * 10 ^ exponent`, from the number nearest to the digits and the one nearest
to the power of ten, or nothing when it lies beyond the greatest number. -/
def ofDecimal? (negative : Bool) (digits : Nat) (exponent : Int) : Option Binary64 := do
  let x := { ← ofNat? digits with negative }
  if exponent < 0 then x.shrink? (-exponent).toNat
  else if exponent ≤ 308 then x.scale? (← powerOfTen? exponent.toNat)
  else if digits = 0 then some x
  else none

end Binary64

end CredentialBroker
