import CredentialBroker.Proofs.Effect.Outcome
import CredentialBroker.Text.Digits

namespace CredentialBroker.Text

/-!
# Numerals

What the reader of numbers accepts, said by the digits alone: one decimal digit at least, nothing
but digits after an optional plus, and a number within bounds.  Zeros in front do not count.

* `IsNumeral` — a text is a numeral for a number;
* `number_eq_ok_iff` — the reader accepts the numerals within its bound and no other texts.
-/

/-- The text is a numeral for `n`: decimal digits, at least one, an optional plus in front. -/
def IsNumeral (s : String) (n : Nat) : Prop :=
  ∃ digits : List Char, digits ≠ [] ∧ (∀ c ∈ digits, c.isDigit = true) ∧
    (s.toList = digits ∨ s.toList = '+' :: digits) ∧ n = Nat.ofDigitChars 10 digits 0

variable {bound m n : Nat} {s : String} {cs : List Char}

/-- More digits never make a number smaller. -/
theorem le_ofDigitChars (m : Nat) (cs : List Char) : m ≤ Nat.ofDigitChars 10 cs m := by
  induction cs generalizing m with
  | nil => exact Nat.le_refl m
  | cons c cs ih =>
    rw [Nat.ofDigitChars_cons]
    have := ih (10 * m + (c.toNat - '0'.toNat))
    omega

/-- Digits are read one by one, so that a number that is too large is found by the digit that makes
it so; the numbers before it are within bounds. -/
theorem accumulate_eq_ok_iff (hm : m ≤ bound) :
    accumulate bound m cs = .ok n ↔
      (∀ c ∈ cs, c.isDigit = true) ∧ n = Nat.ofDigitChars 10 cs m ∧ n ≤ bound := by
  induction cs generalizing m with
  | nil =>
    constructor
    · intro h
      cases h
      exact ⟨nofun, rfl, hm⟩
    · rintro ⟨_, rfl, _⟩
      rfl
  | cons c cs ih =>
    have hnext : m * 10 + (c.toNat - '0'.toNat) = 10 * m + (c.toNat - '0'.toNat) := by omega
    rw [accumulate, List.forall_mem_cons, Nat.ofDigitChars_cons, hnext]
    by_cases hdigit : c.isDigit = true
    · rw [if_pos hdigit]
      dsimp only
      split
      · next hlarge =>
        constructor
        · intro h
          cases h
        · rintro ⟨_, rfl, hn⟩
          have := le_ofDigitChars (10 * m + (c.toNat - '0'.toNat)) cs
          omega
      · next hsmall =>
        rw [ih (Nat.not_lt.mp hsmall)]
        exact and_congr_left fun _ => ⟨fun h => ⟨hdigit, h⟩, And.right⟩
    · rw [if_neg hdigit]
      constructor
      · intro h
        cases h
      · rintro ⟨⟨hdigit', _⟩, _⟩
        exact absurd hdigit' hdigit

/-- The digits of a numeral that starts with none are all there is. -/
theorem isNumeral_of_ne_plus (h : ∀ ds, s.toList ≠ '+' :: ds) :
    IsNumeral s n ↔
      s.toList ≠ [] ∧ (∀ c ∈ s.toList, c.isDigit = true) ∧ n = Nat.ofDigitChars 10 s.toList 0 := by
  constructor
  · rintro ⟨digits, hne, hdigits, htext | htext, rfl⟩
    · rw [htext]
      exact ⟨hne, hdigits, rfl⟩
    · exact absurd htext (h digits)
  · rintro ⟨hne, hdigits, rfl⟩
    exact ⟨s.toList, hne, hdigits, .inl rfl, rfl⟩

/-- A plus is no digit, so that it can only be the sign of a numeral. -/
theorem isNumeral_of_plus {ds : List Char} (h : s.toList = '+' :: ds) :
    IsNumeral s n ↔ ds ≠ [] ∧ (∀ c ∈ ds, c.isDigit = true) ∧ n = Nat.ofDigitChars 10 ds 0 := by
  constructor
  · rintro ⟨digits, hne, hdigits, htext | htext, rfl⟩
    · have hplus : '+' ∈ digits := by
        rw [← htext, h]
        exact List.mem_cons_self
      exact absurd (hdigits '+' hplus) (by decide)
    · obtain rfl : ds = digits := (List.cons.inj (h.symm.trans htext)).2
      exact ⟨hne, hdigits, rfl⟩
  · rintro ⟨hne, hdigits, rfl⟩
    exact ⟨ds, hne, hdigits, .inr h, rfl⟩

/-- **Numbers.**  The reader accepts exactly the numerals within its bound, as what they stand
for. -/
theorem number_eq_ok_iff : number bound s = .ok n ↔ IsNumeral s n ∧ n ≤ bound := by
  unfold number
  split
  · next htext =>
    rw [isNumeral_of_ne_plus fun ds hds => by rw [htext] at hds; cases hds]
    constructor
    · intro h
      cases h
    · rintro ⟨⟨hne, _⟩, _⟩
      exact absurd htext hne
  · next htext =>
    rw [isNumeral_of_plus htext]
    constructor
    · intro h
      cases h
    · rintro ⟨⟨hne, _⟩, _⟩
      exact absurd rfl hne
  · next ds hne htext =>
    rw [accumulate_eq_ok_iff (Nat.zero_le bound), isNumeral_of_plus htext, and_assoc, and_assoc]
    exact (and_iff_right hne).symm
  · next hnil _ hplus =>
    rw [accumulate_eq_ok_iff (Nat.zero_le bound), isNumeral_of_ne_plus hplus, and_assoc, and_assoc]
    exact (and_iff_right hnil).symm

end CredentialBroker.Text
