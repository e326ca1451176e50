import CredentialBroker.Effect.Retry
import Mathlib.Algebra.Group.Nat.Defs

namespace CredentialBroker

/-!
# How long pauses are

A pause is a power of two times the first one, as far as 32 bits hold that power, and never more
than the longest.  That is so also where the product is too long for a span, since the longest pause
is shorter than it then.

* `Span.times?_eq_some_iff`, `Span.times?_eq_none_iff` — a product of a span is exact, and there is
  one as long as it fits;
* `Span.times?_by_parts` — it can be got from the seconds and the nanoseconds apart, in words;
* `RetryPolicy.nanos_pauseAfter` — the pause after an attempt as a number;
* `RetryPolicy.pauseAfter_exact` — that number, its bound, and that it grows with the attempt and
  with both lengths of the policy.
-/

namespace Span

variable {s t : Span} {n : Nat}

/-! ### Products -/

/-- A product is exact. -/
theorem times?_eq_some_iff : s.times? n = some t ↔ t.nanos = s.nanos * n := by
  unfold times?
  constructor
  · intro h
    split at h
    · cases h
      rfl
    · cases h
  · intro h
    have hfits : s.nanos * n < Word.values 64 * nanosPerSecond := h ▸ t.nanos_lt
    rw [dif_pos hfits, Option.some.injEq]
    cases t
    cases h
    rfl

/-- There is no product exactly when it is too long for a span. -/
theorem times?_eq_none_iff :
    s.times? n = none ↔ Word.values 64 * nanosPerSecond ≤ s.nanos * n := by
  unfold times?
  split
  · next hfits => simpa using hfits
  · next hlong => simpa using hlong

/-- The whole seconds of a product: those of the seconds, and those that the nanoseconds carry
over. -/
theorem nanos_mul_div (s : Span) (n : Nat) :
    s.nanos * n / nanosPerSecond =
      s.seconds * n + s.nanos % nanosPerSecond * n / nanosPerSecond := by
  have hparts : s.nanos * n = nanosPerSecond * (s.seconds * n) + s.nanos % nanosPerSecond * n := by
    rw [← Nat.mul_assoc, ← Nat.add_mul, seconds, Nat.div_add_mod]
  rw [hparts, Nat.mul_add_div (by decide)]

/-- **Products in words.**  The seconds and the nanoseconds of a span are multiplied apart with a
number of 32 bits.  The nanoseconds never leave 64 bits; there is no product exactly when the
seconds do, and otherwise both parts are those of the product. -/
theorem times?_by_parts (hn : n < Word.values 32) :
    let carried := s.nanos % nanosPerSecond * n
    carried < Word.values 64 ∧
      (s.times? n = none ↔ Word.values 64 ≤ s.seconds * n + carried / nanosPerSecond) ∧
      ∀ t, s.times? n = some t →
        t.seconds = s.seconds * n + carried / nanosPerSecond ∧
          t.nanos % nanosPerSecond = carried % nanosPerSecond := by
  intro carried
  refine ⟨?_, ?_, fun t ht => ?_⟩
  · have hpart : s.nanos % nanosPerSecond < nanosPerSecond := Nat.mod_lt _ (by decide)
    calc carried ≤ nanosPerSecond * n := Nat.mul_le_mul_right n (Nat.le_of_lt hpart)
      _ < nanosPerSecond * Word.values 32 := Nat.mul_lt_mul_of_pos_left hn (by decide)
      _ ≤ Word.values 64 := by decide
  · rw [times?_eq_none_iff, ← nanos_mul_div, Nat.le_div_iff_mul_le (by decide)]
  · rw [times?_eq_some_iff] at ht
    refine ⟨?_, ?_⟩
    · rw [seconds, ht, nanos_mul_div]
    · rw [ht, Nat.mod_mul_mod]

/-- A product with a limit is the smaller of both: where there is no product, the limit is
smaller. -/
theorem nanos_times?_min (s limit : Span) (n : Nat) :
    (((s.times? n).getD limit).min limit).nanos = Nat.min limit.nanos (s.nanos * n) := by
  rw [nanos_min]
  cases h : s.times? n with
  | none =>
    have hlimit : limit.nanos ≤ s.nanos * n :=
      Nat.le_trans (Nat.le_of_lt limit.nanos_lt) (times?_eq_none_iff.mp h)
    rw [Option.getD_none]
    exact (Nat.min_self _).trans (Nat.min_eq_left hlimit).symm
  | some t =>
    rw [Option.getD_some, times?_eq_some_iff.mp h]
    exact Nat.min_comm _ _

end Span

namespace RetryPolicy

variable {p q : RetryPolicy} {attempt later : Nat}

/-! ### Factors -/

theorem factor_eq (attempt : Nat) : factor attempt = min (2 ^ attempt) (2 ^ 32 - 1) := by
  unfold factor
  split
  · next h =>
    have hpower : 2 ^ attempt < 2 ^ 32 := Nat.pow_lt_pow_right (by decide) h
    exact (Nat.min_eq_left (Nat.le_pred_of_lt hpower)).symm
  · next h =>
    have hpower : 2 ^ 32 ≤ 2 ^ attempt := Nat.pow_le_pow_right (by decide) (Nat.not_lt.mp h)
    exact (Nat.min_eq_right (Nat.le_trans (Nat.sub_le _ 1) hpower)).symm

theorem factor_lt (attempt : Nat) : factor attempt < Word.values 32 := by
  rw [factor_eq]
  exact Nat.lt_of_le_of_lt (Nat.min_le_right _ _) (by decide)

theorem factor_of_lt (h : attempt < 32) : factor attempt = 2 ^ attempt := if_pos h

theorem factor_mono (h : attempt ≤ later) : factor attempt ≤ factor later := by
  rw [factor_eq, factor_eq]
  have hpower : 2 ^ attempt ≤ 2 ^ later := Nat.pow_le_pow_right (by decide) h
  omega

/-! ### Pauses -/

theorem nanos_pauseAfter (p : RetryPolicy) (attempt : Nat) :
    (p.pauseAfter attempt).nanos = min p.longest.nanos (p.initial.nanos * factor attempt) :=
  Span.nanos_times?_min p.initial p.longest (factor attempt)

/-- A later pause of a policy with longer ones is no shorter. -/
theorem pauseAfter_mono (hinitial : p.initial.nanos ≤ q.initial.nanos)
    (hlongest : p.longest.nanos ≤ q.longest.nanos) (hlater : attempt ≤ later) :
    (p.pauseAfter attempt).nanos ≤ (q.pauseAfter later).nanos := by
  rw [nanos_pauseAfter, nanos_pauseAfter]
  have hproduct : p.initial.nanos * factor attempt ≤ q.initial.nanos * factor later :=
    Nat.mul_le_mul hinitial (factor_mono hlater)
  omega

/-- **Pauses.**  Whatever the lengths of a policy and the number of the attempt, the factor has 32
bits and multiplies the nanoseconds beyond the whole seconds within 64.  The pause is the first one
times that power of two, or the longest if that is shorter: never more than the longest, no shorter
after a later attempt, and no shorter for longer lengths. -/
theorem pauseAfter_exact (p : RetryPolicy) (attempt : Nat) :
    factor attempt < Word.values 32 ∧
      p.initial.nanos % nanosPerSecond * factor attempt < Word.values 64 ∧
      (p.pauseAfter attempt).nanos =
        min p.longest.nanos (p.initial.nanos * min (2 ^ attempt) (2 ^ 32 - 1)) ∧
      (attempt < 32 →
        (p.pauseAfter attempt).nanos = min p.longest.nanos (p.initial.nanos * 2 ^ attempt)) ∧
      (p.pauseAfter attempt).nanos ≤ p.longest.nanos ∧
      (∀ later, attempt ≤ later → (p.pauseAfter attempt).nanos ≤ (p.pauseAfter later).nanos) ∧
      ∀ q : RetryPolicy, p.initial.nanos ≤ q.initial.nanos → p.longest.nanos ≤ q.longest.nanos →
        (p.pauseAfter attempt).nanos ≤ (q.pauseAfter attempt).nanos := by
  refine ⟨factor_lt attempt, (Span.times?_by_parts (factor_lt attempt)).1, ?_, fun h => ?_, ?_,
    fun later hlater => ?_, fun q hinitial hlongest => ?_⟩
  · rw [nanos_pauseAfter, factor_eq]
  · rw [nanos_pauseAfter, factor_of_lt h]
  · rw [nanos_pauseAfter]
    exact Nat.min_le_left _ _
  · exact pauseAfter_mono (Nat.le_refl _) (Nat.le_refl _) hlater
  · exact pauseAfter_mono hinitial hlongest (Nat.le_refl _)

/-- Pauses of 2 to the 40th seconds and more, without a limit but that of spans: the one after the
attempt with the number 23 is a span still, the next one would be too long by a nanosecond. -/
theorem pauseAfter_exact_overflowing :
    let p := of 3 (.ofSeconds (.ofNat (2 ^ 40))) ⟨Word.values 64 * nanosPerSecond - 1, by decide⟩
    let q := of 3 (.ofSeconds (.ofNat (2 ^ 41))) p.longest
    (23 < 32 ∧ 23 ≤ 24 ∧ p.initial.nanos ≤ q.initial.nanos ∧ p.longest.nanos ≤ q.longest.nanos) ∧
      p.initial.times? (factor 24) = none ∧
      (p.pauseAfter 23).nanos = 2 ^ 63 * nanosPerSecond ∧
      (p.pauseAfter 24).nanos = 2 ^ 64 * nanosPerSecond - 1 ∧
      (p.pauseAfter 23).nanos ≤ (p.pauseAfter 24).nanos ∧
      (p.pauseAfter 23).nanos ≤ (q.pauseAfter 23).nanos := by
  intro p q
  have hinitial : p.initial.nanos ≤ q.initial.nanos := by decide +kernel
  obtain ⟨_, _, _, hpause, _, hlater, hlonger⟩ := pauseAfter_exact p 23
  refine ⟨⟨by decide, by decide, hinitial, Nat.le_refl _⟩, by decide +kernel, ?_, ?_,
    hlater 24 (by decide), hlonger q hinitial (Nat.le_refl _)⟩
  · rw [hpause (by decide)]
    decide +kernel
  · rw [(pauseAfter_exact p 24).2.2.1]
    decide +kernel

end RetryPolicy

end CredentialBroker
