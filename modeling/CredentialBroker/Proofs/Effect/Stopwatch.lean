import CredentialBroker.Effect.Stopwatch
import Mathlib.Algebra.BigOperators.Group.Finset.Basic

namespace CredentialBroker

/-!
# How trying again ends

An operation that takes no time itself is tried again by a policy, and a stopwatch adds up the
pauses.  What comes of it is told by the outcomes alone: the first attempt that nothing follows ends
it.

* `RetryPolicy.due` — when an attempt is due, which is when the pause before it ends;
* `RetryPolicy.Concludes` — an attempt is the last one, with this result, at this time;
* `Stopwatch.trial_concludes` — the attempts are made in order up to the first one that concludes
  them, and the result and the time are as that one says;
* `Stopwatch.trial_cut_short` — a pause that is longer than thirty years is cut down to that.
-/

/-- The nanoseconds of a millisecond. -/
def nanosPerMilli : Nat := 1000000

namespace RetryPolicy

variable {ε α : Type} {p : RetryPolicy} {again : ε → Bool} {outcome : Nat → Except ε α}
  {cancel : Option Nat} {n : Nat}

/-- The nanoseconds from the first attempt to the one with the number `n`: the pauses between them,
none of which lasts longer than thirty years. -/
def due (p : RetryPolicy) (n : Nat) : Nat :=
  ∑ k ∈ Finset.range n, min (Stopwatch.longestPause * nanosPerMilli) (p.pauseAfter k).nanos

@[simp] theorem due_zero : p.due 0 = 0 := Finset.sum_range_zero _

theorem due_succ : p.due (n + 1) =
    p.due n + min (Stopwatch.longestPause * nanosPerMilli) (p.pauseAfter n).nanos :=
  Finset.sum_range_succ _ n

/-- No attempt follows the one with the number `n`, so that trying ends with this result, and after
so many nanoseconds.  Pauses are cut short at `cancel`, in milliseconds. -/
inductive Concludes (p : RetryPolicy) (again : ε → Bool) (outcome : Nat → Except ε α)
    (cancel : Option Nat) : Nat → Except (RetryError ε) α → Nat → Prop where
  /-- It succeeds. -/
  | success {n : Nat} {a : α} (h : outcome n = .ok a) :
    Concludes p again outcome cancel n (.ok a) (p.due n)
  /-- It fails with an error not worth another try, or there are no attempts left. -/
  | failure {n : Nat} {e : ε} (h : outcome n = .error e)
      (hlast : again e = false ∨ p.maxAttempts ≤ n + 1) :
    Concludes p again outcome cancel n (.error (.failed e)) (p.due n)
  /-- The pause after it is cut short before it ends. -/
  | cancelled {n c : Nat} {e : ε} (h : outcome n = .error e) (hagain : again e = true)
      (hleft : n + 1 < p.maxAttempts) (hcancel : cancel = some c)
      (hbefore : c * nanosPerMilli < p.due (n + 1)) :
    Concludes p again outcome cancel n (.error (.cancelled (n + 1))) (c * nanosPerMilli)

/-- Another attempt follows one that fails with an error worth it, when there is one left and no
pause is cut short before that attempt is due. -/
theorem not_concludes {e : ε} (h : outcome n = .error e) (hagain : again e = true)
    (hleft : n + 1 < p.maxAttempts)
    (hcancel : ∀ c, cancel = some c → p.due (n + 1) ≤ c * nanosPerMilli)
    (r : Except (RetryError ε) α) (time : Nat) : ¬ p.Concludes again outcome cancel n r time := by
  intro hends
  cases hends with
  | success hok =>
    rw [h] at hok
    cases hok
  | failure herror hlast =>
    rw [h] at herror
    cases herror
    rcases hlast with hagain' | hleft'
    · rw [hagain] at hagain'
      cases hagain'
    · omega
  | cancelled _ _ _ hcut hbefore =>
    have := hcancel _ hcut
    omega

/-! ### Pauses in whole milliseconds -/

theorem dvd_nanos_min {s t : Span} {m : Nat} (hs : m ∣ s.nanos) (ht : m ∣ t.nanos) :
    m ∣ (s.min t).nanos := by
  unfold Span.min
  split
  · exact hs
  · exact ht

/-- The pauses of a policy are whole milliseconds when the first and the longest one are. -/
theorem dvd_pauseAfter (hinitial : nanosPerMilli ∣ p.initial.nanos)
    (hlongest : nanosPerMilli ∣ p.longest.nanos) (n : Nat) :
    nanosPerMilli ∣ (p.pauseAfter n).nanos := by
  refine dvd_nanos_min ?_ hlongest
  unfold Span.times?
  split
  · exact Dvd.dvd.mul_right hinitial _
  · exact hlongest

end RetryPolicy

namespace Stopwatch

variable {ε α : Type} {p : RetryPolicy} {again : ε → Bool} {outcome : Nat → Except ε α}
  {cancel : Option Nat} {n left : Nat} {t : Trial}

/-! ### One attempt -/

/-- A pause on the stopwatch of a trial. -/
def Trial.pause (length : Span) : StateM Trial Bool := fun t =>
  ((t.watch.pause length).1, { t with watch := (t.watch.pause length).2 })

/-- An attempt, which is written down. -/
def Trial.attempt (outcome : Nat → Except ε α) (n : Nat) : StateM Trial (Except ε α) := fun t =>
  (outcome n, { t with attempts := t.attempts ++ [n] })

theorem tryFrom_ok {a : α} (h : outcome n = .ok a) :
    p.tryFrom Trial.pause again (Trial.attempt outcome) left n t =
      (.ok a, { t with attempts := t.attempts ++ [n] }) := by
  cases left <;>
    simp only [RetryPolicy.tryFrom, bind, StateT.bind, Trial.attempt, h] <;> rfl

/-- An attempt that fails is the last one when its error is not worth another or none is left. -/
theorem tryFrom_last {e : ε} (h : outcome n = .error e) (hlast : again e = false ∨ left = 0) :
    p.tryFrom Trial.pause again (Trial.attempt outcome) left n t =
      (.error (.failed e), { t with attempts := t.attempts ++ [n] }) := by
  cases left with
  | zero =>
    simp only [RetryPolicy.tryFrom, bind, StateT.bind, Trial.attempt, h]
    rfl
  | succ left =>
    have hnot : again e = false := hlast.resolve_right (Nat.succ_ne_zero left)
    simp only [RetryPolicy.tryFrom, bind, StateT.bind, Trial.attempt, h, hnot]
    rfl

/-- Otherwise the pause after it decides. -/
theorem tryFrom_again {e : ε} (h : outcome n = .error e) (hagain : again e = true) :
    p.tryFrom Trial.pause again (Trial.attempt outcome) (left + 1) n t =
      let (cut, watch) := t.watch.pause (p.pauseAfter n)
      if cut then (.error (.cancelled (n + 1)), ⟨watch, t.attempts ++ [n]⟩)
      else p.tryFrom Trial.pause again (Trial.attempt outcome) left (n + 1)
        ⟨watch, t.attempts ++ [n]⟩ := by
  rw [RetryPolicy.tryFrom]
  simp only [bind, StateT.bind, Trial.attempt, h, hagain, if_true, Trial.pause]
  split <;> rfl

/-- A pause that nothing cuts short lets its time pass. -/
theorem pause_eq {length : Span} {w : Stopwatch}
    (h : ∀ c, w.cancelAt = some c → w.elapsed + min longestPause length.millis ≤ c) :
    w.pause length = (false, { w with elapsed := w.elapsed + min longestPause length.millis }) := by
  unfold pause
  cases hc : w.cancelAt with
  | none => rfl
  | some c => exact if_neg (Nat.not_lt.mpr (h c hc))

/-- A pause that is cut short ends then, when that is not past yet. -/
theorem pause_eq_cut {length : Span} {w : Stopwatch} {c : Nat} (h : w.cancelAt = some c)
    (hpast : w.elapsed ≤ c) (hbefore : c < w.elapsed + min longestPause length.millis) :
    w.pause length = (true, { w with elapsed := c }) := by
  unfold pause
  simp only [h, if_pos hbefore, Nat.max_eq_left hpast]

/-! ### All attempts -/

/-- So far: all attempts below `n` were made, each was followed by another one, and the next one is
due now. -/
structure UpTo (p : RetryPolicy) (again : ε → Bool) (outcome : Nat → Except ε α)
    (cancel : Option Nat) (n : Nat) (t : Trial) : Prop where
  /-- The attempts are written down in order. -/
  attempts : t.attempts = List.range n
  /-- The next one is due. -/
  elapsed : t.watch.elapsed * nanosPerMilli = p.due n
  /-- Pauses will be cut short as they were to be. -/
  cancelAt : t.watch.cancelAt = cancel
  /-- None was so far. -/
  pending : ∀ c, cancel = some c → t.watch.elapsed ≤ c
  /-- None of the attempts was the last one. -/
  earlier : ∀ k < n, ∀ r time, ¬ p.Concludes again outcome cancel k r time

/-- The pause after an attempt, in nanoseconds, when those of the policy are whole milliseconds. -/
theorem pause_nanos (hwhole : nanosPerMilli ∣ (p.pauseAfter n).nanos) :
    min longestPause (p.pauseAfter n).millis * nanosPerMilli =
      min (longestPause * nanosPerMilli) (p.pauseAfter n).nanos := by
  have hnanos : (p.pauseAfter n).millis * nanosPerMilli = (p.pauseAfter n).nanos :=
    Nat.div_mul_cancel hwhole
  rw [← hnanos, Nat.mul_min_mul_right]

/-- When the next attempt is due, if no pause is cut short before. -/
theorem UpTo.elapsed_succ (h : UpTo p again outcome cancel n t)
    (hwhole : nanosPerMilli ∣ (p.pauseAfter n).nanos) :
    (t.watch.elapsed + min longestPause (p.pauseAfter n).millis) * nanosPerMilli =
      p.due (n + 1) := by
  rw [Nat.add_mul, h.elapsed, pause_nanos hwhole, RetryPolicy.due_succ]

/-- The first attempts, up to one that concludes them. -/
def Concluded (p : RetryPolicy) (again : ε → Bool) (outcome : Nat → Except ε α)
    (cancel : Option Nat) (x : Except (RetryError ε) α × Trial) : Prop :=
  ∃ n, n + 1 ≤ p.maxAttempts ∧
    p.Concludes again outcome cancel n x.1 (x.2.watch.elapsed * nanosPerMilli) ∧
    (∀ k < n, ∀ r time, ¬ p.Concludes again outcome cancel k r time) ∧
    x.2.attempts = List.range (n + 1)

/-- The attempt that is made now concludes them. -/
theorem UpTo.concluded {watch : Stopwatch} {r : Except (RetryError ε) α}
    (h : UpTo p again outcome cancel n t) (hleft : n + 1 ≤ p.maxAttempts)
    (hends : p.Concludes again outcome cancel n r (watch.elapsed * nanosPerMilli)) :
    Concluded p again outcome cancel (r, ⟨watch, t.attempts ++ [n]⟩) :=
  ⟨n, hleft, hends, h.earlier, by rw [h.attempts, List.range_succ]⟩

/-- Another attempt follows the one that is made now. -/
theorem UpTo.next {e : ε} (h : UpTo p again outcome cancel n t) (herror : outcome n = .error e)
    (hagain : again e = true) (hleft : n + 1 < p.maxAttempts)
    (hwhole : nanosPerMilli ∣ (p.pauseAfter n).nanos)
    (hpending : ∀ c, cancel = some c →
      t.watch.elapsed + min longestPause (p.pauseAfter n).millis ≤ c) :
    UpTo p again outcome cancel (n + 1)
      ⟨{ t.watch with elapsed := t.watch.elapsed + min longestPause (p.pauseAfter n).millis },
        t.attempts ++ [n]⟩ where
  attempts := by rw [h.attempts, List.range_succ]
  elapsed := h.elapsed_succ hwhole
  cancelAt := h.cancelAt
  pending := hpending
  earlier k hk := by
    rcases Nat.lt_succ_iff_lt_or_eq.mp hk with hk | rfl
    · exact h.earlier k hk
    · refine RetryPolicy.not_concludes herror hagain hleft fun c hc => ?_
      rw [← h.elapsed_succ hwhole]
      exact Nat.mul_le_mul_right _ (hpending c hc)

/-- The attempts left end with the first one that concludes them. -/
theorem tryFrom_concluded (hwhole : ∀ k, nanosPerMilli ∣ (p.pauseAfter k).nanos)
    (hleft : n + left + 1 = p.maxAttempts) (h : UpTo p again outcome cancel n t) :
    Concluded p again outcome cancel
      (p.tryFrom Trial.pause again (Trial.attempt outcome) left n t) := by
  induction left generalizing n t with
  | zero =>
    cases houtcome : outcome n with
    | ok a =>
      rw [tryFrom_ok houtcome]
      exact h.concluded (by omega) (h.elapsed ▸ .success houtcome)
    | error e =>
      rw [tryFrom_last houtcome (.inr rfl)]
      exact h.concluded (by omega) (h.elapsed ▸ .failure houtcome (.inr (by omega)))
  | succ left ih =>
    cases houtcome : outcome n with
    | ok a =>
      rw [tryFrom_ok houtcome]
      exact h.concluded (by omega) (h.elapsed ▸ .success houtcome)
    | error e =>
      cases hagain : again e with
      | false =>
        rw [tryFrom_last houtcome (.inl hagain)]
        exact h.concluded (by omega) (h.elapsed ▸ .failure houtcome (.inl hagain))
      | true =>
        rw [tryFrom_again houtcome hagain]
        have hmore : n + 1 < p.maxAttempts := by omega
        by_cases hcut : ∃ c, cancel = some c ∧
          c < t.watch.elapsed + min longestPause (p.pauseAfter n).millis
        · -- The pause is cut short, at a time that is not past yet.
          obtain ⟨c, hc, hbefore⟩ := hcut
          rw [pause_eq_cut (h.cancelAt.trans hc) (h.pending c hc) hbefore]
          refine h.concluded hmore.le (.cancelled houtcome hagain hmore hc ?_)
          rw [← h.elapsed_succ (hwhole n)]
          exact Nat.mul_lt_mul_of_pos_right hbefore (by decide)
        · -- The pause lasts until the next attempt is due.
          have hpending : ∀ c, cancel = some c →
              t.watch.elapsed + min longestPause (p.pauseAfter n).millis ≤ c := fun c hc =>
            Nat.not_lt.mp fun hbefore => hcut ⟨c, hc, hbefore⟩
          rw [pause_eq fun c hc => hpending c (h.cancelAt.symm.trans hc)]
          exact ih (by omega) (h.next houtcome hagain hmore (hwhole n) hpending)

/-- **How trying again ends.**  Take any policy with pauses in whole milliseconds, any outcomes of
the attempts, any choice of errors worth another try, and any time at which pauses are cut short.
The attempts made are those with the numbers up to the first one that concludes them, and the result
and the time are as that one says; there are never more than the policy has, and one at least.  A
pause that ends at the very time at which pauses are cut short is not cut short. -/
theorem trial_concludes (attempts : Nat) {initial longest : Span}
    (hinitial : 1000000 ∣ initial.nanos) (hlongest : 1000000 ∣ longest.nanos) (again : ε → Bool)
    (outcome : Nat → Except ε α) (cancel : Option Nat) :
    let p := RetryPolicy.of attempts initial longest
    let x := trial p again outcome ⟨0, cancel⟩
    ∃ n, n + 1 ≤ max 1 attempts ∧
      p.Concludes again outcome cancel n x.1 (x.2.watch.elapsed * 1000000) ∧
      (∀ k < n, ∀ r time, ¬ p.Concludes again outcome cancel k r time) ∧
      x.2.attempts = List.range (n + 1) := by
  intro p x
  have hwhole : ∀ k, nanosPerMilli ∣ (p.pauseAfter k).nanos := fun k =>
    RetryPolicy.dvd_pauseAfter hinitial hlongest k
  have hstart : UpTo p again outcome cancel 0 { watch := ⟨0, cancel⟩ } := by
    refine ⟨rfl, ?_, rfl, fun _ _ => Nat.zero_le _, nofun⟩
    rw [RetryPolicy.due_zero, Nat.zero_mul]
  have hattempts : p.maxAttempts = max 1 attempts := Nat.max_comm attempts 1
  have hleft : 0 + (p.maxAttempts - 1) + 1 = p.maxAttempts := by
    have := p.attempts_pos
    omega
  rw [← hattempts]
  exact tryFrom_concluded hwhole hleft hstart

/-- The third pause, which would last for a quarter of a second, is cut short after 240
milliseconds. -/
theorem trial_concludes_cancelled :
    let p := RetryPolicy.of 5 (.ofMillis 100) (.ofMillis 250)
    let again : String → Bool := fun e => e = "busy"
    let outcome : Nat → Except String Unit := fun _ => .error "busy"
    (1000000 ∣ p.initial.nanos ∧ 1000000 ∣ p.longest.nanos) ∧
      trial p again outcome ⟨0, some 540⟩ =
        (.error (.cancelled 3), ⟨⟨540, some 540⟩, [0, 1, 2]⟩) ∧
      ∃ n, n + 1 ≤ 5 ∧
        p.Concludes again outcome (some 540) n (.error (.cancelled 3)) (540 * 1000000) ∧
        (∀ k < n, ∀ r time, ¬ p.Concludes again outcome (some 540) k r time) ∧
        [0, 1, 2] = List.range (n + 1) := by
  intro p again outcome
  have hinitial : 1000000 ∣ (Span.ofMillis 100).nanos := by decide +kernel
  have hlongest : 1000000 ∣ (Span.ofMillis 250).nanos := by decide +kernel
  have htrial : trial p again outcome ⟨0, some 540⟩ =
      (.error (.cancelled 3), ⟨⟨540, some 540⟩, [0, 1, 2]⟩) := by decide +kernel
  have hconcludes := trial_concludes 5 hinitial hlongest again outcome (some 540)
  dsimp only at hconcludes
  rw [show trial (RetryPolicy.of 5 (.ofMillis 100) (.ofMillis 250)) again outcome ⟨0, some 540⟩ = _
    from htrial] at hconcludes
  exact ⟨⟨hinitial, hlongest⟩, htrial, hconcludes⟩

/-- **Pauses of more than thirty years.**  One that the policy has last for a thousand thousand
million milliseconds ends before. -/
theorem trial_cut_short :
    ¬ ∀ (attempts : Nat) (initial longest : Span) (outcome : Nat → Except Unit Unit) (n : Nat),
      1000000 ∣ initial.nanos → 1000000 ∣ longest.nanos →
      let p := RetryPolicy.of attempts initial longest
      let (result, t) := trial p (fun _ => true) outcome ⟨0, none⟩
      result = .ok () → t.attempts = List.range (n + 1) →
        t.watch.elapsed * 1000000 = ∑ k ∈ Finset.range n, (p.pauseAfter k).nanos := by
  intro hall
  have h := hall 2 (.ofMillis 1000000000000) (.ofMillis 1000000000000)
    (fun n => if n = 0 then .error () else .ok ()) 1 (by decide +kernel) (by decide +kernel)
  revert h
  decide +kernel

end Stopwatch

end CredentialBroker
