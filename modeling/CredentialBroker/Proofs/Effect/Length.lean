import CredentialBroker.Effect.Action

namespace CredentialBroker

/-!
# How long programs go on

A program is a tree of requests, and `Program.AtMost n` bounds the height of that tree: however its
requests are answered, the program asks at most `n` of them.  The rules for the combinators of
`Action` count up to `Action.atMost_retried`, where the number of attempts comes in.
-/

namespace Program

variable {σ : Signature} {α β : Type} {p : Program σ α} {m n : Nat}

/-- At most `n` requests are asked, however they are answered. -/
def AtMost : Nat → Program σ α → Prop
  | _, .done _ => True
  | 0, .ask _ _ => False
  | n + 1, .ask _ next => ∀ reply, (next reply).AtMost n

@[simp] theorem atMost_done {a : α} : (Program.done a : Program σ α).AtMost n := by
  cases n <;> trivial

/-- Nothing is left of a program that may ask no more. -/
theorem AtMost.eq_done (h : p.AtMost 0) : ∃ a, p = .done a := by
  cases p with
  | done a => exact ⟨a, rfl⟩
  | ask r next => exact h.elim

theorem AtMost.mono (h : p.AtMost m) (hle : m ≤ n) : p.AtMost n := by
  induction p generalizing m n with
  | done a => exact atMost_done
  | ask r next ih =>
    cases m with
    | zero => exact h.elim
    | succ m =>
      obtain ⟨n, rfl⟩ := Nat.exists_eq_add_of_le' (Nat.le_trans (Nat.succ_pos m) hle)
      exact fun reply => ih reply (h reply) (Nat.le_of_succ_le_succ hle)

theorem atMost_bind {f : α → Program σ β} (hp : p.AtMost m) (hf : ∀ a, (f a).AtMost n) :
    (p >>= f).AtMost (m + n) := by
  induction p generalizing m with
  | done a => exact (hf a).mono (Nat.le_add_left n m)
  | ask r next ih =>
    cases m with
    | zero => exact hp.elim
    | succ m =>
      rw [ask_bind, Nat.succ_add]
      exact fun reply => ih reply (hp reply)

end Program

namespace Action

variable {ε ε' α β : Type} {m n : Nat}

/-- At most `n` requests are asked, however they are answered. -/
def AtMost (n : Nat) (a : Action ε α) : Prop := Program.AtMost (σ := demands) n a.run

theorem atMost_pure {v : α} : (pure v : Action ε α).AtMost n := Program.atMost_done

theorem atMost_throw {e : ε} : (throw e : Action ε α).AtMost n := Program.atMost_done

theorem AtMost.mono {a : Action ε α} (h : a.AtMost m) (hle : m ≤ n) : a.AtMost n :=
  Program.AtMost.mono h hle

theorem atMost_bind {a : Action ε β} {f : β → Action ε α} (ha : a.AtMost m)
    (hf : ∀ b, (f b).AtMost n) : (a >>= f).AtMost (m + n) := by
  unfold AtMost
  rw [ExceptT.run_bind]
  refine Program.atMost_bind ha fun x => ?_
  cases x with
  | ok b => exact hf b
  | error e => exact Program.atMost_done

/-- A change of the outcome asks nothing. -/
theorem atMost_mapOutcome {a : Action ε α} {f : Except ε α → Except ε' β} (h : a.AtMost n) :
    Program.AtMost (σ := demands) n (f <$> a.run) := by
  rw [map_eq_pure_bind]
  exact Program.atMost_bind (n := 0) h fun _ => Program.atMost_done

theorem atMost_mapError {f : ε → ε'} {a : Action ε α} (h : a.AtMost n) : (a.mapError f).AtMost n :=
  atMost_mapOutcome h

theorem atMost_outcome {a : Action ε α} (h : a.AtMost n) :
    (a.outcome : Action ε' (Except ε α)).AtMost n := atMost_mapOutcome h

theorem atMost_discard {a : Action ε α} (h : a.AtMost n) : (discard a).AtMost n :=
  atMost_bind (n := 0) h fun _ => atMost_pure

theorem atMost_cluster {who : Client} {c : Call} : (cluster who c).AtMost 1 :=
  fun _ => trivial

theorem atMost_clock : (clock : Action ε Timestamp).AtMost 1 := fun _ => trivial

/-- Each attempt after the first one comes with a pause. -/
theorem atMost_retried {p : RetryPolicy} {again : ε → Bool} {onCancel : Nat → ε}
    {op : Nat → Action ε α} (hfirst : (op 0).AtMost m) (hlater : ∀ k, (op (k + 1)).AtMost n) :
    (retried p again onCancel op).AtMost (m + (p.maxAttempts - 1) * (n + 1)) := by
  refine atMost_mapError ?_
  show Program.AtMost (σ := demands) _
    (p.tryFrom pause again (fun k => (op k).run) (p.maxAttempts - 1) 0)
  generalize p.maxAttempts - 1 = left
  generalize 0 = attempt at hfirst ⊢
  induction left generalizing attempt m with
  | zero =>
    rw [RetryPolicy.tryFrom]
    refine Program.atMost_bind hfirst fun x => ?_
    cases x <;> exact Program.atMost_done
  | succ left ih =>
    rw [RetryPolicy.tryFrom]
    refine Program.atMost_bind hfirst fun x => ?_
    cases x with
    | ok v => exact Program.atMost_done
    | error e =>
      dsimp only
      split
      · have hcount : (left + 1) * (n + 1) = (n + left * (n + 1)) + 1 := by
          rw [Nat.succ_mul]
          omega
        rw [hcount]
        exact fun _ => ih (attempt + 1) (hlater attempt)
      · exact Program.atMost_done

end Action

end CredentialBroker
