import CredentialBroker.Proofs.Effect.Execution

namespace CredentialBroker.Simulation

/-!
# Runs that fail

What must have failed when a run ends with an error.  Nothing is undone then: what the first parts
of the run have done stays done.

* `run_bind_eq_error` — a sequence fails in one of its parts;
* `run_retried_eq_error` — attempts fail together when each of them has failed, as the last one did.
-/

variable {ε ε' α β : Type} {env : Surroundings} {s s' : Simulation}

/-- A sequence fails in its first part, or in the second one after a first that ended well. -/
theorem run_bind_eq_error {a : Action ε β} {f : β → Action ε α} {e : ε} :
    run env (a >>= f) s = (.error e, s') ↔
      run env a s = (.error e, s') ∨
        ∃ b t, run env a s = (.ok b, t) ∧ run env (f b) t = (.error e, s') := by
  rw [run_bind]
  cases h : run env a s with
  | mk x t => cases x <;> simp [and_assoc, eq_comm]

theorem run_mapError_eq_error {f : ε → ε'} {a : Action ε α} {e : ε'} :
    run env (a.mapError f) s = (.error e, s') ↔
      ∃ e', run env a s = (.error e', s') ∧ f e' = e := by
  rw [run_mapError]
  cases h : run env a s with
  | mk x t => cases x <;> simp [and_comm, and_left_comm]

theorem run_discard_eq_error {a : Action ε β} {e : ε} :
    run env (discard a) s = (.error e, s') ↔ run env a s = (.error e, s') := by
  rw [run_discard]
  cases h : run env a s with
  | mk x t => cases x <;> simp [Except.map]

theorem run_cluster_eq_error {who : Client} {c : Call} {e : ClusterError} :
    run env (Action.cluster who c) s = (.error e, s') ↔
      ∃ t, s.cluster.step env.supply s.now who c = (.error e, t) ∧
        s' = { s with cluster := t } := by
  rw [run_cluster]
  cases h : s.cluster.step env.supply s.now who c with
  | mk x t => cases x <;> simp [eq_comm, and_assoc]

/-- Attempts that fail together end with one that failed, and what attempts that fail keep holds
before it. -/
theorem run_retried_eq_error {p : RetryPolicy} {again : ε → Bool} {onCancel : Nat → ε}
    {op : Nat → Action ε α} {I : Simulation → Prop} {e : ε}
    (hop : ∀ n t t' e', I t → run env (op n) t = (.error e', t') → I t') (hs : I s)
    (h : run env (Action.retried p again onCancel op) s = (.error e, s')) :
    ∃ n t, I t ∧ run env (op n) t = (.error e, s') := by
  obtain ⟨last, hlast, he⟩ := run_mapError_eq_error.mp h
  clear h
  change Program.run (handler env)
    (p.tryFrom Action.pause again (fun n => (op n).run) (p.maxAttempts - 1) 0) s = _ at hlast
  generalize p.maxAttempts - 1 = left at hlast
  generalize 0 = attempt at hlast
  -- An attempt that ends well ends them all, so each one that was made has failed; and no pause is
  -- cut short, so they end with the error of the last one.
  induction left generalizing attempt s with
  | zero =>
    rw [RetryPolicy.tryFrom, run_seq, ← run_eq] at hlast
    cases hr : run env (op attempt) s with
    | mk x t =>
      rw [hr] at hlast
      cases x with
      | ok w => cases hlast
      | error e' =>
        cases hlast
        obtain rfl : e' = e := he
        exact ⟨attempt, s, hs, hr⟩
  | succ left ih =>
    rw [RetryPolicy.tryFrom, run_seq, ← run_eq] at hlast
    cases hr : run env (op attempt) s with
    | mk x t =>
      rw [hr] at hlast
      cases x with
      | ok w => cases hlast
      | error e' =>
        dsimp only at hlast
        split at hlast
        · exact ih (hop attempt s t e' hs hr) (attempt + 1) hlast
        · cases hlast
          obtain rfl : e' = e := he
          exact ⟨attempt, s, hs, hr⟩

end CredentialBroker.Simulation
