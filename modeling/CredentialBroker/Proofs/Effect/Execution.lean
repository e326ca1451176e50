import CredentialBroker.Cluster.Simulation
import CredentialBroker.Proofs.Effect.Contract
import CredentialBroker.Proofs.Effect.Outcome

namespace CredentialBroker

/-!
# Executions on a cluster held in memory

How `Simulation.run` goes through the combinators of `Action`: an equation for each, and for a run
that ends well what must have ended well before (`run_bind_eq_ok`, `run_retried_eq_ok`).

* `Contract.ofCalls` — the contract of programs that make certain calls to the cluster;
* `Simulation.run_follows` — an invariant of the cluster that those calls keep is kept by the run;
* `Simulation.run_now` — a run takes no time.
-/

/-- The contract of a program that makes only certain calls and relies on the answers of those that
succeed.  Requests that are no calls are free. -/
def Contract.ofCalls (asks : Client → Call → Prop) (gets : (c : Call) → c.Reply → Prop) :
    Contract demands where
  asks
    | .cluster who c => asks who c
    | .exchange .. | .clock | .pause _ => True
  gets
    | .cluster _ c, reply => ∀ v, reply = .ok v → gets c v
    | .exchange .., _ | .clock, _ | .pause _, _ => True

/-- Nothing is relied on when every answer will do. -/
theorem Contract.gets_ofCalls {asks : Client → Call → Prop} {r : Demand} {reply : r.Reply} :
    (Contract.ofCalls asks fun _ _ => True).gets r reply := by
  cases r with
  | cluster who c => exact fun _ _ => trivial
  | exchange | clock | pause => trivial

namespace Simulation

variable {ε ε' α β : Type} {env : Surroundings} {s s' : Simulation}

/-! ### Equations -/

theorem run_eq (a : Action ε α) : run env a s = Program.run (handler env) a.run s := rfl

/-- The second part of a sequence of programs goes on where the first one ended. -/
theorem run_seq {γ δ : Type} (p : Program demands γ) (f : γ → Program demands δ) :
    Program.run (handler env) (p >>= f) s =
      Program.run (handler env) (f (Program.run (handler env) p s).1)
        (Program.run (handler env) p s).2 := by
  rw [Program.run_bind]
  rfl

@[simp] theorem run_pure (v : α) : run env (pure v : Action ε α) s = (.ok v, s) := rfl

@[simp] theorem run_throw (e : ε) : run env (throw e : Action ε α) s = (.error e, s) := rfl

theorem run_bind (a : Action ε β) (f : β → Action ε α) :
    run env (a >>= f) s =
      match run env a s with
      | (.ok b, t) => run env (f b) t
      | (.error e, t) => (.error e, t) := by
  rw [run_eq, ExceptT.run_bind, run_seq, ← run_eq]
  cases run env a s with
  | mk x t => cases x <;> rfl

theorem run_map (a : Action ε β) (f : β → α) :
    run env (f <$> a) s = ((run env a s).1.map f, (run env a s).2) := by
  rw [map_eq_pure_bind, run_bind]
  cases run env a s with
  | mk x t => cases x <;> rfl

@[simp] theorem run_discard (a : Action ε β) :
    run env (discard a) s = ((run env a s).1.map fun _ => (), (run env a s).2) := run_map a _

@[simp] theorem run_ofExcept (x : Except ε α) : run env (Action.ofExcept x) s = (x, s) := rfl

@[simp] theorem run_mapError (f : ε → ε') (a : Action ε α) :
    run env (a.mapError f) s = ((run env a s).1.mapError f, (run env a s).2) := by
  show Program.run (handler env) (Except.mapError f <$> a.run) s = _
  rw [map_eq_pure_bind, run_seq]
  rfl

@[simp] theorem run_outcome (a : Action ε α) :
    run env (a.outcome : Action ε' (Except ε α)) s = (.ok (run env a s).1, (run env a s).2) := by
  show Program.run (handler env) (Except.ok <$> a.run) s = _
  rw [map_eq_pure_bind, run_seq]
  rfl

@[simp] theorem run_cluster (who : Client) (c : Call) :
    run env (Action.cluster who c) s =
      ((s.cluster.step env.supply s.now who c).1,
        { s with cluster := (s.cluster.step env.supply s.now who c).2 }) := rfl

@[simp] theorem run_clock : run env (Action.clock : Action ε Timestamp) s = (.ok s.now, s) := rfl

@[simp] theorem run_exchange (request : Http.Request) (timeout : Span) :
    run env (Action.exchange request timeout) s = (env.exchange request, s) := rfl

/-! ### Runs that end well -/

theorem fst_run_eq_ok {a : Action ε α} {v : α} :
    (run env a s).1 = .ok v ↔ ∃ s', run env a s = (.ok v, s') := by
  constructor
  · intro h
    exact ⟨(run env a s).2, by rw [← h]⟩
  · rintro ⟨s', h⟩
    rw [h]

theorem run_of_isOk (env : Surroundings) {a : Action ε α} (h : (run env a s).1.isOk) :
    ∃ v, run env a s = (.ok v, (run env a s).2) := by
  cases hrun : run env a s with
  | mk x t =>
    rw [hrun] at h
    cases x with
    | ok v => exact ⟨v, rfl⟩
    | error e => cases h

/-- A sequence ends well exactly when both of its parts do, one after the other. -/
theorem run_bind_eq_ok {a : Action ε β} {f : β → Action ε α} {v : α} :
    run env (a >>= f) s = (.ok v, s') ↔
      ∃ b t, run env a s = (.ok b, t) ∧ run env (f b) t = (.ok v, s') := by
  rw [run_bind]
  cases h : run env a s with
  | mk x t => cases x <;> simp [and_assoc, eq_comm]

theorem run_discard_eq_ok {a : Action ε β} {v : Unit} :
    run env (discard a) s = (.ok v, s') ↔ ∃ b, run env a s = (.ok b, s') := by
  rw [run_discard]
  cases h : run env a s with
  | mk x t => cases x <;> simp [Except.map]

theorem run_mapError_eq_ok {f : ε → ε'} {a : Action ε α} {v : α} :
    run env (a.mapError f) s = (.ok v, s') ↔ run env a s = (.ok v, s') := by
  rw [run_mapError, Prod.mk.injEq, Outcome.mapError_eq_ok, ← Prod.mk.injEq]

theorem run_cluster_eq_ok {who : Client} {c : Call} {v : c.Reply} :
    run env (Action.cluster who c) s = (.ok v, s') ↔
      ∃ t, s.cluster.step env.supply s.now who c = (.ok v, t) ∧ s' = { s with cluster := t } := by
  rw [run_cluster]
  cases h : s.cluster.step env.supply s.now who c with
  | mk x t => cases x <;> simp [eq_comm, and_assoc]

/-- Attempts that end well end with one that did, and what attempts that fail keep holds before
it. -/
theorem run_retried_eq_ok_of_failing {p : RetryPolicy} {again : ε → Bool} {onCancel : Nat → ε}
    {op : Nat → Action ε α} {I : Simulation → Prop} {v : α}
    (hop : ∀ n t t' e, I t → run env (op n) t = (.error e, t') → I t') (hs : I s)
    (h : run env (Action.retried p again onCancel op) s = (.ok v, s')) :
    ∃ n t, I t ∧ run env (op n) t = (.ok v, s') := by
  rw [Action.retried, run_mapError_eq_ok] at h
  change Program.run (handler env)
    (p.tryFrom Action.pause again (fun n => (op n).run) (p.maxAttempts - 1) 0) s = _ at h
  generalize p.maxAttempts - 1 = left at h
  generalize 0 = attempt at h
  -- The invariant carries over from a failed attempt to the next one.
  induction left generalizing attempt s with
  | zero =>
    rw [RetryPolicy.tryFrom, run_seq, ← run_eq] at h
    cases hr : run env (op attempt) s with
    | mk x t =>
      rw [hr] at h
      cases x with
      | ok w => cases h; exact ⟨attempt, s, hs, hr⟩
      | error e => cases h
  | succ left ih =>
    rw [RetryPolicy.tryFrom, run_seq, ← run_eq] at h
    cases hr : run env (op attempt) s with
    | mk x t =>
      rw [hr] at h
      cases x with
      | ok w => cases h; exact ⟨attempt, s, hs, hr⟩
      | error e =>
        -- The pause changes nothing, so the next attempt starts where this one ended.
        dsimp only at h
        split at h
        · exact ih (hop attempt s t e hs hr) (attempt + 1) h
        · cases h

/-- Attempts that end well end with one that did, and what every attempt keeps holds before it. -/
theorem run_retried_eq_ok {p : RetryPolicy} {again : ε → Bool} {onCancel : Nat → ε}
    {op : Nat → Action ε α} {I : Simulation → Prop} {v : α}
    (hop : ∀ n t, I t → I (run env (op n) t).2) (hs : I s)
    (h : run env (Action.retried p again onCancel op) s = (.ok v, s')) :
    ∃ n t, I t ∧ run env (op n) t = (.ok v, s') := by
  refine run_retried_eq_ok_of_failing (fun n t t' e ht hr => ?_) hs h
  have hkept := hop n t ht
  rwa [hr] at hkept

/-- Attempts end with the first one when it ends well. -/
theorem run_retried_of_ok {p : RetryPolicy} {again : ε → Bool} {onCancel : Nat → ε}
    {op : Nat → Action ε α} {v : α} (h : run env (op 0) s = (.ok v, s')) :
    run env (Action.retried p again onCancel op) s = (.ok v, s') := by
  rw [Action.retried, run_mapError_eq_ok]
  show Program.run (handler env)
    (p.tryFrom Action.pause again (fun n => (op n).run) (p.maxAttempts - 1) 0) s = _
  cases p.maxAttempts - 1 with
  | zero => rw [RetryPolicy.tryFrom, run_seq, ← run_eq, h]; rfl
  | succ left => rw [RetryPolicy.tryFrom, run_seq, ← run_eq, h]; rfl

/-! ### Invariants -/

/-- A contract of calls may list more of them. -/
theorem follows_ofCalls_mono {a : Action ε α} {asks asks' : Client → Call → Prop}
    {gets : (c : Call) → c.Reply → Prop} {ends : α → Prop} (h : a.Follows (.ofCalls asks gets) ends)
    (hasks : ∀ who c, asks who c → asks' who c) : a.Follows (.ofCalls asks' gets) ends := by
  refine h.mono (fun r hr => ?_) (fun _ _ => id) fun _ => id
  cases r with
  | cluster who c => exact hasks who c hr
  | exchange | clock | pause => trivial

/-- A run of a program keeps what the calls that its contract allows keep, as long as they answer as
the contract says. -/
theorem follows_run (env : Surroundings) {asks : Client → Call → Prop}
    {gets : (c : Call) → c.Reply → Prop} {I : ClusterState → Prop} {ends : α → Prop}
    {p : Program demands α}
    (hstep : ∀ now t who c, I t → asks who c →
      I (t.step env.supply now who c).2 ∧
        ∀ v, (t.step env.supply now who c).1 = .ok v → gets c v)
    (h : p.Follows (.ofCalls asks gets) ends) (hs : I s.cluster) :
    I (p.run (handler env) s).2.cluster ∧ ends (p.run (handler env) s).1 := by
  refine (Program.Follows.run (handler env) (I := fun t => I t.cluster)
    (fun r t ht hr => ?_) h hs).symm
  cases r with
  | cluster who c => exact (hstep t.now t.cluster who c ht hr).symm
  | exchange request timeout => exact ⟨trivial, ht⟩
  | clock => exact ⟨trivial, ht⟩
  | pause length => exact ⟨trivial, ht⟩

/-- **Runs keep invariants of the cluster.**  When the calls that a contract allows keep an
invariant and answer as the contract says, a run that follows the contract keeps it too. -/
theorem run_follows (env : Surroundings) {asks : Client → Call → Prop}
    {gets : (c : Call) → c.Reply → Prop} {I : ClusterState → Prop} {ends : α → Prop}
    {a : Action ε α}
    (hstep : ∀ now t who c, I t → asks who c →
      I (t.step env.supply now who c).2 ∧
        ∀ v, (t.step env.supply now who c).1 = .ok v → gets c v)
    (h : a.Follows (.ofCalls asks gets) ends) (hs : I s.cluster) :
    I (run env a s).2.cluster ∧ ∀ v, (run env a s).1 = .ok v → ends v :=
  follows_run env hstep (Action.follows_iff.mp h) hs

/-- What every call keeps is kept by every run. -/
theorem run_keeps (env : Surroundings) {I : ClusterState → Prop} (a : Action ε α)
    (hstep : ∀ now t who c, I t → I (t.step env.supply now who c).2) (hs : I s.cluster) :
    I (run env a s).2.cluster := by
  -- Every program follows the contract that allows all and relies on nothing.
  have hfollows : ∀ p : Program demands (Except ε α),
      p.Follows (.ofCalls (fun _ _ => True) fun _ _ => True) fun _ => True := by
    intro p
    induction p with
    | done x => trivial
    | ask r next ih => exact ⟨by cases r <;> trivial, fun reply _ => ih reply⟩
  have hall : a.Follows (.ofCalls (fun _ _ => True) fun _ _ => True) fun _ => True :=
    Action.follows_iff.mpr
      ((hfollows a.run).mono (fun _ => id) (fun _ _ => id) fun _ _ _ _ => trivial)
  have hrun := run_follows env
    (fun now t who c ht _ => ⟨hstep now t who c ht, fun _ _ => trivial⟩) hall hs
  exact hrun.1

/-- A run takes no time: pauses pass at once. -/
@[simp] theorem run_now (a : Action ε α) : (run env a s).2.now = s.now := by
  show (Program.run (handler env) a.run s).2.now = s.now
  generalize a.run = p
  -- No answer moves the clock, not even that to a pause.
  induction p generalizing s with
  | done x => rfl
  | ask r next ih => exact (ih (handler env r s).1).trans (by cases r <;> rfl)

theorem now_of_run_eq {a : Action ε α} {x : Except ε α} (h : run env a s = (x, s')) :
    s'.now = s.now := by
  exact (congrArg (fun o => o.2.now) h).symm.trans (run_now a)

end Simulation

end CredentialBroker
