import CredentialBroker.Proofs.Effect.Length
import CredentialBroker.Proofs.World.Interleaving
import Mathlib.Algebra.BigOperators.Group.Finset.Basic
import Mathlib.Data.Fintype.Basic

namespace CredentialBroker

/-!
# Programs that put up with each other

Programs share a cluster and change it under each other's hands.  A `Conduct` says what each of them
may make of the cluster, by a number of writes that it uses up in doing so.  A program withstands
another one when it gets where it should whatever that other one does between its requests, as long
as both keep to the conduct.  So each program is looked at alone, along its text.  Where there are
more than two, each withstands all the others taken as one.

* `Program.Withstands` — the program keeps to the conduct and ends as it should;
* the rules for the combinators of `Action`, up to `Action.withstands_retried`: each conflict leaves
  the next attempt with an invariant for one attempt less;
* `Interleaving.run_withstandTogether` — programs that withstand each other do so after any moves;
* `Interleaving.run_withstands` — the same for two of them;
* `Interleaving.run_ended` — a program has ended after as many turns as it can ask requests.
-/

/-- What programs may make of a cluster, by the number of writes that they have to spare. -/
structure Conduct where
  /-- With so many writes to spare, one cluster may be made another, and so many are left. -/
  may : Nat → ClusterState → Nat → ClusterState → Prop
  /-- Nothing needs to be done. -/
  refl : ∀ n s, may n s n s
  /-- One thing may be done after another. -/
  trans : ∀ {l m n s t u}, may l s m t → may m t n u → may l s n u

/-- What is said of the end of a program: by its value, the writes left to it, those left to the
other program, and the cluster. -/
abbrev Ending (α : Type) := α → Nat → Nat → ClusterState → Prop

/-- What is said of a value, and what of an error. -/
def Ending.either {ε α : Type} (good : Ending α) (bad : Ending ε) : Ending (Except ε α)
  | .ok v => good v
  | .error e => bad e

/-- What is said of a value, when there is no error. -/
def Ending.well {ε α : Type} (good : Ending α) : Ending (Except ε α) :=
  .either good fun _ _ _ _ => False

/-- It stays true whatever the other program does. -/
def Conduct.Keeps {α : Type} (k : Conduct) (ends : Ending α) : Prop :=
  ∀ {a mine theirs s left t}, ends a mine theirs s → k.may theirs s left t → ends a mine left t

namespace Program

variable {α β : Type} {k : Conduct} {supply : Supply} {p : Program demands α} {ends : Ending α}
  {mine theirs left : Nat} {s t : ClusterState}

/-- Whatever another program of the same conduct does before each request, the program keeps to the
conduct, and ends as is said. -/
def Withstands (k : Conduct) (supply : Supply) (ends : Ending α) :
    Program demands α → Nat → Nat → ClusterState → Prop
  | .done a, mine, theirs, s => ends a mine theirs s
  | .ask r next, mine, theirs, s => ∀ left t, k.may theirs s left t → ∀ now exchange,
      let (reply, world) := Simulation.handler ⟨supply, exchange⟩ r ⟨now, t⟩
      ∃ spared, k.may mine t spared world.cluster ∧
        (next reply).Withstands k supply ends spared left world.cluster

/-- What the other program does makes no difference. -/
theorem Withstands.of_may (h : p.Withstands k supply ends mine theirs s) (hkeeps : k.Keeps ends)
    (hmay : k.may theirs s left t) : p.Withstands k supply ends mine left t := by
  cases p with
  | done a => exact hkeeps h hmay
  | ask r next => exact fun rest u hrest => h rest u (k.trans hmay hrest)

theorem Withstands.mono {ends' : Ending α} (h : p.Withstands k supply ends mine theirs s)
    (hends : ∀ {a mine theirs s}, ends a mine theirs s → ends' a mine theirs s) :
    p.Withstands k supply ends' mine theirs s := by
  induction p generalizing mine theirs s with
  | done a => exact hends h
  | ask r next ih =>
    intro left t hmay now exchange
    obtain ⟨spared, hspared, hnext⟩ := h left t hmay now exchange
    exact ⟨spared, hspared, ih _ hnext⟩

/-- A sequence withstands what its first part does, when that ends where the second one does. -/
theorem withstands_bind {p : Program demands β} {f : β → Program demands α}
    (h : p.Withstands k supply
      (fun b mine theirs s => (f b).Withstands k supply ends mine theirs s) mine theirs s) :
    (p >>= f).Withstands k supply ends mine theirs s := by
  induction p generalizing mine theirs s with
  | done b => exact h
  | ask r next ih =>
    intro left t hmay now exchange
    obtain ⟨spared, hspared, hnext⟩ := h left t hmay now exchange
    exact ⟨spared, hspared, ih _ hnext⟩

end Program

namespace Action

variable {ε ε' α β : Type} {k : Conduct} {supply : Supply} {mine theirs : Nat} {s : ClusterState}

/-- Whatever another program does before each request, the action keeps to the conduct, and its
outcome is as is said. -/
def Withstands (k : Conduct) (supply : Supply) (ends : Ending (Except ε α)) (a : Action ε α)
    (mine theirs : Nat) (s : ClusterState) : Prop :=
  Program.Withstands k supply ends a.run mine theirs s

section Combinators

variable {ends : Ending (Except ε α)}

theorem withstands_pure {v : α} (h : ends (.ok v) mine theirs s) :
    (pure v : Action ε α).Withstands k supply ends mine theirs s := h

theorem withstands_bind {a : Action ε β} {f : β → Action ε α}
    (h : a.Withstands k supply (.either (fun b => (f b).Withstands k supply ends)
      fun e => ends (.error e)) mine theirs s) :
    (a >>= f).Withstands k supply ends mine theirs s := by
  unfold Withstands
  rw [ExceptT.run_bind]
  refine Program.withstands_bind (Program.Withstands.mono h fun {x} _ _ _ hx => ?_)
  cases x with
  | ok b => exact hx
  | error e => exact hx

/-- What ends well is followed by what goes on from there. -/
theorem Withstands.andThen {a : Action ε β} {f : β → Action ε α} {good : Ending β}
    (h : a.Withstands k supply (.well good) mine theirs s)
    (hf : ∀ {b mine theirs s}, good b mine theirs s →
      (f b).Withstands k supply ends mine theirs s) :
    (a >>= f).Withstands k supply ends mine theirs s := by
  refine withstands_bind (Program.Withstands.mono h fun {x} _ _ _ hx => ?_)
  cases x with
  | ok b => exact hf hx
  | error e => exact hx.elim

/-- A change of the outcome asks nothing. -/
theorem withstands_mapOutcome {ends : Ending (Except ε' β)} {a : Action ε α}
    {f : Except ε α → Except ε' β}
    (h : a.Withstands k supply (fun x => ends (f x)) mine theirs s) :
    Program.Withstands k supply ends (f <$> a.run) mine theirs s := by
  rw [map_eq_pure_bind]
  exact Program.withstands_bind h

theorem withstands_mapError {ends : Ending (Except ε' α)} {f : ε → ε'} {a : Action ε α}
    (h : a.Withstands k supply (fun x => ends (x.mapError f)) mine theirs s) :
    (a.mapError f).Withstands k supply ends mine theirs s := withstands_mapOutcome h

theorem withstands_outcome {ends : Ending (Except ε' (Except ε α))} {a : Action ε α}
    (h : a.Withstands k supply (fun x => ends (.ok x)) mine theirs s) :
    a.outcome.Withstands k supply ends mine theirs s := withstands_mapOutcome h

theorem withstands_discard {ends : Ending (Except ε Unit)} {a : Action ε α}
    (h : a.Withstands k supply (fun x => ends (x.map fun _ => ())) mine theirs s) :
    (discard a).Withstands k supply ends mine theirs s := by
  refine withstands_bind (Program.Withstands.mono h fun {x} _ _ _ hx => ?_)
  cases x with
  | ok v => exact hx
  | error e => exact hx

/-- A call is made on whatever the other program has left. -/
theorem withstands_cluster {who : Client} {c : Call} {ends : Ending (Except ClusterError c.Reply)}
    (h : ∀ left t, k.may theirs s left t → ∀ now, ∃ spared,
      k.may mine t spared (t.step supply now who c).2 ∧
        ends (t.step supply now who c).1 spared left (t.step supply now who c).2) :
    (cluster who c).Withstands k supply ends mine theirs s :=
  fun left t hmay now _ => h left t hmay now

theorem withstands_clock {ends : Ending (Except ε Timestamp)}
    (h : ∀ left t, k.may theirs s left t → ∀ now, ends (.ok now) mine left t) :
    (clock : Action ε Timestamp).Withstands k supply ends mine theirs s :=
  fun left t hmay now _ => ⟨mine, k.refl mine t, h left t hmay now⟩

/-- Attempts withstand another program by an invariant for those that are left: an attempt ends as
is said, or with an error worth another try and the invariant for one less. -/
theorem withstands_retried {p : RetryPolicy} {again : ε → Bool} {onCancel : Nat → ε}
    {op : Nat → Action ε α} {I : Nat → Nat → Nat → Nat → ClusterState → Prop}
    (hop : ∀ {left attempt mine theirs s}, I left attempt mine theirs s →
      (op attempt).Withstands k supply (.either (fun v => ends (.ok v))
        fun e mine theirs s => again e = true ∧ ∃ fewer, left = fewer + 1 ∧
          ∀ rest t, k.may theirs s rest t → I fewer (attempt + 1) mine rest t) mine theirs s)
    (h : I (p.maxAttempts - 1) 0 mine theirs s) :
    (retried p again onCancel op).Withstands k supply ends mine theirs s := by
  refine withstands_mapError ?_
  show Program.Withstands k supply _
    (p.tryFrom pause again (fun n => (op n).run) (p.maxAttempts - 1) 0) mine theirs s
  generalize p.maxAttempts - 1 = left at h ⊢
  generalize 0 = attempt at h ⊢
  -- The attempts left bound the recursion, and the invariant goes along with them.
  induction left generalizing attempt mine theirs s with
  | zero =>
    rw [RetryPolicy.tryFrom]
    refine Program.withstands_bind (Program.Withstands.mono (hop h) fun {x} _ _ _ hx => ?_)
    cases x with
    | ok v => exact hx
    | error e =>
      obtain ⟨_, fewer, hfewer, _⟩ := hx
      cases hfewer
  | succ left ih =>
    rw [RetryPolicy.tryFrom]
    refine Program.withstands_bind (Program.Withstands.mono (hop h) fun {x} _ _ _ hx => ?_)
    cases x with
    | ok v => exact hx
    | error e =>
      obtain ⟨hagain, fewer, hfewer, hnext⟩ := hx
      cases hfewer
      dsimp only
      rw [if_pos hagain]
      -- The other program may go on during the pause as well.
      exact fun rest t hrest _ _ => ⟨_, k.refl _ t, ih (attempt + 1) (hnext rest t hrest)⟩

end Combinators

end Action

/-! ### Turns -/

/-- The move is a turn of the program. -/
def Move.isTurn {ι : Type} [DecidableEq ι] (i : ι) : Move ι → Bool
  | .turn j _ => j = i
  | .other _ | .wait _ => false

namespace Interleaving

section Turns

variable {ι α : Type} [DecidableEq ι] {supply : Supply} {c : Interleaving ι α} {i : ι}
  {m : Move ι} {moves : List (Move ι)} {n : Nat}

/-- A turn of a program leaves it a request less to ask, and other moves leave it alone. -/
theorem atMost_move (h : (c.threads i).left.AtMost n) :
    ((c.move supply m).threads i).left.AtMost (n - (m.isTurn i).toNat) := by
  cases m with
  | other | wait => exact h
  | turn j exchange =>
    show ((c.turn ⟨supply, exchange⟩ j).threads i).left.AtMost (n - (decide (j = i)).toNat)
    by_cases hj : j = i
    · subst hj
      rw [decide_eq_true rfl]
      cases hleft : (c.threads j).left with
      | done a =>
        rw [turn_of_done hleft, hleft]
        exact Program.atMost_done
      | ask r next =>
        rw [threads_turn hleft, if_pos rfl]
        rw [hleft] at h
        cases n with
        | zero => exact h.elim
        | succ n => exact h _
    · rw [decide_eq_false hj]
      cases hleft : (c.threads j).left with
      | done a =>
        rw [turn_of_done hleft]
        exact h
      | ask r next =>
        rw [threads_turn hleft, if_neg (Ne.symm hj)]
        exact h

/-- A program has ended after as many turns as it can ask requests. -/
theorem run_ended (h : (c.threads i).left.AtMost n) (hturns : n ≤ moves.countP (Move.isTurn i)) :
    ∃ a, ((c.run supply moves).threads i).left = .done a := by
  induction moves generalizing c n with
  | nil =>
    obtain rfl : n = 0 := Nat.le_zero.mp hturns
    exact h.eq_done
  | cons m moves ih =>
    have hmove : ((c.move supply m).threads i).left.AtMost (n - (m.isTurn i).toNat) :=
      atMost_move h
    refine ih hmove ?_
    rw [List.countP_cons] at hturns
    cases hm : m.isTurn i with
    | true =>
      rw [hm, if_pos rfl] at hturns
      rw [Bool.toNat_true]
      omega
    | false =>
      rw [hm, if_neg Bool.false_ne_true] at hturns
      rw [Bool.toNat_false]
      omega

end Turns

/-! ### Any number of programs -/

section Together

variable {ι α : Type} [DecidableEq ι] [Fintype ι] {k : Conduct} {supply : Supply}
  {ends : ι → Ending α} {c : Interleaving ι α} {budget : ι → Nat} {i j : ι}

/-- The writes that all programs but one have to spare together. -/
def others (budget : ι → Nat) (i : ι) : Nat := ∑ j ∈ Finset.univ.erase i, budget j

/-- What one program uses up is used up by the others of each other one. -/
theorem others_update (budget : ι → Nat) (left : Nat) (hij : j ≠ i) :
    ∃ rest, others budget j = budget i + rest ∧
      others (Function.update budget i left) j = left + rest := by
  have hi : i ∈ Finset.univ.erase j := Finset.mem_erase.mpr ⟨hij.symm, Finset.mem_univ i⟩
  refine ⟨∑ l ∈ (Finset.univ.erase j).erase i, budget l, (Finset.add_sum_erase _ _ hi).symm, ?_⟩
  unfold others
  rw [← Finset.add_sum_erase _ _ hi, Function.update_self]
  refine congrArg _ (Finset.sum_congr rfl fun l hl => ?_)
  exact Function.update_of_ne (Finset.ne_of_mem_erase hl) _ _

theorem others_bool (budget : Bool → Nat) (b : Bool) : others budget b = budget !b := by
  cases b with
  | false => rfl
  | true => rfl

/-- To each other program, what one makes of the cluster is something the others may make of it
together. -/
def Joint (ι : Type) [DecidableEq ι] [Fintype ι] (k : Conduct) : Prop :=
  ∀ (budget : ι → Nat) (i j : ι) (left : Nat) (s t : ClusterState), j ≠ i →
    k.may (budget i) s left t →
      k.may (others budget j) s (others (Function.update budget i left) j) t

/-- So it is when what may be done with some writes may be done with more of them. -/
theorem joint_of_add
    (hadd : ∀ {n s m t} rest, k.may n s m t → k.may (n + rest) s (m + rest) t) : Joint ι k := by
  intro budget i j left s t hij hmay
  obtain ⟨rest, hbefore, hafter⟩ := others_update budget left hij
  rw [hbefore, hafter]
  exact hadd rest hmay

/-- Two programs have only each other. -/
theorem joint_bool : Joint Bool k := by
  intro budget i j left s t hij hmay
  obtain rfl : i = !j := Bool.eq_not.mpr (Ne.symm hij)
  rwa [others_bool, others_bool, Function.update_self]

/-- Each program withstands all the others. -/
def WithstandTogether (k : Conduct) (supply : Supply) (ends : ι → Ending α)
    (c : Interleaving ι α) (budget : ι → Nat) : Prop :=
  ∀ i, (c.threads i).left.Withstands k supply (ends i) (budget i) (others budget i)
    c.world.cluster

/-- A turn is conduct of one program and interference for the others. -/
theorem WithstandTogether.turn (h : c.WithstandTogether k supply ends budget)
    (hjoint : Joint ι k) (hkeeps : ∀ i, k.Keeps (ends i)) (i : ι)
    (exchange : Http.Request → Except Http.Fault Http.Response) :
    ∃ budget', (c.turn ⟨supply, exchange⟩ i).WithstandTogether k supply ends budget' := by
  cases hleft : (c.threads i).left with
  | done a =>
    rw [turn_of_done hleft]
    exact ⟨budget, h⟩
  | ask r next =>
    have hasks := h i
    rw [hleft] at hasks
    obtain ⟨spared, hspared, hnext⟩ :=
      hasks (others budget i) c.world.cluster (k.refl _ _) c.world.now exchange
    refine ⟨Function.update budget i spared, ?_⟩
    unfold WithstandTogether
    rw [world_turn hleft]
    refine forall_threads_turn (P := fun j thread => thread.left.Withstands k supply (ends j)
      (Function.update budget i spared j) (others (Function.update budget i spared) j) _) hleft
      (fun j hj => ?_) ?_
    · rw [Function.update_of_ne hj]
      exact (h j).of_may (hkeeps j) (hjoint budget i j spared _ _ hj hspared)
    · -- What the others have to spare is the same.
      have hsame : others (Function.update budget i spared) i = others budget i :=
        Finset.sum_congr rfl fun l hl => Function.update_of_ne (Finset.ne_of_mem_erase hl) _ _
      rw [Function.update_self, hsame]
      exact hnext

/-- **Programs that withstand each other.**  They do so after any moves, when anything else that
happens is what each of them withstands without a write. -/
theorem run_withstandTogether {moves : List (Move ι)}
    (hprograms : c.WithstandTogether k supply ends budget) (hjoint : Joint ι k)
    (hkeeps : ∀ i, k.Keeps (ends i))
    (hothers : ∀ e, .other e ∈ moves → ∀ now n s, k.may n s n (e.run supply now s)) :
    ∃ budget', (c.run supply moves).WithstandTogether k supply ends budget' := by
  refine run_invariant (I := fun c => ∃ budget, c.WithstandTogether k supply ends budget)
    (fun m hm c hc => ?_) ⟨budget, hprograms⟩
  obtain ⟨budget, h⟩ := hc
  cases m with
  | turn i exchange => exact h.turn hjoint hkeeps i exchange
  | other e => exact ⟨budget, fun i => (h i).of_may (hkeeps i) (hothers e hm _ _ _)⟩
  | wait length => exact ⟨budget, h⟩

end Together

/-! ### Two programs -/

variable {α : Type} {k : Conduct} {supply : Supply} {ends : Bool → Ending α}
  {c : Interleaving Bool α}

/-- Each of two programs withstands the other one. -/
def Withstands (k : Conduct) (supply : Supply) (ends : Bool → Ending α) (c : Interleaving Bool α)
    (budget : Bool → Nat) : Prop :=
  ∀ b, (c.threads b).left.Withstands k supply (ends b) (budget b) (budget !b) c.world.cluster

variable {budget : Bool → Nat} {moves : List (Move Bool)}

theorem withstands_iff :
    c.Withstands k supply ends budget ↔ c.WithstandTogether k supply ends budget := by
  unfold Withstands WithstandTogether
  simp only [others_bool]

/-- **Two programs that withstand each other.**  They do so after any moves, when anything else that
happens is what each of them withstands without a write. -/
theorem run_withstands (hprograms : c.Withstands k supply ends budget)
    (hkeeps : ∀ b, k.Keeps (ends b))
    (hothers : ∀ e, .other e ∈ moves → ∀ now n s, k.may n s n (e.run supply now s)) :
    ∃ budget', (c.run supply moves).Withstands k supply ends budget' := by
  obtain ⟨budget', h⟩ :=
    run_withstandTogether (withstands_iff.mp hprograms) joint_bool hkeeps hothers
  exact ⟨budget', withstands_iff.mpr h⟩

end Interleaving

end CredentialBroker
