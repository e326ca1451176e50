import CredentialBroker.Effect.Action

namespace CredentialBroker

/-!
# Contracts of programs

A `Contract` says which requests a program may ask and what it may rely on in the replies.  A
program that `Follows` a contract asks nothing else, whatever replies of that kind it gets, so one
proof about the text of a program serves every way of answering it.

* `Program.follows_bind` — a sequence follows a contract part by part;
* `Program.Follows.run` — an invariant that the allowed requests keep is kept by a whole run, and
  the value at the end is as the contract promises;
* the rules for the combinators of `Action`, up to `Action.follows_retried` for repeated attempts.
-/

/-- What a program may ask, and what it may rely on in the replies. -/
structure Contract (σ : Signature) where
  /-- The requests that may be asked. -/
  asks : σ.Request → Prop
  /-- What a reply to a request is sure to be. -/
  gets : (r : σ.Request) → σ.Reply r → Prop

namespace Program

variable {σ : Signature} {α β S : Type} {k l : Contract σ} {ends ends' : α → Prop}

/-- The program asks only what the contract allows, as long as the replies are as the contract
says, and ends with a value that satisfies `ends`. -/
def Follows (k : Contract σ) (ends : α → Prop) : Program σ α → Prop
  | .done a => ends a
  | .ask r next => k.asks r ∧ ∀ reply, k.gets r reply → (next reply).Follows k ends

@[simp] theorem follows_done {a : α} : (Program.done a : Program σ α).Follows k ends ↔ ends a :=
  Iff.rfl

@[simp] theorem follows_ask {r : σ.Request} {next : σ.Reply r → Program σ α} :
    (Program.ask r next).Follows k ends ↔
      k.asks r ∧ ∀ reply, k.gets r reply → (next reply).Follows k ends := Iff.rfl

/-- A sequence follows a contract when its first part does and ends where the second part may
begin. -/
theorem follows_bind {p : Program σ β} {f : β → Program σ α} :
    (p >>= f).Follows k ends ↔ p.Follows k fun b => (f b).Follows k ends := by
  -- A sequence asks the requests of its first part, and each of its ends goes on with the second.
  induction p with
  | done b => rfl
  | ask r next ih =>
    simp only [ask_bind, follows_ask]
    exact and_congr_right fun _ => forall₂_congr fun reply _ => ih reply

/-- A program keeps to a contract that allows more and relies on less, and ends less exactly. -/
theorem Follows.mono {p : Program σ α} (h : p.Follows k ends)
    (hasks : ∀ r, k.asks r → l.asks r) (hgets : ∀ r reply, l.gets r reply → k.gets r reply)
    (hends : ∀ a, ends a → ends' a) : p.Follows l ends' := by
  induction p with
  | done a => exact hends a h
  | ask r next ih =>
    exact ⟨hasks r h.1, fun reply hr => ih reply (h.2 reply (hgets r reply hr))⟩

/-- **Runs keep invariants.**  When every allowed request is answered as the contract says and
keeps an invariant of the state, so does every run of a program that follows the contract. -/
theorem Follows.run (handler : Handler σ (StateM S)) {I : S → Prop} {p : Program σ α}
    (hstep : ∀ r s, I s → k.asks r → k.gets r (handler r s).1 ∧ I (handler r s).2)
    (h : p.Follows k ends) {s : S} (hs : I s) :
    ends (p.run handler s).1 ∧ I (p.run handler s).2 := by
  induction p generalizing s with
  | done a => exact ⟨h, hs⟩
  | ask r next ih =>
    obtain ⟨hreply, hs'⟩ := hstep r s hs h.1
    exact ih (handler r s).1 (h.2 _ hreply) hs'

end Program

namespace Action

variable {ε ε' α β : Type} {k l : Contract demands} {ends ends' : α → Prop}

/-- The action asks only what the contract allows, and a value it ends with satisfies `ends`;
nothing is said of the errors it may end with. -/
def Follows (k : Contract demands) (ends : α → Prop) (a : Action ε α) : Prop :=
  Program.Follows k (fun x => ∀ v, x = .ok v → ends v) a.run

theorem follows_iff {a : Action ε α} :
    a.Follows k ends ↔ Program.Follows k (fun x => ∀ v, x = .ok v → ends v) a.run := Iff.rfl

theorem Follows.mono {a : Action ε α} (h : a.Follows k ends)
    (hasks : ∀ r, k.asks r → l.asks r) (hgets : ∀ r reply, l.gets r reply → k.gets r reply)
    (hends : ∀ v, ends v → ends' v) : a.Follows l ends' :=
  Program.Follows.mono h hasks hgets fun _ hx v hv => hends v (hx v hv)

/-- An action ends less exactly as well. -/
theorem Follows.weaken {a : Action ε α} (h : a.Follows k ends) (hends : ∀ v, ends v → ends' v) :
    a.Follows k ends' :=
  h.mono (fun _ => id) (fun _ _ => id) hends

theorem follows_pure {v : α} (h : ends v) : (pure v : Action ε α).Follows k ends := by
  show ∀ w, Except.ok v = Except.ok w → ends w
  rintro w ⟨⟩
  exact h

/-- A value whatever it is. -/
theorem follows_done {v : α} : (pure v : Action ε α).Follows k fun _ => True :=
  follows_pure trivial

theorem follows_throw {e : ε} : (throw e : Action ε α).Follows k ends := by
  show ∀ w, Except.error e = Except.ok w → ends w
  rintro w ⟨⟩

theorem follows_bind {a : Action ε β} {f : β → Action ε α} {mid : β → Prop}
    (ha : a.Follows k mid) (hf : ∀ b, mid b → (f b).Follows k ends) :
    (a >>= f).Follows k ends := by
  unfold Follows
  rw [ExceptT.run_bind, Program.follows_bind]
  refine Program.Follows.mono ha (fun _ => id) (fun _ _ => id) fun x hx => ?_
  cases x with
  | ok b => exact hf b (hx b rfl)
  | error e =>
    -- After an error nothing is asked.
    exact follows_throw

theorem follows_map {a : Action ε β} {f : β → α} (h : a.Follows k fun b => ends (f b)) :
    (f <$> a).Follows k ends := by
  rw [map_eq_pure_bind]
  exact follows_bind h fun b hb => follows_pure hb

/-- Nothing comes after an error. -/
theorem follows_throw_bind {e : ε} {f : β → Action ε α} : (throw e >>= f).Follows k ends := by
  have hnever : (throw e : Action ε β).Follows k fun _ => False := follows_throw
  exact follows_bind hnever fun _ h => h.elim

/-- The value of an action that is put aside. -/
theorem follows_discard {a : Action ε β} {mid : β → Prop} (h : a.Follows k mid) :
    (discard a).Follows k fun _ => True :=
  follows_map (h.weaken fun _ _ => trivial)

theorem follows_ofExcept {x : Except ε α} (h : ∀ v, x = .ok v → ends v) :
    (ofExcept x).Follows k ends := h

/-- An outcome that is there already, whatever it is. -/
theorem follows_known {x : Except ε α} : (ofExcept x).Follows k fun _ => True :=
  follows_ofExcept fun _ _ => trivial

theorem follows_mapError {f : ε → ε'} {a : Action ε α} (h : a.Follows k ends) :
    (a.mapError f).Follows k ends := by
  show Program.Follows k _ (Except.mapError f <$> a.run)
  rw [map_eq_pure_bind, Program.follows_bind]
  refine Program.Follows.mono h (fun _ => id) (fun _ _ => id) fun x hx => ?_
  rintro v hv
  cases x with
  | ok b => cases hv; exact hx _ rfl
  | error e => cases hv

theorem follows_outcome {a : Action ε α} (h : a.Follows k ends) :
    (a.outcome : Action ε' (Except ε α)).Follows k fun x => ∀ v, x = .ok v → ends v := by
  show Program.Follows k _ (Except.ok <$> a.run)
  rw [map_eq_pure_bind, Program.follows_bind]
  refine Program.Follows.mono h (fun _ => id) (fun _ _ => id) fun x hx => ?_
  rintro y ⟨⟩
  exact hx

theorem follows_cluster {who : Client} {c : Call} {ends : c.Reply → Prop}
    (hask : k.asks (.cluster who c)) (hget : ∀ v, k.gets (.cluster who c) (.ok v) → ends v) :
    (cluster who c).Follows k ends :=
  ⟨hask, fun _ hr v hv => hget v (hv ▸ hr)⟩

/-- A call, whatever it answers. -/
theorem follows_call {who : Client} {c : Call} (hask : k.asks (.cluster who c)) :
    (cluster who c).Follows k fun _ => True :=
  follows_cluster hask fun _ _ => trivial

theorem follows_exchange {request : Http.Request} {timeout : Span}
    (hask : k.asks (.exchange request timeout)) :
    (exchange request timeout).Follows k fun _ => True :=
  ⟨hask, fun _ _ _ _ => trivial⟩

theorem follows_clock (hask : k.asks .clock) :
    (clock : Action ε Timestamp).Follows k fun _ => True :=
  ⟨hask, fun _ _ _ _ => trivial⟩

/-- Attempts that follow a contract follow it together, whatever the policy. -/
theorem follows_retried {p : RetryPolicy} {again : ε → Bool} {onCancel : Nat → ε}
    {op : Nat → Action ε α} (hpause : ∀ length, k.asks (.pause length))
    (hop : ∀ n, (op n).Follows k ends) : (retried p again onCancel op).Follows k ends := by
  refine follows_mapError ?_
  show Program.Follows k _ (p.tryFrom pause again (fun n => (op n).run) (p.maxAttempts - 1) 0)
  generalize p.maxAttempts - 1 = left
  generalize 0 = attempt
  -- The attempts left bound the recursion; the number of the attempt does not matter.
  induction left generalizing attempt with
  | zero =>
    rw [RetryPolicy.tryFrom, Program.follows_bind]
    refine Program.Follows.mono (hop attempt) (fun _ => id) (fun _ _ => id) fun x hx => ?_
    cases x with
    | ok v => rintro w ⟨⟩; exact hx v rfl
    | error e => rintro w ⟨⟩
  | succ left ih =>
    rw [RetryPolicy.tryFrom, Program.follows_bind]
    refine Program.Follows.mono (hop attempt) (fun _ => id) (fun _ _ => id) fun x hx => ?_
    cases x with
    | ok v => rintro w ⟨⟩; exact hx v rfl
    | error e =>
      dsimp only
      split
      · exact ⟨hpause _, fun _ _ => ih (attempt + 1)⟩
      · rintro w ⟨⟩

-- An action is taken apart by the rules above, never by evaluating it.
attribute [irreducible] Follows

end Action

end CredentialBroker
