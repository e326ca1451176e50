import CredentialBroker.Proofs.Effect.Contract

namespace CredentialBroker

/-!
# Programs that go on alike

Two programs are `Alike` when they ask requests that belong together, go on alike after any replies
that belong together, and end with values that belong together.  What belongs together is a
`Pairing`, so one proof about the texts of two programs serves every two worlds whose replies keep
to it.

* `Program.alike_bind` — sequences go on alike part by part;
* `Program.Alike.run` — alike programs have values that belong together in any two worlds that
  answer paired requests alike and stay related while they do;
* the rules for the combinators of `Action`, up to `Action.alike_retried` for repeated attempts.
-/

/-! ### Outcomes -/

/-- Both outcomes are errors that belong together, or both are values that do. -/
inductive Outcome.Alike {ε ε' α α' : Type} (errs : ε → ε' → Prop) (vals : α → α' → Prop) :
    Except ε α → Except ε' α' → Prop where
  /-- Two errors. -/
  | error {e : ε} {e' : ε'} (h : errs e e') : Alike errs vals (.error e) (.error e')
  /-- Two values. -/
  | ok {v : α} {v' : α'} (h : vals v v') : Alike errs vals (.ok v) (.ok v')

namespace Outcome

variable {ε ε' η η' α α' β β' : Type} {errs : ε → ε' → Prop} {errs' : η → η' → Prop}
  {vals : α → α' → Prop} {mid : β → β' → Prop}

theorem alike_refl {errs : ε → ε → Prop} (herrs : ∀ e, errs e e) (x : Except ε α) :
    Alike errs Eq x x := by
  cases x with
  | error e => exact .error (herrs e)
  | ok v => exact .ok rfl

theorem Alike.mono {errs' : ε → ε' → Prop} {vals' : α → α' → Prop} {x : Except ε α}
    {x' : Except ε' α'} (h : Alike errs vals x x') (herrs : ∀ e e', errs e e' → errs' e e')
    (hvals : ∀ v v', vals v v' → vals' v v') : Alike errs' vals' x x' := by
  cases h with
  | error h => exact .error (herrs _ _ h)
  | ok h => exact .ok (hvals _ _ h)

theorem alike_bind {x : Except ε β} {x' : Except ε' β'} {f : β → Except ε α}
    {f' : β' → Except ε' α'} (hx : Alike errs mid x x')
    (hf : ∀ b b', mid b b' → Alike errs vals (f b) (f' b')) :
    Alike errs vals (x >>= f) (x' >>= f') := by
  cases hx with
  | error h => exact .error h
  | ok h => exact hf _ _ h

theorem alike_mapError {x : Except ε α} {x' : Except ε' α'} {f : ε → η} {f' : ε' → η'}
    (h : Alike errs vals x x') (hf : ∀ e e', errs e e' → errs' (f e) (f' e')) :
    Alike errs' vals (x.mapError f) (x'.mapError f') := by
  cases h with
  | error h => exact .error (hf _ _ h)
  | ok h => exact .ok h

/-- Outcomes that belong together only when they are equal. -/
theorem eq_of_alike {x x' : Except ε α} (h : Alike Eq Eq x x') : x = x' := by
  cases h with
  | error h => rw [h]
  | ok h => rw [h]

end Outcome

/-! ### Programs -/

/-- Which requests belong together, and which replies to them do. -/
abbrev Pairing (σ : Signature) :=
  (r r' : σ.Request) → (σ.Reply r → σ.Reply r' → Prop) → Prop

namespace Program

variable {σ : Signature} {α α' β β' S S' : Type} {k : Pairing σ} {ends : α → α' → Prop}
  {mid : β → β' → Prop}

/-- The programs ask requests that belong together as long as the replies do, and end with values
that belong together. -/
inductive Alike (k : Pairing σ) (ends : α → α' → Prop) : Program σ α → Program σ α' → Prop where
  /-- Both programs are done. -/
  | done {a : α} {a' : α'} (h : ends a a') : Alike k ends (.done a) (.done a')
  /-- Both programs ask. -/
  | ask {r r' : σ.Request} {next : σ.Reply r → Program σ α} {next' : σ.Reply r' → Program σ α'}
    {replies : σ.Reply r → σ.Reply r' → Prop} (hk : k r r' replies)
    (hnext : ∀ x x', replies x x' → Alike k ends (next x) (next' x')) :
    Alike k ends (.ask r next) (.ask r' next')

theorem alike_bind {p : Program σ β} {p' : Program σ β'} {f : β → Program σ α}
    {f' : β' → Program σ α'} (hp : p.Alike k mid p')
    (hf : ∀ b b', mid b b' → (f b).Alike k ends (f' b')) :
    (p >>= f).Alike k ends (p' >>= f') := by
  induction hp with
  | done h => exact hf _ _ h
  | ask hk _ ih => exact .ask hk ih

theorem Alike.mono {ends' : α → α' → Prop} {p : Program σ α} {p' : Program σ α'}
    (h : p.Alike k ends p') (hends : ∀ a a', ends a a' → ends' a a') : p.Alike k ends' p' := by
  induction h with
  | done h => exact .done (hends _ _ h)
  | ask hk _ ih => exact .ask hk ih

/-- **Runs in two worlds.**  When paired requests are answered alike in two worlds that are related,
and leave them related, then alike programs end with values that belong together. -/
theorem Alike.run {handler : Handler σ (StateM S)} {handler' : Handler σ (StateM S')}
    {I : S → S' → Prop} {p : Program σ α} {p' : Program σ α'}
    (hstep : ∀ r r' replies s s', k r r' replies → I s s' →
      replies (handler r s).1 (handler' r' s').1 ∧ I (handler r s).2 (handler' r' s').2)
    (h : p.Alike k ends p') {s : S} {s' : S'} (hs : I s s') :
    ends (p.run handler s).1 (p'.run handler' s').1 ∧
      I (p.run handler s).2 (p'.run handler' s').2 := by
  induction h generalizing s s' with
  | done h => exact ⟨h, hs⟩
  | ask hk _ ih =>
    obtain ⟨hreplies, hs'⟩ := hstep _ _ _ s s' hk hs
    exact ih _ _ hreplies hs'

end Program

/-! ### Actions -/

namespace Action

variable {ε ε' η η' α α' β β' : Type} {k : Pairing demands} {errs : ε → ε' → Prop}
  {errs' : η → η' → Prop} {vals : α → α' → Prop} {mid : β → β' → Prop}

/-- The actions go on alike, to errors that belong together or to values that do. -/
def Alike (k : Pairing demands) (errs : ε → ε' → Prop) (vals : α → α' → Prop) (a : Action ε α)
    (a' : Action ε' α') : Prop :=
  Program.Alike k (Outcome.Alike errs vals) a.run a'.run

theorem alike_iff {a : Action ε α} {a' : Action ε' α'} :
    a.Alike k errs vals a' ↔ Program.Alike k (Outcome.Alike errs vals) a.run a'.run := Iff.rfl

theorem Alike.mono {errs' : ε → ε' → Prop} {vals' : α → α' → Prop} {a : Action ε α}
    {a' : Action ε' α'} (h : a.Alike k errs vals a') (herrs : ∀ e e', errs e e' → errs' e e')
    (hvals : ∀ v v', vals v v' → vals' v v') : a.Alike k errs' vals' a' :=
  Program.Alike.mono h fun _ _ hx => hx.mono herrs hvals

theorem alike_ofExcept {x : Except ε α} {x' : Except ε' α'} (h : Outcome.Alike errs vals x x') :
    (ofExcept x).Alike k errs vals (ofExcept x') :=
  .done h

/-- An outcome that is there already, whatever it is. -/
theorem alike_known {errs : ε → ε → Prop} (herrs : ∀ e, errs e e) (x : Except ε α) :
    (ofExcept x).Alike k errs Eq (ofExcept x) :=
  alike_ofExcept (Outcome.alike_refl herrs x)

theorem alike_pure {v : α} {v' : α'} (h : vals v v') :
    (pure v : Action ε α).Alike k errs vals (pure v' : Action ε' α') :=
  .done (.ok h)

theorem alike_throw {e : ε} {e' : ε'} (h : errs e e') :
    (throw e : Action ε α).Alike k errs vals (throw e' : Action ε' α') :=
  .done (.error h)

theorem alike_bind {a : Action ε β} {a' : Action ε' β'} {f : β → Action ε α}
    {f' : β' → Action ε' α'} (ha : a.Alike k errs mid a')
    (hf : ∀ b b', mid b b' → (f b).Alike k errs vals (f' b')) :
    (a >>= f).Alike k errs vals (a' >>= f') := by
  unfold Alike
  rw [ExceptT.run_bind, ExceptT.run_bind]
  refine Program.alike_bind ha fun x x' hx => ?_
  cases hx with
  | error h => exact .done (.error h)
  | ok h => exact hf _ _ h

/-- Actions that end with equal values go on together. -/
theorem alike_then {a : Action ε β} {a' : Action ε' β} {f : β → Action ε α}
    {f' : β → Action ε' α'} (ha : a.Alike k errs Eq a')
    (hf : ∀ b, (f b).Alike k errs vals (f' b)) : (a >>= f).Alike k errs vals (a' >>= f') := by
  refine alike_bind ha ?_
  rintro b _ rfl
  exact hf b

/-- Nothing comes after an error. -/
theorem alike_throw_bind {e : ε} {e' : ε'} {f : β → Action ε α} {f' : β' → Action ε' α'}
    (h : errs e e') : (throw e >>= f).Alike k errs vals (throw e' >>= f') := by
  have hnever : (throw e : Action ε β).Alike k errs (fun _ _ => False) (throw e' : Action ε' β') :=
    alike_throw h
  exact alike_bind hnever fun _ _ h => h.elim

theorem alike_discard {a : Action ε β} {a' : Action ε' β'} (h : a.Alike k errs mid a') :
    (discard a).Alike k errs Eq (discard a') := by
  show (_ <$> a).Alike k errs Eq (_ <$> a')
  rw [map_eq_pure_bind, map_eq_pure_bind]
  exact alike_bind h fun _ _ _ => alike_pure rfl

theorem alike_mapError {f : ε → η} {f' : ε' → η'} {a : Action ε α} {a' : Action ε' α'}
    (h : a.Alike k errs vals a') (hf : ∀ e e', errs e e' → errs' (f e) (f' e')) :
    (a.mapError f).Alike k errs' vals (a'.mapError f') := by
  show Program.Alike k _ (Except.mapError f <$> a.run) (Except.mapError f' <$> a'.run)
  rw [map_eq_pure_bind, map_eq_pure_bind]
  exact Program.alike_bind h fun _ _ hx => .done (Outcome.alike_mapError hx hf)

theorem alike_outcome {a : Action ε α} {a' : Action ε' α'} (h : a.Alike k errs vals a') :
    (a.outcome : Action η (Except ε α)).Alike k errs' (Outcome.Alike errs vals)
      (a'.outcome : Action η' (Except ε' α')) := by
  show Program.Alike k _ (Except.ok <$> a.run) (Except.ok <$> a'.run)
  rw [map_eq_pure_bind, map_eq_pure_bind]
  exact Program.alike_bind h fun _ _ hx => .done (.ok hx)

theorem alike_cluster {who who' : Client} {c c' : Call} {vals : c.Reply → c'.Reply → Prop}
    (hk : k (.cluster who c) (.cluster who' c') (Outcome.Alike Eq vals)) :
    (cluster who c).Alike k Eq vals (cluster who' c') :=
  .ask hk fun _ _ h => .done h

theorem alike_exchange {request request' : Http.Request} {timeout timeout' : Span}
    {vals : Http.Response → Http.Response → Prop}
    (hk : k (.exchange request timeout) (.exchange request' timeout') (Outcome.Alike Eq vals)) :
    (exchange request timeout).Alike k Eq vals (exchange request' timeout') :=
  .ask hk fun _ _ h => .done h

theorem alike_clock (hk : k .clock .clock Eq) :
    (clock : Action ε Timestamp).Alike k errs Eq (clock : Action ε' Timestamp) :=
  .ask hk fun _ _ h => .done (.ok h)

/-- Attempts that go on alike do so together, by one policy, when the same errors are tried again
in both. -/
theorem alike_retried {p : RetryPolicy} {again : ε → Bool} {again' : ε' → Bool}
    {onCancel : Nat → ε} {onCancel' : Nat → ε'} {op : Nat → Action ε α} {op' : Nat → Action ε' α'}
    (hpause : ∀ length, k (.pause length) (.pause length) Eq)
    (hagain : ∀ e e', errs e e' → again e = again' e')
    (hop : ∀ n, (op n).Alike k errs vals (op' n)) :
    (retried p again onCancel op).Alike k errs vals (retried p again' onCancel' op') := by
  -- What trying ends with belongs together when its errors collapse to errors that do.
  have htries : Action.Alike k
      (fun e e' => errs (RetryError.collapse onCancel e) (RetryError.collapse onCancel' e')) vals
      (ExceptT.mk (p.run pause again fun n => (op n).run))
      (ExceptT.mk (p.run pause again' fun n => (op' n).run)) := by
    show Program.Alike k _ (p.tryFrom pause again (fun n => (op n).run) (p.maxAttempts - 1) 0)
      (p.tryFrom pause again' (fun n => (op' n).run) (p.maxAttempts - 1) 0)
    generalize p.maxAttempts - 1 = left
    generalize 0 = attempt
    -- The attempts left bound both recursions; the number of the attempt is the same in both, and
    -- no pause is cut short.
    induction left generalizing attempt with
    | zero =>
      rw [RetryPolicy.tryFrom, RetryPolicy.tryFrom]
      refine Program.alike_bind (hop attempt) fun x x' hx => ?_
      cases hx with
      | ok h => exact .done (.ok h)
      | error h => exact .done (.error h)
    | succ left ih =>
      rw [RetryPolicy.tryFrom, RetryPolicy.tryFrom]
      refine Program.alike_bind (hop attempt) fun x x' hx => ?_
      cases hx with
      | ok h => exact .done (.ok h)
      | error h =>
        dsimp only
        rw [hagain _ _ h]
        split
        · exact .ask (hpause _) fun _ _ _ => ih (attempt + 1)
        · exact .done (.error h)
  exact alike_mapError htries fun _ _ h => h

-- Actions are compared by the rules above, never by evaluating them.
attribute [irreducible] Alike

end Action

end CredentialBroker
