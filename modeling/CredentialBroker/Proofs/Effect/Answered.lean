import CredentialBroker.Effect.Action

namespace CredentialBroker

/-!
# Programs answered request by request

`Program.answered` is what becomes of a program when each request gets a fixed answer: its value,
and the requests it asked on the way, in order.  A statement about every `answer` is one about
everything that the surroundings of the program could say.
-/

/-- The value of a program whose requests are answered by `answer`, and the requests it asked. -/
def Program.answered {σ : Signature} {α : Type} (answer : (r : σ.Request) → σ.Reply r) :
    Program σ α → α × List σ.Request
  | .done a => (a, [])
  | .ask r next =>
    let rest := (next (answer r)).answered answer
    (rest.1, r :: rest.2)

theorem Program.answered_bind {σ : Signature} {α β : Type} (answer : (r : σ.Request) → σ.Reply r)
    (p : Program σ β) (f : β → Program σ α) :
    (p >>= f).answered answer =
      (((f (p.answered answer).1).answered answer).1,
        (p.answered answer).2 ++ ((f (p.answered answer).1).answered answer).2) := by
  induction p with
  | done b => rfl
  | ask r next ih =>
    rw [ask_bind, answered, ih]
    rfl

namespace Action

variable {ε ε' α β : Type} (answer : (d : Demand) → d.Reply)

/-- The outcome of an action whose requests are answered by `answer`, and the requests it asked. -/
def answered (a : Action ε α) : Except ε α × List Demand :=
  Program.answered (σ := demands) answer a.run

@[simp] theorem answered_pure (v : α) : answered answer (pure v : Action ε α) = (.ok v, []) := rfl

@[simp] theorem answered_throw (e : ε) : answered answer (throw e : Action ε α) = (.error e, []) :=
  rfl

@[simp] theorem answered_ofExcept (x : Except ε α) : answered answer (ofExcept x) = (x, []) := rfl

@[simp] theorem answered_cluster (who : Client) (c : Call) :
    answered answer (cluster who c) = (answer (.cluster who c), [.cluster who c]) := rfl

@[simp] theorem answered_mapError (f : ε → ε') (a : Action ε α) :
    answered answer (a.mapError f) = ((answered answer a).1.mapError f, (answered answer a).2) := by
  show Program.answered (σ := demands) answer (Except.mapError f <$> a.run) = _
  rw [map_eq_pure_bind, Program.answered_bind]
  show (_, _ ++ []) = _
  rw [List.append_nil]
  rfl

/-- The second part of a sequence is run when the first one ends well. -/
theorem answered_bind (a : Action ε β) (f : β → Action ε α) :
    answered answer (a >>= f) =
      match answered answer a with
      | (.ok b, asked) => ((answered answer (f b)).1, asked ++ (answered answer (f b)).2)
      | (.error e, asked) => (.error e, asked) := by
  unfold answered
  rw [ExceptT.run_bind, Program.answered_bind]
  cases Program.answered answer a.run with
  | mk x asked =>
    cases x with
    | ok b => rfl
    | error e =>
      -- Nothing is asked after an error.
      show (_, asked ++ []) = _
      rw [List.append_nil]
      rfl

end Action

end CredentialBroker
