namespace CredentialBroker

/-!
# Programs that ask

A program either is done with a value or asks a request and goes on with the reply.  A handler
answers the requests, and `Program.run` runs a program with it; a program itself does nothing, so
that its requests can be answered by a cluster held in memory, by one behind a network, or step
by step between those of other programs.

Main statements: programs form a lawful monad, and running a sequence of two programs runs one
after the other (`run_bind`).
-/

/-- What programs of a kind can ask, and the type of the reply to each request. -/
structure Signature where
  /-- The requests. -/
  Request : Type
  /-- The replies to a request. -/
  Reply : Request → Type

/-- A program that asks requests of a signature and ends with a value. -/
inductive Program (σ : Signature) (α : Type) where
  /-- The program is done. -/
  | done (a : α)
  /-- The program asks and goes on with the reply. -/
  | ask (r : σ.Request) (next : σ.Reply r → Program σ α)

namespace Program

variable {σ τ : Signature} {α β γ : Type}

/-- One program after another, which gets the value of the first. -/
def bind : Program σ α → (α → Program σ β) → Program σ β
  | .done a, f => f a
  | .ask r next, f => .ask r fun reply => (next reply).bind f

instance : Monad (Program σ) where
  pure := .done
  bind := bind

@[simp] theorem pure_eq (a : α) : (pure a : Program σ α) = .done a := rfl

@[simp] theorem done_bind (a : α) (f : α → Program σ β) : (Program.done a >>= f) = f a := rfl

@[simp] theorem ask_bind (r : σ.Request) (next : σ.Reply r → Program σ α)
    (f : α → Program σ β) : (Program.ask r next >>= f) = .ask r fun reply => next reply >>= f :=
  rfl

theorem bind_done (p : Program σ α) : (p >>= Program.done) = p := by
  induction p with
  | done a => rfl
  | ask r next ih => simp [ih]

theorem bind_bind (p : Program σ α) (f : α → Program σ β) (g : β → Program σ γ) :
    (p >>= f >>= g) = p >>= fun a => f a >>= g := by
  induction p with
  | done a => rfl
  | ask r next ih => simp [ih]

instance : LawfulMonad (Program σ) :=
  LawfulMonad.mk' (Program σ) (fun p => bind_done p) (fun _ _ => rfl)
    (fun p f g => bind_bind p f g)

/-- The program that asks one request and is done with the reply. -/
def request (r : σ.Request) : Program σ (σ.Reply r) := .ask r .done

/-- What answers the requests of a signature. -/
abbrev Handler (σ : Signature) (m : Type → Type) := (r : σ.Request) → m (σ.Reply r)

/-- The program run with a handler. -/
def run {m : Type → Type} [Monad m] (h : Handler σ m) : Program σ α → m α
  | .done a => pure a
  | .ask r next => h r >>= fun reply => (next reply).run h

theorem run_bind {m : Type → Type} [Monad m] [LawfulMonad m] (h : Handler σ m)
    (p : Program σ α) (f : α → Program σ β) :
    (p >>= f).run h = p.run h >>= fun a => (f a).run h := by
  induction p with
  | done a => simp [run]
  | ask r next ih => simp [run, ih]

end Program

end CredentialBroker
