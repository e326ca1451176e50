import CredentialBroker.Proofs.Credential.Secrecy
import CredentialBroker.Proofs.Transition.Calls

namespace CredentialBroker.Transition

/-!
# Starts and stops tell no secret

Starting and stopping a session go on alike as the same client, whatever the token that is minted
when a session is continued.

* `start_alike` — starting, with the issue of a credential within it;
* `stop_alike` — stopping.
-/

variable {k : Likeness} {who : Client} {ref : ObjectRef} {policy : RetryPolicy} {issuer : Issuer}

theorem ask_alike (hwho : who.Shows k.shown) {call : Call} (hopen : call.IsOpen k.shown) :
    (ask who call).Alike (Demand.Paired k) Eq Eq (ask who call) :=
  Action.alike_mapError (Action.open_alike hwho hopen) fun _ _ he => congrArg _ he

theorem attempt_alike {ε : Type} (hwho : who.Shows k.shown) {call : Call}
    (hopen : call.IsOpen k.shown) :
    (attempt who call : Action ε Unit).Alike (Demand.Paired k) Eq Eq
      (attempt who call : Action ε Unit) :=
  Action.alike_discard (Action.alike_outcome (Action.open_alike hwho hopen))

theorem writeStatus_alike (hwho : who.Shows k.shown) {current : Session}
    {change : Session → Session} :
    (writeStatus policy who ref current change).Alike (Demand.Paired k) Eq Eq
      (writeStatus policy who ref current change) := by
  have hwrite : ∀ session, (Action.cluster who (.updateSessionStatus session)).Alike
      (Demand.Paired k) Eq Eq (Action.cluster who (.updateSessionStatus session)) :=
    fun session => Action.open_alike hwho trivial
  refine Action.alike_retried .pause (fun _ _ he => congrArg _ he) fun n => ?_
  unfold tryStatus
  dsimp only
  split
  · exact Action.alike_then (Action.alike_pure rfl) fun session => hwrite _
  · exact Action.alike_then (Action.open_alike (c := .getSession ref) hwho trivial)
      fun session => hwrite _

/-! ### Starting -/

theorem reread_alike (hwho : who.Shows k.shown) {job : String}
    {credential : Option IssuedCredential} :
    (reread who ref job credential).Alike (Demand.Paired k) Eq Eq
      (reread who ref job credential) := by
  unfold reread
  dsimp only
  split
  · refine Action.alike_then (attempt_alike hwho trivial) fun _ => ?_
    exact Action.alike_then (ask_alike hwho trivial) fun _ => Action.alike_pure rfl
  · exact Action.alike_then (ask_alike hwho trivial) fun _ => Action.alike_pure rfl

theorem resume_alike (hwho : who.Shows k.shown) (hissuer : issuer.client.Shows k.shown)
    {session : Session} :
    (resume issuer who ref session).Alike (Demand.Paired k) Eq Eq
      (resume issuer who ref session) := by
  rw [resume_eq]
  refine Action.alike_then (Action.alike_discard (ask_alike hwho trivial)) fun _ => ?_
  exact Action.alike_then (Issuer.issue?_alike hissuer) fun _ => reread_alike hwho

theorem finish_alike (hwho : who.Shows k.shown) {continuation : Bool}
    {outcome : Session × Option IssuedCredential} :
    (finish policy who ref continuation outcome).Alike (Demand.Paired k) Eq Eq
      (finish policy who ref continuation outcome) := by
  unfold finish
  refine Action.alike_then (Action.alike_clock .clock) fun now => ?_
  refine Action.alike_then (Action.alike_mapError (writeStatus_alike hwho)
    fun _ _ he => congrArg _ he) fun written => ?_
  exact Action.alike_pure rfl

/-- A start goes on alike whatever the token that is minted for its session. -/
theorem start_alike (hwho : who.Shows k.shown) (hissuer : issuer.client.Shows k.shown) :
    (start policy issuer who ref).Alike (Demand.Paired k) Eq Eq (start policy issuer who ref) := by
  rw [start_eq]
  refine Action.alike_then (ask_alike hwho trivial) fun session => ?_
  split
  · exact Action.alike_then (resume_alike hwho hissuer) fun _ => finish_alike hwho
  · exact Action.alike_then (Action.alike_pure rfl) fun _ => finish_alike hwho

/-! ### Stopping -/

theorem removeJob_alike (hwho : who.Shows k.shown) {job : String} :
    (removeJob who ref job).Alike (Demand.Paired k) Eq Eq (removeJob who ref job) := by
  unfold removeJob
  refine Action.alike_then (attempt_alike hwho trivial) fun _ => ?_
  refine Action.alike_then (attempt_alike hwho trivial) fun _ => ?_
  exact attempt_alike hwho trivial

theorem ensureInteractive_alike (hwho : who.Shows k.shown) {session : Session} :
    (ensureInteractive who session).Alike (Demand.Paired k) Eq Eq
      (ensureInteractive who session) := by
  unfold ensureInteractive
  split
  · exact Action.alike_pure rfl
  · refine Action.alike_bind (Action.alike_outcome (Action.open_alike hwho trivial))
      fun x x' hx => ?_
    cases hx with
    | ok hv => exact Action.alike_pure hv
    | error he => exact Action.alike_pure rfl

theorem halt_alike (hwho : who.Shows k.shown) {session : Session} :
    (halt policy who ref session).Alike (Demand.Paired k) Eq Eq
      (halt policy who ref session) := by
  unfold halt
  refine Action.alike_then (removeJob_alike hwho) fun _ => ?_
  refine Action.alike_then (ensureInteractive_alike hwho) fun session => ?_
  refine Action.alike_then (Action.alike_clock .clock) fun now => ?_
  refine Action.alike_bind (Action.alike_outcome (writeStatus_alike hwho)) fun x x' hx => ?_
  cases hx with
  | ok hv => exact Action.alike_pure (congrArg _ hv)
  | error he =>
    -- A session that went away meanwhile is no failure.
    subst he
    dsimp only
    split
    · exact Action.alike_pure rfl
    · exact Action.alike_throw rfl

/-- A stop goes on alike. -/
theorem stop_alike (hwho : who.Shows k.shown) :
    (stop policy who ref).Alike (Demand.Paired k) Eq Eq (stop policy who ref) := by
  unfold stop
  refine Action.alike_then (ask_alike hwho trivial) fun session => ?_
  split
  · exact Action.alike_pure rfl
  · split
    · exact Action.alike_throw rfl
    · exact halt_alike hwho
  · exact halt_alike hwho

end CredentialBroker.Transition
