import CredentialBroker.Proofs.Credential.Issue
import CredentialBroker.Transition.Start
import CredentialBroker.Transition.Stop

namespace CredentialBroker.Transition

/-!
# Calls of starts and stops

What starting and stopping a session ask of the cluster.  All calls concern one session, and the
session that is written back as a whole is one that was read, with an edit that leaves its name and
its recorded identity alone.

* `start_follows` — starting, with the issue of a credential within it;
* `stop_follows` — stopping.
-/

variable {who : Client} {ref : ObjectRef} {policy : RetryPolicy} {issuer : Issuer}
  {gets : (call : Call) → call.Reply → Prop} {asks : Client → Call → Prop}

/-! ### Sessions that wait for input -/

/-- The wish of a session that has it may be set again. -/
theorem withInteractive_eq_self {session : Session} (h : session.isInteractive = true) :
    session.withInteractive true = session := by
  unfold Session.isInteractive at h
  cases hwish : session.spec.interactive with
  | none =>
    rw [hwish] at h
    cases h
  | some wish =>
    obtain rfl : wish = true := by rwa [hwish] at h
    unfold Session.withInteractive
    rw [← hwish]

/-- A session that is continued waits for input, whether it did before or not. -/
theorem continued_eq (parent : String) (s : Session) :
    continued parent s = (s.withParent parent).withInteractive true := by
  unfold continued
  dsimp only
  split
  · next hwish => rw [withInteractive_eq_self hwish]
  · rfl

/-! ### Calls -/

/-- The calls made as the client that starts or stops a session. -/
inductive Asks (gets : (call : Call) → call.Reply → Prop) (ref : ObjectRef) : Call → Prop where
  /-- The session is read. -/
  | read : Asks gets ref (.getSession ref)
  /-- The session is marked as a continuation. -/
  | continued (s : Session) (h : gets (.getSession ref) s) :
    Asks gets ref (.updateSession (continued ref.name s))
  /-- The session is made to wait for input. -/
  | interactive (s : Session) (h : gets (.getSession ref) s) :
    Asks gets ref (.updateSession (s.withInteractive true))
  /-- The status is written. -/
  | status (s : Session) : Asks gets ref (.updateSessionStatus s)
  /-- The job is removed. -/
  | deleteJob (job : String) (propagation : Propagation) :
    Asks gets ref (.deleteJob ⟨ref.ns, job⟩ propagation)
  /-- Pods are removed. -/
  | deletePods (selector : String) : Asks gets ref (.deletePods ref.ns selector)

/-- The calls made to start a session as a client. -/
inductive StartAsks (gets : (call : Call) → call.Reply → Prop) (issuer : Issuer) (who : Client)
    (ref : ObjectRef) : Client → Call → Prop where
  /-- The session is written as the client. -/
  | client {call : Call} (h : Asks gets ref call) : StartAsks gets issuer who ref who call
  /-- The credential is issued as the issuer. -/
  | issuer {call : Call} (h : issuer.Asks gets ref call) :
    StartAsks gets issuer who ref issuer.client call

theorem ask_follows {call : Call} (h : asks who call) :
    (ask who call).Follows (.ofCalls asks gets) (gets call) :=
  Action.follows_mapError (Action.follows_cluster h fun v hv => hv v rfl)

theorem attempt_follows {ε : Type} {call : Call} (h : asks who call) :
    (attempt who call : Action ε Unit).Follows (.ofCalls asks gets) fun _ => True :=
  Action.follows_discard (Action.follows_outcome (Action.follows_call h))

/-- A status write makes calls about its session alone. -/
theorem writeStatus_follows {current : Session} {change : Session → Session}
    (hasks : ∀ call, Asks gets ref call → asks who call) :
    (writeStatus policy who ref current change).Follows (.ofCalls asks gets) fun _ => True := by
  unfold writeStatus
  refine Action.follows_retried (fun _ => trivial) fun n => ?_
  unfold tryStatus
  -- The first attempt writes the session at hand, and later ones the session read again.
  have hwrite : ∀ session, (Action.cluster who (.updateSessionStatus (change session))).Follows
      (.ofCalls asks gets) fun _ => True := fun session => Action.follows_call (hasks _ (.status _))
  dsimp only
  split
  · exact Action.follows_bind Action.follows_done fun _ _ => hwrite _
  · have hread : (Action.cluster who (.getSession ref)).Follows (.ofCalls asks gets)
        fun _ => True := Action.follows_call (hasks _ .read)
    exact Action.follows_bind hread fun _ _ => hwrite _

/-- The last part of a resumption: the old job goes when there is a credential, and the session is
read again. -/
def reread (who : Client) (ref : ObjectRef) (job : String)
    (credential : Option IssuedCredential) :
    Action CredentialError (Session × Option IssuedCredential) := do
  if credential.isSome then attempt who (.deleteJob ⟨ref.ns, job⟩ .background)
  let session ← ask who (.getSession ref)
  pure (session, credential)

/-- A session is resumed by marking it, issuing a credential for it, and reading it again. -/
theorem resume_eq {session : Session} :
    resume issuer who ref session =
      discard (ask who (.updateSession (continued ref.name session))) >>= fun _ =>
        issuer.issue? ref >>= reread who ref (continued ref.name session).jobName := rfl

theorem reread_follows {job : String} {credential : Option IssuedCredential}
    (hasks : ∀ call, Asks gets ref call → asks who call) :
    (reread who ref job credential).Follows (.ofCalls asks gets) fun _ => True := by
  have hread : (ask who (.getSession ref)).Follows (.ofCalls asks gets) (gets (.getSession ref)) :=
    ask_follows (hasks _ .read)
  unfold reread
  dsimp only
  split
  · refine Action.follows_bind (attempt_follows (hasks _ (.deleteJob _ _))) fun _ _ => ?_
    exact Action.follows_bind hread fun _ _ => Action.follows_pure trivial
  · exact Action.follows_bind hread fun _ _ => Action.follows_pure trivial

theorem resume_follows {session : Session} (hsession : gets (.getSession ref) session) :
    (resume issuer who ref session).Follows (.ofCalls (StartAsks gets issuer who ref) gets)
      fun _ => True := by
  rw [resume_eq]
  refine Action.follows_bind (Action.follows_discard
    (ask_follows (.client (.continued session hsession)))) fun _ _ => ?_
  -- The credential is issued as the issuer, whoever the client is.
  have hissue : (issuer.issue? ref : Action CredentialError (Option IssuedCredential)).Follows
      (.ofCalls (StartAsks gets issuer who ref) gets) fun _ => True := by
    refine Simulation.follows_ofCalls_mono issuer.issue?_follows ?_
    rintro caller call ⟨rfl, hcall⟩
    exact .issuer hcall
  exact Action.follows_bind hissue fun _ _ => reread_follows fun _ h => .client h

/-- The last part of a start: the status is written. -/
def finish (policy : RetryPolicy) (who : Client) (ref : ObjectRef) (continuation : Bool)
    (outcome : Session × Option IssuedCredential) : Action CredentialError StartOutcome := do
  let now ← Action.clock
  let written ← (writeStatus policy who ref outcome.1 (started now)).mapError
    ClusterError.toCredential
  pure ⟨written, continuation, outcome.2⟩

/-- A start reads the session, resumes it if it had ended, and writes the status. -/
theorem start_eq :
    start policy issuer who ref = ask who (.getSession ref) >>= fun session : Session =>
      (if session.isTerminal then resume issuer who ref session else pure (session, none)) >>=
        finish policy who ref session.isTerminal := by
  unfold start
  congr 1
  funext session
  dsimp only
  split <;> rfl

theorem finish_follows {continuation : Bool} {outcome : Session × Option IssuedCredential}
    (hasks : ∀ call, Asks gets ref call → asks who call) :
    (finish policy who ref continuation outcome).Follows (.ofCalls asks gets) fun _ => True := by
  unfold finish
  refine Action.follows_bind (Action.follows_clock trivial) fun now _ => ?_
  refine Action.follows_bind (Action.follows_mapError (writeStatus_follows hasks)) fun _ _ => ?_
  exact Action.follows_done

/-- **Calls of a start.**  A start asks only about its session, as the client or as the issuer. -/
theorem start_follows :
    (start policy issuer who ref).Follows (.ofCalls (StartAsks gets issuer who ref) gets)
      fun _ => True := by
  rw [start_eq]
  refine Action.follows_bind (ask_follows (.client .read)) fun session hsession => ?_
  have hresume : (if session.isTerminal then resume issuer who ref session
      else pure (session, none)).Follows (.ofCalls (StartAsks gets issuer who ref) gets)
        fun _ => True := by
    split
    · exact resume_follows hsession
    · exact Action.follows_done
  exact Action.follows_bind hresume fun outcome _ => finish_follows fun _ h => .client h

/-- No token is minted by the calls that are made as the client. -/
theorem Asks.isMinting {call : Call} (h : Asks gets ref call) : call.isMinting = false := by
  cases h <;> rfl

theorem ask_mintsPrepared {session : ObjectRef} {call : Call} (h : call.isMinting = false) :
    Issuer.MintsPrepared session (ask who call) :=
  Issuer.mintsPrepared_of_follows (ask_follows h)

/-- A start mints a token only by issuing a credential for its session. -/
theorem start_mintsPrepared : Issuer.MintsPrepared ref (start policy issuer who ref) := by
  have hread : Issuer.MintsPrepared ref (ask who (.getSession ref)) := ask_mintsPrepared rfl
  rw [start_eq]
  -- Only the issue within a resumption mints; all other parts ask for no token.
  refine Issuer.mintsPrepared_bind hread fun session => ?_
  refine Issuer.mintsPrepared_bind ?_ fun outcome =>
    Issuer.mintsPrepared_of_follows (finish_follows fun _ h => h.isMinting)
  split
  · rw [resume_eq]
    refine Issuer.mintsPrepared_bind (Issuer.mintsPrepared_discard (ask_mintsPrepared rfl))
      fun _ => ?_
    exact Issuer.mintsPrepared_bind Issuer.issue?_mintsPrepared fun _ =>
      Issuer.mintsPrepared_of_follows (reread_follows fun _ h => h.isMinting)
  · exact Issuer.mintsPrepared_pure _

/-- The contract of a stop. -/
def stopContract (gets : (call : Call) → call.Reply → Prop) (who : Client) (ref : ObjectRef) :
    Contract demands :=
  .ofCalls (fun who' call => who' = who ∧ Asks gets ref call) gets

/-- What runs for the session is removed with its pods. -/
theorem removeJob_follows {job : String} :
    (removeJob who ref job).Follows (stopContract gets who ref) fun _ => True := by
  unfold removeJob
  refine Action.follows_bind (attempt_follows ⟨rfl, .deleteJob _ _⟩) fun _ _ => ?_
  refine Action.follows_bind (attempt_follows ⟨rfl, .deletePods _⟩) fun _ _ => ?_
  exact attempt_follows ⟨rfl, .deletePods _⟩

theorem ensureInteractive_follows {session : Session} (hsession : gets (.getSession ref) session) :
    (ensureInteractive who session).Follows (stopContract gets who ref) fun _ => True := by
  unfold ensureInteractive
  split
  · exact Action.follows_pure trivial
  · refine Action.follows_bind (Action.follows_outcome
      (Action.follows_call ⟨rfl, .interactive session hsession⟩)) fun outcome _ => ?_
    cases outcome with
    | ok updated => exact Action.follows_pure trivial
    | error e => exact Action.follows_pure trivial

theorem halt_follows {session : Session} (hsession : gets (.getSession ref) session) :
    (halt policy who ref session).Follows (stopContract gets who ref) fun _ => True := by
  unfold halt
  refine Action.follows_bind removeJob_follows fun _ _ => ?_
  refine Action.follows_bind (ensureInteractive_follows hsession) fun _ _ => ?_
  refine Action.follows_bind (Action.follows_clock trivial) fun now _ => ?_
  refine Action.follows_bind (Action.follows_outcome
    (writeStatus_follows fun _ h => ⟨rfl, h⟩)) fun outcome _ => ?_
  cases outcome with
  | ok updated => exact Action.follows_pure trivial
  | error e =>
    -- A session that is gone meanwhile is no failure.
    dsimp only
    split
    · exact Action.follows_pure trivial
    · exact Action.follows_throw

/-- **Calls of a stop.**  A stop asks only about its session, as the client. -/
theorem stop_follows :
    (stop policy who ref).Follows (stopContract gets who ref) fun _ => True := by
  unfold stop
  refine Action.follows_bind (ask_follows ⟨rfl, .read⟩) fun session hsession => ?_
  split
  · exact Action.follows_pure trivial
  · split
    · exact Action.follows_throw
    · exact halt_follows hsession
  · exact halt_follows hsession

end CredentialBroker.Transition
