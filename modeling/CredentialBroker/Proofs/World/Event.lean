import CredentialBroker.Proofs.Credential.Runner
import CredentialBroker.Proofs.OAuth.Flow
import CredentialBroker.Proofs.Transition.Calls

namespace CredentialBroker

/-!
# Runs of a broker

A `Deployment` is a broker with all it is set up with.  An `Event` is something that happens to its
cluster: someone arranges something there, time passes, or the broker performs a task, which may
succeed or fail at any call it makes.  `Deployment.run` goes through a list of events.

* `Task.program_follows` — the calls that each task makes;
* `Deployment.run_invariant` — what every event of a run keeps holds in the end;
* `Deployment.run_mintedFor` — a token minted for a session stands for the identity of that session
  ever after.
-/

/-- A broker as it is set up, and what its cluster draws tokens and identifiers from. -/
structure Deployment where
  /-- What issues credentials. -/
  issuer : Issuer
  /-- The policy of status writes. -/
  policy : RetryPolicy := .usual
  /-- The authorization flow. -/
  flow : OAuthFlow
  /-- The tokens and identifiers drawn. -/
  supply : Supply

/-- What the broker is asked to do. -/
inductive Task where
  /-- Issue a credential for a session, calling the cluster as a client. -/
  | provision (who : Client) (ref : ObjectRef)
  /-- Start a session as a client. -/
  | start (who : Client) (ref : ObjectRef)
  /-- Stop a session as a client. -/
  | stop (who : Client) (ref : ObjectRef)
  /-- Begin a flow for a session as a client. -/
  | begin (who : Client) (ref : ObjectRef) (provider : String)
  /-- Complete a flow with what a redirect brings. -/
  | complete (params : CallbackParams)

/-- What happens to the cluster of a broker. -/
inductive Event where
  /-- A session is stored. -/
  | putSession (session : Session)
  /-- A session is removed. -/
  | removeSession (ref : ObjectRef)
  /-- A token is made to stand for a user. -/
  | registerToken (token user : String)
  /-- A rule is given to a user by name. -/
  | grant (rule : Grant)
  /-- The next call to an operation is made to fail. -/
  | failNext (op : Operation) (e : ClusterError)
  /-- Time passes. -/
  | wait (length : Span)
  /-- The broker performs a task, while token endpoints answer in a given way. -/
  | perform (task : Task) (exchange : Http.Request → Except Http.Fault Http.Response)

namespace Deployment

/-- The issuer, with its calls made as a client. -/
def issuerAs (d : Deployment) (who : Client) : Issuer := { d.issuer with client := who }

/-- What a simulation of the deployment is given from outside. -/
def surroundings (d : Deployment) (exchange : Http.Request → Except Http.Fault Http.Response) :
    Surroundings := ⟨d.supply, exchange⟩

end Deployment

/-- A task as a program. -/
def Task.program (d : Deployment) : Task → Action CredentialError Unit
  | .provision who ref => discard ((d.issuerAs who).issue ref)
  | .start who ref => discard (Transition.start d.policy d.issuer who ref)
  | .stop who ref => discard (Transition.stop d.policy who ref)
  | .begin who ref provider => discard (d.flow.begin who ref provider)
  | .complete params => discard (d.flow.complete params)

/-- The session for which a task may issue a credential. -/
def Task.provisioned? : Task → Option ObjectRef
  | .provision _ ref | .start _ ref => some ref
  | .stop .. | .begin .. | .complete _ => none

/-- The simulation after an event. -/
def Event.run (d : Deployment) (e : Event) (s : Simulation) : Simulation :=
  match e with
  | .putSession session => { s with cluster := (s.cluster.putSession d.supply session).2 }
  | .removeSession ref => { s with cluster := s.cluster.removeSession ref }
  | .registerToken token user => { s with cluster := s.cluster.registerToken token user }
  | .grant rule => { s with cluster := s.cluster.addGrant rule }
  | .failNext op e => { s with cluster := s.cluster.addFault op e }
  | .wait length => { s with now := s.now.after length }
  | .perform task exchange => (Simulation.run (d.surroundings exchange) (task.program d) s).2

/-- The simulation after a list of events. -/
def Deployment.run (d : Deployment) (events : List Event) (s : Simulation) : Simulation :=
  events.foldl (fun s e => e.run d s) s

/-! ### Tasks -/

section Tasks

variable {d : Deployment} {gets : (call : Call) → call.Reply → Prop}

/-- The calls a task makes. -/
inductive Task.Asks (d : Deployment) (gets : (call : Call) → call.Reply → Prop) :
    Task → Client → Call → Prop where
  /-- A credential is issued. -/
  | provision {who : Client} {ref : ObjectRef} {call : Call}
      (h : (d.issuerAs who).Asks gets ref call) : Asks d gets (.provision who ref) who call
  /-- A session is started. -/
  | start {who caller : Client} {ref : ObjectRef} {call : Call}
      (h : Transition.StartAsks gets d.issuer who ref caller call) :
    Asks d gets (.start who ref) caller call
  /-- A session is stopped. -/
  | stop {who : Client} {ref : ObjectRef} {call : Call} (h : Transition.Asks gets ref call) :
    Asks d gets (.stop who ref) who call
  /-- A flow is begun. -/
  | begin {who caller : Client} {ref : ObjectRef} {provider : String} {call : Call}
      (h : OAuthFlow.Asks gets call) : Asks d gets (.begin who ref provider) caller call
  /-- A flow is completed. -/
  | complete {params : CallbackParams} {caller : Client} {call : Call}
      (h : OAuthFlow.Asks gets call) : Asks d gets (.complete params) caller call

/-- **Calls of tasks.** -/
theorem Task.program_follows (task : Task) :
    (task.program d).Follows (.ofCalls (task.Asks d gets) gets) fun _ => True := by
  cases task with
  | provision who ref =>
    refine Action.follows_discard
      (Simulation.follows_ofCalls_mono (d.issuerAs who).issue_follows ?_)
    rintro who' call ⟨rfl, h⟩
    exact .provision h
  | start who ref =>
    exact Action.follows_discard (Simulation.follows_ofCalls_mono Transition.start_follows
      fun _ _ h => .start h)
  | stop who ref =>
    refine Action.follows_discard (Simulation.follows_ofCalls_mono Transition.stop_follows ?_)
    rintro who' call ⟨rfl, h⟩
    exact .stop h
  | begin who ref provider =>
    exact Action.follows_discard (Simulation.follows_ofCalls_mono OAuthFlow.begin_follows
      fun _ _ h => .begin h)
  | complete params =>
    exact Action.follows_discard (Simulation.follows_ofCalls_mono OAuthFlow.complete_follows
      fun _ _ h => .complete h)

/-- A call of a task is made to issue a credential, to move a session, or in a flow. -/
theorem Task.Asks.origin {task : Task} {who : Client} {call : Call}
    (h : task.Asks d gets who call) :
    (∃ i ref, Issuer.resource i = d.issuer.resource ∧ i.Asks gets ref call) ∨
      (∃ ref, Transition.Asks gets ref call) ∨ OAuthFlow.Asks gets call := by
  cases h with
  | @provision who ref _ h => exact .inl ⟨d.issuerAs who, ref, rfl, h⟩
  | start h =>
    cases h with
    | client h => exact .inr (.inl ⟨_, h⟩)
    | issuer h => exact .inl ⟨d.issuer, _, rfl, h⟩
  | stop h => exact .inr (.inl ⟨_, h⟩)
  | begin h | complete h => exact .inr (.inr h)

/-- A token is minted only for the session that a task provisions. -/
theorem Task.Asks.account_eq {task : Task} {who : Client} {account : ObjectRef} {lifetime : Span}
    (h : task.Asks d gets who (.createToken account lifetime)) :
    ∃ ref, task.provisioned? = some ref ∧ account = accountOf ref := by
  cases h with
  | provision h => exact ⟨_, rfl, h.account_eq⟩
  | start h =>
    cases h with
    | client h => cases h
    | issuer h => exact ⟨_, rfl, h.account_eq⟩
  | stop h => cases h
  | begin h | complete h =>
    cases h with
    | store _ _ h => cases h

end Tasks

/-! ### Events -/

section Events

variable {d : Deployment} {gets : (call : Call) → call.Reply → Prop} {I : ClusterState → Prop}
  {s : Simulation} {k : Nat} {user : String}

/-- A task keeps what each of its calls keeps. -/
theorem Event.perform_keeps {task : Task}
    {exchange : Http.Request → Except Http.Fault Http.Response}
    (hstep : ∀ now t who c, I t → task.Asks d gets who c →
      I (t.step d.supply now who c).2 ∧
        ∀ v, (t.step d.supply now who c).1 = .ok v → gets c v)
    (hs : I s.cluster) : I ((perform task exchange).run d s).cluster :=
  (Simulation.run_follows (d.surroundings exchange) hstep task.program_follows hs).1

/-- A task keeps what every call keeps. -/
theorem Event.perform_keeps_all {task : Task}
    {exchange : Http.Request → Except Http.Fault Http.Response}
    (hstep : ∀ now t who c, I t → I (t.step d.supply now who c).2) (hs : I s.cluster) :
    I ((perform task exchange).run d s).cluster :=
  Simulation.run_keeps (d.surroundings exchange) _ hstep hs

theorem Event.run_keyed (e : Event) (h : s.cluster.objects.Keyed) :
    (e.run d s).cluster.objects.Keyed := by
  cases e with
  | putSession session => exact ⟨SortedMap.forall_insert h.sessions rfl, h.secrets⟩
  | removeSession gone => exact ⟨SortedMap.forall_erase h.sessions, h.secrets⟩
  | registerToken | grant | failNext | wait => exact ⟨h.sessions, h.secrets⟩
  | perform task exchange =>
    exact perform_keeps_all (I := fun t => t.objects.Keyed)
      (fun _ _ _ _ ht => ClusterState.step_keyed ht) h

/-- An event leaves a token to its user, unless it registers that very token. -/
theorem Event.run_holds {e : Event} (hinjective : Function.Injective d.supply.token)
    (hregistered : ∀ user, e ≠ .registerToken (d.supply.token k) user)
    (h : s.cluster.Holds d.supply k user) : (e.run d s).cluster.Holds d.supply k user := by
  cases e with
  | registerToken token user' =>
    refine ⟨h.1, ?_⟩
    change (s.cluster.objects.tokens.insert token user').get? _ = _
    rw [SortedMap.get?_insert, if_neg, h.2]
    rintro rfl
    exact hregistered user' rfl
  | putSession | removeSession | grant | failNext | wait => exact h
  | perform task exchange =>
    exact perform_keeps_all (I := fun t => t.Holds d.supply k user)
      (fun _ _ _ _ ht => ClusterState.step_holds hinjective ht) h

/-- What a task mints stands for the identity of the session it provisions. -/
theorem Event.run_mints {task : Task} {exchange : Http.Request → Except Http.Fault Http.Response}
    {ref : ObjectRef} (hinjective : Function.Injective d.supply.token)
    (href : task.provisioned? = some ref) (hold : s.cluster.minted ≤ k)
    (hk : k < ((perform task exchange).run d s).cluster.minted) :
    ((perform task exchange).run d s).cluster.Holds d.supply k (Identity.user (accountOf ref)) := by
  -- The invariant of the run: every token drawn since its start stands for that identity.
  have hkeeps : ∀ now (t : ClusterState) who c,
      (∀ j, s.cluster.minted ≤ j → j < t.minted →
        t.Holds d.supply j (Identity.user (accountOf ref))) →
      task.Asks d (fun _ _ => True) who c →
      ∀ j, s.cluster.minted ≤ j → j < (t.step d.supply now who c).2.minted →
        (t.step d.supply now who c).2.Holds d.supply j (Identity.user (accountOf ref)) := by
    intro now t who c ht hc j hold hj
    -- The token was drawn before this call or by it.
    by_cases hdrawn : j < t.minted
    · exact ClusterState.step_holds hinjective (ht j hold hdrawn)
    · obtain ⟨account, lifetime, hcall, hholds⟩ :=
        ClusterState.step_draws (Nat.le_of_not_lt hdrawn) hj
      rw [hcall] at hc
      obtain ⟨ref', href', haccount⟩ := hc.account_eq
      rw [href] at href'
      cases href'
      rw [← haccount]
      exact hholds
  refine perform_keeps (I := fun t => ∀ j, s.cluster.minted ≤ j → j < t.minted →
    t.Holds d.supply j (Identity.user (accountOf ref)))
    (fun now t who c ht hc => ⟨hkeeps now t who c ht hc, fun _ _ => trivial⟩) ?_ k hold hk
  exact fun j hold hj => absurd hj (Nat.not_lt_of_le hold)

end Events

/-! ### Runs -/

namespace Deployment

variable {d : Deployment} {events before after : List Event} {e : Event} {s : Simulation}
  {ref : ObjectRef} {k : Nat} {user : String}

@[simp] theorem run_nil : d.run [] s = s := rfl

@[simp] theorem run_cons : d.run (e :: events) s = d.run events (e.run d s) := rfl

theorem run_append : d.run (before ++ after) s = d.run after (d.run before s) := by
  unfold run
  rw [List.foldl_append]

/-- What every event of a run keeps holds in the end. -/
theorem run_invariant {I : Simulation → Prop} (hstep : ∀ e ∈ events, ∀ s, I s → I (e.run d s))
    (hs : I s) : I (d.run events s) := by
  induction events generalizing s with
  | nil => exact hs
  | cons e events ih =>
    rw [run_cons]
    exact ih (fun e' he' => hstep e' (List.mem_cons_of_mem _ he'))
      (hstep e List.mem_cons_self s hs)

theorem run_keyed (events : List Event) (h : s.cluster.objects.Keyed) :
    (d.run events s).cluster.objects.Keyed :=
  run_invariant (I := fun t => t.cluster.objects.Keyed) (fun e _ _ ht => e.run_keyed ht) h

/-- No token is drawn twice, and none that is drawn is registered for anyone. -/
structure Fresh (d : Deployment) (events : List Event) : Prop where
  /-- No token is drawn twice. -/
  injective : Function.Injective d.supply.token
  /-- No token that is drawn is registered. -/
  unregistered : ∀ k user, .registerToken (d.supply.token k) user ∉ events

/-- The token with a number was minted by a task that provisions a session. -/
def MintedFor (d : Deployment) (s : Simulation) (events : List Event) (ref : ObjectRef) (k : Nat) :
    Prop :=
  ∃ before task exchange after, events = before ++ .perform task exchange :: after ∧
    task.provisioned? = some ref ∧ (d.run before s).cluster.minted ≤ k ∧
    k < ((Event.perform task exchange).run d (d.run before s)).cluster.minted

/-- **Minted tokens.**  A token minted for a session stands for the identity of that session, now
and to the end of the run. -/
theorem run_mintedFor (hfresh : d.Fresh events) (h : d.MintedFor s events ref k) :
    (d.run events s).cluster.Holds d.supply k (Identity.user (accountOf ref)) := by
  obtain ⟨before, task, exchange, after, rfl, href, hold, hk⟩ := h
  rw [run_append, run_cons]
  -- The task set it up, and every event after it keeps it.
  refine run_invariant (I := fun t => t.cluster.Holds d.supply k _) (fun e he t ht => ?_)
    (Event.run_mints hfresh.injective href hold hk)
  refine Event.run_holds hfresh.injective (fun user heq => ?_) ht
  have hmem : e ∈ before ++ .perform task exchange :: after :=
    List.mem_append_right _ (List.mem_cons_of_mem _ he)
  exact hfresh.unregistered k user (heq ▸ hmem)

end Deployment

/-! ### A plain deployment -/

/-- A supply of tokens that are told apart by their lengths. -/
def Supply.counting : Supply where
  token k := String.ofList ('m' :: List.replicate k 'x')
  uid k := toString k

theorem Supply.counting_injective : Function.Injective Supply.counting.token := by
  intro j k h
  have hlength := congrArg (fun t => t.toList.length) h
  simpa [counting] using hlength

theorem Supply.trim_counting (k : Nat) :
    Text.trim (Supply.counting.token k) = Supply.counting.token k := by
  refine String.ext ?_
  rw [Text.toList_trim]
  refine Text.trimChars_eq_self ?_ ?_
  · intro c hc
    simp only [counting, String.toList_ofList, List.head?_cons, Option.some.injEq] at hc
    rw [← hc]
    decide
  · intro c hc
    have hmem := List.mem_of_getLast? hc
    simp only [counting, String.toList_ofList, List.mem_cons, List.mem_replicate] at hmem
    rcases hmem with rfl | ⟨_, rfl⟩ <;> decide

/-- A broker without providers. -/
def Deployment.plain : Deployment where
  issuer := { resource := {}, lifetime := .ofSeconds 3600 }
  flow := ⟨none, .empty "" (.ofSeconds 10)⟩
  supply := .counting

theorem Deployment.plain_fresh {events : List Event}
    (h : ∀ token user, .registerToken token user ∉ events) : plain.Fresh events :=
  ⟨Supply.counting_injective, fun _ user => h _ user⟩

end CredentialBroker
