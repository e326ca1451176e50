import CredentialBroker.Proofs.Cluster.Entitlement
import CredentialBroker.Proofs.Cluster.Frame
import CredentialBroker.Proofs.Effect.Failing

namespace CredentialBroker

/-!
# Failures that wait

A failure waits for calls of one operation and strikes one of them.  No call lets a failure in, so
an operation that is spared stays so, whatever waits for the others.

* `ClusterState.step_platform_error` — a call of the platform fails by one of them, or since it can
  have no effect;
* `ClusterState.Spares` — no failure waits for an operation;
* `Simulation.run_call_of_spared` — a call of such an operation that its caller may make succeeds
  when its effect does;
* `Simulation.Leads` — what calls that touch neither tokens nor roles nor role bindings keep;
* `ClusterState.step_calls` — whatever comes of a call, it is put on record.
-/

/-! ### The queue -/

theorem takeFault_eq_none_iff {op : Operation} {faults : List (Operation × ClusterError)} :
    takeFault op faults = none ↔ ∀ f ∈ faults, f.1 ≠ op := by
  induction faults with
  | nil => simp [takeFault]
  | cons f faults ih =>
    by_cases h : f.1 = op
    · simp [takeFault, h]
    · simp [takeFault, h, ih]

/-- What is left of the queue was in it. -/
theorem takeFault_sublist {op : Operation} {faults rest : List (Operation × ClusterError)}
    {e : ClusterError} (h : takeFault op faults = some (e, rest)) : rest.Sublist faults := by
  induction faults generalizing rest with
  | nil => cases h
  | cons f faults ih =>
    rw [takeFault] at h
    split at h
    · cases h
      exact List.sublist_cons_self _ _
    · obtain ⟨p, htaken, hp⟩ := Option.map_eq_some_iff.mp h
      cases hp
      exact (ih htaken).cons_cons f

/-- A failure that strikes was in the queue for its operation. -/
theorem mem_of_takeFault {op : Operation} {faults rest : List (Operation × ClusterError)}
    {e : ClusterError} (h : takeFault op faults = some (e, rest)) : (op, e) ∈ faults := by
  induction faults generalizing rest with
  | nil => cases h
  | cons f faults ih =>
    rw [takeFault] at h
    split at h
    · next hop =>
      cases h
      rw [← hop]
      exact List.mem_cons_self
    · obtain ⟨p, htaken, hp⟩ := Option.map_eq_some_iff.mp h
      cases hp
      exact List.mem_cons_of_mem _ (ih htaken)

/-- A call that touches neither tokens nor roles nor role bindings. -/
structure Call.KeepsRights (call : Call) : Prop where
  /-- It mints no token. -/
  tokens : call.table? ≠ some .tokens
  /-- It writes no role. -/
  roles : call.table? ≠ some .roles
  /-- It writes no role binding. -/
  bindings : call.table? ≠ some .bindings

theorem Call.KeepsRights.isMinting {call : Call} (h : call.KeepsRights) :
    call.isMinting = false := by
  cases call with
  | createToken => exact absurd rfl h.tokens
  | _ => rfl

namespace ClusterState

variable {supply : Supply} {now : Timestamp} {who : Client} {call : Call} {s t : ClusterState}
  {op : Operation}

/-- No failure waits for an operation. -/
def Spares (s : ClusterState) (op : Operation) : Prop := takeFault op s.faults = none

instance : Decidable (s.Spares op) :=
  decidable_of_iff ((takeFault op s.faults).isNone = true) Option.isNone_iff_eq_none

/-- No call lets a failure in. -/
theorem step_faults_sublist : (s.step supply now who call).2.faults.Sublist s.faults := by
  unfold step
  dsimp only
  split
  · next e rest htaken => exact takeFault_sublist htaken
  · split
    · exact List.Sublist.refl _
    · split
      · exact List.Sublist.refl _
      · unfold perform
        split <;> exact List.Sublist.refl _

theorem step_spares (h : s.Spares op) : (s.step supply now who call).2.Spares op :=
  takeFault_eq_none_iff.mpr fun f hf =>
    takeFault_eq_none_iff.mp h f (step_faults_sublist.subset hf)

/-- Why a call of the platform fails: a failure waited for it, or it can have no effect. -/
theorem step_platform_error {e : ClusterError}
    (h : s.step supply now .platform call = (.error e, t)) :
    (call.operation, e) ∈ s.faults ∨
      s.objects.apply (s.draw supply now) .platform platformUser call = .error e := by
  unfold step at h
  dsimp only at h
  split at h
  · next hfault =>
    cases h
    exact .inl (mem_of_takeFault hfault)
  · split at h
    · next huser => cases huser
    · next user huser =>
      cases huser
      rw [refusal?_platform] at h
      dsimp only at h
      unfold perform at h
      split at h
      · next happly =>
        cases h
        exact .inr happly
      · cases h

/-! ### The record -/

/-- How a call is put on record. -/
def recordOf (s : ClusterState) (who : Client) (call : Call) : CallRecord :=
  ⟨(s.objects.userOf? who).getD anonymous, call.operation, call.target⟩

/-- Whatever comes of a call, it is put on record. -/
theorem step_calls :
    (s.step supply now who call).2.calls = s.calls ++ [s.recordOf who call] := by
  unfold step
  dsimp only
  split
  · rfl
  · split
    · rfl
    · split
      · rfl
      · unfold perform
        split <;> rfl

/-- Callers are recorded alike as long as the tokens stand for the same users. -/
theorem recordOf_congr (h : t.objects.tokens = s.objects.tokens) :
    t.recordOf who call = s.recordOf who call := by
  unfold recordOf
  cases who with
  | platform => rfl
  | bearer token =>
    show CallRecord.mk ((t.objects.tokens.get? token).getD _) _ _ = _
    rw [h]
    rfl

/-! ### Rights -/

/-- No call gives rules by name. -/
theorem step_grants : (s.step supply now who call).2.objects.grants = s.objects.grants :=
  step_keeps (I := fun o => o.grants = s.objects.grants) rfl fun _ h => h.grants

theorem step_sameRights (h : call.KeepsRights) : s.SameRights (s.step supply now who call).2 where
  resource := (step_fixed supply now who call s).1
  tokens := step_agrees h.tokens
  grants := step_grants
  roles := step_agrees h.roles
  bindings := step_agrees h.bindings

theorem step_minted (h : call.isMinting = false) :
    (s.step supply now who call).2.minted = s.minted := by
  rcases step_effect supply now who call s with ⟨_, hsame⟩ | ⟨_, hminted⟩
  · exact hsame
  · rw [hminted, h]
    rfl

end ClusterState

namespace Simulation

variable {ε α : Type} {env : Surroundings} {s t : Simulation} {who : Client} {c : Call}
  {op : Operation}

/-- A call that fails changes no object and mints no token. -/
theorem run_call_error {e : ClusterError}
    (h : run env (Action.cluster who c) s = (.error e, t)) :
    t.cluster.objects = s.cluster.objects ∧ t.cluster.minted = s.cluster.minted := by
  obtain ⟨u, hstep, rfl⟩ := run_cluster_eq_error.mp h
  exact ⟨(ClusterState.step_error hstep).1, (ClusterState.step_error hstep).2.1⟩

/-- So does one whose error is seen as another one. -/
theorem run_mappedCall_error {f : ClusterError → ε} {e : ε}
    (h : run env ((Action.cluster who c).mapError f) s = (.error e, t)) :
    t.cluster.objects = s.cluster.objects ∧ t.cluster.minted = s.cluster.minted := by
  obtain ⟨_, hrun, _⟩ := run_mapError_eq_error.mp h
  exact run_call_error hrun

theorem run_platform_error {e : ClusterError}
    (h : run env (Action.cluster .platform c) s = (.error e, t)) :
    (c.operation, e) ∈ s.cluster.faults ∨
      s.cluster.objects.apply (s.cluster.draw env.supply s.now) .platform platformUser c =
        .error e := by
  obtain ⟨_, hstep, _⟩ := run_cluster_eq_error.mp h
  exact ClusterState.step_platform_error hstep

/-- No run lets a failure in. -/
theorem faults_of_run_eq {a : Action ε α} {x : Except ε α} (h : run env a s = (x, t)) :
    t.cluster.faults.Sublist s.cluster.faults := by
  obtain rfl : _ = t := congrArg Prod.snd h
  exact run_keeps env (I := fun u => u.faults.Sublist s.cluster.faults) a
    (fun _ _ _ _ hu => ClusterState.step_faults_sublist.trans hu) (List.Sublist.refl _)

theorem run_spares (env : Surroundings) (a : Action ε α) (h : s.cluster.Spares op) :
    (run env a s).2.cluster.Spares op :=
  run_keeps env (I := fun t => t.Spares op) a (fun _ _ _ _ ht => ClusterState.step_spares ht) h

/-- The call that was made last is the last one on record. -/
theorem run_call_last {x : Except ClusterError c.Reply}
    (h : run env (Action.cluster who c) s = (x, t)) :
    t.cluster.calls.getLast?.map CallRecord.operation = some c.operation := by
  obtain rfl : _ = t := congrArg Prod.snd h
  show (s.cluster.step env.supply s.now who c).2.calls.getLast?.map _ = _
  rw [ClusterState.step_calls, List.getLast?_concat]
  rfl

/-- On the way from one state to another nobody's rights have changed, no token was minted, no
failure has come in, and no time has passed. -/
structure Leads (s t : Simulation) : Prop where
  /-- The rights are the same. -/
  rights : s.cluster.SameRights t.cluster
  /-- The number of tokens is the same. -/
  minted : t.cluster.minted = s.cluster.minted
  /-- What was spared is. -/
  spares : ∀ op, s.cluster.Spares op → t.cluster.Spares op
  /-- The time is the same. -/
  now : t.now = s.now

theorem Leads.refl (s : Simulation) : s.Leads s := ⟨.refl _, rfl, fun _ => id, rfl⟩

theorem Leads.trans {u : Simulation} (h : s.Leads t) (h' : t.Leads u) : s.Leads u :=
  ⟨h.rights.trans h'.rights, h'.minted.trans h.minted,
    fun op hop => h'.spares op (h.spares op hop), h'.now.trans h.now⟩

/-- A call that keeps rights leads on, whatever comes of it. -/
theorem leads_call (env : Surroundings) (s : Simulation) (who : Client) (h : c.KeepsRights) :
    s.Leads (run env (Action.cluster who c) s).2 :=
  ⟨ClusterState.step_sameRights h, ClusterState.step_minted h.isMinting,
    fun _ => run_spares env _, run_now _⟩

/-- **Calls that are spared.**  A call that no failure waits for and that its caller may make
succeeds when its effect does, whatever waits for other calls. -/
theorem run_call_of_spared (env : Surroundings) {objects : Objects} {v : c.Reply}
    (hspares : s.cluster.Spares c.operation) (hallows : s.cluster.Allows who c)
    (happly : ∀ user, s.cluster.objects.apply (s.cluster.draw env.supply s.now) who user c =
      .ok (objects, v)) :
    ∃ t, run env (Action.cluster who c) s = (.ok v, t) ∧ t.cluster.objects = objects := by
  obtain ⟨user, huser, hrefusal⟩ := hallows
  obtain ⟨t, hstep, hobjects, _⟩ := ClusterState.step_of_apply hspares huser hrefusal (happly user)
  exact ⟨{ s with cluster := t }, run_cluster_eq_ok.mpr ⟨t, hstep, rfl⟩, hobjects⟩

end Simulation

end CredentialBroker
