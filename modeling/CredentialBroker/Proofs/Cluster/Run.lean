import CredentialBroker.Proofs.Cluster.Kept
import CredentialBroker.Proofs.Effect.Execution

namespace CredentialBroker.Simulation

/-!
# Calls within a run

What a run does to the cluster, call by call: `run_call_eq_ok` for a call that succeeds,
`run_call_of_apply` for one that has to succeed, and what no run undoes.
-/

variable {ε α : Type} {env : Surroundings} {s s' : Simulation}

/-- A call that succeeds had its effect and used up no failure. -/
theorem run_call_eq_ok {who : Client} {c : Call} {v : c.Reply}
    (h : run env (Action.cluster who c) s = (.ok v, s')) :
    ∃ user, s.cluster.objects.userOf? who = some user ∧ s.cluster.refusal? who user c = none ∧
      s.cluster.objects.apply (s.cluster.draw env.supply s.now) who user c =
        .ok (s'.cluster.objects, v) ∧
      s'.cluster.minted = s.cluster.minted + c.isMinting.toNat ∧
      s'.cluster.faults = s.cluster.faults := by
  obtain ⟨t, hstep, rfl⟩ := run_cluster_eq_ok.mp h
  obtain ⟨_, user, huser, hrefusal, happly, hminted, hfaults, _⟩ := ClusterState.step_eq_ok hstep
  exact ⟨user, huser, hrefusal, happly, hminted, hfaults⟩

/-- Without failures waiting, an admitted call succeeds when its effect does. -/
theorem run_call_of_apply (env : Surroundings) {who : Client} {user : String} {c : Call}
    {v : c.Reply} {objects : Objects} (hfaults : s.cluster.faults = [])
    (huser : s.cluster.objects.userOf? who = some user)
    (hrefusal : s.cluster.refusal? who user c = none)
    (happly : s.cluster.objects.apply (s.cluster.draw env.supply s.now) who user c =
      .ok (objects, v)) :
    ∃ s', run env (Action.cluster who c) s = (.ok v, s') ∧ s'.cluster.objects = objects ∧
      s'.cluster.faults = [] ∧ s'.now = s.now := by
  have hfault : takeFault c.operation s.cluster.faults = none := by
    rw [hfaults]
    rfl
  obtain ⟨t, hstep, hobjects, ht, _⟩ := ClusterState.step_of_apply hfault huser hrefusal happly
  exact ⟨{ s with cluster := t }, run_cluster_eq_ok.mpr ⟨t, hstep, rfl⟩, hobjects, ht.trans hfaults,
    rfl⟩

/-- The platform is known and nobody refuses it. -/
theorem run_platform_of_apply (env : Surroundings) {c : Call} {v : c.Reply} {objects : Objects}
    (hfaults : s.cluster.faults = [])
    (happly : s.cluster.objects.apply (s.cluster.draw env.supply s.now) .platform platformUser c =
      .ok (objects, v)) :
    ∃ s', run env (Action.cluster .platform c) s = (.ok v, s') ∧ s'.cluster.objects = objects ∧
      s'.cluster.faults = [] ∧ s'.now = s.now :=
  run_call_of_apply env hfaults rfl (ClusterState.refusal?_platform _) happly

/-- A call of the platform whose effect fails fails so, and nothing is changed. -/
theorem run_platform_of_apply_error (env : Surroundings) {c : Call} {e : ClusterError}
    (hfaults : s.cluster.faults = [])
    (happly : s.cluster.objects.apply (s.cluster.draw env.supply s.now) .platform platformUser c =
      .error e) :
    ∃ s', run env (Action.cluster .platform c) s = (.error e, s') ∧
      s'.cluster.objects = s.cluster.objects ∧ s'.cluster.faults = [] ∧ s'.now = s.now := by
  have hfault : takeFault c.operation s.cluster.faults = none := by
    rw [hfaults]
    rfl
  have huser : s.cluster.objects.userOf? .platform = some platformUser := rfl
  obtain ⟨t, hstep, ht⟩ := ClusterState.step_of_apply_error hfault huser
    (ClusterState.refusal?_platform _) happly
  refine ⟨{ s with cluster := t }, ?_, (ClusterState.step_error hstep).1, ht.trans hfaults, rfl⟩
  rw [run_cluster, hstep]

/-! ### What no run undoes -/

theorem run_keyed (a : Action ε α) (h : s.cluster.objects.Keyed) :
    (run env a s).2.cluster.objects.Keyed :=
  run_keeps env (I := fun t => t.objects.Keyed) a (fun _ _ _ _ ht => ClusterState.step_keyed ht) h

theorem keyed_of_run_eq {a : Action ε α} {x : Except ε α} (hk : s.cluster.objects.Keyed)
    (h : run env a s = (x, s')) : s'.cluster.objects.Keyed := by
  obtain rfl : _ = s' := congrArg Prod.snd h
  exact run_keyed a hk

theorem run_holds {k : Nat} {user : String} (hfresh : Function.Injective env.supply.token)
    (a : Action ε α) (h : s.cluster.Holds env.supply k user) :
    (run env a s).2.cluster.Holds env.supply k user :=
  run_keeps env (I := fun t => t.Holds env.supply k user) a
    (fun _ _ _ _ ht => ClusterState.step_holds hfresh ht) h

/-- The custom resource and the number of identifiers stay. -/
theorem run_fixed (a : Action ε α) :
    (run env a s).2.cluster.resource = s.cluster.resource ∧
      (run env a s).2.cluster.named = s.cluster.named := by
  refine run_keeps env (I := fun t => t.resource = s.cluster.resource ∧ t.named = s.cluster.named)
    a (fun now t who c ht => ?_) ⟨rfl, rfl⟩
  obtain ⟨hresource, hnamed⟩ := ClusterState.step_fixed env.supply now who c t
  exact ⟨hresource.trans ht.1, hnamed.trans ht.2⟩

theorem run_role_stays {ref : ObjectRef} (a : Action ε α)
    (h : (s.cluster.objects.roles.get? ref).isSome) :
    ((run env a s).2.cluster.objects.roles.get? ref).isSome :=
  run_keeps env (I := fun t => (t.objects.roles.get? ref).isSome) a
    (fun _ _ _ _ ht => ClusterState.step_role_stays ht) h

theorem run_binding_stays {ref : ObjectRef} (a : Action ε α)
    (h : (s.cluster.objects.bindings.get? ref).isSome) :
    ((run env a s).2.cluster.objects.bindings.get? ref).isSome :=
  run_keeps env (I := fun t => (t.objects.bindings.get? ref).isSome) a
    (fun _ _ _ _ ht => ClusterState.step_binding_stays ht) h

end CredentialBroker.Simulation
