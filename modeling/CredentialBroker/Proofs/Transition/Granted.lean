import CredentialBroker.Proofs.Cluster.Faults
import CredentialBroker.Proofs.Transition.Calls

namespace CredentialBroker.Transition

/-!
# Calls of transitions that nobody refuses

What each call of a start or a stop does when its caller has full rights in the namespace of the
session and no failure waits for the operation.  Failures that wait for other operations do not
matter.

* `run_read`, `run_update`, `run_writeStatus` — the session is read and written;
* `run_attempt_deleteJob`, `run_attempt_deletePods` — what is removed; when a failure strikes here,
  the rest of the cluster is as if it had not.
-/

variable {ε : Type} {s : Simulation} {who : Client} {ref : ObjectRef}
  {session stored sent : Session}

/-! ### The session -/

/-- The session is read as it is stored, and nothing else happens. -/
theorem run_read (env : Surroundings) (hspares : s.cluster.Spares .getSession)
    (hrights : s.cluster.Entitles who ref.ns)
    (hstored : s.cluster.objects.sessions.get? ref = some stored) :
    ∃ t, Simulation.run env (ask who (.getSession ref)) s = (.ok stored, t) ∧
      t.cluster.objects = s.cluster.objects ∧ s.Leads t ∧
      t.cluster.calls = s.cluster.calls ++ [s.cluster.recordOf who (.getSession ref)] := by
  obtain ⟨t, hrun, hobjects⟩ := Simulation.run_call_of_spared env (c := .getSession ref) hspares
    (hrights _ _ rfl rfl) fun _ => Objects.apply_getSession.mpr ⟨rfl, hstored⟩
  obtain rfl : _ = t := congrArg Prod.snd hrun
  exact ⟨_, Simulation.run_mapError_eq_ok.mpr hrun, hobjects,
    Simulation.leads_call env s who ⟨nofun, nofun, nofun⟩, ClusterState.step_calls⟩

/-- What a session needs to be accepted in the place of another one. -/
structure Replaces (sent stored : Session) : Prop where
  /-- It has the address. -/
  ref : sent.ref = stored.ref
  /-- It names a version. -/
  given : sent.metadata.resourceVersion.isSome
  /-- The version is that of the other one. -/
  version : sent.metadata.resourceVersion = stored.metadata.resourceVersion

/-- A session that is sent back is accepted, and keeps its status. -/
theorem run_update (env : Surroundings) (hspares : s.cluster.Spares .updateSession)
    (hrights : s.cluster.Entitles who stored.ref.ns)
    (hstored : s.cluster.objects.sessions.get? stored.ref = some stored)
    (hsent : Replaces sent stored) :
    ∃ t updated, (∃ version, updated = Objects.versioned
        { stored with metadata := sent.metadata, spec := sent.spec } version) ∧
      Simulation.run env (Action.cluster who (.updateSession sent)) s = (.ok updated, t) ∧
      t.cluster.objects = { s.cluster.objects with
        sessions := s.cluster.objects.sessions.insert stored.ref updated } ∧
      s.Leads t := by
  rw [← hsent.ref] at hrights hstored
  obtain ⟨t, hrun, hobjects⟩ := Simulation.run_call_of_spared env (c := .updateSession sent)
    hspares (hrights _ _ rfl rfl) fun _ => Objects.updateSession_eq_ok.mpr
      ⟨stored, hstored, Objects.checkSession_eq_ok.mpr ⟨hsent.given, hsent.version⟩, rfl, rfl⟩
  obtain rfl : _ = t := congrArg Prod.snd hrun
  refine ⟨_, _, ⟨_, rfl⟩, hrun, ?_, Simulation.leads_call env s who ⟨nofun, nofun, nofun⟩⟩
  rw [hobjects, hsent.ref]

/-- A changed status is accepted at the first attempt, whatever the policy. -/
theorem run_writeStatus (env : Surroundings) (policy : RetryPolicy) (ref : ObjectRef)
    {change : Session → Session}
    (hspares : s.cluster.Spares .updateSessionStatus)
    (hrights : s.cluster.Entitles who stored.ref.ns)
    (hstored : s.cluster.objects.sessions.get? stored.ref = some stored)
    (hsent : Replaces (change session) stored) :
    ∃ t updated, (∃ version, updated = Objects.versioned
        { stored with status := (change session).status } version) ∧
      Simulation.run env (writeStatus policy who ref session change) s = (.ok updated, t) ∧
      t.cluster.objects = { s.cluster.objects with
        sessions := s.cluster.objects.sessions.insert stored.ref updated } ∧
      s.Leads t ∧
      t.cluster.calls = s.cluster.calls ++
        [s.cluster.recordOf who (.updateSessionStatus (change session))] := by
  rw [← hsent.ref] at hrights hstored
  obtain ⟨t, hrun, hobjects⟩ := Simulation.run_call_of_spared env
    (c := .updateSessionStatus (change session)) hspares (hrights _ _ rfl rfl) fun _ =>
      Objects.updateSessionStatus_eq_ok.mpr
        ⟨stored, hstored, Objects.checkSession_eq_ok.mpr ⟨hsent.given, hsent.version⟩, rfl, rfl⟩
  -- The first attempt sends the session at hand, so that this one call is all.
  have hfirst : Simulation.run env (tryStatus who ref session change 0) s = (.ok _, t) := hrun
  obtain rfl : _ = t := congrArg Prod.snd hrun
  refine ⟨_, _, ⟨_, rfl⟩, Simulation.run_retried_of_ok hfirst, ?_,
    Simulation.leads_call env s who ⟨nofun, nofun, nofun⟩, ClusterState.step_calls⟩
  rw [hobjects, hsent.ref]

/-! ### What is removed -/

/-- An attempt ends well, whatever comes of its call. -/
theorem run_attempt (env : Surroundings) (call : Call) :
    Simulation.run env (attempt who call : Action ε Unit) s =
      (.ok (), (Simulation.run env (Action.cluster who call) s).2) := by
  unfold attempt
  rw [Simulation.run_discard, Simulation.run_outcome]
  rfl

/-- A call that is attempted leads on and has its effect, or none. -/
theorem run_attempt_cases (env : Surroundings) (who : Client) (call : Call)
    (hkeeps : call.KeepsRights) :
    ∃ t, Simulation.run env (attempt who call : Action ε Unit) s = (.ok (), t) ∧ s.Leads t ∧
      ((∃ e, Simulation.run env (Action.cluster who call) s = (.error e, t) ∧
          t.cluster.objects = s.cluster.objects) ∨
        ∃ user reply, s.cluster.objects.apply (s.cluster.draw env.supply s.now) who user call =
          .ok (t.cluster.objects, reply)) := by
  refine ⟨_, run_attempt env call, Simulation.leads_call env s who hkeeps, ?_⟩
  cases hrun : Simulation.run env (Action.cluster who call) s with
  | mk reply t =>
    cases reply with
    | error e => exact .inl ⟨e, rfl, (Simulation.run_call_error hrun).1⟩
    | ok reply =>
      obtain ⟨user, _, _, happly, _⟩ := Simulation.run_call_eq_ok hrun
      exact .inr ⟨user, reply, happly⟩

/-- The job is removed or left, and nothing else happens; it is removed unless a failure strikes. -/
theorem run_attempt_deleteJob (env : Surroundings) (job : ObjectRef) (propagation : Propagation)
    (hrights : s.cluster.Entitles who job.ns) :
    ∃ t jobs, Simulation.run env (attempt who (.deleteJob job propagation) : Action ε Unit) s =
        (.ok (), t) ∧ s.Leads t ∧
      t.cluster.objects = { s.cluster.objects with jobs := jobs } ∧
      (jobs = s.cluster.objects.jobs ∨ jobs = s.cluster.objects.jobs.erase job) ∧
      (s.cluster.Spares .deleteJob → jobs = s.cluster.objects.jobs.erase job) := by
  obtain ⟨t, hrun, hleads, ⟨e, hcall, hobjects⟩ | ⟨_, _, happly⟩⟩ :=
    run_attempt_cases (ε := ε) (s := s) env who (.deleteJob job propagation)
      ⟨nofun, nofun, nofun⟩
  · refine ⟨t, s.cluster.objects.jobs, hrun, hleads, hobjects, .inl rfl, fun hspares => ?_⟩
    -- Without a failure the call fails only for a job that is not there.
    refine (SortedMap.erase_eq_self (Option.not_isSome_iff_eq_none.mp fun hjob => ?_)).symm
    obtain ⟨_, hrun', _⟩ := Simulation.run_call_of_spared env
      (c := .deleteJob job propagation) (v := ()) hspares (hrights _ _ rfl rfl) fun _ =>
        Objects.apply_deleteJob.mpr ⟨hjob, rfl⟩
    cases hcall.symm.trans hrun'
  · obtain ⟨_, hobjects⟩ := Objects.apply_deleteJob.mp happly
    exact ⟨t, _, hrun, hleads, hobjects, .inr rfl, fun _ => rfl⟩

/-- The pods that a selector leaves in a namespace. -/
def podsLeft (ns selector : String) (pods : List Pod) : List Pod :=
  pods.filter fun pod => !(pod.ref.ns = ns && Objects.fits selector pod.labels)

/-- The pods that the selector picks are removed or left, and nothing else happens; they are removed
unless a failure strikes. -/
theorem run_attempt_deletePods (env : Surroundings) {ns : String} (selector : String)
    (hrights : s.cluster.Entitles who ns) :
    ∃ t pods, Simulation.run env (attempt who (.deletePods ns selector) : Action ε Unit) s =
        (.ok (), t) ∧ s.Leads t ∧
      t.cluster.objects = { s.cluster.objects with pods := pods } ∧
      (pods = s.cluster.objects.pods ∨ pods = podsLeft ns selector s.cluster.objects.pods) ∧
      (s.cluster.Spares .deletePods → pods = podsLeft ns selector s.cluster.objects.pods) := by
  obtain ⟨t, hrun, hleads, ⟨e, hcall, hobjects⟩ | ⟨_, _, happly⟩⟩ :=
    run_attempt_cases (ε := ε) (s := s) env who (.deletePods ns selector)
      ⟨nofun, nofun, nofun⟩
  · refine ⟨t, s.cluster.objects.pods, hrun, hleads, hobjects, .inl rfl, fun hspares => ?_⟩
    obtain ⟨_, hrun', _⟩ := Simulation.run_call_of_spared env
      (c := .deletePods ns selector) (v := ()) hspares (hrights _ _ rfl rfl) fun _ => rfl
    cases hcall.symm.trans hrun'
  · exact ⟨t, _, hrun, hleads, (Prod.mk.inj (Except.ok.inj happly)).1.symm, .inr rfl,
      fun _ => rfl⟩

end CredentialBroker.Transition
