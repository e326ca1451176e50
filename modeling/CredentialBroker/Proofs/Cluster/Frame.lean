import CredentialBroker.Proofs.Cluster.Run

namespace CredentialBroker

/-!
# What calls leave alone

Each call writes one table of a cluster at most, which can be told from the call.  A table that is
not written by any call of a run is after the run what it was before, however the run ends.

* `Call.table?` — the table that a call writes;
* `Objects.apply_agrees`, `ClusterState.step_agrees`, `Simulation.run_agrees` — effects, steps and
  runs leave the other tables alone.
-/

/-- The tables of a cluster that calls write. -/
inductive Table where
  | sessions | accounts | roles | bindings | secrets | jobs | pods | tokens
deriving DecidableEq

/-- The table that a call writes, if it writes any. -/
def Call.table? : Call → Option Table
  | .patchSessionAnnotations .. | .updateSession _ | .updateSessionStatus _ => some .sessions
  | .createServiceAccount _ | .patchServiceAccountAnnotations .. => some .accounts
  | .createRole _ | .updateRole _ => some .roles
  | .createRoleBinding _ | .updateRoleBinding _ => some .bindings
  | .createSecret _ | .updateSecret _ => some .secrets
  | .createToken .. => some .tokens
  | .deleteJob .. => some .jobs
  | .deletePods .. => some .pods
  | .getSession _ | .getServiceAccount _ | .getRole _ | .getRoleBinding _ | .getSecret _
  | .reviewToken _ | .checkAccess _ => none

namespace Objects

/-- A table is the same in both. -/
def Agrees (o o' : Objects) : Table → Prop
  | .sessions => o'.sessions = o.sessions
  | .accounts => o'.accounts = o.accounts
  | .roles => o'.roles = o.roles
  | .bindings => o'.bindings = o.bindings
  | .secrets => o'.secrets = o.secrets
  | .jobs => o'.jobs = o.jobs
  | .pods => o'.pods = o.pods
  | .tokens => o'.tokens = o.tokens

variable {o o' o'' : Objects} {table : Table} {d : Draw} {who : Client} {user : String}
  {call : Call}

theorem agrees_of_eq (h : o' = o) : o.Agrees o' table := by
  subst h
  cases table <;> rfl

theorem Agrees.trans (h : o.Agrees o' table) (h' : o'.Agrees o'' table) :
    o.Agrees o'' table := by
  cases table <;> exact Eq.trans h' h

/-- An effect leaves the tables alone that its call does not write. -/
theorem apply_agrees {reply : call.Reply} (hother : call.table? ≠ some table)
    (h : o.apply d who user call = .ok (o', reply)) : o.Agrees o' table := by
  cases call with
  | reviewToken | checkAccess | deletePods =>
    cases h
    cases table <;> first | rfl | exact absurd rfl hother
  | updateSession | updateSessionStatus | updateRole | updateRoleBinding | updateSecret =>
    simp only [apply, Outcome.bind_eq_ok] at h
    obtain ⟨_, _, _, _, h⟩ := h
    cases h
    cases table <;> first | rfl | exact absurd rfl hother
  | _ =>
    simp only [apply, Outcome.bind_eq_ok] at h
    obtain ⟨_, _, h⟩ := h
    cases h
    cases table <;> first | rfl | exact absurd rfl hother

end Objects

/-- A step leaves the tables alone that its call does not write. -/
theorem ClusterState.step_agrees {supply : Supply} {now : Timestamp} {who : Client} {call : Call}
    {s : ClusterState} {table : Table} (hother : call.table? ≠ some table) :
    s.objects.Agrees (s.step supply now who call).2.objects table := by
  cases hstep : s.step supply now who call with
  | mk x t =>
    cases x with
    | error e => exact Objects.agrees_of_eq (step_error hstep).1
    | ok reply =>
      obtain ⟨_, user, _, _, happly, _⟩ := step_eq_ok hstep
      exact Objects.apply_agrees hother happly

/-- **Frames of runs.**  A run leaves the tables alone that no call of it writes. -/
theorem Simulation.run_agrees {ε α : Type} {a : Action ε α} {asks : Client → Call → Prop}
    {ends : α → Prop} {table : Table} (env : Surroundings) (s : Simulation)
    (hfollows : a.Follows (.ofCalls asks fun _ _ => True) ends)
    (hasks : ∀ who call, asks who call → call.table? ≠ some table) :
    s.cluster.objects.Agrees (run env a s).2.cluster.objects table := by
  refine (run_follows env (I := fun t => s.cluster.objects.Agrees t.objects table)
    (fun now t who call ht hcall => ⟨?_, fun _ _ => trivial⟩) hfollows
    (Objects.agrees_of_eq rfl)).1
  exact ht.trans (ClusterState.step_agrees (hasks who call hcall))

end CredentialBroker
