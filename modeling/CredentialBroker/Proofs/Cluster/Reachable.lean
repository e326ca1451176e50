import CredentialBroker.Proofs.Cluster.Run
import CredentialBroker.Proofs.Cluster.Version

namespace CredentialBroker

/-!
# States a cluster can reach

A `Happening` is anything that can happen to a cluster: a call, by whomever, or something arranged
in it.  `ClusterState.Reachable` are the states that happenings lead to.

* `ClusterState.Reachable.keyed`, `ClusterState.Reachable.bindings_keyed` — sessions, secrets and
  role bindings are found at their own addresses;
* `Happening.evolves`, `ClusterState.Reachable.chronicle` — whatever happens, there is a chronicle.
-/

/-- What can happen to a cluster. -/
inductive Happening where
  /-- A call is made. -/
  | call (who : Client) (c : Call)
  /-- A session is stored. -/
  | putSession (session : Session)
  /-- A session is removed. -/
  | removeSession (ref : ObjectRef)
  /-- A machine identity is stored. -/
  | putServiceAccount (account : ServiceAccount)
  /-- A role is stored. -/
  | putRole (role : Role)
  /-- A job is stored. -/
  | putJob (ref : ObjectRef)
  /-- A pod is added. -/
  | addPod (pod : Pod)
  /-- A token is made to stand for a user. -/
  | registerToken (token user : String)
  /-- A rule is given to a user by name. -/
  | grant (rule : Grant)
  /-- The next call to an operation is made to fail. -/
  | failNext (op : Operation) (e : ClusterError)

/-- The cluster after a happening. -/
def Happening.run (supply : Supply) (now : Timestamp) (s : ClusterState) :
    Happening → ClusterState
  | .call who c => (s.step supply now who c).2
  | .putSession session => (s.putSession supply session).2
  | .removeSession ref => s.removeSession ref
  | .putServiceAccount account => s.putServiceAccount account
  | .putRole role => s.putRole role
  | .putJob ref => s.putJob ref
  | .addPod pod => s.addPod pod
  | .registerToken token user => s.registerToken token user
  | .grant rule => s.addGrant rule
  | .failNext op e => s.addFault op e

variable {supply : Supply} {now : Timestamp} {s : ClusterState}

theorem Happening.run_keyed (h : Happening) (hk : s.objects.Keyed) :
    (h.run supply now s).objects.Keyed := by
  cases h with
  | call who c => exact ClusterState.step_keyed hk
  | putSession session => exact ⟨SortedMap.forall_insert hk.sessions rfl, hk.secrets⟩
  | removeSession ref =>
    exact ⟨SortedMap.forall_erase (P := fun ref (session : Session) => session.ref = ref)
      hk.sessions, hk.secrets⟩
  | putServiceAccount | putRole | putJob | addPod | registerToken | grant | failNext =>
    exact ⟨hk.sessions, hk.secrets⟩

/-- **Versions and happenings.**  Whatever happens stores one object that carries a version at most,
under the next version. -/
theorem Happening.evolves (supply : Supply) (now : Timestamp) (s : ClusterState) (h : Happening) :
    s.Evolves (h.run supply now s) := by
  cases h with
  | call who c => exact ClusterState.step_evolves who c
  | putSession session => exact .written session.ref (.session _) rfl rfl rfl
  | putRole role => exact .written role.ref (.role _) rfl rfl rfl
  | removeSession ref =>
    refine .kept (Nat.le_refl _) fun a ha => ?_
    cases a with
    | session stored =>
      obtain ⟨j, hj⟩ := ha
      exact SortedMap.forall_erase (P := fun _ w => (VersionedObject.session w).StoredIn s.objects)
        (fun j _ hw => ⟨j, hw⟩) j _ hj
    | role | binding | secret => exact ha
  | putServiceAccount | putJob | addPod | registerToken | grant | failNext =>
    exact .kept (Nat.le_refl _) fun a => (VersionedObject.storedIn_congr rfl rfl rfl rfl).mp

/-! ### Reachable states -/

namespace ClusterState

/-- The states that a cluster can come to. -/
inductive Reachable (supply : Supply) : ClusterState → Prop where
  /-- A new cluster, with a custom resource for its sessions. -/
  | fresh (resource : SessionResource) : Reachable supply { resource := resource }
  /-- Something happens. -/
  | next {s : ClusterState} (now : Timestamp) (h : Happening) (hs : Reachable supply s) :
    Reachable supply (h.run supply now s)

/-- What happens one after the other leads on. -/
theorem Reachable.happen (hs : s.Reachable supply) (happenings : List Happening) :
    (happenings.foldl (Happening.run supply now) s).Reachable supply := by
  induction happenings generalizing s with
  | nil => exact hs
  | cons h happenings ih => exact ih (hs.next now h)

/-- Runs lead to states that can be reached, as they are made of calls. -/
theorem Reachable.run {ε β : Type} {env : Surroundings} {sim : Simulation}
    (h : sim.cluster.Reachable env.supply) (a : Action ε β) :
    (Simulation.run env a sim).2.cluster.Reachable env.supply :=
  Simulation.run_keeps env a (fun now _ who c ht => ht.next now (.call who c)) h

theorem Reachable.keyed (h : s.Reachable supply) : s.objects.Keyed := by
  induction h with
  | fresh resource =>
    constructor
    · intro ref session hsession
      cases (SortedMap.get?_empty ref).symm.trans hsession
    · intro ref secret hsecret
      cases (SortedMap.get?_empty ref).symm.trans hsecret
  | next now h _ ih => exact h.run_keyed ih

/-- Role bindings are stored at the addresses they name themselves. -/
theorem Reachable.bindings_keyed (h : s.Reachable supply) :
    ∀ ref b, s.objects.bindings.get? ref = some b → b.ref = ref := by
  induction h with
  | fresh resource =>
    intro ref b hb
    cases (SortedMap.get?_empty ref).symm.trans hb
  | next now h _ ih =>
    cases h with
    | call who c =>
      refine step_keeps (I := fun o => ∀ ref b, o.bindings.get? ref = some b → b.ref = ref) ih
        fun o' heffect => ?_
      rcases heffect.bindings with hsame | ⟨binding, _, hinsert⟩
      · rwa [hsame]
      · rw [hinsert]
        exact SortedMap.forall_insert ih rfl
    | putSession | removeSession | putServiceAccount | putRole | putJob | addPod | registerToken
    | grant | failNext => exact ih

/-- **Chronicles of reachable states.**  Every version stored was drawn for one object only. -/
theorem Reachable.chronicle (h : s.Reachable supply) : ∃ history, Chronicle s history := by
  induction h with
  | fresh resource => exact ⟨[], .nil resource⟩
  | next now h _ ih =>
    obtain ⟨history, hc⟩ := ih
    obtain ⟨added, hadded⟩ := hc.extend (h.evolves supply now _)
    exact ⟨history ++ added, hadded⟩

/-- A session that is stored has a version. -/
theorem Reachable.version_isSome (h : s.Reachable supply) {ref : ObjectRef} {session : Session}
    (hsession : s.objects.sessions.get? ref = some session) :
    session.metadata.resourceVersion.isSome = true := by
  obtain ⟨history, hchronicle⟩ := h.chronicle
  have hstored := hchronicle.stored (.session session) ⟨ref, hsession⟩
  exact hchronicle.version_isSome hstored

end ClusterState

end CredentialBroker
