import CredentialBroker.Credential.Grant
import CredentialBroker.Proofs.Cluster.Faults
import CredentialBroker.Proofs.Cluster.Run

namespace CredentialBroker

/-!
# Writes to secrets

What a write asks of the cluster, and what a write that ends well has done.

* `CredentialStore.write_follows` — only the one secret is read and written;
* `CredentialStore.run_write_eq_ok` — after a write that ends well the secret has the entries;
* `CredentialStore.run_secrets_other`, `CredentialStore.run_write_other` — the other secrets stay as
  they are;
* `CredentialStore.run_write_of_ready` — on a cluster without failures the platform's writes end
  well, and leave the change in the secret and nothing else.
-/

namespace SecretChange

variable {c : SecretChange}

@[simp] theorem ref_applyTo (s : Secret) : (c.applyTo s).ref = s.ref := rfl

@[simp] theorem ref_fresh (ref : ObjectRef) : (c.fresh ref).ref = ref := rfl

/-- The secret after a write, from the one that was there, if any. -/
def written (c : SecretChange) (ref : ObjectRef) (version : String) : Option Secret → Secret
  | none => { c.fresh ref with resourceVersion := some version }
  | some found => { c.applyTo found with resourceVersion := some version }

variable {ref : ObjectRef} {version : String} {found : Option Secret}

theorem data_written :
    (c.written ref version found).data = ((found.map Secret.data).getD ∅).union c.entries := by
  cases found with
  | none => exact (SortedMap.empty_union _).symm
  | some found => rfl

/-- An entry of a change is in the secret after it. -/
theorem get?_data_written {key : String} {value : Bytes} (h : c.entries.get? key = some value) :
    (c.written ref version found).data.get? key = some value := by
  rw [data_written, SortedMap.get?_union, h, Option.some_or]

theorem labels_written :
    (c.written ref version found).labels = ((found.map Secret.labels).getD ∅).union c.labels := by
  cases found with
  | none => exact (SortedMap.empty_union _).symm
  | some found => rfl

/-- A secret that has owners keeps them. -/
theorem owners_written {secret : Secret} (h : secret.owners ≠ []) :
    (c.written ref version (some secret)).owners = secret.owners := if_neg (by simpa using h)

theorem owners_written_ne_nil : (c.written ref version found).owners ≠ [] := by
  cases found with
  | none => exact List.cons_ne_nil _ _
  | some secret =>
    by_cases h : secret.owners = []
    · simp [written, applyTo, h]
    · rwa [owners_written h]

end SecretChange

namespace CredentialStore

variable {st : CredentialStore} {ref : ObjectRef} {c : SecretChange}
  {gets : (call : Call) → call.Reply → Prop}

/-- The calls a write makes. -/
inductive Asks (gets : (call : Call) → call.Reply → Prop) (ref : ObjectRef) (c : SecretChange) :
    Call → Prop where
  /-- The secret is read. -/
  | read : Asks gets ref c (.getSecret ref)
  /-- The secret that was read is replaced. -/
  | update (found : Secret) (h : gets (.getSecret ref) found) :
    Asks gets ref c (.updateSecret (c.applyTo found))
  /-- The secret is made. -/
  | create : Asks gets ref c (.createSecret (c.fresh ref))

theorem tryWrite_follows :
    (st.tryWrite ref c).Follows
      (.ofCalls (fun who call => who = st.client ∧ Asks gets ref c call) gets) fun _ => True := by
  unfold tryWrite
  have hread : (Action.cluster st.client (.getSecret ref)).Follows
      (.ofCalls (fun who call => who = st.client ∧ Asks gets ref c call) gets)
      (gets (.getSecret ref)) := Action.follows_cluster ⟨rfl, .read⟩ fun v hv => hv v rfl
  refine Action.follows_bind (Action.follows_outcome hread) fun reply hreply => ?_
  cases reply with
  | ok found =>
    exact Action.follows_discard (Action.follows_call ⟨rfl, .update found (hreply found rfl)⟩)
  | error e =>
    dsimp only
    split
    · exact Action.follows_discard (Action.follows_call ⟨rfl, .create⟩)
    · exact Action.follows_throw

/-- A write reads and writes its own secret and nothing else. -/
theorem write_follows :
    (st.write ref c).Follows
      (.ofCalls (fun who call => who = st.client ∧ Asks gets ref c call) gets) fun _ => True :=
  Action.follows_mapError (Action.follows_retried (fun _ => trivial) fun _ => tryWrite_follows)

/-! ### Outcomes -/

variable {env : Surroundings} {s s' : Simulation}

/-- An attempt that ends well leaves the change in the secret, and nothing else. -/
theorem run_tryWrite_written {u : Unit} (hk : s.cluster.objects.Keyed)
    (h : Simulation.run env (st.tryWrite ref c) s = (.ok u, s')) :
    ∃ version, s'.cluster.objects = { s.cluster.objects with
      secrets := s.cluster.objects.secrets.insert ref
        (c.written ref version (s.cluster.objects.secrets.get? ref)) } := by
  unfold tryWrite at h
  rw [Simulation.run_bind_eq_ok] at h
  obtain ⟨reply, t, hread, h⟩ := h
  rw [Simulation.run_outcome] at hread
  cases reply with
  | ok found =>
    dsimp only at h
    have hfound : Simulation.run env (Action.cluster st.client (.getSecret ref)) s =
        (.ok found, t) := by
      simpa only [Prod.mk.injEq, Except.ok.injEq, Prod.ext_iff] using hread
    obtain ⟨_, _, _, happly, _⟩ := Simulation.run_call_eq_ok hfound
    obtain ⟨hsame, hstored⟩ := Objects.apply_getSecret.mp happly
    -- The secret found is stored where it says it is, so it is replaced at the same address.
    have href : (c.applyTo found).ref = ref := hk.secrets ref found hstored
    obtain ⟨updated, h⟩ := Simulation.run_discard_eq_ok.mp h
    obtain ⟨_, _, _, hupdate, _⟩ := Simulation.run_call_eq_ok h
    obtain ⟨_, hupdated, hobjects⟩ := Objects.apply_updateSecret.mp hupdate
    refine ⟨toString (t.cluster.versions + 1), ?_⟩
    simp only [hobjects, hupdated, hsame, hstored, href, SecretChange.written]
    rfl
  | error e =>
    -- Only a secret that is not found is made, and making it needs that there is none.
    dsimp only at h
    have hmissed : Simulation.run env (Action.cluster st.client (.getSecret ref)) s =
        (.error e, t) := by
      simpa only [Prod.mk.injEq, Except.ok.injEq, Prod.ext_iff] using hread
    have hsame := (Simulation.run_call_error hmissed).1
    split at h
    · obtain ⟨created, h⟩ := Simulation.run_discard_eq_ok.mp h
      obtain ⟨_, _, _, hcreate, _⟩ := Simulation.run_call_eq_ok h
      obtain ⟨habsent, hcreated, hobjects⟩ := Objects.apply_createSecret.mp hcreate
      refine ⟨toString (t.cluster.versions + 1), ?_⟩
      rw [SecretChange.ref_fresh, hsame] at habsent
      rw [hobjects, hcreated, SecretChange.ref_fresh, hsame, habsent]
      rfl
    · cases h

/-- So it leaves the entries there. -/
theorem run_tryWrite_eq_ok {u : Unit} (hk : s.cluster.objects.Keyed)
    (h : Simulation.run env (st.tryWrite ref c) s = (.ok u, s')) :
    ∃ secret, s'.cluster.objects.secrets.get? ref = some secret ∧
      ∀ key value, c.entries.get? key = some value → secret.data.get? key = some value := by
  obtain ⟨version, hobjects⟩ := run_tryWrite_written hk h
  refine ⟨c.written ref version (s.cluster.objects.secrets.get? ref), ?_,
    fun key value hentry => SecretChange.get?_data_written hentry⟩
  rw [hobjects]
  exact SortedMap.get?_insert_self _ _ _

/-- A write that ends well leaves the entries in the secret. -/
theorem run_write_eq_ok {u : Unit} (hk : s.cluster.objects.Keyed)
    (h : Simulation.run env (st.write ref c) s = (.ok u, s')) :
    ∃ secret, s'.cluster.objects.secrets.get? ref = some secret ∧
      ∀ key value, c.entries.get? key = some value → secret.data.get? key = some value := by
  unfold write at h
  rw [Simulation.run_mapError_eq_ok] at h
  obtain ⟨n, t, ht, h⟩ := Simulation.run_retried_eq_ok
    (I := fun t => t.cluster.objects.Keyed) (fun _ _ ht => Simulation.run_keyed _ ht) hk h
  exact run_tryWrite_eq_ok ht h

/-- A secret that is read is the one of its address. -/
def addressed : (call : Call) → call.Reply → Prop
  | .getSecret ref, found => found.ref = ref
  | _, _ => True

theorem step_addressed {supply : Supply} {now : Timestamp} {t : ClusterState} {who : Client}
    {call : Call} {v : call.Reply} (hk : t.objects.Keyed)
    (h : (t.step supply now who call).1 = .ok v) : addressed call v := by
  cases call
  case getSecret target =>
    obtain ⟨_, _, happly⟩ := ClusterState.apply_of_step h
    exact hk.secrets target v (Objects.apply_getSecret.mp happly).2
  all_goals trivial

/-- The secret that a write makes or replaces is its own. -/
theorem Asks.secret_ref {call : Call} {secret : Secret} (h : Asks addressed ref c call)
    (hcall : call = .createSecret secret ∨ call = .updateSecret secret) : secret.ref = ref := by
  cases h with
  | read => rcases hcall with hcall | hcall <;> cases hcall
  | update found hfound =>
    rcases hcall with hcall | hcall
    · cases hcall
    · cases hcall
      exact hfound
  | create =>
    rcases hcall with hcall | hcall
    · cases hcall
      rfl
    · cases hcall

/-- Secrets that are none of those made or replaced by the calls of an action stay as they are. -/
theorem run_secrets_other {ε α : Type} {a : Action ε α} {asks : Client → Call → Prop}
    {ends : α → Prop} {other : ObjectRef} (hfollows : a.Follows (.ofCalls asks addressed) ends)
    (hasks : ∀ who call secret, asks who call →
      call = .createSecret secret ∨ call = .updateSecret secret → secret.ref ≠ other)
    (hk : s.cluster.objects.Keyed) :
    (Simulation.run env a s).2.cluster.objects.secrets.get? other =
      s.cluster.objects.secrets.get? other := by
  -- That secrets are stored at their own addresses is needed for those that are read back.
  refine (Simulation.run_follows env
    (I := fun t => t.objects.Keyed ∧
      t.objects.secrets.get? other = s.cluster.objects.secrets.get? other)
    (fun now t who call ht hcall => ?_) hfollows ⟨hk, rfl⟩).1.2
  refine ⟨⟨ClusterState.step_keyed ht.1, ?_⟩, fun v hv => step_addressed ht.1 hv⟩
  refine ClusterState.step_keeps (I := fun o => o.secrets.get? other = _) ht.2 fun o' heffect => ?_
  rcases heffect.secrets with hsame | ⟨secret, hwritten, hinsert⟩
  · rw [hsame, ht.2]
  · rw [hinsert, SortedMap.get?_insert, if_neg (hasks who call secret hcall hwritten).symm, ht.2]

/-- However a write ends, the other secrets are as before. -/
theorem run_write_other {other : ObjectRef} (hk : s.cluster.objects.Keyed) (hother : other ≠ ref) :
    (Simulation.run env (st.write ref c) s).2.cluster.objects.secrets.get? other =
      s.cluster.objects.secrets.get? other :=
  run_secrets_other write_follows
    (fun _ _ _ hasks hcall => hasks.2.secret_ref hcall ▸ hother.symm) hk

variable (st ref c env) in
/-- On a cluster without failures the platform's writes end well, at the first attempt. -/
theorem run_write_of_ready (hclient : st.client = .platform) (hfaults : s.cluster.faults = [])
    (hk : s.cluster.objects.Keyed) :
    ∃ s' version, Simulation.run env (st.write ref c) s = (.ok (), s') ∧
      s'.cluster.objects = { s.cluster.objects with
        secrets := s.cluster.objects.secrets.insert ref
          (c.written ref version (s.cluster.objects.secrets.get? ref)) } ∧
      s'.cluster.faults = [] := by
  -- The first attempt ends well, so there is no other.
  suffices h : ∃ s', Simulation.run env (st.tryWrite ref c) s = (.ok (), s') ∧
      s'.cluster.faults = [] by
    obtain ⟨s', h, hs'⟩ := h
    obtain ⟨version, hobjects⟩ := run_tryWrite_written hk h
    exact ⟨s', version, Simulation.run_mapError_eq_ok.mpr (Simulation.run_retried_of_ok h),
      hobjects,
      hs'⟩
  unfold tryWrite
  rw [hclient]
  cases hstored : s.cluster.objects.secrets.get? ref with
  | some found =>
    have href : (c.applyTo found).ref = ref := hk.secrets ref found hstored
    obtain ⟨t, hread, hobjects, ht, _⟩ := Simulation.run_platform_of_apply env
      (s := s) (c := .getSecret ref) hfaults (Objects.apply_getSecret.mpr ⟨rfl, hstored⟩)
    obtain ⟨s', hwrite, _, hs', _⟩ := Simulation.run_platform_of_apply env (s := t)
      (c := .updateSecret (c.applyTo found)) ht (Objects.apply_updateSecret.mpr
        ⟨⟨found, by rw [hobjects, href, hstored], .inr rfl⟩, rfl, rfl⟩)
    refine ⟨s', Simulation.run_bind_eq_ok.mpr ⟨.ok found, t, ?_, ?_⟩, hs'⟩
    · rw [Simulation.run_outcome, hread]
    · exact Simulation.run_discard_eq_ok.mpr ⟨_, hwrite⟩
  | none =>
    obtain ⟨t, hread, hobjects, ht, _⟩ := Simulation.run_platform_of_apply_error env
      (s := s) (c := .getSecret ref) hfaults (Objects.apply_getSecret_absent hstored)
    obtain ⟨s', hwrite, _, hs', _⟩ := Simulation.run_platform_of_apply env (s := t)
      (c := .createSecret (c.fresh ref)) ht (Objects.apply_createSecret.mpr
        ⟨by rw [hobjects, SecretChange.ref_fresh, hstored], rfl, rfl⟩)
    refine ⟨s', Simulation.run_bind_eq_ok.mpr
      ⟨.error (.notFound "Secret" ref.text), t, ?_, ?_⟩, hs'⟩
    · rw [Simulation.run_outcome, hread]
    · exact Simulation.run_discard_eq_ok.mpr ⟨_, hwrite⟩

end CredentialStore

end CredentialBroker
