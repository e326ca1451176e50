import CredentialBroker.Proofs.Cluster.Faults
import CredentialBroker.Proofs.Cluster.Reachable
import CredentialBroker.Proofs.Credential.Settled
import CredentialBroker.Proofs.World.Event

namespace CredentialBroker

/-!
# Issues that fail

An issue may fail at each of its calls, and what it has done before stays done.  The session gets
its records last and the secret the token just before, so that an issue that fails leaves the
session with the credential that it had.

* `CredentialStore.run_write_error` — a write to a secret that fails, after however many attempts,
  leaves all objects alone;
* `CredentialStore.run_write_missing` — what it finds missing is so by a failure that waited;
* `CredentialStore.run_write_written` — one that ends well leaves the change and nothing else;
* `Issuer.Aborted`, `Issuer.run_issue_error` — what an issue that fails leaves alone;
* `Issuer.failed_issue` — so jobs are accepted as before, and a later issue ends well.
-/

/-! ### Writes that fail -/

namespace CredentialStore

variable {env : Surroundings} {s t : Simulation} {st : CredentialStore} {ref : ObjectRef}
  {c : SecretChange}

/-- An attempt that fails leaves all objects alone: it reads first, and then makes one write. -/
theorem run_tryWrite_error {e : ClusterError}
    (h : Simulation.run env (st.tryWrite ref c) s = (.error e, t)) :
    t.cluster.objects = s.cluster.objects := by
  unfold tryWrite at h
  rw [Simulation.run_bind, Simulation.run_outcome] at h
  cases hread : Simulation.run env (Action.cluster st.client (.getSecret ref)) s with
  | mk reply u =>
    rw [hread] at h
    cases reply with
    | ok found =>
      obtain ⟨_, _, _, happly, _⟩ := Simulation.run_call_eq_ok hread
      have hwrite := Simulation.run_discard_eq_error.mp h
      exact (Simulation.run_call_error hwrite).1.trans (Objects.apply_getSecret.mp happly).1
    | error e' =>
      dsimp only at h
      split at h
      · have hwrite := Simulation.run_discard_eq_error.mp h
        exact (Simulation.run_call_error hwrite).1.trans (Simulation.run_call_error hread).1
      · cases h
        exact (Simulation.run_call_error hread).1

/-- **Writes that fail.**  However many attempts were made, no object has changed. -/
theorem run_write_error {e : CredentialError}
    (h : Simulation.run env (st.write ref c) s = (.error e, t)) :
    t.cluster.objects = s.cluster.objects := by
  obtain ⟨_, h, _⟩ := Simulation.run_mapError_eq_error.mp h
  obtain ⟨_, u, hu, hlast⟩ := Simulation.run_retried_eq_error
    (I := fun u => u.cluster.objects = s.cluster.objects)
    (fun _ _ _ _ hu hrun => (run_tryWrite_error hrun).trans hu) rfl h
  exact (run_tryWrite_error hlast).trans hu

/-- What an attempt of the platform finds missing is missing only by a failure that waited for its
write: a secret that is not there is made, and one that was read is there. -/
theorem run_tryWrite_missing {e : ClusterError} (hclient : st.client = .platform)
    (hk : s.cluster.objects.Keyed) (hmissing : e.isNotFound = true)
    (h : Simulation.run env (st.tryWrite ref c) s = (.error e, t)) :
    (Operation.createSecret, e) ∈ s.cluster.faults ∨
      (Operation.updateSecret, e) ∈ s.cluster.faults := by
  unfold tryWrite at h
  rw [hclient, Simulation.run_bind, Simulation.run_outcome] at h
  cases hread : Simulation.run env (Action.cluster .platform (.getSecret ref)) s with
  | mk reply u =>
    rw [hread] at h
    have hfaults : u.cluster.faults ⊆ s.cluster.faults := (Simulation.faults_of_run_eq hread).subset
    cases reply with
    | ok found =>
      obtain ⟨_, _, _, happly, _⟩ := Simulation.run_call_eq_ok hread
      obtain ⟨hobjects, hfound⟩ := Objects.apply_getSecret.mp happly
      rcases Simulation.run_platform_error (Simulation.run_discard_eq_error.mp h) with
        hfault | herror
      · exact .inr (hfaults hfault)
      · have href : (c.applyTo found).ref = ref := hk.secrets ref found hfound
        have hpresent : (u.cluster.objects.secrets.get? (c.applyTo found).ref).isSome := by
          rw [href, hobjects, hfound]
          rfl
        rw [Objects.apply_updateSecret_error hpresent herror] at hmissing
        cases hmissing
    | error e' =>
      dsimp only at h
      split at h
      · rcases Simulation.run_platform_error (Simulation.run_discard_eq_error.mp h) with
          hfault | herror
        · exact .inl (hfaults hfault)
        · rw [Objects.apply_createSecret_error herror] at hmissing
          cases hmissing
      · next hfound =>
        cases h
        exact absurd hmissing hfound

/-- So does a whole write, at whichever of its attempts. -/
theorem run_write_missing {e : CredentialError} (hclient : st.client = .platform)
    (hk : s.cluster.objects.Keyed) (h : Simulation.run env (st.write ref c) s = (.error e, t)) :
    ∃ e' : ClusterError, e'.toCredential = e ∧ (e'.isNotFound = true →
      (Operation.createSecret, e') ∈ s.cluster.faults ∨
        (Operation.updateSecret, e') ∈ s.cluster.faults) := by
  obtain ⟨e', h, he⟩ := Simulation.run_mapError_eq_error.mp h
  obtain ⟨_, u, ⟨hobjects, hfaults⟩, hlast⟩ := Simulation.run_retried_eq_error
    (I := fun u => u.cluster.objects = s.cluster.objects ∧
      u.cluster.faults.Sublist s.cluster.faults)
    (fun _ _ _ _ hu hrun => ⟨(run_tryWrite_error hrun).trans hu.1,
      (Simulation.faults_of_run_eq hrun).trans hu.2⟩) ⟨rfl, List.Sublist.refl _⟩ h
  refine ⟨e', he, fun hmissing => ?_⟩
  exact (run_tryWrite_missing hclient (hobjects ▸ hk) hmissing hlast).imp
    (fun hfault => hfaults.subset hfault) fun hfault => hfaults.subset hfault

/-- A write that ends well leaves the change in the secret and nothing else, however many attempts
failed before. -/
theorem run_write_written {u : Unit} (hk : s.cluster.objects.Keyed)
    (h : Simulation.run env (st.write ref c) s = (.ok u, t)) :
    ∃ version, t.cluster.objects = { s.cluster.objects with
      secrets := s.cluster.objects.secrets.insert ref
        (c.written ref version (s.cluster.objects.secrets.get? ref)) } := by
  obtain ⟨_, v, hsame, h⟩ := Simulation.run_retried_eq_ok_of_failing
    (I := fun v => v.cluster.objects = s.cluster.objects)
    (fun _ _ _ _ hv hrun => (run_tryWrite_error hrun).trans hv) rfl
    (Simulation.run_mapError_eq_ok.mp h)
  rw [← hsame]
  exact run_tryWrite_written (hsame ▸ hk) h

end CredentialStore

namespace Issuer

variable {i : Issuer} {env : Surroundings} {s t : Simulation} {ref : ObjectRef}
  {owner : OwnerReference} {e : CredentialError}

/-! ### What is left alone -/

/-- A call of the issuer that fails changes no object and mints no token. -/
theorem run_ask_error {call : Call} (h : Simulation.run env (i.ask call) s = (.error e, t)) :
    t.cluster.objects = s.cluster.objects ∧ t.cluster.minted = s.cluster.minted :=
  Simulation.run_mappedCall_error h

/-- What an issue that fails leaves alone. -/
structure Aborted (supply : Supply) (ref : ObjectRef) (s t : ClusterState) : Prop where
  /-- All sessions. -/
  sessions : t.objects.sessions = s.objects.sessions
  /-- All secrets, unless it was the record that failed. -/
  secrets : t.objects.secrets = s.objects.secrets ∨
    t.calls.getLast?.map CallRecord.operation = some .patchSessionAnnotations
  /-- All tokens but the one that it minted. -/
  tokens : t.objects.tokens = s.objects.tokens ∨ t.objects.tokens =
    s.objects.tokens.insert (supply.token s.minted) (Identity.user (accountOf ref))

theorem run_settle_error {minted : MintedToken}
    (h : Simulation.run env (i.settle ref owner minted) s = (.error e, t)) :
    t.cluster.objects.sessions = s.cluster.objects.sessions ∧
      t.cluster.objects.tokens = s.cluster.objects.tokens ∧
      (t.cluster.objects.secrets = s.cluster.objects.secrets ∨
        t.cluster.calls.getLast?.map CallRecord.operation = some .patchSessionAnnotations) := by
  unfold settle at h
  dsimp only at h
  split at h
  · cases h
    exact ⟨rfl, rfl, .inl rfl⟩
  · rcases Simulation.run_bind_eq_error.mp h with hstore | ⟨_, u, hstore, h⟩
    · rw [CredentialStore.run_write_error hstore]
      exact ⟨rfl, rfl, .inl rfl⟩
    · rcases Simulation.run_bind_eq_error.mp h with hrecord | ⟨_, v, _, h⟩
      · -- The secret has the token by now, and the record is the last call that is made.
        have hrecord := Simulation.run_discard_eq_error.mp hrecord
        have hsame := (run_ask_error hrecord).1
        obtain ⟨_, hcall, _⟩ := Simulation.run_mapError_eq_error.mp hrecord
        exact ⟨(congrArg _ hsame).trans (store_agrees .sessions hstore nofun),
          (congrArg _ hsame).trans (store_agrees .tokens hstore nofun),
          .inr (Simulation.run_call_last hcall)⟩
      · cases h

theorem run_deliver_error (h : Simulation.run env (i.deliver ref owner) s = (.error e, t)) :
    Aborted env.supply ref s.cluster t.cluster := by
  rw [deliver_eq] at h
  rcases Simulation.run_bind_eq_error.mp h with hmint | ⟨minted, u, hmint, h⟩
  · have hsame := (run_ask_error hmint).1
    exact ⟨congrArg _ hsame, .inl (congrArg _ hsame), .inl (congrArg _ hsame)⟩
  · obtain ⟨_, _, _, happly, _⟩ := Simulation.run_call_eq_ok (run_ask_eq_ok hmint)
    obtain ⟨_, _, hobjects⟩ := Objects.apply_createToken.mp happly
    obtain ⟨hsessions, htokens, hsecrets⟩ := run_settle_error h
    rw [hobjects] at hsessions htokens hsecrets
    exact ⟨hsessions, hsecrets, .inr htokens⟩

/-- **Issues that fail.**  At whichever call: the sessions, the tokens that were there and, unless
the record failed, the secrets are as they were. -/
theorem run_issue_error (h : Simulation.run env (i.issue ref) s = (.error e, t)) :
    Aborted env.supply ref s.cluster t.cluster := by
  rw [issue_eq] at h
  rcases Simulation.run_bind_eq_error.mp h with hprepare | ⟨owner, u, hprepare, h⟩
  · exact ⟨prepare_agrees .sessions hprepare (by decide),
      .inl (prepare_agrees .secrets hprepare (by decide)),
      .inl (prepare_agrees .tokens hprepare (by decide))⟩
  · obtain ⟨hsessions, hsecrets, htokens⟩ := run_deliver_error h
    -- Nothing that matters here has happened before.
    have hminted : u.cluster.minted = s.cluster.minted := by
      obtain rfl : _ = u := congrArg Prod.snd hprepare
      exact run_prepare_minted
    rw [prepare_agrees .sessions hprepare (by decide)] at hsessions
    rw [prepare_agrees .secrets hprepare (by decide)] at hsecrets
    rw [prepare_agrees .tokens hprepare (by decide), hminted] at htokens
    exact ⟨hsessions, hsecrets, htokens⟩

/-! ### What goes on -/

/-- A job is accepted alike on clusters with the same sessions and the same user behind its
token. -/
theorem accepted_of_same {u v : Simulation} {token : String} {session : ObjectRef}
    {r : VerifiedRunner} (hsessions : v.cluster.objects.sessions = u.cluster.objects.sessions)
    (htoken : v.cluster.objects.tokens.get? (Text.trim token) =
      u.cluster.objects.tokens.get? (Text.trim token)) (hufaults : u.cluster.faults = [])
    (hvfaults : v.cluster.faults = [])
    (h : (Simulation.run env (verifyRunner token session) u).1 = .ok r) :
    (Simulation.run env (verifyRunner token session) v).1 = .ok r := by
  have hblank : Text.trim token ≠ "" := by
    intro hblank
    unfold verifyRunner at h
    rw [if_pos hblank] at h
    cases h
  obtain ⟨hvouch, stored, hstored, huser⟩ := run_verifyRunner_eq_ok h
  have hreview : v.cluster.objects.review (Text.trim token) =
      u.cluster.objects.review (Text.trim token) := by
    unfold Objects.review
    rw [htoken]
  have hv : (Simulation.run env (verifyRunner token session) v).1 =
      .ok ⟨session, r.identity, r.userId⟩ :=
    run_verifyRunner_of_ready hvfaults hblank (hreview ▸ hvouch) (hsessions ▸ hstored) huser
  -- What is accepted names the session it was asked for.
  have hu : (Simulation.run env (verifyRunner token session) u).1 =
      .ok ⟨session, r.identity, r.userId⟩ :=
    run_verifyRunner_of_ready hufaults hblank hvouch hstored huser
  rw [hv, ← hu, h]

/-- The user behind a token stays, unless it is the token that was minted. -/
theorem Aborted.get?_tokens {supply : Supply} {s t : ClusterState} {token : String}
    (h : Aborted supply ref s t) (hne : token ≠ supply.token s.minted) :
    t.objects.tokens.get? token = s.objects.tokens.get? token := by
  rcases h.tokens with hsame | hinsert
  · rw [hsame]
  · rw [hinsert, SortedMap.get?_insert, if_neg hne]

/-- **Failed issues break nothing.**  From any state that a cluster can reach and with any failures
waiting: an issue that fails has changed no session, no token that was there, and no secret unless
it was the record that failed.  So, once no failure is waiting, jobs are accepted as before, and a
later issue for a session that is there ends well, with a token that ends within the calendar (see
`Objects.lifetimeFor`). -/
theorem failed_issue (i : Issuer) (env : Surroundings) {s t : Simulation} {ref : ObjectRef}
    {e : CredentialError} (hreachable : s.cluster.Reachable env.supply)
    (h : Simulation.run env (i.issue ref) s = (.error e, t)) :
    Aborted env.supply ref s.cluster t.cluster ∧
    (∀ u v token session r, u.cluster.objects = s.cluster.objects → u.cluster.faults = [] →
      v.cluster.objects = t.cluster.objects → v.cluster.faults = [] →
      Text.trim token ≠ env.supply.token s.cluster.minted →
      ((Simulation.run env (verifyRunner token session) u).1 = .ok r ↔
        (Simulation.run env (verifyRunner token session) v).1 = .ok r)) ∧
    (i.client = .platform → (∀ k, env.supply.token k ≠ "") →
      (s.cluster.objects.sessions.get? ref).isSome →
      ∀ u, u.cluster.objects = t.cluster.objects → u.cluster.faults = [] →
        ∃ issued v, Simulation.run env (i.issue ref) u = (.ok issued, v)) := by
  have haborted := run_issue_error h
  refine ⟨haborted, fun u v token session r hu hufaults hv hvfaults hne => ?_,
    fun hclient htokens hsession u hu hufaults => ?_⟩
  · have htoken : v.cluster.objects.tokens.get? (Text.trim token) =
        u.cluster.objects.tokens.get? (Text.trim token) := by
      rw [hu, hv, haborted.get?_tokens hne]
    have hsessions : v.cluster.objects.sessions = u.cluster.objects.sessions := by
      rw [hu, hv, haborted.sessions]
    exact ⟨accepted_of_same hsessions htoken hufaults hvfaults,
      accepted_of_same hsessions.symm htoken.symm hvfaults hufaults⟩
  · obtain ⟨stored, hstored⟩ := Option.isSome_iff_exists.mp hsession
    have hk : u.cluster.objects.Keyed := by
      rw [hu]
      exact Simulation.keyed_of_run_eq hreachable.keyed h
    have hthere : u.cluster.objects.sessions.get? ref = some stored := by
      rw [hu, haborted.sessions, hstored]
    obtain ⟨v, hrun, _⟩ := run_issue_of_ready ref env hclient hufaults hk (htokens _) hthere
    exact ⟨_, v, hrun⟩

/-- A second issue meets a conflict at each of its attempts to write the secret.  The job with the
first token is accepted as before, and a third issue ends well. -/
theorem failed_issue_conflicts :
    let alpha : ObjectRef := ⟨"team", "alpha"⟩
    let env := Deployment.plain.surroundings fun _ => .error .timedOut
    let issue := Deployment.plain.issuer.issue alpha
    let start : Simulation := ⟨.ofSeconds 0, [.putSession (.ofUser alpha "bob" ∅)].foldl
      (Happening.run env.supply (.ofSeconds 0)) {}⟩
    let struck : Simulation := ⟨.ofSeconds 60,
      (List.replicate 3
        (.failNext .updateSecret (.conflict "Secret" (tokenSecret alpha).text))).foldl
        (Happening.run env.supply (.ofSeconds 60)) (Simulation.run env issue start).2.cluster⟩
    ∃ e t, Simulation.run env issue struck = (.error e, t) ∧
      t.cluster.objects.secrets = struck.cluster.objects.secrets ∧
      (Simulation.run env (verifyRunner "m" alpha)
        ⟨.ofSeconds 61, { t.cluster with faults := [] }⟩).1 =
          .ok ⟨alpha, identityName "alpha", "bob"⟩ ∧
      ∃ issued u, Simulation.run env issue ⟨.ofSeconds 61, { t.cluster with faults := [] }⟩ =
        (.ok issued, u) := by
  intro alpha env issue start struck
  have hstart : start.cluster.Reachable env.supply := (ClusterState.Reachable.fresh {}).happen _
  have hreachable : struck.cluster.Reachable env.supply := (hstart.run issue).happen _
  have hfails : (Simulation.run env issue struck).1.isOk = false := by decide +kernel
  have hlast : (Simulation.run env issue struck).2.cluster.calls.getLast?.map
      CallRecord.operation ≠ some .patchSessionAnnotations := by decide +kernel
  have haccepted : (Simulation.run env (verifyRunner "m" alpha)
      ⟨.ofSeconds 61, { struck.cluster with faults := [] }⟩).1 =
        .ok ⟨alpha, identityName "alpha", "bob"⟩ := by decide +kernel
  have hminted : Text.trim "m" ≠ env.supply.token struck.cluster.minted := by decide +kernel
  have hsession : (struck.cluster.objects.sessions.get? alpha).isSome := by decide +kernel
  clear_value struck
  cases hrun : Simulation.run env issue struck with
  | mk x t =>
    rw [hrun] at hfails hlast
    cases x with
    | ok issued => cases hfails
    | error e =>
      obtain ⟨haborted, haccepts, hlater⟩ :=
        failed_issue Deployment.plain.issuer env hreachable hrun
      refine ⟨e, t, rfl, haborted.secrets.resolve_right hlast, ?_, ?_⟩
      · exact (haccepts ⟨_, { struck.cluster with faults := [] }⟩
          ⟨_, { t.cluster with faults := [] }⟩ "m" alpha _ rfl rfl rfl rfl hminted).mp haccepted
      · have hdrawn : ∀ k, env.supply.token k ≠ "" := fun k h => by
          simp [env, Deployment.surroundings, Deployment.plain, Supply.counting] at h
        exact hlater rfl hdrawn hsession _ rfl rfl

end Issuer

end CredentialBroker
