import CredentialBroker.Proofs.Cluster.Reachable
import CredentialBroker.Proofs.Credential.Aftermath
import CredentialBroker.Proofs.Session.Reading
import CredentialBroker.Proofs.Transition.Granted
import CredentialBroker.Proofs.World.Event

namespace CredentialBroker.Transition

/-!
# Starts from end to end

What a start makes of a cluster in any state that it can reach, when its caller has full rights in
the namespace of the session.  A session that is over is marked, gets a new credential if one can be
issued, and loses its job only when it got one; whatever comes of the issue, the session is read
again and its status is written.

* `Marked`, `run_mark` — the session is marked as a continuation;
* `run_reread`, `run_finish` — the job goes, the session is read again, the status is written;
* `Started`, `Continued` — all that a start changes;
* `start_settles` — starts, of sessions that are over and of others.
-/

variable {s : Simulation} {who : Client} {ref : ObjectRef} {policy : RetryPolicy} {i : Issuer}
  {session stored : Session}

/-! ### Sessions that are continued -/

/-- The first part of a continuation: the session is read and sent back with its marks. -/
def mark (who : Client) (ref : ObjectRef) : Action CredentialError Session := do
  let session ← ask who (.getSession ref)
  discard (ask who (.updateSession (continued ref.name session)))
  pure session

/-- The session is stored as one that is continued and waits for input, with the status it had. -/
structure Marked (ref : ObjectRef) (session stored : Session) : Prop where
  /-- It is stored at its address. -/
  address : stored.ref = ref
  /-- It has a version. -/
  given : stored.metadata.resourceVersion.isSome
  /-- The status is the one it had. -/
  status : stored.status = session.status
  /-- It names the session that is continued. -/
  parent : stored.metadata.annotations.get? Session.parentKey = some ref.name
  /-- It waits for input. -/
  interactive : stored.isInteractive = true

/-- An issue that records its names leaves the marks. -/
theorem Marked.recorded (h : Marked ref session stored) (version : String) :
    Marked ref session (Objects.versioned (Issuer.recorded ref stored) version) where
  address := h.address
  given := rfl
  status := h.status
  parent := by
    show (stored.metadata.annotations.union (Issuer.record ref)).get? Session.parentKey = _
    rw [Issuer.union_record, SortedMap.get?_insert, SortedMap.get?_insert, if_neg (by decide),
      if_neg (by decide), h.parent]
  interactive := h.interactive

/-- A session is marked, and nothing else happens. -/
theorem run_mark (env : Surroundings) (hread : s.cluster.Spares .getSession)
    (hupdate : s.cluster.Spares .updateSession)
    (hrights : s.cluster.Entitles who session.ref.ns)
    (hstored : s.cluster.objects.sessions.get? session.ref = some session)
    (hversion : session.metadata.resourceVersion.isSome) :
    ∃ u stored, Simulation.run env (mark who session.ref) s = (.ok session, u) ∧
      Marked session.ref session stored ∧
      u.cluster.objects = { s.cluster.objects with
        sessions := s.cluster.objects.sessions.insert session.ref stored } ∧ s.Leads u := by
  obtain ⟨t, hrun, hobjects, hleads, _⟩ := run_read env hread hrights hstored
  have hsent : Replaces (continued session.ref.name session) session := by
    rw [continued_eq]
    exact ⟨rfl, hversion, rfl⟩
  obtain ⟨u, stored, ⟨version, hmarked⟩, hrun', hobjects', hleads'⟩ := run_update env
    (hleads.spares _ hupdate) (hleads.rights.entitles hrights) (hobjects ▸ hstored) hsent
  refine ⟨u, stored, ?_, ?_, by rw [hobjects', hobjects], hleads.trans hleads'⟩
  · refine Simulation.run_bind_eq_ok.mpr ⟨session, t, hrun, Simulation.run_bind_eq_ok.mpr
      ⟨(), u, Simulation.run_discard_eq_ok.mpr ⟨stored, ?_⟩, rfl⟩⟩
    exact Simulation.run_mapError_eq_ok.mpr hrun'
  · rw [hmarked, continued_eq]
    exact ⟨rfl, rfl, rfl, SortedMap.get?_insert_self _ _ _, rfl⟩

/-! ### Parts of a start -/

/-- An issue that is tried ends well, whatever comes of it. -/
theorem run_issue? {ε : Type} (i : Issuer) (env : Surroundings) (s : Simulation) (ref : ObjectRef) :
    Simulation.run env (i.issue? ref : Action ε (Option IssuedCredential)) s =
      (.ok (Simulation.run env (i.issue ref) s).1.toOption,
        (Simulation.run env (i.issue ref) s).2) := by
  unfold Issuer.issue?
  rw [Simulation.run_bind, Simulation.run_outcome]
  cases (Simulation.run env (i.issue ref) s).1 <;> rfl

/-- With a credential the job is removed, unless a failure strikes; then the session is read. -/
theorem run_reread (env : Surroundings) (job : String) (credential : Option IssuedCredential)
    (hspares : s.cluster.Spares .getSession) (hrights : s.cluster.Entitles who ref.ns)
    (hstored : s.cluster.objects.sessions.get? ref = some stored) :
    ∃ t jobs, Simulation.run env (reread who ref job credential) s =
        (.ok (stored, credential), t) ∧
      s.Leads t ∧ t.cluster.objects = { s.cluster.objects with jobs := jobs } ∧
      (jobs = s.cluster.objects.jobs ∨ jobs = s.cluster.objects.jobs.erase ⟨ref.ns, job⟩) ∧
      (credential = none → jobs = s.cluster.objects.jobs) ∧
      (credential.isSome = true → s.cluster.Spares .deleteJob →
        jobs = s.cluster.objects.jobs.erase ⟨ref.ns, job⟩) := by
  cases credential with
  | none =>
    obtain ⟨t, hrun, hobjects, hleads, _⟩ := run_read env hspares hrights hstored
    refine ⟨t, s.cluster.objects.jobs, ?_, hleads, hobjects, .inl rfl, fun _ => rfl, nofun⟩
    exact Simulation.run_bind_eq_ok.mpr ⟨stored, t, hrun, rfl⟩
  | some issued =>
    obtain ⟨u, jobs, hdelete, hleads, hobjects, hsome, hjobs⟩ :=
      run_attempt_deleteJob (ε := CredentialError) env ⟨ref.ns, job⟩ .background hrights
    have hstored' : u.cluster.objects.sessions.get? ref = some stored := by
      rw [hobjects]
      exact hstored
    obtain ⟨t, hrun, hobjects', hleads', _⟩ := run_read env (hleads.spares _ hspares)
      (hleads.rights.entitles hrights) hstored'
    refine ⟨t, jobs, ?_, hleads.trans hleads', hobjects'.trans hobjects, hsome, nofun,
      fun _ => hjobs⟩
    exact Simulation.run_bind_eq_ok.mpr ⟨(), u, hdelete,
      Simulation.run_bind_eq_ok.mpr ⟨stored, t, hrun, rfl⟩⟩

/-- The status of a session that is stored as it was read is written. -/
theorem run_finish (env : Surroundings) (policy : RetryPolicy) (continuation : Bool)
    (credential : Option IssuedCredential) (hspares : s.cluster.Spares .updateSessionStatus)
    (hrights : s.cluster.Entitles who stored.ref.ns)
    (hstored : s.cluster.objects.sessions.get? stored.ref = some stored)
    (hversion : stored.metadata.resourceVersion.isSome) :
    ∃ t written, (∃ version, written = Objects.versioned (started s.now stored) version) ∧
      Simulation.run env (finish policy who stored.ref continuation (stored, credential)) s =
        (.ok ⟨written, continuation, credential⟩, t) ∧
      t.cluster.objects = { s.cluster.objects with
        sessions := s.cluster.objects.sessions.insert stored.ref written } ∧ s.Leads t ∧
      t.cluster.calls = s.cluster.calls ++
        [s.cluster.recordOf who (.updateSessionStatus (started s.now stored))] := by
  have hsent : Replaces (started s.now stored) stored := ⟨rfl, hversion, rfl⟩
  obtain ⟨t, written, hwritten, hrun, hleft⟩ :=
    run_writeStatus env policy stored.ref hspares hrights hstored hsent
  refine ⟨t, written, hwritten, ?_, hleft⟩
  refine Simulation.run_bind_eq_ok.mpr ⟨s.now, s, rfl, Simulation.run_bind_eq_ok.mpr
    ⟨written, t, ?_, rfl⟩⟩
  exact Simulation.run_mapError_eq_ok.mpr hrun

/-! ### Starts -/

/-- What a start makes of a cluster with a session. -/
structure Started (s : Simulation) (ref : ObjectRef) (session : Session) (outcome : StartOutcome)
    (t : Simulation) : Prop where
  /-- It is a continuation exactly for a session that is over. -/
  continuation : outcome.continuation = true ↔ session.IsOver
  /-- No other session changes. -/
  sessions : t.cluster.objects.sessions = s.cluster.objects.sessions.insert ref outcome.session
  /-- The session is pending now, and nothing else of its status changes. -/
  status : outcome.session.status = { session.status with
    phase := some "Pending"
    message := some "Session restart requested"
    completionTime := none
    startTime := some s.now.secondText }
  /-- No job changes but the one of the session. -/
  jobs : t.cluster.objects.jobs = s.cluster.objects.jobs ∨ ∃ job, session.HasJob job ∧
    t.cluster.objects.jobs = s.cluster.objects.jobs.erase ⟨ref.ns, job⟩
  /-- No pod changes. -/
  pods : t.cluster.objects.pods = s.cluster.objects.pods

/-- What a start makes of a cluster with a session that is not over. -/
structure Restarted (s : Simulation) (who : Client) (ref : ObjectRef) (session : Session)
    (outcome : StartOutcome) (t : Simulation) : Prop where
  /-- There is no new credential. -/
  credential : outcome.credential = none
  /-- The session changes in its status and its version only. -/
  written : ∃ version, outcome.session = Objects.versioned (started s.now session) version
  /-- Nothing else changes. -/
  objects : t.cluster.objects = { s.cluster.objects with
    sessions := s.cluster.objects.sessions.insert ref outcome.session }
  /-- No token is minted. -/
  minted : t.cluster.minted = s.cluster.minted
  /-- The caller has read the session and written its status, and that is all. -/
  calls : t.cluster.calls = s.cluster.calls ++ [s.cluster.recordOf who (.getSession ref),
    s.cluster.recordOf who (.updateSessionStatus (started s.now session))]

/-- What a start makes of a cluster with a session that is over, by what comes of the issue. -/
structure Continued (supply : Supply) (s : Simulation) (ref : ObjectRef) (session : Session)
    (issue : Except CredentialError IssuedCredential) (outcome : StartOutcome) (t : Simulation) :
    Prop where
  /-- The session names the session that is continued. -/
  parent : outcome.session.metadata.annotations.get? Session.parentKey = some ref.name
  /-- It waits for input. -/
  interactive : outcome.session.spec.interactive = some true
  /-- The credential is the one that was issued, if one was. -/
  credential : outcome.credential = issue.toOption
  /-- Its secret has the token that was minted. -/
  token : ∀ issued, issue = .ok issued →
    ∃ secret, t.cluster.objects.secrets.get? issued.secret = some secret ∧
      secret.data.get? tokenKey = some (Text.utf8 (supply.token s.cluster.minted))
  /-- Then the job is gone, unless a failure strikes its removal. -/
  job : ∀ issued, issue = .ok issued → s.cluster.Spares .deleteJob → ∀ job, session.HasJob job →
    t.cluster.objects.jobs = s.cluster.objects.jobs.erase ⟨ref.ns, job⟩
  /-- Without a credential no job is removed. -/
  kept : ∀ e, issue = .error e → t.cluster.objects.jobs = s.cluster.objects.jobs

/-- However an issue ends, a session that was marked is. -/
theorem run_issue_marked (i : Issuer) (env : Surroundings) {u : Simulation}
    (hk : u.cluster.objects.Keyed) (hmarked : Marked ref session stored)
    (hstored : u.cluster.objects.sessions.get? ref = some stored) :
    ∃ found, Marked ref session found ∧
      (Simulation.run env (i.issue ref) u).2.cluster.objects.sessions =
        u.cluster.objects.sessions.insert ref found := by
  cases hrun : Simulation.run env (i.issue ref) u with
  | mk x v =>
    cases x with
    | ok issued =>
      obtain ⟨found, version, hfound, hsessions⟩ := (Issuer.run_issue_delivered hk hrun).sessions
      obtain rfl : stored = found := Option.some.inj (hstored.symm.trans hfound)
      exact ⟨_, hmarked.recorded version, hsessions⟩
    | error e =>
      refine ⟨stored, hmarked, ?_⟩
      rw [SortedMap.insert_eq_self hstored]
      exact (Issuer.run_issue_error hrun).sessions

/-- A session that is not over is pending again, and nothing else happens. -/
theorem run_start_active (env : Surroundings) (policy : RetryPolicy) (i : Issuer)
    (hactive : session.isTerminal = false) (hread : s.cluster.Spares .getSession)
    (hwrite : s.cluster.Spares .updateSessionStatus)
    (hrights : s.cluster.Entitles who session.ref.ns)
    (hstored : s.cluster.objects.sessions.get? session.ref = some session)
    (hversion : session.metadata.resourceVersion.isSome) :
    ∃ outcome t, Simulation.run env (start policy i who session.ref) s = (.ok outcome, t) ∧
      Started s session.ref session outcome t ∧
      Restarted s who session.ref session outcome t := by
  obtain ⟨u, hrun, hobjects, hleads, hcalls⟩ := run_read env hread hrights hstored
  obtain ⟨t, written, ⟨version, hwritten⟩, hrun', hobjects', hleads', hcalls'⟩ := run_finish env
    policy session.isTerminal none (hleads.spares _ hwrite) (hleads.rights.entitles hrights)
    (hobjects ▸ hstored) hversion
  -- Reading has changed nothing, so that the status goes to the session as it was read.
  rw [hleads.now] at hwritten hcalls'
  have hchanged : t.cluster.objects = { s.cluster.objects with
      sessions := s.cluster.objects.sessions.insert session.ref written } := by
    rw [hobjects', hobjects]
  refine ⟨⟨written, session.isTerminal, none⟩, t, ?_, ⟨Session.isTerminal_iff, ?_, ?_, ?_, ?_⟩,
    ⟨rfl, ⟨version, hwritten⟩, hchanged, (hleads.trans hleads').minted, ?_⟩⟩
  · rw [start_eq]
    refine Simulation.run_bind_eq_ok.mpr ⟨session, u, hrun, Simulation.run_bind_eq_ok.mpr
      ⟨(session, none), u, ?_, hrun'⟩⟩
    rw [if_neg (by simp [hactive]), Simulation.run_pure]
  · rw [hchanged]
  · rw [hwritten]
    rfl
  · rw [hchanged]
    exact .inl rfl
  · rw [hchanged]
  · rw [hcalls', hcalls, ClusterState.recordOf_congr hleads.rights.tokens, List.append_assoc,
      List.singleton_append]

/-- After an issue that is tried on a session that was marked, the session is read with its marks.
Its job is gone if the issue ended well, unless a failure strikes, and there otherwise. -/
theorem run_provide (i : Issuer) (env : Surroundings) (job : String) {u v : Simulation}
    {x : Except CredentialError IssuedCredential}
    (hissue : Simulation.run env (i.issue ref) u = (x, v)) (hk : u.cluster.objects.Keyed)
    (hmarked : Marked ref session stored)
    (hstored : u.cluster.objects.sessions.get? ref = some stored)
    (hread : u.cluster.Spares .getSession) (hkept : v.cluster.Entitles who ref.ns) :
    ∃ w found jobs, Simulation.run env (i.issue? ref >>= reread who ref job) u =
        (.ok (found, x.toOption), w) ∧
      Marked ref session found ∧ v.Leads w ∧
      w.cluster.objects = { v.cluster.objects with
        sessions := u.cluster.objects.sessions.insert ref found, jobs := jobs } ∧
      (jobs = u.cluster.objects.jobs ∨ jobs = u.cluster.objects.jobs.erase ⟨ref.ns, job⟩) ∧
      (∀ e, x = .error e → jobs = u.cluster.objects.jobs) ∧
      ∀ issued, x = .ok issued → u.cluster.Spares .deleteJob →
        jobs = u.cluster.objects.jobs.erase ⟨ref.ns, job⟩ := by
  obtain ⟨found, hfound, hsessions⟩ := run_issue_marked i env hk hmarked hstored
  have hjobs := (Issuer.run_issue_unrelated i env u ref).1
  -- The issue is tried, and its failure is no failure of the start.
  have htried := run_issue? (ε := CredentialError) i env u ref
  have hspares : ∀ op, u.cluster.Spares op → v.cluster.Spares op := fun op hop => by
    have h := Simulation.run_spares env (i.issue ref) hop
    rwa [hissue] at h
  rw [hissue] at hsessions hjobs htried
  have hstored' : v.cluster.objects.sessions.get? ref = some found := by
    rw [hsessions]
    exact SortedMap.get?_insert_self _ _ _
  obtain ⟨w, jobs, hreread, hleads, hobjects, hsome, habsent, hpresent⟩ :=
    run_reread env job x.toOption (hspares _ hread) hkept hstored'
  refine ⟨w, found, jobs, ?_, hfound, hleads, ?_, ?_, ?_, ?_⟩
  · exact Simulation.run_bind_eq_ok.mpr ⟨x.toOption, v, htried, hreread⟩
  · rw [hobjects, ← hsessions]
  · rw [← hjobs]
    exact hsome
  · rintro e rfl
    exact (habsent rfl).trans hjobs
  · rintro issued rfl hdelete
    rw [hpresent rfl (hspares _ hdelete)]
    exact congrArg (SortedMap.erase · _) hjobs

/-- After the marks, a start of a session that is over tries an issue, reads the session again and
writes its status. -/
theorem run_start_of_mark {env : Surroundings} {u v t : Simulation}
    {provided : Session × Option IssuedCredential} {outcome : StartOutcome}
    (hover : session.isTerminal = true)
    (hmark : Simulation.run env (mark who ref) s = (.ok session, u))
    (hprovide : Simulation.run env (i.issue? ref >>= reread who ref session.jobName) u =
      (.ok provided, v))
    (hfinish : Simulation.run env (finish policy who ref true provided) v = (.ok outcome, t)) :
    Simulation.run env (start policy i who ref) s = (.ok outcome, t) := by
  unfold mark at hmark
  obtain ⟨found, r, hread, hmark⟩ := Simulation.run_bind_eq_ok.mp hmark
  obtain ⟨_, _, hupdate, hmark⟩ := Simulation.run_bind_eq_ok.mp hmark
  cases hmark
  have hjob : (continued ref.name session).jobName = session.jobName := by
    rw [continued_eq]
    rfl
  rw [start_eq]
  refine Simulation.run_bind_eq_ok.mpr ⟨session, r, hread, ?_⟩
  rw [if_pos hover, resume_eq, hjob, hover]
  exact Simulation.run_bind_eq_ok.mpr ⟨provided, v,
    Simulation.run_bind_eq_ok.mpr ⟨(), u, hupdate, hprovide⟩, hfinish⟩

/-- A session that is over is marked, provided for if that can be done, and pending again. -/
theorem run_start_over (env : Surroundings) (policy : RetryPolicy) (i : Issuer)
    (hover : session.isTerminal = true) (hk : s.cluster.objects.Keyed)
    (hread : s.cluster.Spares .getSession) (hupdate : s.cluster.Spares .updateSession)
    (hwrite : s.cluster.Spares .updateSessionStatus)
    (hrights : s.cluster.Entitles who session.ref.ns)
    (hkept : (Simulation.run env (i.issue session.ref)
      (Simulation.run env (mark who session.ref) s).2).2.cluster.Entitles who session.ref.ns)
    (hstored : s.cluster.objects.sessions.get? session.ref = some session)
    (hversion : session.metadata.resourceVersion.isSome) :
    ∃ outcome t, Simulation.run env (start policy i who session.ref) s = (.ok outcome, t) ∧
      Started s session.ref session outcome t ∧
      Continued env.supply s session.ref session (Simulation.run env (i.issue session.ref)
        (Simulation.run env (mark who session.ref) s).2).1 outcome t := by
  obtain ⟨u, stored, hmark, hmarked, hobjects₁, hleads₁⟩ :=
    run_mark env hread hupdate hrights hstored hversion
  have hk₁ : u.cluster.objects.Keyed := Simulation.keyed_of_run_eq hk hmark
  have hstored₁ : u.cluster.objects.sessions.get? session.ref = some stored := by
    rw [hobjects₁]
    exact SortedMap.get?_insert_self _ _ _
  obtain ⟨_, hpods⟩ := Issuer.run_issue_unrelated i env u session.ref
  -- Whatever the issue meets, it lets no failure in and takes no time.
  have hspares : ∀ op, s.cluster.Spares op →
      (Simulation.run env (i.issue session.ref) u).2.cluster.Spares op :=
    fun op hop => Simulation.run_spares env _ (hleads₁.spares op hop)
  have hnow : (Simulation.run env (i.issue session.ref) u).2.now = s.now :=
    (Simulation.run_now _).trans hleads₁.now
  rw [hmark] at hkept ⊢
  cases hissue : Simulation.run env (i.issue session.ref) u with
  | mk x v =>
    rw [hissue] at hkept hpods hspares hnow
    obtain ⟨w, found, jobs, hprovide, hfound, hleads₂, hobjects₂, hsome, hkeeps, hremoves⟩ :=
      run_provide i env session.jobName hissue hk₁ hmarked hstored₁ (hleads₁.spares _ hread) hkept
    have hstored₂ : w.cluster.objects.sessions.get? found.ref = some found := by
      rw [hobjects₂, hfound.address]
      exact SortedMap.get?_insert_self _ _ _
    obtain ⟨t, written, ⟨version, hwritten⟩, hfinish, hobjects₃, _, _⟩ := run_finish env policy true
      x.toOption (hleads₂.spares _ (hspares _ hwrite))
      (hfound.address ▸ hleads₂.rights.entitles hkept) hstored₂ hfound.given
    rw [hleads₂.now, hnow] at hwritten
    rw [hfound.address] at hfinish hobjects₃
    have hchanged : t.cluster.objects = { v.cluster.objects with
        sessions := s.cluster.objects.sessions.insert session.ref written, jobs := jobs } := by
      rw [hobjects₃, hobjects₂, hobjects₁]
      simp only [SortedMap.insert_insert]
    refine ⟨⟨written, true, x.toOption⟩, t, run_start_of_mark hover hmark hprovide hfinish,
      ⟨⟨fun _ => Session.isTerminal_iff.mp hover, fun _ => rfl⟩,
        congrArg Objects.sessions hchanged, ?status, ?jobs, ?pods⟩,
      ⟨?parent, ?interactive, rfl, ?token, ?job, ?kept⟩⟩
    case status =>
      -- Neither the marks nor the names on record have touched the status.
      rw [hwritten]
      show (started s.now found).status = (started s.now session).status
      unfold started Session.withPhase
      rw [hfound.status]
    case jobs =>
      rw [hobjects₁] at hsome
      rw [hchanged]
      exact hsome.imp_right fun hjobs => ⟨_, Session.hasJob_jobName, hjobs⟩
    case pods =>
      rw [hchanged]
      exact hpods.trans (by rw [hobjects₁])
    case parent =>
      rw [hwritten]
      exact hfound.parent
    case interactive =>
      rw [hwritten]
      exact Session.isInteractive_iff.mp hfound.interactive
    case token =>
      rintro issued rfl
      have hdelivered := Issuer.run_issue_delivered hk₁ hissue
      rw [hchanged, hdelivered.secret, ← hleads₁.minted]
      exact hdelivered.stored
    case job =>
      intro issued hok hdelete job hjob
      rw [hchanged, hremoves issued hok (hleads₁.spares _ hdelete), hobjects₁,
        Session.hasJob_iff.mp hjob]
    case kept =>
      intro e herror
      rw [hchanged, hkeeps e herror, hobjects₁]

/-- **Starts from end to end.**  In any state that a cluster can reach, a caller with full rights in
the namespace of a session starts it, and no failure strikes the caller's reading and writing of the
session.  Then the start ends well, and the session is pending, as `Started` says.  A session that
was not over changes in its status only, as `Restarted` says, and nothing else happens.  One that
was over is continued, as `Continued` says by what comes of the issue, whatever failures that meets;
it is only asked that the issue does not take the caller's rights away.  Tokens are meant that end
within the calendar, see `Objects.lifetimeFor`. -/
theorem start_settles (policy : RetryPolicy) (i : Issuer) (env : Surroundings)
    (hreachable : s.cluster.Reachable env.supply)
    (hsession : s.cluster.objects.sessions.get? ref = some session)
    (hrights : s.cluster.Entitles who ref.ns) (hread : s.cluster.Spares .getSession)
    (hwrite : s.cluster.Spares .updateSessionStatus)
    (hupdate : session.IsOver → s.cluster.Spares .updateSession)
    (hkept : session.IsOver → (Simulation.run env (i.issue ref)
      (Simulation.run env (mark who ref) s).2).2.cluster.Entitles who ref.ns) :
    ∃ outcome t, Simulation.run env (start policy i who ref) s = (.ok outcome, t) ∧
      Started s ref session outcome t ∧
      (¬ session.IsOver → Restarted s who ref session outcome t) ∧
      (session.IsOver → Continued env.supply s ref session
        (Simulation.run env (i.issue ref)
          (Simulation.run env (mark who ref) s).2).1 outcome t) := by
  obtain rfl : session.ref = ref := hreachable.keyed.sessions ref session hsession
  have hversion := hreachable.version_isSome hsession
  cases hterminal : session.isTerminal with
  | false =>
    obtain ⟨outcome, t, hrun, hstarted, hrestarted⟩ :=
      run_start_active env policy i hterminal hread hwrite hrights hsession hversion
    exact ⟨outcome, t, hrun, hstarted, fun _ => hrestarted,
      fun hover => absurd hover (Session.isTerminal_eq_false_iff.mp hterminal)⟩
  | true =>
    have hover := Session.isTerminal_iff.mp hterminal
    obtain ⟨outcome, t, hrun, hstarted, hcontinued⟩ := run_start_over env policy i hterminal
      hreachable.keyed hread (hupdate hover) hwrite hrights (hkept hover) hsession hversion
    exact ⟨outcome, t, hrun, hstarted, fun hnot => absurd hover hnot, fun _ => hcontinued⟩

/-- A session that has completed is continued by a user with rights given by name.  The issue finds
that someone else has just made the secret and tries again; so there is a credential, and of two
jobs the one of another session is left. -/
theorem start_settles_continued :
    let alpha : ObjectRef := ⟨"team", "alpha"⟩
    let env := Deployment.plain.surroundings fun _ => .error .timedOut
    let world : Simulation := ⟨.ofSeconds 7,
      [.putSession ((Session.ofUser alpha "bob" ∅).withPhase .completed ""),
        .putJob ⟨"team", "alpha-job"⟩, .putJob ⟨"team", "beta-job"⟩,
        .registerToken "t" "ada", .grant ⟨"ada", "team", ⟨["*"], ["*"], ["*"]⟩⟩,
        .failNext .createSecret (.alreadyExists "Secret" (tokenSecretName "alpha"))].foldl
          (Happening.run env.supply (.ofSeconds 0)) {}⟩
    ∃ outcome t, Simulation.run env
        (start .usual Deployment.plain.issuer (.bearer "t") alpha) world = (.ok outcome, t) ∧
      outcome.continuation = true ∧ outcome.credential.isSome = true ∧
      outcome.session.status.startTime = some "1970-01-01T00:00:07Z" ∧
      t.cluster.objects.jobs.keys = [⟨"team", "beta-job"⟩] := by
  intro alpha env world
  have hreachable : world.cluster.Reachable env.supply :=
    (ClusterState.Reachable.fresh {}).happen _
  obtain ⟨session, hsession, hcompleted, hjob⟩ : ∃ session,
      world.cluster.objects.sessions.get? alpha = some session ∧
        session.status.phase = some "Completed" ∧ session.HasJob "alpha-job" :=
    ⟨_, rfl, rfl, .of_none rfl rfl⟩
  have hrights : world.cluster.Entitles (.bearer "t") "team" :=
    ClusterState.entitles_granted (by decide +kernel : _ = some "ada") (by decide +kernel)
  have hspares : ∀ op, op = .getSession ∨ op = .updateSession ∨ op = .updateSessionStatus ∨
      op = .deleteJob → world.cluster.Spares op := by
    rintro op (rfl | rfl | rfl | rfl) <;> decide +kernel
  have hjobs : (world.cluster.objects.jobs.erase ⟨"team", "alpha-job"⟩).keys =
      [⟨"team", "beta-job"⟩] := by decide +kernel
  have hnow : world.now = .ofSeconds 7 := rfl
  -- The issue does not touch rights that are given by name.
  have hkept : (Simulation.run env (Deployment.plain.issuer.issue alpha) (Simulation.run env
      (mark (.bearer "t") alpha) world).2).2.cluster.Entitles (.bearer "t") "team" :=
    Issuer.run_issue_entitles _ (hreachable.run _).keyed (by decide +kernel)
      (ClusterState.entitles_granted (by decide +kernel : _ = some "ada") (by decide +kernel))
  have hissued : (Simulation.run env (Deployment.plain.issuer.issue alpha) (Simulation.run env
      (mark (.bearer "t") alpha) world).2).1.isOk = true := by decide +kernel
  clear_value world
  have hover : session.IsOver := ⟨"Completed", by decide, hcompleted⟩
  obtain ⟨outcome, t, hrun, hstarted, _, hcontinued⟩ := start_settles .usual
    Deployment.plain.issuer env hreachable hsession hrights (hspares _ (.inl rfl))
    (hspares _ (.inr (.inr (.inl rfl)))) (fun _ => hspares _ (.inr (.inl rfl))) fun _ => hkept
  have hcontinued := hcontinued hover
  obtain ⟨issued, hissued⟩ := Simulation.run_of_isOk env hissued
  have hissued := congrArg Prod.fst hissued
  refine ⟨outcome, t, hrun, hstarted.continuation.mpr hover, ?_, ?_, ?_⟩
  · rw [hcontinued.credential, hissued]
    rfl
  · rw [hstarted.status, hnow]
    show some (Timestamp.ofSeconds 7).secondText = _
    decide +kernel
  · rw [hcontinued.job issued hissued (hspares _ (.inr (.inr (.inr rfl)))) _ hjob, hjobs]

/-- A user whose full rights rest on the role of the session loses them when the session is
continued: the issue gives the role the rules that sessions need and no others, and the start is
then refused. -/
theorem start_refused :
    let ref : ObjectRef := ⟨"proj-a", "s1"⟩
    let env := Deployment.plain.surroundings fun _ => .error .timedOut
    let world : Simulation := ⟨.ofSeconds 0,
      [.putSession ((Session.ofUser ref "alice" ∅).withPhase .completed ""),
        .putRole ⟨roleOf ref, [⟨["*"], ["*"], ["*"]⟩], [], none⟩,
        .call .platform (.createRoleBinding
          ⟨bindingOf ref, roleName "s1", [⟨"ServiceAccount", "admin", some "proj-a"⟩], [], none⟩),
        .registerToken "t" "system:serviceaccount:proj-a:admin"].foldl
          (Happening.run env.supply (.ofSeconds 0)) {}⟩
    (world.cluster.Reachable env.supply ∧ world.cluster.Entitles (.bearer "t") "proj-a" ∧
      world.cluster.faults = [] ∧
      ∃ session, world.cluster.objects.sessions.get? ref = some session ∧
        session.IsOver) ∧
    ¬ ∃ outcome, (Simulation.run env
      (start .usual Deployment.plain.issuer (.bearer "t") ref) world).1 = .ok outcome := by
  intro ref env world
  have hrights : world.cluster.Entitles (.bearer "t") "proj-a" :=
    ClusterState.entitles_of_rule
      (by decide +kernel : _ = some "system:serviceaccount:proj-a:admin") (by decide +kernel)
  refine ⟨⟨(ClusterState.Reachable.fresh {}).happen _, hrights, rfl, _, rfl,
    "Completed", by decide, rfl⟩, ?_⟩
  have hfails : (Simulation.run env
      (start .usual Deployment.plain.issuer (.bearer "t") ref) world).1.isOk = false := by
    decide +kernel
  rintro ⟨outcome, hstarted⟩
  rw [hstarted] at hfails
  cases hfails

end CredentialBroker.Transition
