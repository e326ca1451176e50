import CredentialBroker.Proofs.Cluster.Reachable
import CredentialBroker.Proofs.Cluster.Selector
import CredentialBroker.Proofs.Session.Reading
import CredentialBroker.Proofs.Transition.Granted
import CredentialBroker.Proofs.World.Event

namespace CredentialBroker.Transition

/-!
# Stops from end to end

What a stop makes of a cluster in any state that it can reach, when its caller has full rights in
the namespace of the session.  A session that is over is looked at and nothing else; any other one
is stopped, and a failure that strikes one of the removals on the way costs that removal alone.

* `run_removeJob` — the job and the pods that are removed;
* `run_ensureInteractive` — the wish for input;
* `Halted`, `run_halt` — all that a stop changes;
* `stop_settles` — stops, by the phase of the session.
-/

variable {s : Simulation} {who : Client} {ref : ObjectRef} {policy : RetryPolicy}
  {session : Session}

/-! ### Removals -/

/-- The pods that are neither of a job nor of a session of a namespace. -/
def foreignPods (ns job name : String) (pods : List Pod) : List Pod :=
  pods.filter fun pod => !(pod.ref.ns = ns &&
    (pod.labels.get? "job-name" = some job || pod.labels.get? "agentic-session" = some name))

theorem isKey_job : Objects.IsKey "job-name" :=
  ⟨⟨by decide, by decide +kernel⟩, by decide⟩

theorem isKey_session : Objects.IsKey "agentic-session" :=
  ⟨⟨by decide, by decide +kernel⟩, by decide⟩

/-- The two selectors together pick the pods of the job and of the session. -/
theorem podsLeft_podsLeft {ns job name : String} (hjob : Objects.IsValue job)
    (hname : Objects.IsValue name) (pods : List Pod) :
    podsLeft ns ("agentic-session=" ++ name) (podsLeft ns ("job-name=" ++ job) pods) =
      foreignPods ns job name pods := by
  have hfits : ∀ pod : Pod, Objects.fits ("job-name=" ++ job) pod.labels =
        (pod.labels.get? "job-name" = some job : Bool) ∧
      Objects.fits ("agentic-session=" ++ name) pod.labels =
        (pod.labels.get? "agentic-session" = some name : Bool) := fun pod =>
    ⟨Bool.eq_iff_iff.mpr ((Objects.fits_pair isKey_job hjob).trans decide_eq_true_iff.symm),
      Bool.eq_iff_iff.mpr ((Objects.fits_pair isKey_session hname).trans decide_eq_true_iff.symm)⟩
  unfold podsLeft foreignPods
  rw [List.filter_filter]
  refine List.filter_congr fun pod _ => ?_
  rw [(hfits pod).1, (hfits pod).2]
  cases (pod.ref.ns = ns : Bool) <;> cases (pod.labels.get? "job-name" = some job : Bool) <;>
    simp

/-- The pods that are picked neither by the one selector nor by the other stay, whichever of the two
removals has happened. -/
theorem sublist_podsLeft {ns a b : String} {p q r : List Pod}
    (hq : q = p ∨ q = podsLeft ns a p) (hr : r = q ∨ r = podsLeft ns b q) :
    (podsLeft ns b (podsLeft ns a p)).Sublist r ∧ r.Sublist p := by
  have hleft : ∀ selector (pods : List Pod), (podsLeft ns selector pods).Sublist pods :=
    fun _ _ => List.filter_sublist
  have hfirst : (podsLeft ns a p).Sublist q ∧ q.Sublist p := by
    rcases hq with rfl | rfl
    · exact ⟨hleft _ _, .refl _⟩
    · exact ⟨.refl _, hleft _ _⟩
  rcases hr with rfl | rfl
  · exact ⟨(hleft _ _).trans hfirst.1, hfirst.2⟩
  · exact ⟨hfirst.1.filter _, (hleft _ _).trans hfirst.2⟩

/-- The job and its pods are removed, each unless a failure strikes, and nothing else. -/
theorem run_removeJob (env : Surroundings) (job : String)
    (hrights : s.cluster.Entitles who ref.ns) :
    ∃ t jobs pods, Simulation.run env (removeJob who ref job) s = (.ok (), t) ∧ s.Leads t ∧
      t.cluster.objects = { s.cluster.objects with jobs := jobs, pods := pods } ∧
      (jobs = s.cluster.objects.jobs ∨ jobs = s.cluster.objects.jobs.erase ⟨ref.ns, job⟩) ∧
      ((podsLeft ref.ns ("agentic-session=" ++ ref.name)
        (podsLeft ref.ns ("job-name=" ++ job) s.cluster.objects.pods)).Sublist pods ∧
          pods.Sublist s.cluster.objects.pods) ∧
      (s.cluster.Spares .deleteJob → jobs = s.cluster.objects.jobs.erase ⟨ref.ns, job⟩) ∧
      (s.cluster.Spares .deletePods → pods = podsLeft ref.ns ("agentic-session=" ++ ref.name)
        (podsLeft ref.ns ("job-name=" ++ job) s.cluster.objects.pods)) := by
  obtain ⟨t₁, jobs, hrun₁, hleads₁, hobjects₁, hsome, hjobs⟩ :=
    run_attempt_deleteJob (ε := CredentialError) env ⟨ref.ns, job⟩ .foreground hrights
  obtain ⟨t₂, pods₂, hrun₂, hleads₂, hobjects₂, hsome₂, hpods₂⟩ :=
    run_attempt_deletePods (ε := CredentialError) env ("job-name=" ++ job)
      (hleads₁.rights.entitles hrights)
  obtain ⟨t, pods, hrun, hleads, hobjects, hsome₃, hpods⟩ :=
    run_attempt_deletePods (ε := CredentialError) env ("agentic-session=" ++ ref.name)
      ((hleads₁.trans hleads₂).rights.entitles hrights)
  rw [hobjects₂] at hsome₃
  rw [hobjects₁] at hsome₂
  refine ⟨t, jobs, pods, ?_, (hleads₁.trans hleads₂).trans hleads, ?_, hsome,
    sublist_podsLeft hsome₂ hsome₃, hjobs, fun hspares => ?_⟩
  · exact Simulation.run_bind_eq_ok.mpr ⟨(), t₁, hrun₁,
      Simulation.run_bind_eq_ok.mpr ⟨(), t₂, hrun₂, hrun⟩⟩
  · rw [hobjects, hobjects₂, hobjects₁]
  · have hspares₁ := hleads₁.spares _ hspares
    rw [hpods (hleads₂.spares _ hspares₁), hobjects₂, hpods₂ hspares₁, hobjects₁]

/-! ### The wish for input -/

/-- The session at hand can replace the stored one, whose status is as before, and which has the
wish unless a failure strikes. -/
theorem run_ensureInteractive (env : Surroundings) (hrights : s.cluster.Entitles who session.ref.ns)
    (hstored : s.cluster.objects.sessions.get? session.ref = some session)
    (hversion : session.metadata.resourceVersion.isSome = true) :
    ∃ t wished stored, Simulation.run env (ensureInteractive who session) s = (.ok wished, t) ∧
      s.Leads t ∧ t.cluster.objects = { s.cluster.objects with
        sessions := s.cluster.objects.sessions.insert session.ref stored } ∧
      Replaces wished stored ∧ stored.ref = session.ref ∧ wished.status = session.status ∧
      stored.status = session.status ∧
      (s.cluster.Spares .updateSession → ∀ version, Objects.versioned stored version =
        Objects.versioned (session.withInteractive true) version) := by
  unfold ensureInteractive
  by_cases hwish : session.isInteractive = true
  · rw [if_pos hwish]
    refine ⟨s, session, session, rfl, .refl s, ?_, ⟨rfl, hversion, rfl⟩, rfl, rfl, rfl,
      fun _ version => by rw [withInteractive_eq_self hwish]⟩
    rw [SortedMap.insert_eq_self hstored]
  · rw [if_neg hwish]
    have hsent : Replaces (session.withInteractive true) session := ⟨rfl, hversion, rfl⟩
    have hleads := Simulation.leads_call env s who
      (c := .updateSession (session.withInteractive true)) ⟨nofun, nofun, nofun⟩
    cases hrun : Simulation.run env
        (Action.cluster who (.updateSession (session.withInteractive true))) s with
    | mk reply t =>
      rw [hrun] at hleads
      have houtcome : Simulation.run env (Action.cluster who
          (.updateSession (session.withInteractive true))).outcome s =
            ((.ok reply : Except CredentialError _), t) := by
        rw [Simulation.run_outcome, hrun]
      cases reply with
      | ok updated =>
        obtain ⟨_, _, _, happly, _⟩ := Simulation.run_call_eq_ok hrun
        obtain ⟨found, hfound, _, hupdated, hobjects⟩ := Objects.updateSession_eq_ok.mp happly
        obtain rfl : session = found := Option.some.inj (hstored.symm.trans hfound)
        refine ⟨t, updated, updated, Simulation.run_bind_eq_ok.mpr ⟨_, t, houtcome, rfl⟩, hleads,
          hobjects, ?_, ?_, ?_, ?_, fun _ version => ?_⟩
        all_goals subst hupdated
        · exact ⟨rfl, rfl, rfl⟩
        all_goals rfl
      | error e =>
        refine ⟨t, session.withInteractive true, session,
          Simulation.run_bind_eq_ok.mpr ⟨_, t, houtcome, rfl⟩, hleads, ?_, hsent, rfl, rfl, rfl,
          fun hspares => ?_⟩
        · rw [(Simulation.run_call_error hrun).1, SortedMap.insert_eq_self hstored]
        · -- What is not struck by a failure is accepted.
          obtain ⟨_, _, _, hrun', _⟩ := run_update env hspares hrights hstored hsent
          cases hrun.symm.trans hrun'

/-! ### Stops -/

/-- What a stop makes of a cluster with a session that is not over. -/
structure Halted (s : Simulation) (ref : ObjectRef) (session : Session) (t : Simulation)
    (stored : Session) : Prop where
  /-- Jobs, pods and the session are all that changes. -/
  others : ∃ jobs pods, t.cluster.objects = { s.cluster.objects with
    jobs := jobs, pods := pods, sessions := s.cluster.objects.sessions.insert ref stored }
  /-- The session is stopped now, and nothing else of its status changes. -/
  status : stored.status = { session.status with
    phase := some "Stopped"
    message := some "Session stopped by user"
    completionTime := some s.now.secondText }
  /-- No other job is gone. -/
  jobs : t.cluster.objects.jobs = s.cluster.objects.jobs ∨ ∃ job, session.HasJob job ∧
    t.cluster.objects.jobs = s.cluster.objects.jobs.erase ⟨ref.ns, job⟩
  /-- No other pod is gone, and those that stay are in order. -/
  spared : ∀ job, session.HasJob job → Objects.IsValue job → Objects.IsValue ref.name →
    (foreignPods ref.ns job ref.name s.cluster.objects.pods).Sublist t.cluster.objects.pods ∧
      t.cluster.objects.pods.Sublist s.cluster.objects.pods
  /-- The job is gone, unless a failure strikes its removal. -/
  job : s.cluster.Spares .deleteJob → ∀ job, session.HasJob job →
    t.cluster.objects.jobs = s.cluster.objects.jobs.erase ⟨ref.ns, job⟩
  /-- The pods of the job and of the session are gone, unless a failure strikes their removal. -/
  pods : s.cluster.Spares .deletePods → ∀ job, session.HasJob job → Objects.IsValue job →
    Objects.IsValue ref.name → t.cluster.objects.pods =
      foreignPods ref.ns job ref.name s.cluster.objects.pods
  /-- The session waits for input, and nothing else of it changes, unless a failure strikes the wish
  for it. -/
  session : s.cluster.Spares .updateSession → ∃ version, stored =
    Objects.versioned (stopped s.now (session.withInteractive true)) version

section Halted

variable {t u : Simulation} {stored : Session}

/-- What was only read before makes no difference. -/
theorem Halted.of_leads (h : Halted u ref session t stored) (hleads : s.Leads u)
    (hobjects : u.cluster.objects = s.cluster.objects) : Halted s ref session t stored where
  others := hobjects ▸ h.others
  status := hleads.now ▸ h.status
  jobs := hobjects ▸ h.jobs
  spared := hobjects ▸ h.spared
  job hspares := hobjects ▸ h.job (hleads.spares _ hspares)
  pods hspares := hobjects ▸ h.pods (hleads.spares _ hspares)
  session hspares := hleads.now ▸ h.session (hleads.spares _ hspares)

/-- The session is stored as it was made. -/
theorem Halted.found (h : Halted s ref session t stored) :
    t.cluster.objects.sessions.get? ref = some stored := by
  obtain ⟨jobs, pods, hobjects⟩ := h.others
  rw [hobjects]
  exact SortedMap.get?_insert_self _ _ _

theorem Halted.phase (h : Halted s ref session t stored) :
    stored.status.phase = some "Stopped" := by
  rw [h.status]

end Halted

/-- A session that is not over is stopped, whatever failures strike on the way to its status. -/
theorem run_halt (env : Surroundings) (policy : RetryPolicy)
    (hrights : s.cluster.Entitles who session.ref.ns)
    (hstored : s.cluster.objects.sessions.get? session.ref = some session)
    (hversion : session.metadata.resourceVersion.isSome = true)
    (hspares : s.cluster.Spares .updateSessionStatus) :
    ∃ t stored, Simulation.run env (halt policy who session.ref session) s =
        (.ok (.stopped stored), t) ∧ s.Leads t ∧ Halted s session.ref session t stored := by
  obtain ⟨t₁, jobs, pods, hrun₁, hleads₁, hobjects₁, hsome, hspared, hjobs, hpods⟩ :=
    run_removeJob env session.jobName hrights
  have hstored₁ : t₁.cluster.objects.sessions.get? session.ref = some session := by
    rw [hobjects₁]
    exact hstored
  obtain ⟨t₂, wished, found, hrun₂, hleads₂, hobjects₂, hreplaces, href, hwished, hfound, hwish⟩ :=
    run_ensureInteractive env (hleads₁.rights.entitles hrights) hstored₁ hversion
  have hleads := hleads₁.trans hleads₂
  have hstored₂ : t₂.cluster.objects.sessions.get? found.ref = some found := by
    rw [hobjects₂, href]
    exact SortedMap.get?_insert_self _ _ _
  have hsent : Replaces (stopped t₂.now wished) found := ⟨hreplaces.ref, hreplaces.given,
    hreplaces.version⟩
  obtain ⟨t, stored, ⟨version, hwritten⟩, hrun, hobjects, hleads₃, _⟩ := run_writeStatus env policy
    session.ref (hleads.spares _ hspares) (href ▸ hleads.rights.entitles hrights) hstored₂ hsent
  have hchanged : t.cluster.objects = { s.cluster.objects with
      jobs := jobs, pods := pods
      sessions := s.cluster.objects.sessions.insert session.ref stored } := by
    rw [hobjects, hobjects₂, hobjects₁, href]
    simp only [SortedMap.insert_insert]
  -- What is written is the status that was read, since the wish has left it alone.
  have hstatus : stored.status = (stopped s.now session).status := by
    rw [hwritten, hleads.now]
    show { wished.status with
      phase := some Phase.stopped.text
      message := some stopMessage
      completionTime := some s.now.secondText } = _
    rw [hwished]
    rfl
  refine ⟨t, stored, ?run, hleads.trans hleads₃, ⟨jobs, pods, hchanged⟩, hstatus, ?jobs, ?spared,
    ?job, ?pods, ?session⟩
  case run =>
    refine Simulation.run_bind_eq_ok.mpr ⟨(), t₁, hrun₁, Simulation.run_bind_eq_ok.mpr
      ⟨wished, t₂, hrun₂, Simulation.run_bind_eq_ok.mpr ⟨t₂.now, t₂, rfl, ?_⟩⟩⟩
    refine Simulation.run_bind_eq_ok.mpr ⟨.ok stored, t, ?_, rfl⟩
    rw [Simulation.run_outcome, hrun]
  case jobs =>
    rw [hchanged]
    exact hsome.imp_right fun hjobs => ⟨_, Session.hasJob_jobName, hjobs⟩
  case spared =>
    intro job hjob hvalue hname
    obtain rfl := Session.hasJob_iff.mp hjob
    rw [hchanged, ← podsLeft_podsLeft hvalue hname]
    exact hspared
  case job =>
    intro hdelete job hjob
    rw [hchanged, Session.hasJob_iff.mp hjob]
    exact hjobs hdelete
  case pods =>
    intro hdelete job hjob hvalue hname
    obtain rfl := Session.hasJob_iff.mp hjob
    rw [hchanged, ← podsLeft_podsLeft hvalue hname]
    exact hpods hdelete
  case session =>
    intro hupdate
    refine ⟨version, ?_⟩
    have hfound : Objects.versioned found version =
        Objects.versioned (session.withInteractive true) version :=
      hwish (hleads₁.spares _ hupdate) version
    have hall : stored = { Objects.versioned found version with status := stored.status } := by
      rw [hwritten]
      rfl
    rw [hall, hfound, hstatus]
    rfl

/-- What a stop does with the session that it has read. -/
def proceed (policy : RetryPolicy) (who : Client) (ref : ObjectRef) (session : Session) :
    Action CredentialError StopOutcome :=
  match session.phase? with
  | some .stopped => pure (.alreadyStopped session)
  | some phase =>
    if phase.isTerminal then
      throw (.invalidInput ("cannot stop session in " ++ phase.text ++ " state"))
    else halt policy who ref session
  | none => halt policy who ref session

/-- A stop reads the session and proceeds by its phase. -/
theorem stop_eq : stop policy who ref = ask who (.getSession ref) >>= proceed policy who ref := rfl

theorem proceed_stopped (h : session.phase? = some .stopped) :
    proceed policy who ref session = pure (.alreadyStopped session) := by
  unfold proceed
  rw [h]

theorem proceed_over {phase : Phase} (h : session.phase? = some phase) (hother : phase ≠ .stopped)
    (hover : phase.isTerminal = true) : proceed policy who ref session =
      throw (.invalidInput ("cannot stop session in " ++ phase.text ++ " state")) := by
  unfold proceed
  rw [h]
  split
  · next heq => exact absurd (Option.some.inj heq) hother
  · next heq =>
    cases heq
    rw [if_pos hover]
  · next heq => cases heq

theorem proceed_running (h : session.isTerminal = false) :
    proceed policy who ref session = halt policy who ref session := by
  unfold Session.isTerminal at h
  unfold proceed
  cases hphase : session.phase? with
  | none => rfl
  | some phase =>
    rw [hphase] at h
    obtain rfl | rfl | rfl : phase = .pending ∨ phase = .creating ∨ phase = .running := by
      cases phase <;> simp_all [Phase.isTerminal]
    all_goals rfl

/-- A session that is stopped already is looked at and nothing else. -/
theorem run_stop_stopped (env : Surroundings) (policy : RetryPolicy)
    (hspares : s.cluster.Spares .getSession) (hrights : s.cluster.Entitles who ref.ns)
    (hsession : s.cluster.objects.sessions.get? ref = some session)
    (hphase : session.status.phase = some "Stopped") :
    ∃ t, Simulation.run env (stop policy who ref) s = (.ok (.alreadyStopped session), t) ∧
      t.cluster.objects = s.cluster.objects ∧
      t.cluster.calls = s.cluster.calls ++ [s.cluster.recordOf who (.getSession ref)] := by
  obtain ⟨t, hread, hobjects, _, hcalls⟩ := run_read env hspares hrights hsession
  refine ⟨t, ?_, hobjects, hcalls⟩
  rw [stop_eq]
  refine Simulation.run_bind_eq_ok.mpr ⟨session, t, hread, ?_⟩
  rw [proceed_stopped (Session.phase?_eq_some_iff.mpr hphase), Simulation.run_pure]

/-- **Stops from end to end.**  In any state that a cluster can reach, a caller with full rights in
the namespace of a session stops it, and no failure strikes the reading of the session.  When it is
stopped already the stop says so; when it is over otherwise the stop is refused; and in both cases
the session is read and nothing else happens.  Any other session is stopped, as `Halted` says, and a
second stop finds it stopped. -/
theorem stop_settles (policy : RetryPolicy) (env : Surroundings)
    (hreachable : s.cluster.Reachable env.supply)
    (hsession : s.cluster.objects.sessions.get? ref = some session)
    (hrights : s.cluster.Entitles who ref.ns) (hspares : s.cluster.Spares .getSession) :
    (session.status.phase = some "Stopped" →
      ∃ t, Simulation.run env (stop policy who ref) s = (.ok (.alreadyStopped session), t) ∧
        t.cluster.objects = s.cluster.objects ∧
        t.cluster.calls = s.cluster.calls ++ [s.cluster.recordOf who (.getSession ref)]) ∧
    (∀ word ∈ ["Completed", "Failed", "Error"], session.status.phase = some word →
      ∃ t, Simulation.run env (stop policy who ref) s =
          (.error (.invalidInput ("cannot stop session in " ++ word ++ " state")), t) ∧
        t.cluster.objects = s.cluster.objects ∧
        t.cluster.calls = s.cluster.calls ++ [s.cluster.recordOf who (.getSession ref)]) ∧
    (¬ session.IsOver → s.cluster.Spares .updateSessionStatus →
      ∃ t stored, Simulation.run env (stop policy who ref) s = (.ok (.stopped stored), t) ∧
        Halted s ref session t stored ∧
        ∀ again, ∃ u, Simulation.run env (stop again who ref) t =
          (.ok (.alreadyStopped stored), u) ∧ u.cluster.objects = t.cluster.objects) := by
  obtain ⟨t₁, hread, hobjects, hleads, hcalls⟩ := run_read env hspares hrights hsession
  refine ⟨run_stop_stopped env policy hspares hrights hsession, fun word hword hphase => ?_,
    fun hrunning hwrite => ?_⟩
  · refine ⟨t₁, ?_, hobjects, hcalls⟩
    have hlast : ∀ word ∈ ["Completed", "Failed", "Error"], word ∈ Session.lastWords := by decide
    obtain ⟨phase, rfl⟩ := Session.exists_text_of_mem (hlast word hword)
    have hover : phase ≠ .stopped ∧ phase.isTerminal = true := by
      revert hword
      cases phase <;> decide
    rw [stop_eq]
    refine Simulation.run_bind_eq_error.mpr (.inr ⟨session, t₁, hread, ?_⟩)
    rw [proceed_over (Session.phase?_eq_some_iff.mpr hphase) hover.1 hover.2, Simulation.run_throw]
  · obtain rfl : session.ref = ref := hreachable.keyed.sessions ref session hsession
    obtain ⟨t, stored, hrun, hleads', hhalted⟩ := run_halt env policy
      (hleads.rights.entitles hrights) (hobjects ▸ hsession) (hreachable.version_isSome hsession)
      (hleads.spares _ hwrite)
    refine ⟨t, stored, ?_, hhalted.of_leads hleads hobjects, fun again => ?_⟩
    · rw [stop_eq]
      refine Simulation.run_bind_eq_ok.mpr ⟨session, t₁, hread, ?_⟩
      rw [proceed_running (Session.isTerminal_eq_false_iff.mpr hrunning), hrun]
    · have hleads := hleads.trans hleads'
      obtain ⟨u, hagain, hsame, _⟩ := run_stop_stopped env again (hleads.spares _ hspares)
        (hleads.rights.entitles hrights) hhalted.found hhalted.phase
      exact ⟨u, hagain, hsame⟩

/-- The removal of the job and the wish for input are struck: the session is stopped all the same,
and of three pods the one of another session is left. -/
theorem stop_settles_struck :
    let alpha : ObjectRef := ⟨"team", "alpha"⟩
    let env := Deployment.plain.surroundings fun _ => .error .timedOut
    let pod (name key value : String) : Pod := ⟨⟨"team", name⟩, SortedMap.ofList [(key, value)]⟩
    let world : Simulation := ⟨.ofSeconds 7,
      [.putSession ((Session.ofUser alpha "bob" ∅).withPhase .running ""),
        .putJob ⟨"team", "alpha-job"⟩, .addPod (pod "p" "job-name" "alpha-job"),
        .addPod (pod "q" "job-name" "beta-job"), .addPod (pod "r" "agentic-session" "alpha"),
        .registerToken "t" "ada", .grant ⟨"ada", "team", ⟨["*"], ["*"], ["*"]⟩⟩,
        .failNext .deleteJob (.api 500 "busy"),
        .failNext .updateSession (.conflict "AgenticSession" "team/alpha")].foldl
          (Happening.run env.supply (.ofSeconds 0)) {}⟩
    ∃ t stored, Simulation.run env (stop .usual (.bearer "t") alpha) world =
        (.ok (.stopped stored), t) ∧
      stored.status.phase = some "Stopped" ∧
      stored.status.completionTime = some "1970-01-01T00:00:07Z" ∧
      t.cluster.objects.pods = [pod "q" "job-name" "beta-job"] := by
  intro alpha env pod world
  have hreachable : world.cluster.Reachable env.supply :=
    (ClusterState.Reachable.fresh {}).happen _
  obtain ⟨session, hsession, hphase, hjob⟩ : ∃ session,
      world.cluster.objects.sessions.get? alpha = some session ∧
        session.status.phase = some "Running" ∧ session.HasJob "alpha-job" :=
    ⟨_, rfl, rfl, .of_none rfl rfl⟩
  have hrights : world.cluster.Entitles (.bearer "t") "team" :=
    ClusterState.entitles_granted (by decide +kernel : _ = some "ada") (by decide +kernel)
  have hspares : ∀ op, op = .getSession ∨ op = .updateSessionStatus ∨ op = .deletePods →
      world.cluster.Spares op := by
    rintro op (rfl | rfl | rfl) <;> decide +kernel
  have hpods : foreignPods "team" "alpha-job" "alpha" world.cluster.objects.pods =
      [pod "q" "job-name" "beta-job"] := by decide +kernel
  have hnow : world.now = .ofSeconds 7 := rfl
  clear_value world
  have hrunning : ¬ session.IsOver := Session.not_isOver hphase (by decide)
  obtain ⟨_, _, hstops⟩ := stop_settles .usual env hreachable hsession hrights
    (hspares _ (.inl rfl))
  obtain ⟨t, stored, hrun, hhalted, _⟩ := hstops hrunning (hspares _ (.inr (.inl rfl)))
  refine ⟨t, stored, hrun, hhalted.phase, ?_, ?_⟩
  · rw [hhalted.status, hnow]
    show some (Timestamp.ofSeconds 7).secondText = _
    decide +kernel
  · have hvalue : Objects.IsValue "alpha-job" := ⟨by decide, by decide +kernel⟩
    have hname : Objects.IsValue "alpha" := ⟨by decide, by decide +kernel⟩
    rw [hhalted.pods (hspares _ (.inr (.inr rfl))) _ hjob hvalue hname, hpods]

/-- A failure that strikes the reading of the session is what the stop ends with, even when the
session is stopped already. -/
theorem stop_unread :
    let ref : ObjectRef := ⟨"proj-a", "s1"⟩
    let env := Deployment.plain.surroundings fun _ => .error .timedOut
    let world : Simulation := ⟨.ofSeconds 0,
      [.putSession ((Session.ofUser ref "alice" ∅).withPhase .stopped ""),
        .grant ⟨"alice", "proj-a", ⟨["*"], ["*"], ["*"]⟩⟩, .registerToken "t" "alice",
        .failNext .getSession (.api 500 "etcd timeout")].foldl
          (Happening.run env.supply (.ofSeconds 0)) {}⟩
    (world.cluster.Reachable env.supply ∧ world.cluster.Entitles (.bearer "t") "proj-a" ∧
      Objects.IsValue ref.name ∧ ∃ session, world.cluster.objects.sessions.get? ref = some session ∧
        session.status.phase = some "Stopped" ∧
        ∀ job, session.HasJob job → Objects.IsValue job) ∧
    ¬ ∃ session, (Simulation.run env (stop .usual (.bearer "t") ref) world).1 =
      .ok (.alreadyStopped session) := by
  intro ref env world
  refine ⟨⟨(ClusterState.Reachable.fresh {}).happen _,
    ClusterState.entitles_granted (by decide +kernel : _ = some "alice") (by decide +kernel),
    ⟨by decide, by decide +kernel⟩, _, rfl, rfl, fun job hjob => ?value⟩, ?_⟩
  case value =>
    rw [Session.hasJob_iff.mp hjob]
    exact ⟨by decide +kernel, by decide +kernel⟩
  have hfails : (Simulation.run env (stop .usual (.bearer "t") ref) world).1.isOk = false := by
    decide +kernel
  rintro ⟨session, hstopped⟩
  rw [hstopped] at hfails
  cases hfails

end CredentialBroker.Transition
