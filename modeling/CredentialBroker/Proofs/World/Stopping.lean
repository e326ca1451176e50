import CredentialBroker.Proofs.Cluster.Entitlement
import CredentialBroker.Proofs.Cluster.Reachable
import CredentialBroker.Proofs.Session.Reading
import CredentialBroker.Proofs.World.Interference
import CredentialBroker.Transition.Stop

namespace CredentialBroker

/-!
# What stops make of a session

Stops that share a cluster write one session only, and each write of a stop does it good: it sets
the wish for input or writes the phase Stopped, and nothing that a stop has achieved is undone.

* `Session.HasStopped`, `ClusterState.JobGone` — the session and its job are as a stop leaves them;
* `Stopping` — what the cluster is like as long as nothing but stops writes that session;
* `Stopping.step_update`, `Stopping.step_status` — a write is accepted exactly from a copy of the
  version that is stored, and does the session good;
* `stopConduct` — what a stop may make of the cluster with some writes to spare.
-/

/-- The session is over in the way a stop leaves it. -/
structure Session.HasStopped (s : Session) : Prop where
  /-- The phase is Stopped. -/
  phase : s.status.phase = some "Stopped"
  /-- The session waits for input. -/
  interactive : s.spec.interactive = some true
  /-- The time of the end is known. -/
  completed : s.status.completionTime.isSome = true

/-- The job of a session is gone. -/
def ClusterState.JobGone (s : ClusterState) (session : Session) : Prop :=
  ∀ job, session.HasJob job → s.objects.jobs.get? ⟨session.ref.ns, job⟩ = none

theorem ClusterState.jobGone_iff {s : ClusterState} {session : Session} :
    s.JobGone session ↔ s.objects.jobs.get? ⟨session.ref.ns, session.jobName⟩ = none := by
  unfold JobGone
  simp only [Session.hasJob_iff, forall_eq]

/-- A session has the address and the recorded job of another one, and a version. -/
structure Session.Follows (first s : Session) : Prop where
  /-- The address is the same. -/
  ref : s.ref = first.ref
  /-- The recorded job is. -/
  job : s.status.jobName = first.status.jobName
  /-- There is a version. -/
  version : s.metadata.resourceVersion.isSome = true

theorem Session.Follows.jobName_eq {first s : Session} (h : first.Follows s) :
    s.jobName = first.jobName := by
  have hname : s.metadata.name = first.metadata.name := congrArg ObjectRef.name h.ref
  unfold jobName
  rw [h.job, hname]

/-- It goes on doing so with the wish for input. -/
theorem Session.Follows.withInteractive {first s : Session} (h : first.Follows s) :
    first.Follows (s.withInteractive true) := ⟨h.ref, h.job, h.version⟩

/-- And when it is stopped. -/
theorem Session.Follows.stopped {first s : Session} (h : first.Follows s) (now : Timestamp) :
    first.Follows (Transition.stopped now s) := ⟨h.ref, h.job, h.version⟩

/-- A session that was `first` in the cluster `base` is being stopped.  It is `stored` now, and from
the first write on it waits for input. -/
structure Stopping (base : ClusterState) (first : Session) (s : ClusterState) (stored : Session) :
    Prop where
  /-- No failures are waiting. -/
  faults : s.faults = []
  /-- Nobody has lost or won rights. -/
  rights : base.SameRights s
  /-- The session is there. -/
  found : s.objects.sessions.get? first.ref = some stored
  /-- It is the one that was there. -/
  follows : first.Follows stored
  /-- It is as it was, or waits for input. -/
  wish : stored = first ∨ stored.isInteractive = true
  /-- When it is over, it was stopped, and its job is gone. -/
  ended : stored.isTerminal = true → stored.HasStopped ∧ s.JobGone first

/-- Nothing of what stops look at is different, but that the job may be gone. -/
structure ClusterState.KeptFor (first : Session) (s t : ClusterState) : Prop where
  /-- No failure waits. -/
  faults : t.faults = []
  /-- The rights are the same. -/
  rights : s.SameRights t
  /-- The sessions are. -/
  sessions : t.objects.sessions = s.objects.sessions
  /-- The job does not come back. -/
  job : s.JobGone first → t.JobGone first

/-- What a stop has achieved is not undone, and each new version of the session takes a write. -/
structure Onward (first : Session) (n : Nat) (s : ClusterState) (stored : Session) (m : Nat)
    (t : ClusterState) (later : Session) : Prop where
  /-- The session is the same, or a write was used up. -/
  written : later = stored ∨ m < n
  /-- The wish for input stays. -/
  wish : stored.isInteractive = true → later.isInteractive = true
  /-- The job stays away. -/
  job : s.JobGone first → t.JobGone first
  /-- The session stays over. -/
  ended : stored.isTerminal = true → later.isTerminal = true

section Stopping

variable {base s t : ClusterState} {first stored later sent : Session} {who : Client} {call : Call}
  {supply : Supply} {now : Timestamp} {n m : Nat}

theorem Stopping.unique (h : Stopping base first s stored) (h' : Stopping base first s later) :
    later = stored :=
  Option.some.inj (h'.found.symm.trans h.found)

theorem Stopping.kept (h : Stopping base first s stored) (hkept : s.KeptFor first t) :
    Stopping base first t stored where
  faults := hkept.faults
  rights := h.rights.trans hkept.rights
  found := by
    rw [hkept.sessions]
    exact h.found
  follows := h.follows
  wish := h.wish
  ended hover := (h.ended hover).imp_right hkept.job

/-- A caller with full rights at the beginning may make every call. -/
theorem Stopping.allows (h : Stopping base first s stored)
    (hwho : base.Entitles who first.ref.ns) {check : AccessCheck}
    (haccess : call.access? s.resource = some check) (hns : check.ns = first.ref.ns) :
    s.Allows who call :=
  h.rights.entitles hwho call check haccess hns

/-- The session is over only when it was stopped. -/
theorem Stopping.not_over_of_phase (h : Stopping base first s stored)
    (hphase : stored.phase? ≠ some .stopped) : stored.isTerminal = false := by
  rw [Bool.eq_false_iff]
  exact fun hover => hphase (Session.phase?_eq_some_iff.mpr (h.ended hover).1.phase)

/-! ### Steps that keep the session -/

theorem ClusterState.keptFor_of_objects {jobs : SortedMap ObjectRef Unit} {pods : List Pod}
    (hfaults : t.faults = []) (hresource : t.resource = s.resource)
    (hobjects : t.objects = { s.objects with jobs := jobs, pods := pods })
    (hjobs : ∀ job, s.objects.jobs.get? job = none → jobs.get? job = none) : s.KeptFor first t := by
  refine ⟨hfaults, ⟨hresource, ?tokens, ?grants, ?roles, ?bindings⟩, ?sessions,
    fun hgone job hjob => ?job⟩
  case job =>
    rw [hobjects]
    exact hjobs _ (hgone job hjob)
  all_goals rw [hobjects]

/-- A call that fails changes nothing. -/
theorem ClusterState.keptFor_of_error {e : ClusterError} (hfaults : t.faults = [])
    (h : s.step supply now who call = (.error e, t)) : s.KeptFor first t :=
  keptFor_of_objects hfaults (step_error h).2.2 (step_error h).1 fun _ => id

/-- A call by which jobs and pods go at most keeps the session, whoever makes it. -/
theorem ClusterState.keptFor_step (hfaults : s.faults = [])
    (heffect : ∀ {user o' reply}, s.objects.apply (s.draw supply now) who user call =
      .ok (o', reply) → ∃ jobs pods, o' = { s.objects with jobs := jobs, pods := pods } ∧
        ∀ job, s.objects.jobs.get? job = none → jobs.get? job = none) :
    s.KeptFor first (s.step supply now who call).2 := by
  have hfaults' : (s.step supply now who call).2.faults = [] := step_faults hfaults
  cases hstep : s.step supply now who call with
  | mk x t =>
    rw [hstep] at hfaults'
    cases x with
    | error e => exact keptFor_of_error hfaults' hstep
    | ok reply =>
      obtain ⟨_, user, _, _, happly, _, _, hresource⟩ := step_eq_ok hstep
      obtain ⟨jobs, pods, hobjects, hjobs⟩ := heffect happly
      exact keptFor_of_objects hfaults' hresource hobjects hjobs

theorem ClusterState.keptFor_get {ref : ObjectRef} (hfaults : s.faults = []) :
    s.KeptFor first (s.step supply now who (.getSession ref)).2 :=
  keptFor_step hfaults fun happly =>
    ⟨_, _, (Objects.apply_getSession.mp happly).1, fun _ => id⟩

theorem ClusterState.keptFor_deleteJob {ref : ObjectRef} {propagation : Propagation}
    (hfaults : s.faults = []) :
    s.KeptFor first (s.step supply now who (.deleteJob ref propagation)).2 := by
  refine keptFor_step hfaults fun happly => ?_
  refine ⟨_, _, (Objects.apply_deleteJob.mp happly).2, fun job hjob => ?_⟩
  rw [SortedMap.get?_erase]
  split
  · rfl
  · exact hjob

theorem ClusterState.keptFor_deletePods {ns selector : String} (hfaults : s.faults = []) :
    s.KeptFor first (s.step supply now who (.deletePods ns selector)).2 := by
  refine keptFor_step hfaults fun happly => ?_
  obtain ⟨pods, hobjects⟩ := Objects.apply_deletePods happly
  exact ⟨_, pods, hobjects, fun _ => id⟩

/-- The session is read as it is stored. -/
theorem Stopping.step_get (h : Stopping base first s stored)
    (hwho : base.Entitles who first.ref.ns) :
    (s.step supply now who (.getSession first.ref)).1 = .ok stored := by
  have hallows : s.Allows who (.getSession first.ref) := h.allows hwho rfl rfl
  obtain ⟨user, t, reply, _, _, happly, hstep⟩ :=
    ClusterState.step_of_accepted supply now h.faults hallows fun _ =>
      ⟨_, _, Objects.apply_getSession.mpr ⟨rfl, h.found⟩⟩
  rw [hstep, Option.some.inj (h.found.symm.trans (Objects.apply_getSession.mp happly).2)]

/-- The job is gone once it was removed, whether it was there or not. -/
theorem Stopping.jobGone_step (h : Stopping base first s stored)
    (hwho : base.Entitles who first.ref.ns) {propagation : Propagation} :
    (s.step supply now who
      (.deleteJob ⟨first.ref.ns, first.jobName⟩ propagation)).2.JobGone first := by
  have hallows : s.Allows who (.deleteJob ⟨first.ref.ns, first.jobName⟩ propagation) :=
    h.allows hwho rfl rfl
  obtain ⟨user, t, _, _, ⟨reply, happly, hstep⟩ | ⟨e, happly, hstep, hobjects⟩⟩ :=
    ClusterState.step_of_allowed supply now h.faults hallows
  · rw [hstep, ClusterState.jobGone_iff, (Objects.apply_deleteJob.mp happly).2]
    exact (SortedMap.get?_erase _ _ _).trans (if_pos rfl)
  · rw [hstep, ClusterState.jobGone_iff, hobjects]
    -- A job that is there would have been removed.
    refine Option.not_isSome_iff_eq_none.mp fun hjob => ?_
    rw [(Objects.apply_deleteJob (v := ())).mpr ⟨hjob, rfl⟩] at happly
    cases happly

/-! ### Steps that write the session -/

/-- A session that is written goes on being stopped, and what was achieved is not undone. -/
theorem Stopping.written (h : Stopping base first s stored) {updated : Session}
    (hfaults : t.faults = []) (hresource : t.resource = s.resource)
    (hobjects : t.objects =
      { s.objects with sessions := s.objects.sessions.insert first.ref updated })
    (hfollows : first.Follows updated) (hinteractive : updated.isInteractive = true)
    (hstays : stored.isTerminal = true → updated.isTerminal = true)
    (hover : updated.isTerminal = true → updated.status.phase = some "Stopped" ∧
      updated.status.completionTime.isSome = true ∧ s.JobGone first) :
    Stopping base first t updated ∧ Onward first (n + 1) s stored n t updated := by
  have hgone : s.JobGone first → t.JobGone first := by
    unfold ClusterState.JobGone
    rw [hobjects]
    exact id
  constructor
  · refine ⟨hfaults, h.rights.trans ⟨hresource, ?tokens, ?grants, ?roles, ?bindings⟩, ?found,
      hfollows, .inr hinteractive, fun hterminal => ?ended⟩
    case found =>
      rw [hobjects]
      exact SortedMap.get?_insert_self _ _ _
    case ended =>
      obtain ⟨hphase, hcompleted, hjob⟩ := hover hterminal
      exact ⟨⟨hphase, Session.isInteractive_iff.mp hinteractive, hcompleted⟩, hgone hjob⟩
    all_goals rw [hobjects]
  · exact ⟨.inr (Nat.lt_succ_self n), fun _ => hinteractive, hgone, hstays⟩

/-- A session that waits for input is accepted when it has the version that is stored. -/
theorem Stopping.step_update (supply : Supply) (now : Timestamp)
    (h : Stopping base first s stored)
    (hwho : base.Entitles who first.ref.ns) (hsent : first.Follows sent)
    (hversion : sent.metadata.resourceVersion = stored.metadata.resourceVersion)
    (hinteractive : sent.isInteractive = true) :
    ∃ updated t, s.step supply now who (.updateSession sent) = (.ok updated, t) ∧
      Stopping base first t updated ∧ updated.isInteractive = true ∧
      ∀ n, Onward first (n + 1) s stored n t updated := by
  have hallows : s.Allows who (.updateSession sent) :=
    h.allows hwho rfl (congrArg ObjectRef.ns hsent.ref)
  obtain ⟨user, t, updated, hfaults, hresource, happly, hstep⟩ :=
    ClusterState.step_of_accepted supply now h.faults hallows fun _ =>
      Objects.updateSession_current (hsent.ref ▸ h.found) hsent.version hversion
  obtain ⟨old, hold, _, hupdated, hobjects⟩ := Objects.updateSession_eq_ok.mp happly
  rw [hsent.ref] at hold hobjects
  obtain rfl : stored = old := Option.some.inj (h.found.symm.trans hold)
  have hstatus : updated.status = stored.status := by rw [hupdated]; rfl
  have hterminal : updated.isTerminal = stored.isTerminal := Session.isTerminal_congr hstatus
  have hfollows : first.Follows updated := by
    refine ⟨?_, hstatus ▸ h.follows.job, ?_⟩
    · rw [hupdated]
      exact hsent.ref
    · rw [hupdated]
      rfl
  have hwish : updated.isInteractive = true := by
    rw [hupdated]
    exact hinteractive
  have hwritten : ∀ n, Stopping base first t updated ∧
      Onward first (n + 1) s stored n t updated := by
    intro n
    refine h.written hfaults hresource hobjects hfollows hwish (hterminal ▸ id) fun hover => ?_
    obtain ⟨hstopped, hjob⟩ := h.ended (hterminal ▸ hover)
    rw [hstatus]
    exact ⟨hstopped.phase, hstopped.completed, hjob⟩
  exact ⟨updated, t, hstep, (hwritten 0).1, hwish, fun n => (hwritten n).2⟩

/-- A session of another version meets a conflict. -/
theorem Stopping.step_update_conflict (supply : Supply) (now : Timestamp)
    (h : Stopping base first s stored)
    (hwho : base.Entitles who first.ref.ns) (hsent : first.Follows sent)
    (hversion : sent.metadata.resourceVersion ≠ stored.metadata.resourceVersion) :
    ∃ e t, s.step supply now who (.updateSession sent) = (.error e, t) ∧ s.KeptFor first t := by
  have hallows : s.Allows who (.updateSession sent) :=
    h.allows hwho rfl (congrArg ObjectRef.ns hsent.ref)
  obtain ⟨user, t, hfaults, _, ⟨_, happly, _⟩ | ⟨e, _, hstep, _⟩⟩ :=
    ClusterState.step_of_allowed supply now h.faults hallows
  · rw [Objects.updateSession_conflict (hsent.ref ▸ h.found) hsent.version hversion] at happly
    cases happly
  · exact ⟨e, t, hstep, ClusterState.keptFor_of_error hfaults hstep⟩

/-- A status with the phase Stopped is accepted when it comes with the version that is stored, and
the session is over. -/
theorem Stopping.step_status (supply : Supply) (now : Timestamp)
    (h : Stopping base first s stored)
    (hwho : base.Entitles who first.ref.ns) (hsent : first.Follows sent)
    (hversion : sent.metadata.resourceVersion = stored.metadata.resourceVersion)
    (hphase : sent.status.phase = some "Stopped")
    (hcompleted : sent.status.completionTime.isSome = true)
    (hinteractive : stored.isInteractive = true) (hjob : s.JobGone first) :
    ∃ updated t, s.step supply now who (.updateSessionStatus sent) = (.ok updated, t) ∧
      Stopping base first t updated ∧ updated.isTerminal = true ∧
      ∀ n, Onward first (n + 1) s stored n t updated := by
  have hallows : s.Allows who (.updateSessionStatus sent) :=
    h.allows hwho rfl (congrArg ObjectRef.ns hsent.ref)
  obtain ⟨user, t, updated, hfaults, hresource, happly, hstep⟩ :=
    ClusterState.step_of_accepted supply now h.faults hallows fun _ =>
      Objects.updateSessionStatus_current (hsent.ref ▸ h.found) hsent.version hversion
  obtain ⟨old, hold, _, hupdated, hobjects⟩ := Objects.updateSessionStatus_eq_ok.mp happly
  rw [hsent.ref] at hold hobjects
  obtain rfl : stored = old := Option.some.inj (h.found.symm.trans hold)
  have hstatus : updated.status = sent.status := by rw [hupdated]; rfl
  have hstopped : updated.status.phase = some "Stopped" := hstatus ▸ hphase
  have hterminal : updated.isTerminal = true :=
    Session.isTerminal_iff.mpr ⟨"Stopped", by decide, hstopped⟩
  have hfollows : first.Follows updated := by
    refine ⟨?_, hstatus ▸ hsent.job, ?_⟩
    · rw [hupdated]
      exact h.follows.ref
    · rw [hupdated]
      rfl
  have hwish : updated.isInteractive = true := by
    rw [hupdated]
    exact hinteractive
  have hwritten : ∀ n, Stopping base first t updated ∧
      Onward first (n + 1) s stored n t updated := fun n =>
    h.written hfaults hresource hobjects hfollows hwish (fun _ => hterminal)
      fun _ => ⟨hstopped, hstatus ▸ hcompleted, hjob⟩
  exact ⟨updated, t, hstep, (hwritten 0).1, hterminal, fun n => (hwritten n).2⟩

theorem Stopping.step_status_conflict (supply : Supply) (now : Timestamp)
    (h : Stopping base first s stored)
    (hwho : base.Entitles who first.ref.ns) (hsent : first.Follows sent)
    (hversion : sent.metadata.resourceVersion ≠ stored.metadata.resourceVersion) :
    ∃ e t, s.step supply now who (.updateSessionStatus sent) = (.error e, t) ∧
      e.isConflict = true ∧ s.KeptFor first t := by
  have hallows : s.Allows who (.updateSessionStatus sent) :=
    h.allows hwho rfl (congrArg ObjectRef.ns hsent.ref)
  obtain ⟨user, t, hfaults, _, ⟨_, happly, _⟩ | ⟨e, happly, hstep, _⟩⟩ :=
    ClusterState.step_of_allowed supply now h.faults hallows
  all_goals
    rw [Objects.updateSessionStatus_conflict (hsent.ref ▸ h.found) hsent.version hversion] at happly
    cases happly
  exact ⟨_, t, hstep, rfl, ClusterState.keptFor_of_error hfaults hstep⟩

/-! ### Conduct -/

theorem Onward.refl : Onward first n s stored n s stored :=
  ⟨.inl rfl, id, id, id⟩

theorem Onward.trans {l : Nat} {u : ClusterState} {last : Session}
    (h : Onward first l s stored m t later) (h' : Onward first m t later n u last)
    (hm : m ≤ l) (hn : n ≤ m) : Onward first l s stored n u last := by
  refine ⟨?_, fun hs => h'.wish (h.wish hs), fun hs => h'.job (h.job hs),
    fun hs => h'.ended (h.ended hs)⟩
  rcases h.written with rfl | hless
  · rcases h'.written with rfl | hless
    · exact .inl rfl
    · exact .inr (by omega)
  · exact .inr (by omega)

end Stopping

/-- What a stop may make of a cluster: the session goes on being stopped, nothing that was achieved
is undone, and each new version takes one of the writes to spare. -/
def stopConduct (base : ClusterState) (first : Session) : Conduct where
  may n s m t := m ≤ n ∧ ∀ stored, Stopping base first s stored →
    ∃ later, Stopping base first t later ∧ Onward first n s stored m t later
  refl n s := ⟨Nat.le_refl n, fun stored h => ⟨stored, h, .refl⟩⟩
  trans := by
    rintro l m n s t u ⟨hm, hst⟩ ⟨hn, htu⟩
    refine ⟨Nat.le_trans hn hm, fun stored h => ?_⟩
    obtain ⟨later, ht, hlater⟩ := hst stored h
    obtain ⟨last, hu, hlast⟩ := htu later ht
    exact ⟨last, hu, hlater.trans hlast hm hn⟩

section Conduct

variable {base s t : ClusterState} {first stored later : Session} {n m : Nat}

theorem ClusterState.KeptFor.may (h : s.KeptFor first t) (n : Nat) :
    (stopConduct base first).may n s n t :=
  ⟨Nat.le_refl n, fun stored hstored =>
    ⟨stored, hstored.kept h, .inl rfl, id, h.job, id⟩⟩

theorem Onward.may (h : Onward first n s stored m t later)
    (hstored : Stopping base first s stored) (hlater : Stopping base first t later)
    (hle : m ≤ n) : (stopConduct base first).may n s m t := by
  refine ⟨hle, fun other hother => ?_⟩
  obtain rfl := hstored.unique hother
  exact ⟨later, hlater, h⟩

end Conduct

end CredentialBroker
