import CredentialBroker.Proofs.Credential.Runner
import CredentialBroker.Proofs.Transition.Writes
import CredentialBroker.Proofs.World.Stopping

namespace CredentialBroker

/-!
# Two stops of one session

Two stops of one session that run side by side both end well, and the session is stopped then.  Each
write of one stop makes the copy of the other one old, and with it an attempt to write the status
fails.  But a stop writes twice at most, so that three attempts are enough: as long as an attempt
fails, the other stop has a write less to spare.

* `Transition.Poised` — the attempts to spare are enough for the writes that the other stop has to
  spare;
* `Transition.writeStatus_withstands` — from there the status gets written;
* `Transition.stop_withstands` — a stop withstands another one;
* `Transition.stops_converge` — two stops after any moves.
-/

namespace Transition

variable {base s t : ClusterState} {first stored later copy found : Session} {who : Client}
  {supply : Supply} {policy : RetryPolicy} {spare mine theirs left : Nat}

/-- The session was stopped. -/
def Over (base : ClusterState) (first : Session) (s : ClusterState) : Prop :=
  ∃ stored, Stopping base first s stored ∧ stored.isTerminal = true

/-- All but the status of the session is as a stop leaves it. -/
structure Cleared (base : ClusterState) (first : Session) (s : ClusterState) (stored : Session) :
    Prop where
  /-- The session is being stopped. -/
  stopping : Stopping base first s stored
  /-- It waits for input. -/
  interactive : stored.isInteractive = true
  /-- Its job is gone. -/
  job : s.JobGone first

/-- The attempts to spare are enough for the writes that the other stop has to spare.  A copy that
is old needs one more. -/
def Bears (spare theirs : Nat) (copy stored : Session) : Prop :=
  theirs < spare ∨
    theirs ≤ spare ∧ copy.metadata.resourceVersion = stored.metadata.resourceVersion

theorem Bears.le (h : Bears spare theirs copy stored) : theirs ≤ spare := by
  rcases h with h | h
  · exact Nat.le_of_lt h
  · exact h.1

/-- An old copy is known by its version. -/
theorem Bears.lt_of_ne (h : Bears spare theirs copy stored)
    (hne : copy.metadata.resourceVersion ≠ stored.metadata.resourceVersion) : theirs < spare :=
  h.resolve_right fun h => hne h.2

/-- When the other stop writes, the copy gets old, but there is a write less to come. -/
theorem Bears.advance (h : Bears spare theirs copy stored) (hle : left ≤ theirs)
    (honward : Onward first theirs s stored left t later) : Bears spare left copy later := by
  rcases honward.written with rfl | hless
  · exact h.imp (Nat.lt_of_le_of_lt hle) fun h => ⟨Nat.le_trans hle h.1, h.2⟩
  · exact .inl (Nat.lt_of_lt_of_le hless h.le)

theorem Cleared.advance (h : Cleared base first s stored)
    (hmay : (stopConduct base first).may theirs s left t) :
    ∃ later, Cleared base first t later ∧ Onward first theirs s stored left t later := by
  obtain ⟨later, hlater, honward⟩ := hmay.2 stored h.stopping
  exact ⟨later, ⟨hlater, honward.wish h.interactive, honward.job h.job⟩, honward⟩

theorem Over.advance (h : Over base first s)
    (hmay : (stopConduct base first).may theirs s left t) : Over base first t := by
  obtain ⟨stored, hstored, hover⟩ := h
  obtain ⟨later, hlater, honward⟩ := hmay.2 stored hstored
  exact ⟨later, hlater, honward.ended hover⟩

/-! ### Parts of a stop -/

/-- A call that does not matter is withstood when it keeps the session. -/
theorem attempt_withstands {call : Call} {ends : Ending (Except CredentialError Unit)}
    (h : Stopping base first s stored)
    (hkept : ∀ {t : ClusterState} {now}, t.faults = [] →
      t.KeptFor first (t.step supply now who call).2)
    (hends : ∀ left t later now, Stopping base first t later →
      (stopConduct base first).may theirs s left (t.step supply now who call).2 →
        ends (.ok ()) mine left (t.step supply now who call).2) :
    (attempt who call).Withstands (stopConduct base first) supply ends mine theirs s := by
  refine Action.withstands_discard (Action.withstands_outcome (Action.withstands_cluster ?_))
  intro left t hmay now
  obtain ⟨later, hlater, _⟩ := hmay.2 stored h
  have hstep : t.KeptFor first (t.step supply now who call).2 := hkept hlater.faults
  exact ⟨mine, hstep.may mine,
    hends left t later now hlater ((stopConduct base first).trans hmay (hstep.may left))⟩

/-- The job and the pods of a session are removed. -/
theorem removeJob_withstands {ends : Ending (Except CredentialError Unit)}
    (h : Stopping base first s stored) (hwho : base.Entitles who first.ref.ns)
    (hends : ∀ left t, (stopConduct base first).may theirs s left t → t.JobGone first →
      ends (.ok ()) mine left t) :
    (removeJob who first.ref first.jobName).Withstands (stopConduct base first) supply ends mine
      theirs s := by
  unfold removeJob
  refine Action.withstands_bind (attempt_withstands h ClusterState.keptFor_deleteJob
    fun left₁ t₁ _ now hlater hmay₁ => ?_)
  have hgone : (t₁.step supply now who
      (.deleteJob ⟨first.ref.ns, first.jobName⟩ .foreground)).2.JobGone first :=
    hlater.jobGone_step hwho
  obtain ⟨_, h₁, _⟩ := hmay₁.2 stored h
  refine Action.withstands_bind (attempt_withstands h₁ ClusterState.keptFor_deletePods
    fun left₂ t₂ _ _ _ hmay₂ => ?_)
  obtain ⟨_, h₂, honward₂⟩ := hmay₂.2 _ h₁
  refine attempt_withstands h₂ ClusterState.keptFor_deletePods fun left₃ t₃ _ _ _ hmay₃ => ?_
  obtain ⟨_, _, honward₃⟩ := hmay₃.2 _ h₂
  exact hends _ _ ((stopConduct base first).trans hmay₁
    ((stopConduct base first).trans hmay₂ hmay₃)) (honward₃.job (honward₂.job hgone))

/-- What there is for the status to be written: a copy, and attempts enough. -/
def Poised (base : ClusterState) (first : Session) (spare : Nat) (copy : Session) (theirs : Nat)
    (s : ClusterState) : Prop :=
  first.Follows copy ∧ ∃ stored, Cleared base first s stored ∧ Bears spare theirs copy stored

theorem Poised.advance (h : Poised base first spare copy theirs s)
    (hmay : (stopConduct base first).may theirs s left t) :
    Poised base first spare copy left t := by
  obtain ⟨hcopy, stored, hcleared, hbears⟩ := h
  obtain ⟨later, hlater, honward⟩ := hcleared.advance hmay
  exact ⟨hcopy, later, hlater, hbears.advance hmay.1 honward⟩

/-- After the wish for input there is a copy to write the status from, new or old. -/
theorem ensureInteractive_withstands (h : Stopping base first s stored)
    (hwho : base.Entitles who first.ref.ns) (hjob : s.JobGone first) (hfound : first.Follows found)
    (hwish : found = first ∨ found.isInteractive = true)
    (hstored : found.isInteractive = true → stored.isInteractive = true)
    (hbears : Bears spare theirs found stored) :
    (ensureInteractive who found).Withstands (stopConduct base first) supply
      (.well fun copy mine theirs s => 0 < mine ∧ Poised base first spare copy theirs s)
      2 theirs s := by
  unfold ensureInteractive
  split
  · next hinteractive =>
    exact Action.withstands_pure ⟨Nat.zero_lt_two, hfound, stored,
      ⟨h, hstored hinteractive, hjob⟩, hbears⟩
  · next hinteractive =>
    obtain rfl : found = first := hwish.resolve_right hinteractive
    refine Action.withstands_bind (Action.withstands_outcome (Action.withstands_cluster ?_))
    intro left t hmay now
    obtain ⟨later, hlater, honward⟩ := hmay.2 stored h
    have hbears := hbears.advance hmay.1 honward
    by_cases hversion : found.metadata.resourceVersion = later.metadata.resourceVersion
    · -- The wish is written, and the copy at hand is the one that came back.
      obtain ⟨updated, u, hstep, hupdated, hwished, hwritten⟩ :=
        hlater.step_update supply now hwho hfound.withInteractive hversion rfl
      rw [hstep]
      refine ⟨1, (hwritten 1).may hlater hupdated (by decide), Action.withstands_pure ?_⟩
      exact ⟨Nat.zero_lt_one, hupdated.follows, updated,
        ⟨hupdated, hwished, (hwritten 1).job (honward.job hjob)⟩, .inr ⟨hbears.le, rfl⟩⟩
    · -- The other stop has written since, so the session waits for input, and the copy is old.
      obtain ⟨e, u, hstep, hkept⟩ :=
        hlater.step_update_conflict supply now hwho hfound.withInteractive hversion
      have hwished : later.isInteractive = true :=
        hlater.wish.resolve_left fun heq => hversion (by rw [heq])
      rw [hstep]
      refine ⟨2, hkept.may 2, Action.withstands_pure ?_⟩
      exact ⟨Nat.zero_lt_two, hfound.withInteractive, later,
        ⟨hlater.kept hkept, hwished, hkept.job (honward.job hjob)⟩,
        .inl (hbears.lt_of_ne hversion)⟩

/-- From what an attempt with so many to spare starts: the first one from the copy at hand, a later
one from what is stored by then. -/
inductive Ready (base : ClusterState) (first copy : Session) (spare mine theirs : Nat)
    (s : ClusterState) : Nat → Prop where
  /-- The first attempt. -/
  | start (hmine : 0 < mine) (h : Poised base first spare copy theirs s) :
    Ready base first copy spare mine theirs s 0
  /-- An attempt after another one. -/
  | again (attempt : Nat) (hmine : 0 < mine) (hle : theirs ≤ spare) (stored : Session)
      (h : Cleared base first s stored) : Ready base first copy spare mine theirs s (attempt + 1)

/-- How an attempt ends: the session was stopped, or the other stop has paid for a conflict with a
write, so that one attempt less is enough. -/
def Attempted (base : ClusterState) (first copy : Session) (spare attempt : Nat) :
    Ending (Except ClusterError Session) :=
  .either (fun _ _ _ s => Over base first s) fun e mine theirs s =>
    e.isConflict = true ∧ ∃ fewer, spare = fewer + 1 ∧
      ∀ left t, (stopConduct base first).may theirs s left t →
        Ready base first copy fewer mine left t (attempt + 1)

/-- The status is sent, from a copy that is new or old. -/
theorem status_withstands {sent : Session} {attempt : Nat} (hwho : base.Entitles who first.ref.ns)
    (hmine : 0 < mine) (h : Poised base first spare sent theirs s) (time : Timestamp) :
    (Action.cluster who (.updateSessionStatus (stopped time sent))).Withstands
      (stopConduct base first) supply (Attempted base first copy spare attempt) mine theirs s := by
  obtain ⟨hsent, stored, hcleared, hbears⟩ := h
  refine Action.withstands_cluster fun left t hmay now => ?_
  obtain ⟨later, hlater, honward⟩ := hcleared.advance hmay
  have hbears := hbears.advance hmay.1 honward
  by_cases hversion : sent.metadata.resourceVersion = later.metadata.resourceVersion
  · obtain ⟨updated, u, hstep, hupdated, hover, hwritten⟩ :=
      hlater.stopping.step_status supply now hwho (hsent.stopped time) hversion
        rfl rfl hlater.interactive hlater.job
    obtain ⟨fewer, rfl⟩ := Nat.exists_eq_add_of_lt hmine
    rw [hstep, Nat.zero_add]
    exact ⟨fewer, (hwritten fewer).may hlater.stopping hupdated (Nat.le_succ fewer),
      updated, hupdated, hover⟩
  · obtain ⟨e, u, hstep, hconflict, hkept⟩ :=
      hlater.stopping.step_status_conflict supply now hwho (hsent.stopped time) hversion
    have hless : left < spare := hbears.lt_of_ne hversion
    have hcleared : Cleared base first u later :=
      ⟨hlater.stopping.kept hkept, hlater.interactive, hkept.job hlater.job⟩
    rw [hstep]
    refine ⟨mine, hkept.may mine, hconflict, spare - 1, by omega, fun rest v hrest => ?_⟩
    obtain ⟨last, hlast, _⟩ := hcleared.advance hrest
    have hle : rest ≤ left := hrest.1
    exact .again attempt hmine (by omega) last hlast

theorem tryStatus_withstands {attempt : Nat} (hwho : base.Entitles who first.ref.ns)
    (h : Ready base first copy spare mine theirs s attempt) (time : Timestamp) :
    (tryStatus who first.ref copy (stopped time) attempt).Withstands (stopConduct base first) supply
      (Attempted base first copy spare attempt) mine theirs s := by
  unfold tryStatus
  cases h with
  | start hmine hpoised =>
    exact Action.withstands_bind
      (Action.withstands_pure (status_withstands hwho hmine hpoised time))
  | again attempt hmine hle stored hcleared =>
    rw [if_neg (Nat.succ_ne_zero attempt)]
    refine Action.withstands_bind (Action.withstands_cluster fun left t hmay now => ?_)
    obtain ⟨later, hcleared, _⟩ := hcleared.advance hmay
    have hkept : t.KeptFor first (t.step supply now who (.getSession first.ref)).2 :=
      ClusterState.keptFor_get hcleared.stopping.faults
    have hpoised : Poised base first spare later left
        (t.step supply now who (.getSession first.ref)).2 :=
      ⟨hcleared.stopping.follows, later, ⟨hcleared.stopping.kept hkept, hcleared.interactive,
        hkept.job hcleared.job⟩, .inr ⟨Nat.le_trans hmay.1 hle, rfl⟩⟩
    rw [hcleared.stopping.step_get hwho]
    exact ⟨mine, hkept.may mine, status_withstands hwho hmine hpoised time⟩

/-- **The status gets written.**  Each conflict takes a write of the other stop, and there are not
as many of these as attempts. -/
theorem writeStatus_withstands (hwho : base.Entitles who first.ref.ns) (hmine : 0 < mine)
    (h : Poised base first (policy.maxAttempts - 1) copy theirs s) (time : Timestamp) :
    (writeStatus policy who first.ref copy (stopped time)).Withstands (stopConduct base first)
      supply (.well fun _ _ _ s => Over base first s) mine theirs s :=
  Action.withstands_retried
    (I := fun spare attempt mine theirs s => Ready base first copy spare mine theirs s attempt)
    (fun hready => tryStatus_withstands hwho hready time) (.start hmine h)

/-! ### Stops -/

/-- The session was stopped, now or before. -/
def IsStop : StopOutcome → Prop
  | .stopped _ | .alreadyStopped _ => True
  | .gone => False

theorem halt_withstands (h : Stopping base first s stored) (hwho : base.Entitles who first.ref.ns)
    (hfound : first.Follows found) (hwish : found = first ∨ found.isInteractive = true)
    (hstored : found.isInteractive = true → stored.isInteractive = true)
    (hbears : Bears (policy.maxAttempts - 1) theirs found stored) :
    (halt policy who first.ref found).Withstands (stopConduct base first) supply
      (.well fun outcome _ _ s => IsStop outcome ∧ Over base first s) 2 theirs s := by
  unfold halt
  rw [hfound.jobName_eq]
  refine Action.withstands_bind (removeJob_withstands h hwho fun left t hmay hgone => ?_)
  obtain ⟨later, hlater, honward⟩ := hmay.2 stored h
  refine (ensureInteractive_withstands hlater hwho hgone hfound hwish
    (fun hi => honward.wish (hstored hi)) (hbears.advance hmay.1 honward)).andThen ?_
  intro copy mine theirs s ⟨hmine, hpoised⟩
  refine Action.withstands_bind (Action.withstands_clock fun left t hmay now => ?_)
  refine Action.withstands_bind (Action.withstands_outcome (Program.Withstands.mono
    (writeStatus_withstands hwho hmine (hpoised.advance hmay) now) fun {x mine theirs s} hx => ?_))
  cases x with
  | ok updated => exact Action.withstands_pure ⟨trivial, hx⟩
  | error e => exact hx.elim

/-- **A stop withstands another one.**  Each of them writes twice at most. -/
theorem stop_withstands (h : Stopping base first s stored) (hwho : base.Entitles who first.ref.ns)
    (hpolicy : 3 ≤ policy.maxAttempts) :
    (stop policy who first.ref).Withstands (stopConduct base first) supply
      (.well fun outcome _ _ s => IsStop outcome ∧ Over base first s) 2 2 s := by
  unfold stop
  refine Action.withstands_bind (Action.withstands_mapError (Action.withstands_cluster ?_))
  intro left t hmay now
  obtain ⟨later, hlater, _⟩ := hmay.2 stored h
  have hkept : t.KeptFor first (t.step supply now who (.getSession first.ref)).2 :=
    ClusterState.keptFor_get hlater.faults
  have hread := hlater.kept hkept
  rw [hlater.step_get hwho]
  refine ⟨2, hkept.may 2, ?_⟩
  have hhalt : (halt policy who first.ref later).Withstands (stopConduct base first) supply
      (.well fun outcome _ _ s => IsStop outcome ∧ Over base first s) 2 left
      (t.step supply now who (.getSession first.ref)).2 := by
    refine halt_withstands hread hwho hread.follows hread.wish id (.inr ⟨?_, rfl⟩)
    have hleft : left ≤ 2 := hmay.1
    omega
  show Action.Withstands _ _ _ _ _ _ _
  split
  · next hphase =>
    refine Action.withstands_pure ⟨trivial, later, hread, ?_⟩
    unfold Session.isTerminal
    rw [hphase]
    rfl
  · next phase hother hphase =>
    -- The session is over only when it was stopped.
    have hnot := hread.not_over_of_phase fun hstopped =>
      hother (Option.some.inj (hphase.symm.trans hstopped))
    unfold Session.isTerminal at hnot
    rw [hphase] at hnot
    rw [if_neg (by simpa using hnot)]
    exact hhalt
  · exact hhalt

/-! ### Length -/

theorem writeStatus_atMost {ref : ObjectRef} {current : Session} {change : Session → Session} :
    (writeStatus policy who ref current change).AtMost (1 + (policy.maxAttempts - 1) * 3) := by
  have hsend : ∀ session, (Action.cluster who (.updateSessionStatus (change session))).AtMost 1 :=
    fun _ => Action.atMost_cluster
  have hread : (Action.cluster who (.getSession ref)).AtMost 1 := Action.atMost_cluster
  -- The first attempt does not read.
  exact Action.atMost_retried (hsend current) fun _ => Action.atMost_bind hread hsend

theorem halt_atMost {ref : ObjectRef} :
    (halt policy who ref found).AtMost (3 * policy.maxAttempts + 3) := by
  have hattempt : ∀ call, (attempt who call : Action CredentialError Unit).AtMost 1 := fun _ =>
    Action.atMost_discard (Action.atMost_outcome Action.atMost_cluster)
  have hremove : (removeJob who ref found.jobName).AtMost (1 + (1 + 1)) :=
    Action.atMost_bind (hattempt _) fun _ => Action.atMost_bind (hattempt _) fun _ => hattempt _
  have hensure : (ensureInteractive who found).AtMost (1 + 0) := by
    unfold ensureInteractive
    split
    · exact Action.atMost_pure
    · refine Action.atMost_bind (Action.atMost_outcome Action.atMost_cluster) fun reply => ?_
      cases reply <;> exact Action.atMost_pure
  have hlength : 3 * policy.maxAttempts + 3 =
      1 + (1 + 1) + (1 + 0 + (1 + (1 + (policy.maxAttempts - 1) * 3 + 0))) := by
    have := policy.attempts_pos
    omega
  rw [hlength]
  unfold halt
  refine Action.atMost_bind hremove fun _ => Action.atMost_bind hensure fun _ =>
    Action.atMost_bind Action.atMost_clock fun _ =>
      Action.atMost_bind (Action.atMost_outcome writeStatus_atMost) fun reply => ?_
  cases reply with
  | ok updated => exact Action.atMost_pure
  | error e =>
    dsimp only
    split
    · exact Action.atMost_pure
    · exact Action.atMost_throw

/-- A stop asks no more than four requests, and three for each attempt to write the status. -/
theorem stop_atMost {ref : ObjectRef} :
    (stop policy who ref).AtMost (4 + 3 * policy.maxAttempts) := by
  have hlength : 4 + 3 * policy.maxAttempts = 1 + (3 * policy.maxAttempts + 3) := by omega
  rw [hlength]
  unfold stop
  refine Action.atMost_bind (Action.atMost_mapError Action.atMost_cluster) fun session => ?_
  split
  · exact Action.atMost_pure
  · split
    · exact Action.atMost_throw
    · exact halt_atMost
  · exact halt_atMost

/-! ### Two stops -/

end Transition

/-- Somebody asks a question, and nothing else happens. -/
def Happening.Reads : Happening → Prop
  | .call _ c => c.isRead = true
  | _ => False

/-- Two stops do not mind who reads. -/
theorem Happening.Reads.may {e : Happening} (h : e.Reads) (now : Timestamp) (n : Nat)
    (s : ClusterState) : (stopConduct base first).may n s n (e.run supply now s) := by
  cases e with
  | call who c =>
    refine ⟨Nat.le_refl n, fun stored hstored => ?_⟩
    have hkept : s.KeptFor first (s.step supply now who c).2 :=
      ClusterState.keptFor_step hstored.faults fun happly =>
        ⟨_, _, Objects.apply_read h happly, fun _ => id⟩
    exact (hkept.may n).2 stored hstored
  | _ => exact h.elim

namespace Transition

/-- The programs of two stops of one session. -/
def stops (policy : Bool → RetryPolicy) (who : Bool → Client) (ref : ObjectRef) (b : Bool) :
    Program demands (Except CredentialError StopOutcome) := (stop (policy b) (who b) ref).run

/-- **Two stops converge.**  Take a cluster in any state that it can reach, without failures
waiting, and a session in it that is not over.  Two callers with full rights in its namespace stop
it, each with three attempts at least, and whatever the order of their requests is, others only
read.  Then each stop has ended after as many turns as it can ask requests; when one has ended, it
has ended well; and from then on the session is stopped, waits for input and has the time of its
end, and the job it has on record, or else the one named after it, is gone. -/
theorem stops_converge (policy : Bool → RetryPolicy) (who : Bool → Client) {ref : ObjectRef}
    {world : Simulation} {session : Session} (hreachable : world.cluster.Reachable supply)
    (hfaults : world.cluster.faults = [])
    (hsession : world.cluster.objects.sessions.get? ref = some session)
    (hphase : ¬ session.IsOver) (hpolicy : ∀ b, 3 ≤ (policy b).maxAttempts)
    (hrights : ∀ b, world.cluster.Entitles (who b) ref.ns) (moves : List (Move Bool))
    (hothers : ∀ e, .other e ∈ moves → e.Reads) :
    let c := (Interleaving.start (stops policy who ref) world).run supply moves
    (∀ b, 4 + 3 * (policy b).maxAttempts ≤ moves.countP (Move.isTurn b) →
      (c.threads b).value?.isSome) ∧
    ∀ b x, (c.threads b).value? = some x →
      (∃ outcome, x = .ok outcome ∧ IsStop outcome) ∧
      (∃ stored, c.world.cluster.objects.sessions.get? ref = some stored ∧ stored.HasStopped ∧
        stored.status.jobName = session.status.jobName) ∧
      ∀ job, session.HasJob job → c.world.cluster.objects.jobs.get? ⟨ref.ns, job⟩ = none := by
  intro c
  obtain rfl : session.ref = ref := hreachable.keyed.sessions ref session hsession
  have hstopping : Stopping world.cluster session world.cluster session :=
    ⟨hfaults, .refl _, hsession, ⟨rfl, rfl, hreachable.version_isSome hsession⟩, .inl rfl,
      fun hover => absurd (Session.isTerminal_iff.mp hover) hphase⟩
  constructor
  · intro b hturns
    have hended : ∃ x, (c.threads b).left = .done x := Interleaving.run_ended stop_atMost hturns
    obtain ⟨x, hx⟩ := hended
    rw [Thread.value?_eq_some.mpr hx]
    rfl
  · let ends : Ending (Except CredentialError StopOutcome) :=
      .well fun outcome _ _ s => IsStop outcome ∧ Over world.cluster session s
    have hkeeps : (stopConduct world.cluster session).Keeps ends := by
      intro x mine theirs s left t hx hmay
      cases x with
      | ok outcome => exact ⟨hx.1, hx.2.advance hmay⟩
      | error e => exact hx.elim
    have hstart : (Interleaving.start (stops policy who session.ref) world).Withstands
        (stopConduct world.cluster session) supply (fun _ => ends) fun _ => 2 :=
      fun b => stop_withstands hstopping (hrights b) (hpolicy b)
    obtain ⟨budget, hwithstands⟩ := Interleaving.run_withstands hstart (fun _ => hkeeps)
      fun e he now n s => (hothers e he).may now n s
    intro b x hx
    have hended := hwithstands b
    rw [Thread.value?_eq_some.mp hx] at hended
    cases x with
    | ok outcome =>
      obtain ⟨hstop, stored, hstored, hover⟩ := hended
      obtain ⟨hstopped, hgone⟩ := hstored.ended hover
      exact ⟨⟨outcome, rfl, hstop⟩, ⟨stored, hstored.found, hstopped, hstored.follows.job⟩, hgone⟩
    | error e => exact hended.elim

/-- A stop writes under the hands of another one each time it can: that one meets two conflicts, and
its third attempt is accepted.  Of two jobs the one of another session is left. -/
theorem stops_converge_conflicting :
    let ref : ObjectRef := ⟨"team", "alpha"⟩
    let supply : Supply := ⟨toString, toString⟩
    let world : Simulation := ⟨.ofSeconds 0,
      [.putSession ((Session.ofUser ref "ada" ∅).withPhase .running ""),
        .putJob ⟨"team", "alpha-job"⟩, .putJob ⟨"team", "beta-job"⟩, .registerToken "t" "ada",
        .grant ⟨"ada", "team", ⟨["*"], ["*"], ["*"]⟩⟩].foldl
          (Happening.run supply (.ofSeconds 0)) {}⟩
    let who : Bool → Client := fun b => if b then .platform else .bearer "t"
    let turn (b : Bool) : Move Bool := .turn b fun _ => .error .timedOut
    let removed := [turn true, turn false, turn true, turn false, turn true, turn false, turn true,
      turn false]
    let moves := removed ++ .other (.call .platform (.getSession ref)) ::
      turn true :: List.replicate 5 (turn false) ++
        turn true :: turn true :: List.replicate 4 (turn false) ++ List.replicate 6 (turn true)
    let c := (Interleaving.start (stops (fun _ => .usual) who ref) world).run supply moves
    ((world.cluster.objects.jobs.get? ⟨"team", "alpha-job"⟩).isSome ∧
      (c.threads false).past.countP isConflict = 2 ∧
      (c.world.cluster.objects.jobs.get? ⟨"team", "beta-job"⟩).isSome) ∧
    (∀ b, ∃ outcome, (c.threads b).value? = some (.ok outcome) ∧ IsStop outcome) ∧
    (∃ stored, c.world.cluster.objects.sessions.get? ref = some stored ∧ stored.HasStopped) ∧
    c.world.cluster.objects.jobs.get? ⟨"team", "alpha-job"⟩ = none := by
  intro ref supply world who turn removed moves c
  have hreachable : world.cluster.Reachable supply := (ClusterState.Reachable.fresh {}).happen _
  have hfaults : world.cluster.faults = [] := by decide +kernel
  obtain ⟨session, hsession, hrunning, hjob⟩ : ∃ session,
      world.cluster.objects.sessions.get? ref = some session ∧
        session.status.phase = some "Running" ∧ session.HasJob "alpha-job" :=
    ⟨_, rfl, rfl, .of_none rfl rfl⟩
  have hrights : ∀ b, world.cluster.Entitles (who b) ref.ns := by
    intro b
    cases b with
    | true => exact ClusterState.entitles_platform
    | false =>
      have huser : world.cluster.objects.tokens.get? "t" = some "ada" := by decide +kernel
      refine ClusterState.entitles_bearer huser fun check hns => ?_
      refine List.any_eq_true.mpr ⟨⟨["*"], ["*"], ["*"]⟩, ?_, ?_⟩
      · rw [hns]
        decide +kernel
      · simp [Rule.allows, Rule.covers]
  have hothers : ∀ e, .other e ∈ moves → e.Reads := by
    intro e he
    obtain rfl : e = .call .platform (.getSession ref) := by
      simpa [moves, removed, turn] using he
    exact rfl
  have hturns : ∀ b, 13 ≤ moves.countP (Move.isTurn b) := by decide +kernel
  have hmet : (world.cluster.objects.jobs.get? ⟨"team", "alpha-job"⟩).isSome ∧
      (c.threads false).past.countP isConflict = 2 ∧
      (c.world.cluster.objects.jobs.get? ⟨"team", "beta-job"⟩).isSome := by decide +kernel
  -- From here on it does not matter how the state came about.
  clear_value world moves
  have hphase : ¬ session.IsOver := Session.not_isOver hrunning (by decide)
  obtain ⟨hended, hwell⟩ := stops_converge (fun _ => .usual) who hreachable hfaults hsession hphase
    (fun _ => by decide) hrights moves hothers
  have hall : ∀ b, ∃ x, (c.threads b).value? = some x := fun b =>
    Option.isSome_iff_exists.mp (hended b (hturns b))
  obtain ⟨x, hx⟩ := hall true
  obtain ⟨_, ⟨stored, hstored, hstopped, _⟩, hgone⟩ := hwell true x hx
  refine ⟨hmet, fun b => ?_, ⟨stored, hstored, hstopped⟩, hgone "alpha-job" hjob⟩
  obtain ⟨x, hx⟩ := hall b
  obtain ⟨⟨outcome, rfl, hstop⟩, _⟩ := hwell b x hx
  exact ⟨outcome, hx, hstop⟩

end Transition

end CredentialBroker
