import CredentialBroker.Proofs.Transition.Writes
import CredentialBroker.Proofs.World.Event
import CredentialBroker.Proofs.World.Interleaving

namespace CredentialBroker

/-!
# Edits of sessions

Starting and stopping send back whole sessions that were read some calls before.  As the version
they were read under is checked, what the cluster accepts is an edit of the session as it is stored
then: a few named fields change, and all others keep what the last writer gave them.

* `Edit` — the edits, task by task;
* `stored_of_read`, `AtHand.status_eq` — a copy of the version that is stored is a copy of what is
  stored, or of its status at least;
* `Deployment.interleave_edits` — every call that a task makes, side by side with anything else,
  edits one session so or none.
-/

/-! ### What replies tell of sessions -/

/-- A session that is read was stored at the address asked for, and one that comes back from an
update has the status of the session it took the place of. -/
def Knowledge.sessions : Knowledge where
  known history
    | .getSession ref, found => .session found ∈ history ∧ found.ref = ref
    | .updateSession session, updated => .session updated ∈ history ∧ updated.ref = session.ref ∧
        ∃ stored, .session stored ∈ history ∧
          session.metadata.resourceVersion = stored.metadata.resourceVersion ∧
          updated.status = stored.status
    | _, _ => True
  mono := by
    intro history added call v h
    cases call
    case getSession ref => exact ⟨List.mem_append_left _ h.1, h.2⟩
    case updateSession session =>
      obtain ⟨hupdated, href, stored, hstored, h⟩ := h
      exact ⟨List.mem_append_left _ hupdated, href, stored, List.mem_append_left _ hstored, h⟩
    all_goals trivial
  tells := by
    intro supply now s t who call v history added hstep hk hc hc'
    cases call
    case getSession ref =>
      obtain ⟨_, _, _, _, happly, _⟩ := ClusterState.step_eq_ok hstep
      obtain ⟨_, hstored⟩ := Objects.apply_getSession.mp happly
      exact ⟨List.mem_append_left _ (hc.stored (.session v) ⟨ref, hstored⟩),
        hk.sessions ref v hstored⟩
    case updateSession session =>
      obtain ⟨_, _, _, _, happly, _⟩ := ClusterState.step_eq_ok hstep
      obtain ⟨href, hupdated, stored, hstored, h⟩ := Objects.apply_updateSession happly
      exact ⟨hc'.stored (.session v) ⟨_, hupdated⟩, href, stored,
        List.mem_append_left _ (hc.stored (.session stored) ⟨_, hstored⟩), h⟩
    all_goals trivial

section Copies

variable {s : ClusterState} {history : List VersionedObject} {who : Client} {ref : ObjectRef}
  {past : List (Answer demands)} {found copy stored written : Session}

/-- A session that was read is the stored one when it has the stored version. -/
theorem stored_of_read (hc : Chronicle s history)
    (htold : ∀ x ∈ past, x.Tells (Knowledge.sessions.known history))
    (hread : Transition.Read who ref past copy)
    (hstored : s.objects.sessions.get? ref = some stored)
    (hversion : copy.metadata.resourceVersion = stored.metadata.resourceVersion) :
    copy = stored :=
  hc.session_eq (htold _ hread).of_ok.1 (hc.stored (.session stored) ⟨ref, hstored⟩) hversion

/-- What a transition has at hand is the session it found, by its address. -/
theorem Transition.AtHand.ref_eq (h : AtHand who past found copy)
    (htold : ∀ x ∈ past, x.Tells (Knowledge.sessions.known history)) : copy.ref = found.ref := by
  cases h with
  | found | wished => rfl
  | updated _ hupdated => exact (htold _ hupdated).of_ok.2.1

/-- It has the status that was found, and so has the stored session, when it has the stored
version. -/
theorem Transition.AtHand.status_eq (h : AtHand who past found copy)
    (hc : Chronicle s history)
    (htold : ∀ x ∈ past, x.Tells (Knowledge.sessions.known history))
    (hread : Read who ref past found) (hstored : s.objects.sessions.get? ref = some stored)
    (hversion : copy.metadata.resourceVersion = stored.metadata.resourceVersion) :
    copy.status = found.status ∧ stored.status = found.status := by
  cases h with
  | found | wished =>
    obtain rfl := stored_of_read hc htold hread hstored hversion
    exact ⟨rfl, rfl⟩
  | updated _ hupdated =>
    -- The update was accepted over the session that was found, and came back with its status.
    obtain ⟨hmem, _, replaced, hreplaced, hfound, hstatus⟩ := (htold _ hupdated).of_ok
    have hfound : found = replaced := hc.session_eq (htold _ hread).of_ok.1 hreplaced hfound
    have hcopy : copy = stored :=
      hc.session_eq hmem (hc.stored (.session stored) ⟨ref, hstored⟩) hversion
    rw [← hcopy, hstatus, hfound]
    exact ⟨rfl, rfl⟩

/-- **Status writes that are accepted.**  The status is changed from the one that is stored.  That
is the one whose phase was looked at, unless the session is continued or a conflict was met. -/
theorem Transition.StatusWrite.accepted {change : Session → Session} {continues : Prop}
    (h : StatusWrite who ref change continues past written) (hc : Chronicle s history)
    (htold : ∀ x ∈ past, x.Tells (Knowledge.sessions.known history))
    (hchange : ∀ s, (change s).metadata = s.metadata)
    (hstored : s.objects.sessions.get? written.ref = some stored)
    (hversion : written.metadata.resourceVersion = stored.metadata.resourceVersion) :
    written.ref = ref ∧ (∃ copy, written = change copy ∧ copy.status = stored.status) ∧
      (stored.isTerminal = false ∨ continues ∨ Conflicted past) := by
  have hat : ∀ copy, (change copy).ref = copy.ref := by
    intro copy
    unfold Session.ref
    rw [hchange]
  cases h with
  | first found copy hread hphase hcopy =>
    have href : (change copy).ref = ref :=
      (hat copy).trans ((hcopy.ref_eq htold).trans (htold _ hread).of_ok.2)
    rw [href] at hstored
    rw [hchange] at hversion
    obtain ⟨hsame, hfound⟩ := hcopy.status_eq hc htold hread hstored hversion
    refine ⟨href, ⟨copy, rfl, hsame.trans hfound.symm⟩, .inl ?_⟩
    rw [Session.isTerminal_congr hfound, hphase]
  | continued copy hcontinues hread =>
    have href : (change copy).ref = ref := (hat copy).trans (htold _ hread).of_ok.2
    rw [href] at hstored
    rw [hchange] at hversion
    obtain rfl := stored_of_read hc htold hread hstored hversion
    exact ⟨href, ⟨copy, rfl, rfl⟩, .inr (.inl hcontinues)⟩
  | again copy hconflict hread =>
    have href : (change copy).ref = ref := (hat copy).trans (htold _ hread).of_ok.2
    rw [href] at hstored
    rw [hchange] at hversion
    obtain rfl := stored_of_read hc htold hread hstored hversion
    exact ⟨href, ⟨copy, rfl, rfl⟩, .inr (.inr hconflict)⟩

end Copies

/-! ### Edits -/

/-- How a task may change the session at an address, by the call it makes. -/
inductive Edit : Task → ObjectRef → Call → Session → Session → Prop where
  /-- A start names the session that is continued, and sets the wish for input. -/
  | lineage (who : Client) (ref : ObjectRef) (sent stored : Session) :
    Edit (.start who ref) ref (.updateSession sent) stored
      { stored with
        metadata := { stored.metadata with
          annotations := stored.metadata.annotations.insert Session.parentKey ref.name }
        spec := { stored.spec with interactive := some true } }
  /-- A stop sets the wish for input. -/
  | wish (who : Client) (ref : ObjectRef) (sent stored : Session) :
    Edit (.stop who ref) ref (.updateSession sent) stored
      { stored with spec := { stored.spec with interactive := some true } }
  /-- A task that issues a credential records the identity and the secret. -/
  | record (task : Task) (ref : ObjectRef) (annotations : SortedMap String String)
      (stored : Session) (htask : task.provisioned? = some ref) :
    Edit task ref (.patchSessionAnnotations ref annotations) stored
      { stored with metadata := { stored.metadata with
        annotations := (stored.metadata.annotations.insert Session.identityKey
          (identityName ref.name)).insert Session.credentialSecretKey (tokenSecretName ref.name) } }
  /-- A start writes the phase Pending and the time of the start. -/
  | started (who : Client) (ref : ObjectRef) (sent stored : Session) (now : Timestamp) :
    Edit (.start who ref) ref (.updateSessionStatus sent) stored
      { stored with status := { stored.status with
        phase := some Phase.pending.text
        message := some Transition.restartMessage
        startTime := some now.secondText
        completionTime := none } }
  /-- A stop writes the phase Stopped and the time of the stop. -/
  | stopped (who : Client) (ref : ObjectRef) (sent stored : Session) (now : Timestamp) :
    Edit (.stop who ref) ref (.updateSessionStatus sent) stored
      { stored with status := { stored.status with
        phase := some Phase.stopped.text
        message := some Transition.stopMessage
        completionTime := some now.secondText } }

/-- What a start writes depends on the status alone. -/
theorem status_started (now : Timestamp) (s : Session) :
    (Transition.started now s).status = { s.status with
      phase := some Phase.pending.text
      message := some Transition.restartMessage
      startTime := some now.secondText
      completionTime := none } := rfl

/-- And so does what a stop writes. -/
theorem status_stopped (now : Timestamp) (s : Session) :
    (Transition.stopped now s).status = { s.status with
      phase := some Phase.stopped.text
      message := some Transition.stopMessage
      completionTime := some now.secondText } := rfl

/-! ### Tasks side by side -/

section Tasks

variable {d : Deployment} {s : ClusterState} {history : List VersionedObject} {task : Task}
  {who : Client}
  {call : Call} {past : List (Answer demands)} {ref : ObjectRef} {stored new : Session}

/-- A task makes the calls it may make, whatever it was told. -/
theorem Task.asks_of_reaches (h : (task.program d).Reaches past (.cluster who call)) :
    task.Asks d (fun _ _ => True) who call :=
  (Action.follows_iff.mp task.program_follows).reaches h fun _ _ => Contract.gets_ofCalls

/-- Annotations are those of an identity that was issued. -/
theorem Task.Asks.record_eq {annotations : SortedMap String String}
    (h : task.Asks d (fun _ _ => True) who (.patchSessionAnnotations ref annotations)) :
    task.provisioned? = some ref ∧ annotations = Issuer.record ref := by
  cases h with
  | provision h =>
    cases h with
    | prepare h => cases h
    | store _ _ h => cases h
    | record => exact ⟨rfl, rfl⟩
  | start h =>
    cases h with
    | client h => cases h
    | issuer h =>
      cases h with
      | prepare h => cases h
      | store _ _ h => cases h
      | record => exact ⟨rfl, rfl⟩
  | stop h => cases h
  | begin h | complete h =>
    cases h with
    | store _ _ h => cases h

/-- A session is sent back only to start or to stop it. -/
theorem Task.Asks.sends (h : task.Asks d (fun _ _ => True) who call)
    (hsends : call.sendsSession = true) :
    (∃ who ref, task = .start who ref) ∨ ∃ who ref, task = .stop who ref := by
  cases h with
  | provision h =>
    cases h with
    | prepare h => cases h <;> cases hsends
    | token | record => cases hsends
    | store _ _ h => cases h <;> cases hsends
  | start h => exact .inl ⟨_, _, rfl⟩
  | stop h => exact .inr ⟨_, _, rfl⟩
  | begin h | complete h =>
    cases h with
    | read => cases hsends
    | store _ _ h => cases h <;> cases hsends

/-- A status write of a task that the cluster accepts is that of a start or a stop of the session,
made over the status that is stored, and its phase was looked at unless a conflict was met. -/
theorem Task.status_of_reaches {sent : Session} (hc : Chronicle s history)
    (htold : ∀ x ∈ past, x.Tells (Knowledge.sessions.known history))
    (h : (task.program d).Reaches past (.cluster who (.updateSessionStatus sent)))
    (hstored : s.objects.sessions.get? sent.ref = some stored)
    (hversion : sent.metadata.resourceVersion = stored.metadata.resourceVersion) :
    ∃ who now copy, copy.status = stored.status ∧
      ((task = .start who sent.ref ∧ sent = Transition.started now copy ∧
          (stored.isTerminal = false ∨ Transition.Continues d.issuer who sent.ref past ∨
            Transition.Conflicted past)) ∨
        (task = .stop who sent.ref ∧ sent = Transition.stopped now copy ∧
          (stored.isTerminal = false ∨ Transition.Conflicted past))) := by
  rcases (asks_of_reaches h).sends rfl with ⟨who, ref, rfl⟩ | ⟨who, ref, rfl⟩
  · rcases (Transition.start_reaches (Action.reaches_discard.mp h) rfl).2 with
      ⟨_, _, heq⟩ | ⟨now, _, heq, hstatus⟩
    · cases heq
    · cases heq
      obtain ⟨rfl, ⟨copy, hsent, hcopy⟩, hphase⟩ :=
        hstatus.accepted hc htold (fun _ => rfl) hstored hversion
      exact ⟨who, now, copy, hcopy, .inl ⟨rfl, hsent, hphase⟩⟩
  · rcases (Transition.stop_reaches (Action.reaches_discard.mp h) rfl).2 with
      ⟨_, _, heq⟩ | ⟨now, _, heq, hstatus⟩
    · cases heq
    · cases heq
      obtain ⟨rfl, ⟨copy, hsent, hcopy⟩, hphase⟩ :=
        hstatus.accepted hc htold (fun _ => rfl) hstored hversion
      exact ⟨who, now, copy, hcopy, .inr ⟨rfl, hsent, hphase.imp id fun h => h.resolve_left id⟩⟩

/-- **Edits that are accepted.**  A call of a task that writes a session makes an edit of it. -/
theorem Task.edit_of_write (hc : Chronicle s history)
    (htold : ∀ x ∈ past, x.Tells (Knowledge.sessions.known history))
    (h : (task.program d).Reaches past (.cluster who call))
    (hwrite : Objects.SessionWrite call ref stored new)
    (hstored : s.objects.sessions.get? ref = some stored) : Edit task ref call stored new := by
  cases hwrite with
  | patch ref annotations stored =>
    obtain ⟨htask, rfl⟩ := (asks_of_reaches h).record_eq
    rw [Issuer.union_record]
    exact .record task ref _ stored htask
  | update sent stored hcheck =>
    have hversion := (Objects.checkSession_eq_ok.mp hcheck).2
    rcases (asks_of_reaches h).sends rfl with ⟨who, ref, rfl⟩ | ⟨who, ref, rfl⟩
    · rcases (Transition.start_reaches (Action.reaches_discard.mp h) rfl).2 with
        ⟨found, hread, heq⟩ | ⟨_, _, heq, _⟩
      · cases heq
        rw [Transition.continued_eq] at hstored hversion ⊢
        have href : ((found.withParent ref.name).withInteractive true).ref = ref :=
          (htold _ hread).of_ok.2
        rw [href] at hstored ⊢
        obtain rfl := stored_of_read hc htold hread hstored hversion
        exact .lineage who ref _ found
      · cases heq
    · rcases (Transition.stop_reaches (Action.reaches_discard.mp h) rfl).2 with
        ⟨found, hread, heq⟩ | ⟨_, _, heq, _⟩
      · cases heq
        have href : (found.withInteractive true).ref = ref := (htold _ hread).of_ok.2
        rw [href] at hstored ⊢
        obtain rfl := stored_of_read hc htold hread hstored hversion
        exact .wish who ref _ found
      · cases heq
  | status sent stored hcheck =>
    have hversion := (Objects.checkSession_eq_ok.mp hcheck).2
    obtain ⟨who, now, copy, hcopy, ⟨rfl, hsent, _⟩ | ⟨rfl, hsent, _⟩⟩ :=
      status_of_reaches hc htold h hstored hversion
    · have hstatus := congrArg Session.status hsent
      rw [status_started, hcopy] at hstatus
      rw [hstatus]
      exact .started who sent.ref sent stored now
    · have hstatus := congrArg Session.status hsent
      rw [status_stopped, hcopy] at hstatus
      rw [hstatus]
      exact .stopped who sent.ref sent stored now

end Tasks

/-- The programs of tasks. -/
def Deployment.programs {ι : Type} (d : Deployment) (tasks : ι → Task) (i : ι) :
    Program demands (Except CredentialError Unit) := ((tasks i).program d).run

/-- Tasks side by side, after some moves. -/
def Deployment.interleave {ι : Type} [DecidableEq ι] (d : Deployment) (tasks : ι → Task)
    (world : Simulation) (moves : List (Move ι)) :
    Interleaving ι (Except CredentialError Unit) :=
  (Interleaving.start (d.programs tasks) world).run d.supply moves

/-- **No write is clobbered.**  Tasks run side by side with each other and with anything else, on a
cluster in any state that it can reach.  A call of a task that the cluster accepts leaves the
sessions alone, or makes one edit to one of them as it is stored at that moment, under a new
version. -/
theorem Deployment.interleave_edits {ι : Type} [DecidableEq ι] (d : Deployment) (tasks : ι → Task)
    {world : Simulation} (hs : world.cluster.Reachable d.supply) (moves : List (Move ι)) (i : ι)
    (exchange : Http.Request → Except Http.Fault Http.Response) {who : Client} {call : Call}
    {v : call.Reply} :
    let c := d.interleave tasks world moves
    let s := c.world.cluster
    let t := (c.turn ⟨d.supply, exchange⟩ i).world.cluster
    c.answer? ⟨d.supply, exchange⟩ i = some ⟨.cluster who call, .ok v⟩ →
      t.objects.sessions = s.objects.sessions ∨
        ∃ ref stored new, s.objects.sessions.get? ref = some stored ∧
          Edit (tasks i) ref call stored new ∧
          t.objects.sessions =
            s.objects.sessions.insert ref (Objects.versioned new (toString (s.versions + 1))) := by
  intro c s t hanswer
  obtain ⟨history, h⟩ := Interleaving.run_accounted Knowledge.sessions
    (d.programs tasks) hs moves
  obtain ⟨⟨next, hleft⟩, hstep⟩ := Interleaving.answer?_cluster hanswer
  obtain ⟨_, _, _, _, happly, _⟩ := ClusterState.step_eq_ok hstep
  rcases (Objects.apply_effect happly).sessions with
    hsame | ⟨ref, stored, new, hwrite, hget, hinsert⟩
  · exact .inl hsame
  · have hreaches : ((tasks i).program d).Reaches (c.threads i).past (.cluster who call) :=
      h.reaches hleft
    exact .inr ⟨ref, stored, new, hget,
      Task.edit_of_write h.chronicle (h.told i) hreaches hwrite hget, hinsert⟩

/-- The session sent by a status write that was accepted. -/
def Answer.status? : Answer demands → Option Session
  | ⟨.cluster _ (.updateSessionStatus sent), .ok _⟩ => some sent
  | _ => none

theorem Answer.status?_eq_some {x : Answer demands} {sent : Session} (h : x.status? = some sent) :
    ∃ who v, x = ⟨.cluster who (.updateSessionStatus sent), .ok v⟩ := by
  unfold status? at h
  split at h
  · cases h
    exact ⟨_, _, rfl⟩
  · cases h

/-- The next answer is that to a status write. -/
theorem Interleaving.exists_status {ι α : Type} {c : Interleaving ι α} {env : Surroundings} {i : ι}
    (h : ((c.answer? env i).bind Answer.status?).isSome) :
    ∃ sent who v, c.answer? env i = some ⟨.cluster who (.updateSessionStatus sent), .ok v⟩ := by
  obtain ⟨sent, hsent⟩ := Option.isSome_iff_exists.mp h
  obtain ⟨x, hanswer, hx⟩ := Option.bind_eq_some_iff.mp hsent
  obtain ⟨who, v, rfl⟩ := Answer.status?_eq_some hx
  exact ⟨sent, who, v, hanswer⟩

/-- A stop meets a conflict, as a note was put on the session meanwhile, and the note is kept. -/
theorem Deployment.interleave_edits_noted :
    let ref : ObjectRef := ⟨"team", "alpha"⟩
    let world : Simulation := ⟨.ofSeconds 0, {}⟩
    let turn : Move Unit := .turn () fun _ => .error .timedOut
    let moves := [.other (.putSession (.ofUser ref "ada" ∅)), turn, turn,
      .other (.call .platform (.patchSessionAnnotations ref (SortedMap.ofList [("note", "kept")]))),
      turn, turn, turn, turn, turn, turn, turn]
    let c := plain.interleave (fun _ => .stop .platform ref) world moves
    let s := c.world.cluster
    let t := (c.turn ⟨plain.supply, fun _ => .error .timedOut⟩ ()).world.cluster
    ((t.objects.sessions.get? ref).bind Session.phase? = some .stopped ∧
      ((t.objects.sessions.get? ref).bind (·.annotation? "note")) = some "kept") ∧
    ∃ sent, t.objects.sessions = s.objects.sessions ∨
      ∃ ref' stored new, s.objects.sessions.get? ref' = some stored ∧
        Edit (.stop .platform ref) ref' (.updateSessionStatus sent) stored new ∧
        t.objects.sessions =
          s.objects.sessions.insert ref' (Objects.versioned new (toString (s.versions + 1))) := by
  intro ref world turn moves c s t
  refine ⟨by decide +kernel, ?_⟩
  have hwritten : ((c.answer? ⟨plain.supply, fun _ => .error .timedOut⟩ ()).bind
      Answer.status?).isSome := by decide +kernel
  obtain ⟨sent, who, v, hanswer⟩ := Interleaving.exists_status hwritten
  have hs : world.cluster.Reachable plain.supply := .fresh {}
  -- From here on it does not matter how the state came about.
  clear_value world moves
  exact ⟨sent, plain.interleave_edits (fun _ => .stop .platform ref) hs moves () _ hanswer⟩

end CredentialBroker
