import CredentialBroker.Proofs.World.Edits

namespace CredentialBroker

/-!
# Phases that are replaced

A start and a stop look at the phase of a session when they read it first.  The status they write
then replaces that phase, as the version is checked.  After a conflict they read the session again
and write over whatever phase it has by then, without another look.

* `Deployment.interleave_guarded` — the phase that a status write replaces was looked at, unless an
  earlier status write of the same task met a conflict;
* `Deployment.completed_replaced` — after a conflict a stop and a start replace the phase Completed.
-/

variable {ι : Type} [DecidableEq ι] {world : Simulation}

/-- The phase of a session was looked at by the task that replaces it: it does not end the session,
or a start continues the session. -/
def Task.Guards (d : Deployment) (past : List (Answer demands)) (stored : Session) : Task → Prop
  | .start who ref => stored.isTerminal = false ∨ Transition.Continues d.issuer who ref past
  | .stop _ _ => stored.isTerminal = false
  | .provision .. | .begin .. | .complete _ => False

/-- **Phases are guarded up to a conflict.**  Tasks run side by side with each other and with
anything else, on a cluster in any state that it can reach.  A status write of a task that the
cluster accepts replaces a phase that the task has looked at, unless one of its status writes met a
conflict before. -/
theorem Deployment.interleave_guarded (d : Deployment) (tasks : ι → Task)
    (hs : world.cluster.Reachable d.supply) (moves : List (Move ι)) (i : ι)
    (exchange : Http.Request → Except Http.Fault Http.Response) {who : Client} {sent v : Session} :
    let c := d.interleave tasks world moves
    let past := (c.threads i).past
    c.answer? ⟨d.supply, exchange⟩ i = some ⟨.cluster who (.updateSessionStatus sent), .ok v⟩ →
      ¬ Transition.Conflicted past →
      ∃ stored, c.world.cluster.objects.sessions.get? sent.ref = some stored ∧
        (tasks i).Guards d past stored := by
  intro c past hanswer hconflict
  obtain ⟨history, h⟩ := Interleaving.run_accounted Knowledge.sessions
    (d.programs tasks) hs moves
  obtain ⟨⟨next, hleft⟩, hstep⟩ := Interleaving.answer?_cluster hanswer
  obtain ⟨_, _, _, _, happly, _⟩ := ClusterState.step_eq_ok hstep
  obtain ⟨stored, hstored, hversion⟩ := Objects.apply_updateSessionStatus happly
  have hreaches : ((tasks i).program d).Reaches past (.cluster who (.updateSessionStatus sent)) :=
    h.reaches hleft
  refine ⟨stored, hstored, ?_⟩
  obtain ⟨_, _, _, _, ⟨htask, _, hphase⟩ | ⟨htask, _, hphase⟩⟩ :=
    Task.status_of_reaches h.chronicle (h.told i) hreaches hstored hversion
  · rw [htask]
    exact hphase.imp id fun hphase => hphase.resolve_right hconflict
  · rw [htask]
    exact hphase.resolve_right hconflict

/-- A stop without a conflict, whose status write is next. -/
theorem Deployment.interleave_guarded_running :
    let ref : ObjectRef := ⟨"team", "alpha"⟩
    let world : Simulation := ⟨.ofSeconds 0, {}⟩
    let turn : Move Unit := .turn () fun _ => .error .timedOut
    let moves := [.other (.putSession ((Session.ofUser ref "ada" ∅).withPhase .running "")),
      turn, turn, turn, turn, turn, turn]
    let c := plain.interleave (fun _ => .stop .platform ref) world moves
    let past := (c.threads ()).past
    ∃ sent who v, c.answer? ⟨plain.supply, fun _ => .error .timedOut⟩ () =
        some ⟨.cluster who (.updateSessionStatus sent), .ok v⟩ ∧
      ¬ Transition.Conflicted past ∧
      ∃ stored, c.world.cluster.objects.sessions.get? sent.ref = some stored ∧
        (Task.stop .platform ref).Guards plain past stored := by
  intro ref world turn moves c past
  have hwritten : ((c.answer? ⟨plain.supply, fun _ => .error .timedOut⟩ ()).bind
      Answer.status?).isSome := by decide +kernel
  obtain ⟨sent, who, v, hanswer⟩ := Interleaving.exists_status hwritten
  have hconflict : ¬ Transition.Conflicted past := by decide +kernel
  have hs : world.cluster.Reachable plain.supply := .fresh {}
  -- From here on it does not matter how the state came about.
  clear_value world moves
  exact ⟨sent, who, v, hanswer, hconflict,
    plain.interleave_guarded (fun _ => .stop .platform ref) hs moves () _ hanswer hconflict⟩

/-- **A phase that ends a session is replaced after a conflict.**  A reconciler completes a session
that a stop, or a start, has found to be running.  The status write meets the conflict, and the next
one replaces the phase Completed; no session was ever marked as a continuation. -/
theorem Deployment.completed_replaced :
    let ref : ObjectRef := ⟨"team", "alpha"⟩
    let running := (Session.ofUser ref "ada" ∅).withPhase .running ""
    let completed (version : String) : Happening := .call .platform
      (.updateSessionStatus (Objects.versioned (running.withPhase .completed "") version))
    let turn : Move Unit := .turn () fun _ => .error .timedOut
    let env : Surroundings := ⟨plain.supply, fun _ => .error .timedOut⟩
    let phase (s : Simulation) := (s.cluster.objects.sessions.get? ref).bind Session.phase?
    let stop := plain.interleave (fun _ => .stop .platform ref) ⟨.ofSeconds 0, {}⟩
      [.other (.putSession running), turn, turn, turn, turn, turn, turn, .other (completed "2"),
        turn, turn, turn]
    let start := plain.interleave (fun _ => .start .platform ref) ⟨.ofSeconds 0, {}⟩
      [.other (.putSession running), turn, turn, .other (completed "1"), turn, turn, turn]
    (((stop.answer? env ()).bind Answer.status?).isSome ∧ phase stop.world = some .completed ∧
      phase (stop.turn env ()).world = some .stopped) ∧
    ((start.answer? env ()).bind Answer.status?).isSome ∧ phase start.world = some .completed ∧
      phase (start.turn env ()).world = some .pending ∧
      ∀ call ∈ start.world.cluster.calls, call.operation ≠ .updateSession := by
  decide +kernel

end CredentialBroker
