import CredentialBroker.Proofs.Cluster.Faults
import CredentialBroker.Proofs.Cluster.Reachable
import CredentialBroker.Proofs.World.Event

namespace CredentialBroker

/-!
# Transitions that fail

The status of a session says whether a job is to run, so a transition that fails must not have
written it.  Starts and stops write the status last, and each attempt that fails has written
nothing.

* `Transition.run_statusFree` — what writes no status leaves the statuses of all sessions alone;
* `Transition.run_writeStatus_error` — a status write that fails, after however many attempts,
  leaves all objects alone;
* `Transition.failed_keeps_status` — starts and stops that fail.
-/

/-- All sessions have the statuses that they had. -/
def Objects.SameStatuses (o o' : Objects) : Prop :=
  ∀ ref, (o'.sessions.get? ref).map Session.status = (o.sessions.get? ref).map Session.status

namespace Objects

variable {o o' o'' : Objects} {d : Draw} {call : Call}

theorem SameStatuses.of_eq (h : o' = o) : o.SameStatuses o' := by
  subst h
  exact fun _ => rfl

theorem SameStatuses.trans (h : o.SameStatuses o') (h' : o'.SameStatuses o'') :
    o.SameStatuses o'' := fun ref => (h' ref).trans (h ref)

/-- A session keeps its status unless the status is what is written. -/
theorem SessionWrite.status_eq {ref : ObjectRef} {stored new : Session}
    (h : SessionWrite call ref stored new) (hcall : call.operation ≠ .updateSessionStatus) :
    new.status = stored.status := by
  cases h with
  | patch | update => rfl
  | status => exact absurd rfl hcall

theorem Effect.sameStatuses (h : Effect d call o o')
    (hcall : call.operation ≠ .updateSessionStatus) : o.SameStatuses o' := by
  intro key
  rcases h.sessions with hsame | ⟨ref, stored, new, hwrite, hstored, hinsert⟩
  · rw [hsame]
  · rw [hinsert, SortedMap.get?_insert]
    split
    · next hkey =>
      rw [hkey, hstored]
      exact congrArg some (hwrite.status_eq hcall)
    · rfl

end Objects

namespace Transition

variable {ε α : Type} {env : Surroundings} {s t : Simulation} {who : Client} {ref : ObjectRef}
  {policy : RetryPolicy} {issuer : Issuer} {session : Session} {e : CredentialError}

/-! ### What writes no status -/

/-- The contract of a program that writes no status. -/
def statusFree : Contract demands :=
  .ofCalls (fun _ call => call.operation ≠ .updateSessionStatus) fun _ _ => True

/-- However it ends, what writes no status leaves all of them alone. -/
theorem run_statusFree {a : Action ε α} {ends : α → Prop} (env : Surroundings) (s : Simulation)
    (h : a.Follows statusFree ends) :
    s.cluster.objects.SameStatuses (Simulation.run env a s).2.cluster.objects := by
  refine (Simulation.run_follows env (I := fun t => s.cluster.objects.SameStatuses t.objects)
    (fun now t who call ht hcall => ⟨?_, fun _ _ => trivial⟩) h (.of_eq rfl)).1
  exact ClusterState.step_keeps ht fun o' heffect => ht.trans (heffect.sameStatuses hcall)

theorem statusFree_of_eq {a : Action ε α} {ends : α → Prop} {x : Except ε α}
    (h : a.Follows statusFree ends) (hrun : Simulation.run env a s = (x, t)) :
    s.cluster.objects.SameStatuses t.cluster.objects := by
  obtain rfl : _ = t := congrArg Prod.snd hrun
  exact run_statusFree env s h

theorem ask_statusFree {call : Call} (hcall : call.operation ≠ .updateSessionStatus) :
    (ask who call).Follows statusFree fun _ => True :=
  ask_follows hcall

theorem read_statusFree : (ask who (.getSession ref)).Follows statusFree fun _ => True :=
  ask_statusFree nofun

theorem attempt_statusFree {call : Call} (hcall : call.operation ≠ .updateSessionStatus) :
    (attempt who call : Action ε Unit).Follows statusFree fun _ => True :=
  attempt_follows hcall

theorem issue?_statusFree :
    (issuer.issue? ref : Action ε (Option IssuedCredential)).Follows statusFree
      fun _ => True := by
  refine Simulation.follows_ofCalls_mono issuer.issue?_follows ?_
  rintro caller call ⟨_, hcall⟩
  cases hcall with
  | prepare h => cases h <;> exact nofun
  | token | record => exact nofun
  | store _ _ h => cases h <;> exact nofun

theorem resume_statusFree :
    (resume issuer who ref session).Follows statusFree fun _ => True := by
  rw [resume_eq]
  refine Action.follows_bind (Action.follows_discard (ask_statusFree nofun)) fun _ _ => ?_
  refine Action.follows_bind issue?_statusFree fun credential _ => ?_
  unfold reread
  dsimp only
  split
  · refine Action.follows_bind (attempt_statusFree nofun) fun _ _ => ?_
    exact Action.follows_bind read_statusFree fun _ _ => Action.follows_done
  · exact Action.follows_bind read_statusFree fun _ _ => Action.follows_done

theorem removeJob_statusFree {job : String} :
    (removeJob who ref job).Follows statusFree fun _ => True := by
  unfold removeJob
  refine Action.follows_bind (attempt_statusFree nofun) fun _ _ => ?_
  exact Action.follows_bind (attempt_statusFree nofun) fun _ _ => attempt_statusFree nofun

theorem ensureInteractive_statusFree :
    (ensureInteractive who session).Follows statusFree fun _ => True := by
  unfold ensureInteractive
  split
  · exact Action.follows_done
  · refine Action.follows_bind (Action.follows_outcome (Action.follows_call nofun))
      fun outcome _ => ?_
    cases outcome with
    | ok updated => exact Action.follows_done
    | error e => exact Action.follows_done

/-! ### Status writes that fail -/

/-- A call that fails changes no object and mints nothing. -/
theorem run_ask_error {call : Call} (h : Simulation.run env (ask who call) s = (.error e, t)) :
    t.cluster.objects = s.cluster.objects ∧ t.cluster.minted = s.cluster.minted :=
  Simulation.run_mappedCall_error h

/-- An attempt to write a status that fails leaves all objects alone: reading changes nothing, and
the write is the last call. -/
theorem run_tryStatus_error {current : Session} {change : Session → Session} {n : Nat}
    {e : ClusterError}
    (h : Simulation.run env (tryStatus who ref current change n) s = (.error e, t)) :
    t.cluster.objects = s.cluster.objects := by
  unfold tryStatus at h
  dsimp only at h
  split at h
  · exact (Simulation.run_call_error h).1
  · rcases Simulation.run_bind_eq_error.mp h with hread | ⟨read, u, hread, hwrite⟩
    · exact (Simulation.run_call_error hread).1
    · obtain ⟨_, _, _, happly, _⟩ := Simulation.run_call_eq_ok hread
      exact (Simulation.run_call_error hwrite).1.trans (Objects.apply_getSession.mp happly).1

/-- **Status writes that fail.**  However many attempts were made, no object has changed. -/
theorem run_writeStatus_error {current : Session} {change : Session → Session} {e : ClusterError}
    (h : Simulation.run env (writeStatus policy who ref current change) s = (.error e, t)) :
    t.cluster.objects = s.cluster.objects := by
  obtain ⟨_, u, hu, hlast⟩ := Simulation.run_retried_eq_error
    (I := fun u => u.cluster.objects = s.cluster.objects)
    (fun _ _ _ _ hu hrun => (run_tryStatus_error hrun).trans hu) rfl h
  exact (run_tryStatus_error hlast).trans hu

theorem run_finish_error {continuation : Bool} {outcome : Session × Option IssuedCredential}
    (h : Simulation.run env (finish policy who ref continuation outcome) s = (.error e, t)) :
    t.cluster.objects = s.cluster.objects := by
  unfold finish at h
  rcases Simulation.run_bind_eq_error.mp h with hclock | ⟨now, u, hclock, h⟩
  · cases hclock
  · cases hclock
    rcases Simulation.run_bind_eq_error.mp h with hwrite | ⟨written, u, _, hpure⟩
    · obtain ⟨_, hwrite, _⟩ := Simulation.run_mapError_eq_error.mp hwrite
      exact run_writeStatus_error hwrite
    · cases hpure

/-! ### Starts and stops that fail -/

theorem run_start_error (h : Simulation.run env (start policy issuer who ref) s = (.error e, t)) :
    s.cluster.objects.SameStatuses t.cluster.objects := by
  rw [start_eq] at h
  rcases Simulation.run_bind_eq_error.mp h with hread | ⟨session, u, hread, h⟩
  · exact .of_eq (run_ask_error hread).1
  · refine (statusFree_of_eq read_statusFree hread).trans ?_
    have hresume : (if session.isTerminal then resume issuer who ref session
        else pure (session, none)).Follows statusFree fun _ => True := by
      split
      · exact resume_statusFree
      · exact Action.follows_done
    rcases Simulation.run_bind_eq_error.mp h with h | ⟨outcome, v, h, hfinish⟩
    · exact statusFree_of_eq hresume h
    · exact (statusFree_of_eq hresume h).trans (.of_eq (run_finish_error hfinish))

theorem run_halt_error
    (h : Simulation.run env (halt policy who ref session) s = (.error e, t)) :
    s.cluster.objects.SameStatuses t.cluster.objects := by
  unfold halt at h
  rcases Simulation.run_bind_eq_error.mp h with hremove | ⟨_, u, hremove, h⟩
  · exact statusFree_of_eq removeJob_statusFree hremove
  · refine (statusFree_of_eq removeJob_statusFree hremove).trans ?_
    rcases Simulation.run_bind_eq_error.mp h with hwish | ⟨wished, v, hwish, h⟩
    · exact statusFree_of_eq ensureInteractive_statusFree hwish
    · refine (statusFree_of_eq ensureInteractive_statusFree hwish).trans ?_
      rcases Simulation.run_bind_eq_error.mp h with hclock | ⟨now, w, hclock, h⟩
      · cases hclock
      · cases hclock
        -- The outcome of the status write is looked at, so it is there, good or not.
        rw [Simulation.run_bind, Simulation.run_outcome] at h
        cases hwrite : Simulation.run env (writeStatus policy who ref wished (stopped v.now)) v with
        | mk outcome w =>
          rw [hwrite] at h
          cases outcome with
          | ok updated => cases h
          | error e' =>
            refine .of_eq ?_
            dsimp only at h
            split at h
            · cases h
            · cases h
              exact run_writeStatus_error hwrite

theorem run_stop_error (h : Simulation.run env (stop policy who ref) s = (.error e, t)) :
    s.cluster.objects.SameStatuses t.cluster.objects := by
  unfold stop at h
  rcases Simulation.run_bind_eq_error.mp h with hread | ⟨session, u, hread, h⟩
  · exact .of_eq (run_ask_error hread).1
  · refine (statusFree_of_eq read_statusFree hread).trans ?_
    split at h
    · cases h
    · split at h
      · cases h
        exact .of_eq rfl
      · exact run_halt_error h
    · exact run_halt_error h

/-- **Transitions that fail.**  Whatever the state of the cluster, the rights of the caller, the
failures that wait and the policy: a start or a stop that fails leaves the status of every session
as it was.  When a start fails since the session could not be read, or since it is over and could
not be marked as a continuation, no object at all has changed and no token was minted. -/
theorem failed_keeps_status (policy : RetryPolicy) (issuer : Issuer) (who : Client)
    (ref : ObjectRef) (env : Surroundings) (s : Simulation) :
    (∀ e t, Simulation.run env (start policy issuer who ref) s = (.error e, t) →
      s.cluster.objects.SameStatuses t.cluster.objects) ∧
    (∀ e t, Simulation.run env (stop policy who ref) s = (.error e, t) →
      s.cluster.objects.SameStatuses t.cluster.objects) ∧
    (∀ e t, Simulation.run env (ask who (.getSession ref)) s = (.error e, t) →
      Simulation.run env (start policy issuer who ref) s = (.error e, t) ∧
        t.cluster.objects = s.cluster.objects ∧ t.cluster.minted = s.cluster.minted) ∧
    ∀ session u e t, Simulation.run env (ask who (.getSession ref)) s = (.ok session, u) →
      session.isTerminal = true →
      Simulation.run env (ask who (.updateSession (continued ref.name session))) u = (.error e, t) →
      Simulation.run env (start policy issuer who ref) s = (.error e, t) ∧
        t.cluster.objects = s.cluster.objects ∧ t.cluster.minted = s.cluster.minted := by
  refine ⟨fun e t => run_start_error, fun e t => run_stop_error, fun e t hread => ⟨?_, ?_⟩,
    fun session u e t hread hover hmark => ⟨?_, ?_⟩⟩
  · rw [start_eq]
    exact Simulation.run_bind_eq_error.mpr (.inl hread)
  · exact run_ask_error hread
  · rw [start_eq]
    refine Simulation.run_bind_eq_error.mpr (.inr ⟨session, u, hread, ?_⟩)
    refine Simulation.run_bind_eq_error.mpr (.inl ?_)
    rw [if_pos hover, resume_eq]
    exact Simulation.run_bind_eq_error.mpr (.inl (Simulation.run_discard_eq_error.mpr hmark))
  · -- Reading the session has changed nothing either.
    obtain ⟨_, _, _, happly, hminted, _⟩ :=
      Simulation.run_call_eq_ok (Simulation.run_mapError_eq_ok.mp hread)
    obtain ⟨hobjects, hcount⟩ := run_ask_error hmark
    exact ⟨hobjects.trans (Objects.apply_getSession.mp happly).1, hcount.trans hminted⟩

/-- Someone else writes a session that is over while it is being marked: the start fails, and
nothing has changed. -/
theorem failed_keeps_status_conflict :
    let alpha : ObjectRef := ⟨"team", "alpha"⟩
    let env := Deployment.plain.surroundings fun _ => .error .timedOut
    let who : Client := .bearer "t"
    let world : Simulation := ⟨.ofSeconds 0,
      [.putSession ((Session.ofUser alpha "bob" ∅).withPhase .completed ""),
        .registerToken "t" "bob", .grant ⟨"bob", "team", ⟨["*"], ["*"], ["*"]⟩⟩,
        .failNext .updateSession (.conflict "AgenticSession" "team/alpha")].foldl
          (Happening.run env.supply (.ofSeconds 0)) {}⟩
    let outcome := Simulation.run env (start .usual Deployment.plain.issuer who alpha) world
    outcome.1.isOk = false ∧ world.cluster.objects.SameStatuses outcome.2.cluster.objects ∧
      outcome.2.cluster.objects = world.cluster.objects ∧
      outcome.2.cluster.minted = world.cluster.minted := by
  intro alpha env who world outcome
  -- The session is read and found to be over, and then the mark meets the conflict.
  have hcalls : ∃ session u e t,
      Simulation.run env (ask who (.getSession alpha)) world = (.ok session, u) ∧
        session.isTerminal = true ∧
        Simulation.run env (ask who (.updateSession (continued alpha.name session))) u =
          (.error e, t) := ⟨_, _, _, _, rfl, by decide +kernel, rfl⟩
  clear_value world
  obtain ⟨session, u, e, t, hread, hover, hmark⟩ := hcalls
  obtain ⟨hstart, _, _, hmarked⟩ :=
    failed_keeps_status .usual Deployment.plain.issuer who alpha env world
  obtain ⟨hrun, hobjects, hminted⟩ := hmarked session u e t hread hover hmark
  have houtcome : outcome = (.error e, t) := hrun
  rw [houtcome]
  exact ⟨rfl, hstart e t hrun, hobjects, hminted⟩

end Transition

end CredentialBroker
