import CredentialBroker.Proofs.Effect.Course
import CredentialBroker.Proofs.Effect.Execution
import CredentialBroker.Proofs.Transition.Calls

namespace CredentialBroker

/-!
# What starts and stops send back

Which sessions a transition sends back to the cluster, and what it had been told before.  The phase
is looked at once, when the session is read first; a later attempt to write the status changes
whatever session it reads then.

* `StatusWrite` — the sessions whose status a transition writes;
* `stop_reaches` — a stop writes no others, and sets the wish for input before;
* `start_reaches` — nor does a start, which `Continues` a session that is over.
-/

/-- Whether a call sends a session back. -/
def Call.sendsSession : Call → Bool
  | .updateSession _ | .updateSessionStatus _ => true
  | _ => false

namespace Transition

variable {who caller : Client} {ref : ObjectRef} {policy : RetryPolicy} {issuer : Issuer}
  {past : List (Answer demands)} {session : Session} {call : Call}

/-- A session was read. -/
def Read (who : Client) (ref : ObjectRef) (past : List (Answer demands)) (s : Session) : Prop :=
  ⟨.cluster who (.getSession ref), .ok s⟩ ∈ past

/-- The answer is that a status write met a conflict. -/
def isConflict : Answer demands → Bool
  | ⟨.cluster _ (.updateSessionStatus _), .error e⟩ => e.isConflict
  | _ => false

/-- A status write met a conflict. -/
def Conflicted (past : List (Answer demands)) : Prop := ∃ x ∈ past, isConflict x = true

instance {past : List (Answer demands)} : Decidable (Conflicted past) :=
  inferInstanceAs (Decidable (∃ x ∈ past, isConflict x = true))

/-- The session at hand is one that was found, with the wish for input set or not, or what came back
when that wish was written. -/
inductive AtHand (who : Client) (past : List (Answer demands)) (found : Session) :
    Session → Prop where
  /-- It is the session itself. -/
  | found : AtHand who past found found
  /-- The wish was not written. -/
  | wished : AtHand who past found (found.withInteractive true)
  /-- The wish was written. -/
  | updated (s : Session)
      (h : ⟨.cluster who (.updateSession (found.withInteractive true)), .ok s⟩ ∈ past) :
    AtHand who past found s

/-- The sessions whose status a transition writes, changed by `change`. -/
inductive StatusWrite (who : Client) (ref : ObjectRef) (change : Session → Session)
    (continues : Prop) (past : List (Answer demands)) : Session → Prop where
  /-- The session was found not to be over. -/
  | first (found s : Session) (hread : Read who ref past found) (hphase : found.isTerminal = false)
      (hs : AtHand who past found s) : StatusWrite who ref change continues past (change s)
  /-- The session was found to be over and is continued. -/
  | continued (s : Session) (h : continues) (hread : Read who ref past s) :
    StatusWrite who ref change continues past (change s)
  /-- The session was read again after a conflict. -/
  | again (s : Session) (h : Conflicted past) (hread : Read who ref past s) :
    StatusWrite who ref change continues past (change s)

theorem Conflicted.mono {past' : List (Answer demands)} (h : Conflicted past)
    (hsub : past ⊆ past') : Conflicted past' := by
  obtain ⟨x, hmem, hx⟩ := h
  exact ⟨x, hsub hmem, hx⟩

theorem AtHand.mono {past' : List (Answer demands)} {found s : Session}
    (h : AtHand who past found s) (hsub : past ⊆ past') : AtHand who past' found s := by
  cases h with
  | found => exact .found
  | wished => exact .wished
  | updated _ h => exact .updated s (hsub h)

/-! ### Single calls -/

theorem reaches_ask {call : Call} {r : Demand} :
    (ask who call).Reaches past r ↔ past = [] ∧ r = .cluster who call :=
  Action.reaches_mapError.trans Action.reaches_cluster

theorem ends_ask {call : Call} {v : call.Reply} :
    (ask who call).Ends past (.ok v) ↔ past = [⟨.cluster who call, .ok v⟩] :=
  Action.ends_mapError_ok.trans Action.ends_cluster

theorem ends_ask_error {call : Call} {e : CredentialError}
    (h : (ask who call).Ends past (.error e)) : ∃ e', past = [⟨.cluster who call, .error e'⟩] := by
  obtain ⟨y, hy, heq⟩ := Action.ends_mapError.mp h
  cases y with
  | ok v => cases heq
  | error e' => exact ⟨e', Action.ends_cluster.mp hy⟩

theorem reaches_attempt {ε : Type} {call : Call} {r : Demand} :
    (attempt who call : Action ε Unit).Reaches past r ↔ past = [] ∧ r = .cluster who call :=
  (Action.reaches_discard.trans Action.reaches_outcome).trans Action.reaches_cluster

/-! ### Attempts -/

/-- A status is written from the session at hand, or from the session read after a conflict. -/
theorem writeStatus_reaches {current : Session} {change : Session → Session}
    (h : (writeStatus policy who ref current change).Reaches past (.cluster caller call))
    (hsends : call.sendsSession = true) :
    caller = who ∧ ∃ s, call = .updateSessionStatus (change s) ∧
      (s = current ∨ (Conflicted past ∧ Read who ref past s)) := by
  rcases Action.reaches_retried h with hfirst | ⟨e, first, rest, rfl, hagain, hended, hlater⟩
  · cases (Action.reaches_cluster.mp hfirst).2
    exact ⟨rfl, current, rfl, .inl rfl⟩
  rcases hlater with ⟨length, hpause⟩ | ⟨n, last, hn, hlast, hreached⟩
  · cases hpause
  -- The first attempt asked for one status write, and that met the conflict.
  have hfirst : first = [⟨.cluster who (.updateSessionStatus (change current)), .error e⟩] :=
    Action.ends_cluster.mp hended
  have htry : tryStatus who ref current change n =
      Action.cluster who (.getSession ref) >>= fun session : Session =>
        Action.cluster who (.updateSessionStatus (change session)) := by
    unfold tryStatus
    rw [if_neg (by omega)]
  rw [htry] at hreached
  rcases Action.reaches_bind.mp hreached with hread | ⟨s, before, after, rfl, hread, hstatus⟩
  · cases (Action.reaches_cluster.mp hread).2
    cases hsends
  · cases (Action.reaches_cluster.mp hstatus).2
    have hconflict : Conflicted (first ++ rest) := by
      rw [hfirst]
      exact ⟨_, List.mem_cons_self, hagain⟩
    refine ⟨rfl, s, rfl, .inr ⟨hconflict, ?_⟩⟩
    refine List.mem_append_right _ (hlast.subset (List.mem_append_left _ ?_))
    rw [Action.ends_cluster.mp hread]
    exact List.mem_cons_self

/-! ### Stops -/

/-- What runs for a session is removed without a write to it. -/
theorem not_removeJob_reaches {job : String} (hsends : call.sendsSession = true) :
    ¬ (removeJob who ref job).Reaches past (.cluster caller call) := by
  intro h
  simp only [removeJob, Action.reaches_bind, reaches_attempt] at h
  rcases h with ⟨_, h⟩ | ⟨_, _, _, _, _, ⟨_, h⟩ | ⟨_, _, _, _, _, _, h⟩⟩ <;>
  · cases h
    cases hsends

/-- The wish for input is there already, or it is asked for. -/
theorem ensureInteractive_reaches {r : Demand}
    (h : (ensureInteractive who session).Reaches past r) :
    r = .cluster who (.updateSession (session.withInteractive true)) := by
  unfold ensureInteractive at h
  split at h
  · exact absurd h Action.not_reaches_pure
  · rcases Action.reaches_bind.mp h with hupdate | ⟨reply, _, _, _, _, hafter⟩
    · exact (Action.reaches_cluster.mp (Action.reaches_outcome.mp hupdate)).2
    · cases reply <;> exact absurd hafter Action.not_reaches_pure

theorem ensureInteractive_ends {s : Session}
    (h : (ensureInteractive who session).Ends past (.ok s)) :
    AtHand who past session s := by
  unfold ensureInteractive at h
  split at h
  · obtain ⟨_, heq⟩ := Action.ends_pure.mp h
    cases heq
    exact .found
  · obtain ⟨reply, before, after, rfl, hupdate, hafter⟩ := Action.ends_bind_ok.mp h
    obtain ⟨x, hx, heq⟩ := Action.ends_outcome.mp hupdate
    cases heq
    rw [Action.ends_cluster.mp hx]
    cases reply with
    | ok updated =>
      obtain ⟨rfl, heq⟩ := Action.ends_pure.mp hafter
      cases heq
      exact .updated s List.mem_cons_self
    | error e =>
      obtain ⟨rfl, heq⟩ := Action.ends_pure.mp hafter
      cases heq
      exact .wished

/-- A session that is halted gets the wish for input, and a status from what is at hand or from what
is read after a conflict. -/
theorem halt_reaches {found : Session}
    (h : (halt policy who ref found).Reaches past (.cluster caller call))
    (hsends : call.sendsSession = true) :
    caller = who ∧ (call = .updateSession (found.withInteractive true) ∨
      ∃ now s, call = .updateSessionStatus (stopped now s) ∧
        (AtHand who past found s ∨ (Conflicted past ∧ Read who ref past s))) := by
  unfold halt at h
  rcases Action.reaches_bind.mp h with h | ⟨_, removed, past, rfl, _, h⟩
  · exact absurd h (not_removeJob_reaches hsends)
  rcases Action.reaches_bind.mp h with h | ⟨current, wished, past, rfl, hcurrent, h⟩
  · cases ensureInteractive_reaches h
    exact ⟨rfl, .inl rfl⟩
  rcases Action.reaches_bind.mp h with h | ⟨now, timed, past, rfl, _, h⟩
  · cases (Action.reaches_clock.mp h).2
  rcases Action.reaches_bind.mp h with h | ⟨reply, _, _, _, _, h⟩
  · have hpast : past ⊆ removed ++ (wished ++ (timed ++ past)) := fun x hx =>
      List.mem_append_right _ (List.mem_append_right _ (List.mem_append_right _ hx))
    have hwished : wished ⊆ removed ++ (wished ++ (timed ++ past)) := fun x hx =>
      List.mem_append_right _ (List.mem_append_left _ hx)
    obtain ⟨rfl, s, rfl, rfl | ⟨hconflict, hread⟩⟩ :=
      writeStatus_reaches (Action.reaches_outcome.mp h) hsends
    · exact ⟨rfl, .inr ⟨now, s, rfl, .inl ((ensureInteractive_ends hcurrent).mono hwished)⟩⟩
    · exact ⟨rfl, .inr ⟨now, s, rfl, .inr ⟨hconflict.mono hpast, hpast hread⟩⟩⟩
  · -- After the status write nothing is asked.
    cases reply with
    | ok updated => exact absurd h Action.not_reaches_pure
    | error e =>
      dsimp only at h
      split at h
      · exact absurd h Action.not_reaches_pure
      · exact absurd h Action.not_reaches_throw

/-- **Writes of stops.**  A stop sets the wish for input on the session it found, and writes the
phase Stopped over a phase that it found not to end the session, unless it met a conflict. -/
theorem stop_reaches (h : (stop policy who ref).Reaches past (.cluster caller call))
    (hsends : call.sendsSession = true) :
    caller = who ∧
      ((∃ found, Read who ref past found ∧ call = .updateSession (found.withInteractive true)) ∨
        ∃ now written, call = .updateSessionStatus written ∧
          StatusWrite who ref (stopped now) False past written) := by
  unfold stop at h
  rcases Action.reaches_bind.mp h with hread | ⟨found, before, after, rfl, hread, h⟩
  · cases (reaches_ask.mp hread).2
    cases hsends
  -- Only a session that is not over is halted.
  have hhalt : found.isTerminal = false ∧
      (halt policy who ref found).Reaches after (.cluster caller call) := by
    unfold Session.isTerminal
    split at h
    · exact absurd h Action.not_reaches_pure
    · next phase _ hphase =>
      split at h
      · exact absurd h Action.not_reaches_throw
      · next hover =>
        rw [hphase]
        exact ⟨by simpa using hover, h⟩
    · next hphase =>
      rw [hphase]
      exact ⟨rfl, h⟩
  obtain ⟨hphase, h⟩ := hhalt
  have hafter : after ⊆ before ++ after := fun x hx => List.mem_append_right _ hx
  have hfound : Read who ref (before ++ after) found := by
    rw [ends_ask.mp hread]
    exact List.mem_cons_self
  obtain ⟨rfl, rfl | ⟨now, s, rfl, hs | ⟨hconflict, hreread⟩⟩⟩ := halt_reaches h hsends
  · exact ⟨rfl, .inl ⟨found, hfound, rfl⟩⟩
  · exact ⟨rfl, .inr ⟨now, _, rfl, .first found s hfound hphase (hs.mono hafter)⟩⟩
  · exact ⟨rfl, .inr ⟨now, _, rfl, .again s (hconflict.mono hafter) (hafter hreread)⟩⟩

/-! ### Starts -/

/-- A credential was issued for a session, well or not, right after the caller had found the session
over and had marked it as a continuation. -/
def Continues (issuer : Issuer) (who : Client) (ref : ObjectRef) (past : List (Answer demands)) :
    Prop :=
  ∃ found updated issued rest outcome, found.isTerminal = true ∧
    (issuer.issue ref).Ends issued outcome ∧
    past = ⟨.cluster who (.getSession ref), .ok found⟩ ::
      ⟨.cluster who (.updateSession (continued ref.name found)), .ok updated⟩ :: (issued ++ rest)

/-- Issuing a credential sends no session back. -/
theorem not_issue?_reaches (hsends : call.sendsSession = true) :
    ¬ (issuer.issue? ref : Action CredentialError (Option IssuedCredential)).Reaches past
      (.cluster caller call) := by
  intro h
  have hfollows : (issuer.issue? ref : Action CredentialError (Option IssuedCredential)).Follows
      (issuer.contract (issuer.Asks (fun _ _ => True) ref) fun _ _ => True) fun _ => True :=
    issuer.issue?_follows
  have hasks := (Action.follows_iff.mp hfollows).reaches h fun _ _ => Contract.gets_ofCalls
  cases hasks.2 with
  | prepare h => cases h <;> cases hsends
  | token | record => cases hsends
  | store _ _ h => cases h <;> cases hsends

theorem not_reread_reaches {job : String} {credential : Option IssuedCredential}
    (hsends : call.sendsSession = true) :
    ¬ (reread who ref job credential).Reaches past (.cluster caller call) := by
  have hread : ∀ {past}, ¬ (ask who (.getSession ref) >>= fun session : Session =>
      pure (session, credential) : Action CredentialError _).Reaches past
        (.cluster caller call) := by
    intro past h
    rcases Action.reaches_bind.mp h with h | ⟨_, _, _, _, _, h⟩
    · cases (reaches_ask.mp h).2
      cases hsends
    · exact Action.not_reaches_pure h
  intro h
  unfold reread at h
  dsimp only at h
  split at h
  · rcases Action.reaches_bind.mp h with h | ⟨_, _, past, rfl, _, h⟩
    · cases (reaches_attempt.mp h).2
      cases hsends
    · exact hread h
  · exact hread h

theorem reread_ends {job : String} {credential : Option IssuedCredential}
    {outcome : Session × Option IssuedCredential}
    (h : (reread who ref job credential).Ends past (.ok outcome)) :
    Read who ref past outcome.1 := by
  have hread : ∀ {past}, (ask who (.getSession ref) >>= fun session : Session =>
      pure (session, credential) : Action CredentialError _).Ends past (.ok outcome) →
        Read who ref past outcome.1 := by
    intro past h
    obtain ⟨s, before, after, rfl, hread, h⟩ := Action.ends_bind_ok.mp h
    obtain ⟨_, heq⟩ := Action.ends_pure.mp h
    cases heq
    rw [ends_ask.mp hread]
    exact List.mem_cons_self
  unfold reread at h
  dsimp only at h
  split at h
  · obtain ⟨_, _, past, rfl, _, h⟩ := Action.ends_bind_ok.mp h
    exact List.mem_append_right _ (hread h)
  · exact hread h

/-- A session that is resumed is marked as a continuation. -/
theorem resume_reaches (h : (resume issuer who ref session).Reaches past (.cluster caller call))
    (hsends : call.sendsSession = true) :
    caller = who ∧ call = .updateSession (continued ref.name session) := by
  rw [resume_eq] at h
  rcases Action.reaches_bind.mp h with h | ⟨_, _, past, rfl, _, h⟩
  · cases (reaches_ask.mp (Action.reaches_discard.mp h)).2
    exact ⟨rfl, rfl⟩
  · rcases Action.reaches_bind.mp h with h | ⟨credential, _, past, rfl, _, h⟩
    · exact absurd h (not_issue?_reaches hsends)
    · exact absurd h (not_reread_reaches hsends)

/-- Issuing a credential if that can be done is issuing it, and never fails. -/
theorem issue?_ends {x : Except CredentialError (Option IssuedCredential)}
    (h : (issuer.issue? ref : Action CredentialError (Option IssuedCredential)).Ends past x) :
    (∃ credential, x = .ok credential) ∧ ∃ outcome, (issuer.issue ref).Ends past outcome := by
  unfold Issuer.issue? at h
  rcases Action.ends_bind.mp h with ⟨outcome, before, after, rfl, hissue, h⟩ | ⟨e, _, hissue⟩
  · obtain ⟨y, hy, _⟩ := Action.ends_outcome.mp hissue
    have hpure : ∃ credential, after = [] ∧ x = .ok credential := by
      cases outcome with
      | ok v => exact ⟨some v, Action.ends_pure.mp h⟩
      | error e => exact ⟨none, Action.ends_pure.mp h⟩
    obtain ⟨credential, rfl, rfl⟩ := hpure
    rw [List.append_nil]
    exact ⟨⟨credential, rfl⟩, y, hy⟩
  · obtain ⟨_, _, heq⟩ := Action.ends_outcome.mp hissue
    cases heq

/-- However a resumption ends, a credential was issued in it right after the session was marked, or
the session could not be marked and nothing else was asked. -/
theorem resume_ends {x : Except CredentialError (Session × Option IssuedCredential)}
    (h : (resume issuer who ref session).Ends past x) :
    (∃ e e', x = .error e ∧
      past = [⟨.cluster who (.updateSession (continued ref.name session)), .error e'⟩]) ∨
    ∃ updated issued rest outcome job credential,
      past = ⟨.cluster who (.updateSession (continued ref.name session)), .ok updated⟩ ::
        (issued ++ rest) ∧
      (issuer.issue ref).Ends issued outcome ∧ (reread who ref job credential).Ends rest x := by
  rw [resume_eq] at h
  rcases Action.ends_bind.mp h with ⟨_, marked, past, rfl, hmark, h⟩ | ⟨e, rfl, hmark⟩
  · obtain ⟨y, hmark, heq⟩ := Action.ends_discard.mp hmark
    cases y with
    | error e => cases heq
    | ok updated =>
      rw [ends_ask.mp hmark]
      rcases Action.ends_bind.mp h with ⟨credential, issued, rest, rfl, hissue, h⟩ | ⟨e, _, hissue⟩
      · obtain ⟨_, outcome, hissued⟩ := issue?_ends hissue
        exact .inr ⟨updated, issued, rest, outcome, _, credential, rfl, hissued, h⟩
      · obtain ⟨⟨_, heq⟩, _⟩ := issue?_ends hissue
        cases heq
  · obtain ⟨y, hmark, heq⟩ := Action.ends_discard.mp hmark
    cases y with
    | ok updated => cases heq
    | error e' =>
      obtain ⟨refusal, hpast⟩ := ends_ask_error hmark
      exact .inl ⟨e, refusal, rfl, hpast⟩

/-- A resumption that ends well is the path of a continuation. -/
theorem resume_continues {found : Session} {outcome : Session × Option IssuedCredential}
    (hphase : found.isTerminal = true) (h : (resume issuer who ref found).Ends past (.ok outcome))
    (after : List (Answer demands)) :
    Continues issuer who ref (⟨.cluster who (.getSession ref), .ok found⟩ :: (past ++ after)) ∧
      Read who ref past outcome.1 := by
  rcases resume_ends h with ⟨_, _, heq, _⟩ | ⟨updated, issued, rest, outcome, _, _, rfl, hissued, h⟩
  · cases heq
  · refine ⟨⟨found, updated, issued, rest ++ after, outcome, hphase, hissued, ?_⟩, ?_⟩
    · rw [List.cons_append, List.append_assoc]
    · exact List.mem_cons_of_mem _ (List.mem_append_right _ (reread_ends h))

theorem finish_reaches {continuation : Bool} {outcome : Session × Option IssuedCredential}
    (h : (finish policy who ref continuation outcome).Reaches past (.cluster caller call))
    (hsends : call.sendsSession = true) :
    caller = who ∧ ∃ now s, call = .updateSessionStatus (started now s) ∧
      (s = outcome.1 ∨ (Conflicted past ∧ Read who ref past s)) := by
  unfold finish at h
  rcases Action.reaches_bind.mp h with h | ⟨now, timed, past, rfl, _, h⟩
  · cases (Action.reaches_clock.mp h).2
  rcases Action.reaches_bind.mp h with h | ⟨_, _, _, _, _, h⟩
  · obtain ⟨rfl, s, rfl, hs⟩ := writeStatus_reaches (Action.reaches_mapError.mp h) hsends
    refine ⟨rfl, now, s, rfl, hs.imp id fun ⟨hconflict, hread⟩ => ?_⟩
    have hpast : past ⊆ timed ++ past := fun x hx => List.mem_append_right _ hx
    exact ⟨hconflict.mono hpast, hpast hread⟩
  · exact absurd h Action.not_reaches_pure

/-- **Writes of starts.**  A start marks the session it found as a continuation if that is over,
and writes the phase Pending over a phase that it found not to end the session, or after it took the
path of a continuation, unless it met a conflict. -/
theorem start_reaches (h : (start policy issuer who ref).Reaches past (.cluster caller call))
    (hsends : call.sendsSession = true) :
    caller = who ∧
      ((∃ found, Read who ref past found ∧ call = .updateSession (continued ref.name found)) ∨
        ∃ now written, call = .updateSessionStatus written ∧
          StatusWrite who ref (started now) (Continues issuer who ref past) past written) := by
  rw [start_eq] at h
  rcases Action.reaches_bind.mp h with hread | ⟨found, before, after, rfl, hread, h⟩
  · cases (reaches_ask.mp hread).2
    cases hsends
  rw [ends_ask.mp hread]
  rcases Action.reaches_bind.mp h with h | ⟨outcome, resumed, finished, rfl, hresumed, h⟩
  · split at h
    · obtain ⟨rfl, rfl⟩ := resume_reaches h hsends
      exact ⟨rfl, .inl ⟨found, List.mem_cons_self, rfl⟩⟩
    · exact absurd h Action.not_reaches_pure
  have hfinished :
      finished ⊆ [⟨.cluster who (.getSession ref), .ok found⟩] ++ (resumed ++ finished) :=
    fun x hx => List.mem_append_right _ (List.mem_append_right _ hx)
  obtain ⟨rfl, now, s, rfl, rfl | ⟨hconflict, hreread⟩⟩ := finish_reaches h hsends
  · refine ⟨rfl, .inr ⟨now, _, rfl, ?_⟩⟩
    split at hresumed
    · next hphase =>
      obtain ⟨hcontinues, hreread⟩ := resume_continues hphase hresumed finished
      exact .continued outcome.1 hcontinues
        (List.mem_append_right _ (List.mem_append_left _ hreread))
    · next hphase =>
      obtain ⟨_, heq⟩ := Action.ends_pure.mp hresumed
      cases heq
      exact .first found found List.mem_cons_self (by simpa using hphase) .found
  · exact ⟨rfl, .inr ⟨now, _, rfl, .again s (hconflict.mono hfinished) (hfinished hreread)⟩⟩

end Transition

end CredentialBroker
