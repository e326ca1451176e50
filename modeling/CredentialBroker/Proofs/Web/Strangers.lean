import CredentialBroker.Proofs.Credential.Usage
import CredentialBroker.Proofs.Web.Caller
import CredentialBroker.Proofs.World.Interleaving

namespace CredentialBroker

/-!
# What strangers can do

A stranger is a client whose token the cluster does not know.  Whatever a stranger asks for, the
cluster refuses, so nothing is done for them and the answer says so.  The use of the token is noted
beside the answer all the same, as the platform: that changes the time of the last use of one access
key at most.

* `ClusterState.step_stranger` — the calls of a stranger;
* `Web.Service.respond_follows` — what a stranger's request makes of them;
* `Web.Service.strangers_contained` — answer and note side by side, whatever fails meanwhile.
-/

/-- A stranger's call fails and changes no object. -/
theorem ClusterState.step_stranger {supply : Supply} {now : Timestamp} {s : ClusterState}
    {who : Client} {call : Call} (hwho : s.objects.userOf? who = none) :
    (s.step supply now who call).2.objects = s.objects ∧
      ∀ v, (s.step supply now who call).1 ≠ .ok v := by
  cases hstep : s.step supply now who call with
  | mk x t =>
    cases x with
    | error e => exact ⟨(step_error hstep).1, nofun⟩
    | ok v =>
      obtain ⟨_, user, huser, _⟩ := step_eq_ok hstep
      rw [hwho] at huser
      cases huser

/-- The contract of programs all of whose calls are made as certain clients and fail. -/
def Contract.unheard (callers : Client → Prop) : Contract demands :=
  .ofCalls (fun who _ => callers who) fun _ _ => False

variable {callers : Client → Prop} {who : Client} {ref : ObjectRef}

/-! ### Actions -/

/-- A call that fails does not end well. -/
theorem Action.follows_unheard {ε : Type} {f : ClusterError → ε} {call : Call}
    (hwho : callers who) :
    ((Action.cluster who call).mapError f).Follows (.unheard callers) fun _ => False := by
  refine Action.follows_mapError (Action.follows_cluster hwho fun v hv => ?_)
  exact hv v rfl

/-- A start begins with a call. -/
theorem Transition.start_unheard {policy : RetryPolicy} {issuer : Issuer} (hwho : callers who) :
    (start policy issuer who ref).Follows (.unheard callers) fun _ => False := by
  rw [start_eq]
  exact Action.follows_bind (Action.follows_unheard hwho) fun _ h => h.elim

/-- So does a stop. -/
theorem Transition.stop_unheard {policy : RetryPolicy} (hwho : callers who) :
    (stop policy who ref).Follows (.unheard callers) fun _ => False := by
  unfold stop
  exact Action.follows_bind (Action.follows_unheard hwho) fun _ h => h.elim

/-- A flow makes sure that its session can be read before it gives a state token away. -/
theorem OAuthFlow.begin_unheard {f : OAuthFlow} {provider : String} (hwho : callers who) :
    (f.begin who ref provider).Follows (.unheard callers) fun _ => False := by
  have hread : (discard ((Action.cluster who (.getSession ref)).mapError
      ClusterError.toCredential)).Follows (.unheard callers) fun _ => False :=
    Action.follows_map (Action.follows_unheard hwho)
  unfold begin
  refine Action.follows_bind Action.follows_known fun signer _ => ?_
  refine Action.follows_bind Action.follows_known fun provider _ => ?_
  exact Action.follows_bind hread fun _ h => h.elim

namespace Web

/-! ### Answers -/

/-- The answer says that what was asked for has been done. -/
def Response.Succeeds (r : Response) : Prop := 200 ≤ r.status ∧ r.status < 300

theorem not_succeeds_of_le {r : Response} (h : 300 ≤ r.status) : ¬ r.Succeeds :=
  fun hsucceeds => absurd hsucceeds.2 (Nat.not_lt.mpr h)

theorem three_hundred_le_status (e : CredentialError) : 300 ≤ e.status := by
  cases e <;> exact Nat.le_of_ble_eq_true rfl

theorem unescaped_eq_error {name value : String} {response : Response}
    (h : unescaped name value = .error response) : ¬ response.Succeeds := by
  unfold unescaped at h
  split at h
  · cases h
  · cases h
    exact not_succeeds_of_le (Nat.le_of_ble_eq_true rfl)

theorem sessionRef_eq_error {project session : String} {response : Response}
    (h : sessionRef project session = .error response) : ¬ response.Succeeds := by
  unfold sessionRef at h
  rw [Outcome.bind_eq_error] at h
  obtain h | ⟨ns, _, h⟩ := h
  · exact unescaped_eq_error h
  · rw [Outcome.bind_eq_error] at h
    obtain h | ⟨name, _, h⟩ := h
    · exact unescaped_eq_error h
    · cases h

/-- An action that never ends well is answered with its failure. -/
theorem answer_unheard {α : Type} {a : Action CredentialError α} {f : α → Response}
    (h : a.Follows (.unheard callers) fun _ => False) :
    (answer a f).Follows (.unheard callers) fun response => ¬ response.Succeeds := by
  refine Program.follows_bind.mpr ?_
  refine (Action.follows_iff.mp h).mono (fun _ => id) (fun _ _ => id) fun x hx => ?_
  cases x with
  | ok v => exact (hx v rfl).elim
  | error e => exact not_succeeds_of_le (three_hundred_le_status e)

namespace Service

variable {s : Service} {r : Request} {wish : UserRoute}

theorem respondTo_unheard (hwho : callers who) (wish : UserRoute) :
    (s.respondTo who wish).Follows (.unheard callers) fun response => ¬ response.Succeeds := by
  unfold respondTo
  cases wish with
  | start project session =>
    dsimp only
    split
    · exact answer_unheard (Transition.start_unheard hwho)
    · next href => exact sessionRef_eq_error href
  | stop project session =>
    dsimp only
    split
    · exact answer_unheard (Transition.stop_unheard hwho)
    · next href => exact sessionRef_eq_error href
  | authorize project session provider =>
    dsimp only
    split
    · exact answer_unheard (OAuthFlow.begin_unheard hwho)
    · next href => exact sessionRef_eq_error href
    · next hprovider _ => exact unescaped_eq_error hprovider

/-- **Requests of strangers.**  Whatever a user's request asks for, if all calls of its client fail
then so does the request. -/
theorem respond_unheard (hroute : Route.ofPath? r.path = some (.user wish)) :
    (s.respond r).Follows (.unheard fun who => ∃ token ∈ r.token?, who = .bearer token)
      fun response => ¬ response.Succeeds := by
  unfold respond
  rw [hroute]
  refine Program.follows_bind.mpr ?_
  have hcontent : (s.respondOn r (.user wish)).Follows
      (.unheard fun who => ∃ token ∈ r.token?, who = .bearer token)
      fun response => ¬ response.Succeeds := by
    unfold respondOn
    dsimp only
    cases htoken : r.token? with
    | none => exact not_succeeds_of_le (by decide)
    | some token =>
      dsimp only
      split
      · exact respondTo_unheard ⟨token, rfl, rfl⟩ wish
      · exact not_succeeds_of_le (by decide)
  refine hcontent.mono (fun _ => id) (fun _ _ => id) fun response hresponse => ?_
  -- A request for the headers alone gets the same status.
  split <;> exact hresponse

/-! ### Answer and note side by side -/

/-- What is done beside the answer keeps to the calls of a note. -/
theorem usage_follows (o : Objects) : (s.usage r).Follows
    (.ofCalls (fun who call => ∃ token ∈ r.token?, Usage.Asks token o who call) (Usage.Tells o))
    fun _ => True := by
  unfold usage
  split
  · next token _ htoken =>
    refine (Usage.program_follows s.notesUsage token o).mono (fun demand hasks => ?_)
      (fun _ _ => id) fun _ => id
    cases demand with
    | cluster who call => exact ⟨token, htoken, hasks⟩
    | exchange | clock | pause => trivial
  · trivial

end Service

/-- What a request comes to: its answer, and the note beside it. -/
inductive Strand where
  /-- The answer. -/
  | answer
  /-- The note of the use of the token. -/
  | note
deriving DecidableEq

namespace Strand

/-- The program of a strand; only the one of the answer ends with a response. -/
def program (s : Service) (r : Request) : Strand → Program demands (Option Response)
  | .answer => some <$> s.respond r
  | .note => (fun _ => none) <$> s.usage r

/-- The calls of a strand, on objects that are as given but for a note. -/
def Asks (r : Request) (o : Objects) (who : Client) (call : Call) : Strand → Prop
  | .answer => ∃ token ∈ r.token?, who = .bearer token
  | .note => ∃ token ∈ r.token?, Usage.Asks token o who call

/-- What the calls of a strand tell if they succeed; those of a stranger do not. -/
def Tells (o : Objects) (call : Call) (reply : call.Reply) : Strand → Prop
  | .answer => False
  | .note => Usage.Tells o call reply

/-- The objects are as they were, but for a note of the use of the token that the request
presents. -/
def Noted (r : Request) (o o' : Objects) : Prop :=
  o' = o ∨ ∃ token ∈ r.token?, Usage.Noted token o o'

variable {s : Service} {r : Request} {wish : UserRoute} {o o' : Objects}

theorem Noted.tokens (h : Noted r o o') : o'.tokens = o.tokens := by
  obtain rfl | ⟨_, _, h⟩ := h
  · rfl
  · exact h.tokens

/-- Each strand keeps to its calls, and the answer to a stranger is a refusal. -/
theorem program_follows (hroute : Route.ofPath? r.path = some (.user wish)) (o : Objects)
    (strand : Strand) : (program s r strand).Follows
      (.ofCalls (fun who call => strand.Asks r o who call)
        fun call reply => strand.Tells o call reply)
      fun response => ∀ x ∈ response, ¬ x.Succeeds := by
  cases strand with
  | answer =>
    refine Program.follows_bind.mpr
      ((Service.respond_unheard hroute).mono (fun _ => id) (fun _ _ => id) ?_)
    rintro response hresponse _ ⟨⟩
    exact hresponse
  | note =>
    refine Program.follows_bind.mpr
      ((Service.usage_follows o).mono (fun _ => id) (fun _ _ => id) ?_)
    rintro _ _ _ ⟨⟩

/-- A step of a strand. -/
theorem step_noted {supply : Supply} {now : Timestamp} {t : ClusterState} {who : Client}
    {call : Call} {strand : Strand} (hstranger : ∀ token ∈ r.token?, o.tokens.get? token = none)
    (h : Noted r o t.objects) (hasks : strand.Asks r o who call) :
    Noted r o (t.step supply now who call).2.objects ∧
      ∀ v, (t.step supply now who call).1 = .ok v → strand.Tells o call v := by
  cases strand with
  | answer =>
    obtain ⟨token, htoken, rfl⟩ := hasks
    have hwho : t.objects.userOf? (.bearer token) = none := by
      show t.objects.tokens.get? token = none
      rw [h.tokens]
      exact hstranger token htoken
    obtain ⟨hobjects, hfails⟩ := ClusterState.step_stranger hwho
    refine ⟨?_, fun v hv => (hfails v hv).elim⟩
    rw [hobjects]
    exact h
  | note =>
    obtain ⟨token, htoken, hasks⟩ := hasks
    have hnoted : Usage.Noted token o t.objects := by
      obtain hsame | ⟨token', htoken', h⟩ := h
      · exact .inl hsame
      · obtain rfl : token = token' := Option.some.inj (htoken.symm.trans htoken')
        exact h
    obtain ⟨hstep, htells⟩ := Usage.step_noted hnoted hasks
    exact ⟨.inr ⟨token, htoken, hstep⟩, htells⟩

end Strand

/-- A move that leaves the objects to the programs: a turn of theirs, time, or a failure that comes
in. -/
def Quiet {ι : Type} : Move ι → Prop
  | .turn .. | .wait _ => True
  | .other h => ∃ op e, h = .failNext op e

theorem objects_of_quiet {ι : Type} {moves : List (Move ι)} (hquiet : ∀ m ∈ moves, Quiet m)
    {I : Objects → Prop} {supply : Supply} (h : Happening) (hmem : .other h ∈ moves)
    (now : Timestamp) (t : ClusterState) (ht : I t.objects) : I (h.run supply now t).objects := by
  obtain ⟨op, e, rfl⟩ := hquiet _ hmem
  exact ht

/-- **Strangers are refused.**  What is noted of the use of a token, whatever the token is and
whatever fails, changes at most the time of the last use of the one identity that the token claims
to be for, and only if that is an access key; so it is at every moment, should the note be given up
before its end.  A request on a route for users with a token that the cluster does not know, or with
none, changes nothing by its answer, and at every moment of answer and note together no more than
the note; and its answer is never one of success. -/
theorem Service.strangers_contained (s : Service) (supply : Supply) (world : Simulation) :
    let o := world.cluster.objects
    (∀ enabled token,
      (∀ exchange, Usage.Noted token o ((Usage.program enabled token).run
        (Simulation.handler ⟨supply, exchange⟩) world).2.cluster.objects) ∧
      ∀ moves : List (Move Unit), (∀ m ∈ moves, Quiet m) →
        Usage.Noted token o ((Interleaving.start (fun _ => Usage.program enabled token) world).run
          supply moves).world.cluster.objects) ∧
    ∀ r wish, Route.ofPath? r.path = some (.user wish) →
      (∀ token ∈ r.token?, o.tokens.get? token = none) →
      (∀ exchange,
        let (response, after) := (s.respond r).run (Simulation.handler ⟨supply, exchange⟩) world
        after.cluster.objects = o ∧ ¬ response.Succeeds) ∧
      ∀ moves : List (Move Strand), (∀ m ∈ moves, Quiet m) →
        let c := (Interleaving.start (Strand.program s r) world).run supply moves
        Strand.Noted r o c.world.cluster.objects ∧
          ∀ response, (c.threads .answer).value? = some (some response) →
            ¬ response.Succeeds := by
  intro o
  refine ⟨fun enabled token => ⟨fun exchange => ?_, fun moves hquiet => ?_⟩,
    fun r wish hroute hstranger => ⟨fun exchange => ?_, fun moves hquiet => ?_⟩⟩
  · exact (Simulation.follows_run ⟨supply, exchange⟩ (I := fun t => Usage.Noted token o t.objects)
      (fun _ _ _ _ ht hasks => Usage.step_noted ht hasks)
      (Usage.program_follows enabled token o) (.refl token o)).1
  · exact (Interleaving.run_follows (I := fun t => Usage.Noted token o t.objects)
      (fun _ _ _ _ _ ht hasks => Usage.step_noted ht hasks)
      (fun h hmem now t ht => objects_of_quiet hquiet h hmem now t ht)
      (fun _ => Usage.program_follows enabled token o) (.refl token o)).1
  · refine Simulation.follows_run ⟨supply, exchange⟩ (I := fun t => t.objects = o) ?_
      (Service.respond_unheard hroute) rfl
    rintro now t _ call ht ⟨token, htoken, rfl⟩
    have hwho : t.objects.userOf? (.bearer token) = none := by
      rw [ht]
      exact hstranger token htoken
    obtain ⟨hobjects, hfails⟩ := ClusterState.step_stranger hwho
    exact ⟨hobjects.trans ht, fun v hv => hfails v hv⟩
  · intro c
    obtain ⟨hnoted, hfollows⟩ := Interleaving.run_follows
      (I := fun t => Strand.Noted r o t.objects)
      (fun _ _ _ _ _ ht hasks => Strand.step_noted hstranger ht hasks)
      (fun h hmem now t ht => objects_of_quiet hquiet h hmem now t ht)
      (Strand.program_follows (s := s) hroute o) (.inl rfl)
    refine ⟨hnoted, fun response hvalue => ?_⟩
    have hanswer := hfollows .answer
    rw [Thread.value?_eq_some.mp hvalue] at hanswer
    exact hanswer response rfl

/-- A token nobody issued that claims to be for an access key: the use is noted, and the start that
is asked for with it is refused. -/
theorem Service.strangers_contained_forged :
    let service : Service := { issuer := Deployment.plain.issuer, flow := Deployment.plain.flow }
    let key : ServiceAccount := ⟨⟨"team", "key"⟩, .ofList [("app", "ambient-access-key")], ∅, []⟩
    let world : Simulation := ⟨.ofSeconds 0, ({} : ClusterState).putServiceAccount key⟩
    let r : Request := ⟨"POST", "/api/projects/team/sessions/alpha/start", "", [("Authorization",
      Text.utf8 "Bearer e30.eyJzdWIiOiJzeXN0ZW06c2VydmljZWFjY291bnQ6dGVhbTprZXkifQ.forged")]⟩
    let turn (strand : Strand) : Move Strand := .turn strand fun _ => .error .timedOut
    let moves := [turn .note, turn .note, turn .answer, turn .note]
    let c := (Interleaving.start (Strand.program service r) world).run .counting moves
    Route.ofPath? r.path = some (.user (.start "team" "alpha")) ∧
      (∀ token ∈ r.token?, world.cluster.objects.tokens.get? token = none) ∧
      Strand.Noted r world.cluster.objects c.world.cluster.objects ∧
      c.world.cluster.objects.accounts.get? key.ref =
        some (Usage.usedAt key "1970-01-01T00:00:00Z") ∧
      ∃ response, (c.threads .answer).value? = some (some response) ∧ response.status = 401 ∧
        ¬ response.Succeeds := by
  intro service key world r turn moves c
  have hroute : Route.ofPath? r.path = some (.user (.start "team" "alpha")) := by decide +kernel
  have hstranger : ∀ token ∈ r.token?, world.cluster.objects.tokens.get? token = none := by
    intro token _
    rfl
  have hmoves : ∀ m ∈ moves, Quiet m := by
    simp only [moves, turn, List.mem_cons, List.not_mem_nil, or_false]
    rintro m (rfl | rfl | rfl | rfl) <;> trivial
  have hused : c.world.cluster.objects.accounts.get? key.ref =
      some (Usage.usedAt key "1970-01-01T00:00:00Z") := by decide +kernel
  have hstatus : ((c.threads .answer).value?.bind id).map Response.status = some 401 := by
    decide +kernel
  obtain ⟨response, hresponse, hstatus⟩ := Option.map_eq_some_iff.mp hstatus
  obtain ⟨x, hx, rfl⟩ := Option.bind_eq_some_iff.mp hresponse
  obtain ⟨hnoted, hfails⟩ :=
    ((service.strangers_contained .counting world).2 r _ hroute hstranger).2 moves hmoves
  exact ⟨hroute, hstranger, hnoted, hused, response, hx, hstatus, hfails response hx⟩

end Web

end CredentialBroker
