import CredentialBroker.Proofs.Transition.Writes
import CredentialBroker.Proofs.World.Event
import CredentialBroker.Web.Service

namespace CredentialBroker

/-!
# As whom the requests of users are answered

A request on a route for users is answered as the client of the token it presents.  Only the issue
of a credential within a start is asked as the platform, after the client has found the session over
and has marked it.

* `Transition.start_ends` — as whom a start asks;
* `Web.Service.respondTo_ends` — so do all answers to users;
* `Web.Service.respond_as_caller` — nothing is asked without a token, and as whom the rest is.
-/

/-- As whom a request is asked, if it is one to the cluster. -/
def Demand.caller? : Demand → Option Client
  | .cluster who _ => some who
  | .exchange .. | .clock | .pause _ => none

/-- The request, if it is one to the cluster, was asked as a client. -/
def Answer.MadeBy (who : Client) (x : Answer demands) : Prop :=
  ∀ caller ∈ x.request.caller?, caller = who

instance {who : Client} {x : Answer demands} : Decidable (x.MadeBy who) :=
  inferInstanceAs (Decidable (∀ caller ∈ x.request.caller?, caller = who))

variable {who : Client} {ref : ObjectRef} {past after : List (Answer demands)}

theorem Answer.madeBy_cluster {call : Call} {reply : Except ClusterError call.Reply} :
    Answer.MadeBy who ⟨.cluster who call, reply⟩ := by
  rintro caller ⟨⟩
  rfl

/-- Where only one client may call, all was asked as it. -/
theorem Action.Follows.madeBy {ε α : Type} {a : Action ε α} {asks : Client → Call → Prop}
    {ends : α → Prop} {x : Except ε α} (h : a.Follows (.ofCalls asks fun _ _ => True) ends)
    (hasks : ∀ caller call, asks caller call → caller = who) (hends : a.Ends past x) :
    ∀ y ∈ past, y.MadeBy who := by
  obtain ⟨hall, _⟩ :=
    (Action.follows_iff.mp h).course hends fun _ _ => Contract.gets_ofCalls
  rintro ⟨r, reply⟩ hy caller hcaller
  have hr := hall _ hy
  cases r with
  | cluster who' call =>
    cases hcaller
    exact hasks _ _ hr
  | exchange | clock | pause => cases hcaller

namespace Transition

variable {policy : RetryPolicy} {issuer : Issuer} {found : Session} {issued : List (Answer demands)}

/-- The course of a continuation: the client finds a session over and marks it, a credential is
issued for it, well or not, in the answers `issued`, and the client asks the rest. -/
def Continuation (issuer : Issuer) (who : Client) (ref : ObjectRef) (found : Session)
    (issued past : List (Answer demands)) : Prop :=
  found.isTerminal = true ∧ ∃ updated rest outcome,
    past = ⟨.cluster who (.getSession ref), .ok found⟩ ::
      ⟨.cluster who (.updateSession (continued ref.name found)), .ok updated⟩ :: (issued ++ rest) ∧
    (issuer.issue ref).Ends issued outcome ∧ ∀ x ∈ rest, x.MadeBy who

theorem Continuation.append (h : Continuation issuer who ref found issued past)
    (hafter : ∀ x ∈ after, x.MadeBy who) :
    Continuation issuer who ref found issued (past ++ after) := by
  obtain ⟨hphase, updated, rest, outcome, rfl, hissue, hrest⟩ := h
  refine ⟨hphase, updated, rest ++ after, outcome, ?_, hissue, ?_⟩
  · rw [List.cons_append, List.cons_append, List.append_assoc]
  · exact List.forall_mem_append.mpr ⟨hrest, hafter⟩

/-- The credential is issued as the issuer. -/
theorem Continuation.madeBy (h : Continuation issuer who ref found issued past) :
    ∀ x ∈ issued, x.MadeBy issuer.client := by
  obtain ⟨_, _, _, _, _, hissue, _⟩ := h
  exact issuer.issue_follows.madeBy (fun _ _ hcall => hcall.1) hissue

/-- A session that was found over is resumed by its client alone, unless it could be marked. -/
theorem resume_madeBy {x : Except CredentialError (Session × Option IssuedCredential)}
    (hphase : found.isTerminal = true) (h : (resume issuer who ref found).Ends past x) :
    (∀ y ∈ past, y.MadeBy who) ∨
      ∃ issued, Continuation issuer who ref found issued
        (⟨.cluster who (.getSession ref), .ok found⟩ :: past) := by
  rcases resume_ends h with
    ⟨_, _, _, rfl⟩ | ⟨updated, issued, rest, outcome, _, _, rfl, hissue, hreread⟩
  · exact .inl (List.forall_mem_singleton.mpr Answer.madeBy_cluster)
  · exact .inr ⟨issued, hphase, updated, rest, outcome, rfl, hissue,
      (reread_follows fun _ _ => rfl).madeBy (fun _ _ => id) hreread⟩

/-- **As whom a start asks.**  A start asks all as its client, unless it takes the course of a
continuation. -/
theorem start_ends {x : Except CredentialError StartOutcome}
    (h : (start policy issuer who ref).Ends past x) :
    (∀ y ∈ past, y.MadeBy who) ∨ ∃ found issued, Continuation issuer who ref found issued past := by
  rw [start_eq] at h
  rcases Action.ends_bind.mp h with ⟨found, read, past, rfl, hread, h⟩ | ⟨e, rfl, hread⟩
  · rw [ends_ask.mp hread, List.singleton_append]
    -- What comes before the status write, however it ends.
    have hresumed : ∀ {resumed y}, (if found.isTerminal then resume issuer who ref found
        else pure (found, none)).Ends resumed y → (∀ z ∈ resumed, z.MadeBy who) ∨
          ∃ issued, Continuation issuer who ref found issued
            (⟨.cluster who (.getSession ref), .ok found⟩ :: resumed) := by
      intro resumed y h
      split at h
      · next hphase => exact resume_madeBy hphase h
      · rw [(Action.ends_pure.mp h).1]
        exact .inl (List.forall_mem_nil _)
    rcases Action.ends_bind.mp h with ⟨outcome, resumed, finished, rfl, h, hfinish⟩ | ⟨_, _, h⟩
    · have hfinished : ∀ y ∈ finished, y.MadeBy who :=
        (finish_follows fun _ _ => rfl).madeBy (fun _ _ => id) hfinish
      rcases hresumed h with hmade | ⟨issued, hcontinued⟩
      · exact .inl (List.forall_mem_cons.mpr
          ⟨Answer.madeBy_cluster, List.forall_mem_append.mpr ⟨hmade, hfinished⟩⟩)
      · exact .inr ⟨found, issued, hcontinued.append hfinished⟩
    · exact (hresumed h).imp (fun hmade => List.forall_mem_cons.mpr ⟨Answer.madeBy_cluster, hmade⟩)
        fun hcontinued => ⟨found, hcontinued⟩
  · obtain ⟨_, rfl⟩ := ends_ask_error hread
    exact .inl (List.forall_mem_singleton.mpr Answer.madeBy_cluster)

end Transition

namespace Web

variable {s : Service} {r : Request} {wish : UserRoute} {response : Response}

theorem answer_ends {α : Type} {a : Action CredentialError α} {f : α → Response}
    (h : (answer a f).Ends past response) : ∃ x, a.Ends past x := by
  obtain ⟨x, before, after, rfl, ha, h⟩ := Program.ends_bind.mp h
  have hafter : after = [] := by
    cases x with
    | ok v => exact (Program.course_done.mp h).1
    | error e => exact (Program.course_done.mp h).1
  rw [hafter, List.append_nil]
  exact ⟨x, ha⟩

/-- **As whom users are answered.**  What a user wishes for is asked as the user's client, unless it
is a start that continues the session its path names. -/
theorem Service.respondTo_ends (h : (s.respondTo who wish).Ends past response) :
    (∀ x ∈ past, x.MadeBy who) ∨
      ∃ project session ref found issued, wish = .start project session ∧
        sessionRef project session = .ok ref ∧
        Transition.Continuation s.issuer who ref found issued past := by
  -- A path whose parameters are no text is answered at once.
  have hnone : ∀ {bad : Response}, Program.Ends (σ := demands) (pure bad) past response →
      ∀ x ∈ past, x.MadeBy who := by
    intro bad h
    rw [(Program.course_done.mp h).1]
    exact List.forall_mem_nil _
  unfold respondTo at h
  cases wish with
  | start project session =>
    dsimp only at h
    split at h
    · next ref href =>
      obtain ⟨x, hstart⟩ := answer_ends h
      exact (Transition.start_ends hstart).imp id fun ⟨found, issued, hcontinued⟩ =>
        ⟨project, session, ref, found, issued, rfl, href, hcontinued⟩
    · exact .inl (hnone h)
  | stop project session =>
    dsimp only at h
    split at h
    · obtain ⟨x, hstop⟩ := answer_ends h
      exact .inl (Transition.stop_follows.madeBy (fun _ _ hcall => hcall.1) hstop)
    · exact .inl (hnone h)
  | authorize project session provider =>
    dsimp only at h
    split at h
    · obtain ⟨x, hbegin⟩ := answer_ends h
      exact .inl (OAuthFlow.begin_follows_read.madeBy (fun _ _ hcall => hcall.1) hbegin)
    · exact .inl (hnone h)
    · exact .inl (hnone h)

/-- The answer to a request without a token. -/
def unauthenticated : Response :=
  ⟨401, some "application/json", "\x7b\"error\":\"unauthenticated\"\x7d"⟩

/-- Without a token the answer is the same for everyone, and it is there at once. -/
theorem Service.respond_of_none (hroute : Route.ofPath? r.path = some (.user wish))
    (htoken : r.token? = none) :
    s.respond r =
      pure (if r.method = "HEAD" then unauthenticated.withoutBody else unauthenticated) := by
  unfold respond respondOn
  rw [hroute]
  dsimp only
  rw [htoken]
  rfl

/-- Nor is anything done beside it. -/
theorem Service.usage_of_none (htoken : r.token? = none) : s.usage r = pure () := by
  unfold usage
  rw [htoken]
  cases Route.ofPath? r.path with
  | none => rfl
  | some route => cases route <;> rfl

/-- With a token the answer is the one to the client of that token, whatever becomes of its
content. -/
theorem Service.respond_ends {token : String}
    (hroute : Route.ofPath? r.path = some (.user wish)) (htoken : r.token? = some token)
    (h : (s.respond r).Ends past response) :
    (∀ x ∈ past, x.MadeBy (.bearer token)) ∨
      ∃ project session ref found issued, wish = .start project session ∧
        sessionRef project session = .ok ref ∧
        Transition.Continuation s.issuer (.bearer token) ref found issued past := by
  unfold respond respondOn at h
  rw [hroute] at h
  dsimp only at h
  rw [htoken] at h
  obtain ⟨content, before, after, rfl, hcontent, h⟩ := Program.ends_bind.mp h
  rw [(Program.course_done.mp h).1, List.append_nil]
  dsimp only at hcontent
  split at hcontent
  · exact Service.respondTo_ends hcontent
  · rw [(Program.course_done.mp hcontent).1]
    exact .inl (List.forall_mem_nil _)

/-- **Requests of users are answered as their clients.**  A request on a route for users that
presents no token gets the answer that it is unauthenticated, without its content if the method is
HEAD; the cluster is not called and stays as it is, also beside the answer.  For a request with a
token the cluster is called as the client of that token, unless the request starts a session that
the cluster has stored as over: then the client reads the session and marks it, a credential is
issued for it as the platform, and the rest is asked as the client again. -/
theorem Service.respond_as_caller (hissuer : s.issuer.client = .platform)
    (hroute : Route.ofPath? r.path = some (.user wish)) (env : Surroundings) (world : Simulation) :
    let answers := (s.respond r).answers (Simulation.handler env) world
    (r.token? = none →
      answers = [] ∧
      (s.respond r).run (Simulation.handler env) world =
        (if r.method = "HEAD" then unauthenticated.withoutBody else unauthenticated, world) ∧
      (s.usage r).run (Simulation.handler env) world = ((), world)) ∧
    ∀ token, r.token? = some token →
      (∀ x ∈ answers, x.MadeBy (.bearer token)) ∨
        ∃ project session ref found issued, wish = .start project session ∧
          sessionRef project session = .ok ref ∧
          world.cluster.objects.sessions.get? ref = some found ∧
          Transition.Continuation s.issuer (.bearer token) ref found issued answers ∧
          ∀ x ∈ issued, x.MadeBy .platform := by
  intro answers
  constructor
  · intro htoken
    have hrespond := s.respond_of_none hroute htoken
    refine ⟨?_, ?_, ?_⟩
    · show (s.respond r).answers _ _ = []
      rw [hrespond]
      rfl
    · rw [hrespond]
      rfl
    · rw [Service.usage_of_none htoken]
      rfl
  · intro token htoken
    have hends : (s.respond r).Ends answers _ :=
      Program.ends_answers (Simulation.handler env) (s.respond r) world
    refine (Service.respond_ends hroute htoken hends).imp id ?_
    rintro ⟨project, session, ref, found, issued, hwish, href, hcontinued⟩
    refine ⟨project, session, ref, found, issued, hwish, href, ?_, hcontinued,
      hissuer ▸ hcontinued.madeBy⟩
    -- The session was read first, so it is what the cluster had stored then.
    obtain ⟨_, _, _, _, hcourse, _⟩ := hcontinued
    have hread : (world.cluster.step env.supply world.now (.bearer token) (.getSession ref)).1 =
        .ok found := (Program.reply_of_answers hcourse).symm
    obtain ⟨_, _, happly⟩ := ClusterState.apply_of_step hread
    exact (Objects.apply_getSession.mp happly).2

/-- A user who may do all in a namespace starts a session there that is over. -/
theorem Service.respond_as_caller_start :
    let service : Service := { issuer := Deployment.plain.issuer, flow := Deployment.plain.flow }
    let env := Deployment.plain.surroundings fun _ => .error .timedOut
    let world := Deployment.plain.run
      [.putSession ((Session.ofUser ⟨"team", "alpha"⟩ "ada" ∅).withPhase .completed ""),
        .registerToken "key" "ada", .grant ⟨"ada", "team", ⟨["*"], ["*"], ["*"]⟩⟩]
      ⟨.ofSeconds 0, {}⟩
    let r : Request := ⟨"POST", "/api/projects/team/sessions/alpha/start", "",
      [("Authorization", Text.utf8 "Bearer key")]⟩
    let answers := (service.respond r).answers (Simulation.handler env) world
    service.issuer.client = .platform ∧
      Route.ofPath? r.path = some (.user (.start "team" "alpha")) ∧ r.token? = some "key" ∧
      (¬ ∀ x ∈ answers, x.MadeBy (.bearer "key")) ∧
      ∃ ref found issued, sessionRef "team" "alpha" = .ok ref ∧
        world.cluster.objects.sessions.get? ref = some found ∧
        Transition.Continuation service.issuer (.bearer "key") ref found issued answers ∧
        ∀ x ∈ issued, x.MadeBy .platform := by
  intro service env world r answers
  have hroute : Route.ofPath? r.path = some (.user (.start "team" "alpha")) := by decide +kernel
  have htoken : r.token? = some "key" := by decide +kernel
  have hplatform : ¬ ∀ x ∈ answers, x.MadeBy (.bearer "key") := by decide +kernel
  refine ⟨rfl, hroute, htoken, hplatform, ?_⟩
  have hissuer : service.issuer.client = .platform := rfl
  have hcaller := (Service.respond_as_caller hissuer hroute env world).2 "key" htoken
  obtain ⟨_, _, ref, found, issued, hwish, href, hcourse⟩ := hcaller.resolve_left hplatform
  cases hwish
  exact ⟨ref, found, issued, href, hcourse⟩

/-- **A HEAD request without a token gets no content.**  It is answered on the route of
authorization flows, and told by its status alone that it is unauthenticated. -/
theorem Service.respond_head_unauthenticated :
    let service : Service := { issuer := Deployment.plain.issuer, flow := Deployment.plain.flow }
    let env := Deployment.plain.surroundings fun _ => .error .timedOut
    let r : Request := ⟨"HEAD", "/api/projects/team/sessions/alpha/oauth/google/url", "", []⟩
    let route : Route := .user (.authorize "team" "alpha" "google")
    let response := ((service.respond r).run (Simulation.handler env) ⟨.ofSeconds 0, {}⟩).1
    Route.ofPath? r.path = some route ∧ route.allows r.method ∧ r.token? = none ∧
      response.status = 401 ∧ response.body = "" ∧ response.body ≠ unauthenticated.body := by
  decide +kernel

end Web

end CredentialBroker
