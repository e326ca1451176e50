import CredentialBroker.Proofs.OAuth.Secrecy
import CredentialBroker.Proofs.Transition.Secrecy
import CredentialBroker.Proofs.World.Authorization
import CredentialBroker.Web.Service

namespace CredentialBroker.Web

/-!
# Answers tell no secret

Whatever is asked of this program, and whatever the cluster refuses or fails to do, the answer is
one and the same for all tokens that could have been minted, all octets that secrets could hold, all
secrets of this program at providers, and all tokens that providers could have granted.

* `Service.respond_alike` — two services that differ in those go on alike;
* `Service.respond_secret` — so their answers to a request are equal.
-/

/-- A token that a request bears: as a user's, or as that of a job. -/
def Request.Bears (r : Request) (token : String) : Prop :=
  r.token? = some token ∨ (r.header? "authorization").bind Bearer.ofHeader? = some token

/-- The token in a header has no blanks around it. -/
theorem trim_of_ofHeader? {value token : String} (h : Bearer.ofHeader? value = some token) :
    Text.trim token = token := by
  unfold Bearer.ofHeader? at h
  obtain ⟨⟨name, rest⟩, _, h⟩ := Option.bind_eq_some_iff.mp h
  dsimp only at h
  split at h
  · obtain ⟨hrest, _⟩ := Option.filter_eq_some_iff.mp h
    rw [← Option.some.inj hrest, Text.trim_trim]
  · cases h

/-! ### Answers -/

/-- The page after a redirect shows of a failure what every caller is shown. -/
theorem callbackResponse_alike {x x' : Except CredentialError CallbackOutcome}
    (h : Outcome.Alike CredentialError.Alike Eq x x') :
    callbackResponse x = callbackResponse x' := by
  cases h with
  | ok hv => rw [hv]
  | error he =>
    unfold callbackResponse
    dsimp only
    rw [he.status, he.publicMessage]

theorem answer_alike {k : Likeness} {α : Type} {a a' : Action CredentialError α}
    {f : α → Response} (h : a.Alike (Demand.Paired k) Eq Eq a') :
    (answer a f).Alike (Demand.Paired k) Eq (answer a' f) := by
  unfold answer
  refine Program.alike_bind (Action.alike_iff.mp h) fun x x' hx => ?_
  obtain rfl := Outcome.eq_of_alike hx
  cases x with
  | ok v => exact .done rfl
  | error e => exact .done rfl

/-! ### Services -/

namespace Service

variable {svc svc' : Service} {r : Request}

/-- The services differ in the secrets of this program at providers at most. -/
structure Alike (svc svc' : Service) : Prop where
  /-- What issues credentials. -/
  issuer : svc'.issuer = svc.issuer
  /-- The policy of status writes. -/
  policy : svc'.policy = svc.policy
  /-- The authorization flow. -/
  flow : svc.flow.Alike svc'.flow
  /-- Whether the use of access keys is noted. -/
  notesUsage : svc'.notesUsage = svc.notesUsage

/-- A token that is shown to the cluster when a request is answered: one that the request bears, or
the one with which credentials are issued, if they are not issued as the platform. -/
def Shows (svc : Service) (r : Request) (token : String) : Prop :=
  r.Bears token ∨ svc.issuer.client = .bearer token

/-- What the answers to a request by two services may differ in. -/
def likeness (svc svc' : Service) (r : Request) : Likeness :=
  svc.flow.likeness svc'.flow (svc.Shows r)

theorem issuer_shows : svc.issuer.client.Shows (svc.Shows r) := by
  cases h : svc.issuer.client with
  | platform => trivial
  | bearer token => exact .inr h

theorem respondTo_alike (h : svc.Alike svc') {who : Client} (hwho : who.Shows (svc.Shows r))
    (wish : UserRoute) :
    (svc.respondTo who wish).Alike (Demand.Paired (svc.likeness svc' r)) Eq
      (svc'.respondTo who wish) := by
  cases wish with
  | start project session =>
    unfold respondTo
    dsimp only
    split
    · unfold start
      rw [h.policy, h.issuer]
      exact answer_alike (Transition.start_alike hwho issuer_shows)
    · exact .done rfl
  | stop project session =>
    unfold respondTo
    dsimp only
    split
    · unfold stop
      rw [h.policy]
      exact answer_alike (Transition.stop_alike hwho)
    · exact .done rfl
  | authorize project session provider =>
    unfold respondTo
    dsimp only
    split
    · exact answer_alike (OAuthFlow.begin_alike h.flow hwho)
    · exact .done rfl
    · exact .done rfl

theorem verify_alike (svc svc' : Service) (project session : String) :
    (verify r project session).Alike (Demand.Paired (svc.likeness svc' r)) Eq
      (verify r project session) := by
  unfold verify
  split
  · exact .done rfl
  · split
    · exact .done rfl
    · next token htoken =>
      obtain ⟨value, _, hvalue⟩ := Option.bind_eq_some_iff.mp htoken
      have hshown : svc.Shows r (Text.trim token) := by
        rw [trim_of_ofHeader? hvalue]
        exact .inl (.inr htoken)
      exact answer_alike (verifyRunner_alike hshown)

theorem callback_alike (h : svc.Alike svc') :
    (svc.callback r).Alike (Demand.Paired (svc.likeness svc' r)) Eq (svc'.callback r) := by
  unfold callback
  split
  · exact .done rfl
  · refine Program.alike_bind (Action.alike_iff.mp (OAuthFlow.complete_alike h.flow _))
      fun x x' hx => ?_
    exact .done (callbackResponse_alike hx)

theorem respondOn_alike (h : svc.Alike svc') (route : Route) :
    (svc.respondOn r route).Alike (Demand.Paired (svc.likeness svc' r)) Eq
      (svc'.respondOn r route) := by
  unfold respondOn
  dsimp only
  cases route with
  | user wish =>
    dsimp only
    split
    · exact .done rfl
    · next token htoken =>
      have hwho : Client.Shows (svc.Shows r) (.bearer token) := Or.inl (Or.inl htoken)
      split
      · exact respondTo_alike h hwho wish
      · exact .done rfl
  | verify project session =>
    dsimp only
    split
    · exact verify_alike svc svc' project session
    · exact .done rfl
  | callback =>
    dsimp only
    split
    · exact callback_alike h
    · exact .done rfl
  | health => exact .done rfl

/-- Services that differ in secrets alone go on alike. -/
theorem respond_alike (h : svc.Alike svc') (r : Request) :
    (svc.respond r).Alike (Demand.Paired (svc.likeness svc' r)) Eq (svc'.respond r) := by
  unfold respond
  split
  · exact .done rfl
  · refine Program.alike_bind (respondOn_alike h _) ?_
    rintro response _ rfl
    exact .done rfl

theorem usage_alike (h : svc.Alike svc') (r : Request) :
    (svc.usage r).Alike (Demand.Paired (svc.likeness svc' r)) Eq (svc'.usage r) := by
  unfold usage
  rw [h.notesUsage]
  split
  · exact Usage.program_alike _ _
  · exact .done rfl

/-- Two worlds in which a request is answered differ at most in the tokens minted from now on, none
of which the request bears, in the octets of secrets, in the secrets of this program at providers,
and in the tokens that providers grant. -/
structure DiffersInSecrets (svc svc' : Service) (r : Request) (env env' : Surroundings)
    (w w' : Simulation) : Prop where
  /-- The services differ in the secrets of this program at providers. -/
  service : svc.Alike svc'
  /-- The clusters differ in the octets of secrets. -/
  world : w.Alike (svc.Shows r) w'
  /-- The surroundings differ in the tokens minted and granted. -/
  surroundings : env.Alike (svc.likeness svc' r) w.cluster.minted env'

/-- **Secrets do not reach an answer.**  Two worlds that differ in secrets alone answer every
request with one status and one body, whatever their clusters hold and whichever failures wait for
the calls, and so they do when the use of the token is noted first. -/
theorem respond_secret {env env' : Surroundings} {w w' : Simulation}
    (h : svc.DiffersInSecrets svc' r env env' w w') :
    (Program.run (Simulation.handler env) (svc.respond r) w).1 =
        (Program.run (Simulation.handler env') (svc'.respond r) w').1 ∧
      (Program.run (Simulation.handler env) (svc.usage r >>= fun _ => svc.respond r) w).1 =
        (Program.run (Simulation.handler env')
          (svc'.usage r >>= fun _ => svc'.respond r) w').1 := by
  refine ⟨Simulation.run_alike h.surroundings h.world (respond_alike h.service r),
    Simulation.run_alike h.surroundings h.world ?_⟩
  exact Program.alike_bind (usage_alike h.service r) fun _ _ _ => respond_alike h.service r

/-! ### A start and a redirect in two worlds -/

/-- A signer whose codes are one octet. -/
def terseSigner : StateSigner := ⟨fun _ => [0], fun _ => List.cons_ne_nil _ _⟩

/-- A broker with the given secret at Google. -/
def knowing (secret : String) : Service where
  issuer := Deployment.plain.issuer
  flow := ⟨some terseSigner,
    (ProviderRegistry.empty "http://[::1]/oauth2callback" (.ofSeconds 10)).register
      { Deployment.localGoogle with credentials := ⟨"id", secret⟩ }⟩

/-- Surroundings whose tokens begin with a character and whose token endpoints grant the given
ones. -/
def minting (first : Char) (access refresh : String) : Surroundings where
  supply := ⟨fun k => String.ofList (first :: List.replicate k 'x'), fun k => toString k⟩
  exchange _ := .ok ⟨200, Text.utf8 (Json.compact
    (.obj [("access_token", .str access), ("refresh_token", .str refresh)]))⟩

/-- A session that is over, a user who may do all, and a secret with the given octets. -/
def holding (octets : Bytes) : Simulation :=
  let w := Deployment.plain.run
    [.putSession ((Session.ofUser ⟨"team", "alpha"⟩ "ada" ∅).withPhase .completed ""),
      .registerToken "user" "ada", .grant ⟨"ada", "team", ⟨["*"], ["*"], ["*"]⟩⟩]
    ⟨.ofSeconds 0, {}⟩
  let secret : ObjectRef := ⟨"team", "alpha-google-oauth"⟩
  { w with cluster := { w.cluster with objects := { w.cluster.objects with
      secrets := w.cluster.objects.secrets.insert secret
        ⟨secret, ∅, SortedMap.ofList [("other", octets)], [], none⟩ } } }

/-- A request to start the session. -/
def startRequest : Request :=
  ⟨"POST", "/api/projects/team/sessions/alpha/start", "",
    [("Authorization", Text.utf8 "Bearer user")]⟩

/-- The redirect that ends a flow for the session. -/
def redirect : Request :=
  ⟨"GET", "/oauth2callback",
    "code=c&state=" ++ terseSigner.sign ⟨"google", "team", "alpha", 0⟩, []⟩

/-- A request is answered in one world. -/
def here (r : Request) : Response × Simulation :=
  Program.run (Simulation.handler (minting 'm' "at" "rt")) ((knowing "one").respond r) (holding [1])

/-- A request is answered in a world that differs in every secret. -/
def elsewhere (r : Request) : Response × Simulation :=
  Program.run (Simulation.handler (minting 'n' "bt" "st")) ((knowing "two").respond r) (holding [2])

/-- The secret with the token of the session. -/
def tokenKept (w : Simulation) : Option Secret :=
  w.cluster.objects.secrets.get? ⟨"team", tokenSecretName "alpha"⟩

theorem knowing_alike (secret secret' : String) : (knowing secret).Alike (knowing secret') := by
  refine ⟨rfl, rfl, ⟨rfl, ⟨fun kind => ?_, rfl, rfl⟩⟩, rfl⟩
  cases kind with
  | google => exact .some ⟨secret', rfl⟩
  | github => exact .none

theorem holding_alike (shown : String → Prop) (octets octets' : Bytes) :
    (holding octets).Alike shown (holding octets') := by
  refine ⟨_, rfl, _, rfl, _, _, rfl, fun ref => ?_, fun _ _ => rfl⟩
  unfold holding
  dsimp only
  rw [SortedMap.get?_insert, SortedMap.get?_insert]
  split
  · exact .some ⟨_, rfl⟩
  · exact .none

theorem toList_minting {first : Char} {access refresh : String} {n : Nat} :
    ((minting first access refresh).supply.token n).toList = first :: List.replicate n 'x' :=
  String.toList_ofList

/-- The tokens minted in the two worlds are not the one that is shown, and both grant tokens. -/
theorem minting_alike {k : Likeness} {minted : Nat}
    (hshown : ∀ token, k.shown token → token = "user")
    (hanswers : k.answers = TokenResponse.AnswersAlike) :
    (minting 'm' "at" "rt").Alike k minted (minting 'n' "bt" "st") := by
  have hfresh : ∀ (first : Char) (access refresh : String) (n : Nat), first ≠ 'u' →
      ¬ k.shown ((minting first access refresh).supply.token n) := by
    intro first access refresh n hfirst h
    have hlists := congrArg String.toList (hshown _ h)
    rw [toList_minting] at hlists
    exact hfirst (List.cons.inj hlists).1
  have hne : ∀ (first : Char) (access refresh : String) (n : Nat),
      (minting first access refresh).supply.token n ≠ "" := by
    intro first access refresh n h
    have hlists := congrArg String.toList h
    rw [toList_minting] at hlists
    cases hlists
  have hgranted : TokenResponse.ofAnswer? ⟨200, Text.utf8 (Json.compact
      (.obj [("access_token", .str "at"), ("refresh_token", .str "rt")]))⟩ =
        some ⟨"at", some "rt", none, none, none, none, none⟩ := by decide +kernel
  have hgranted' : TokenResponse.ofAnswer? ⟨200, Text.utf8 (Json.compact
      (.obj [("access_token", .str "bt"), ("refresh_token", .str "st")]))⟩ =
        some ⟨"bt", some "st", none, none, none, none, none⟩ := by decide +kernel
  refine ⟨fun n _ => ⟨hfresh _ _ _ n (by decide), hfresh _ _ _ n (by decide)⟩,
    fun n _ => iff_of_false (hne _ _ _ n) (hne _ _ _ n), fun q q' _ => .ok ?_⟩
  rw [hanswers]
  refine ⟨rfl, fun _ => ?_⟩
  rw [hgranted, hgranted']
  exact .some ⟨"bt", some "st", rfl, by decide⟩

/-- A start and a redirect are answered well and in one way, whatever the token that the start puts
into the secret of the session and the one that the redirect brings. -/
theorem respond_secret_worlds :
    (here startRequest).1 = (elsewhere startRequest).1 ∧ (here startRequest).1.status = 202 ∧
      tokenKept (here startRequest).2 ≠ tokenKept (elsewhere startRequest).2 ∧
      (here redirect).1 = (elsewhere redirect).1 ∧ (here redirect).1.status = 200 := by
  have hstart : ∀ token, (knowing "one").Shows startRequest token → token = "user" := by
    have htoken : startRequest.token? = some "user" := by decide +kernel
    have hjob : (startRequest.header? "authorization").bind Bearer.ofHeader? = some "user" := by
      decide +kernel
    rintro token ((h | h) | h)
    · exact Option.some.inj (h.symm.trans htoken)
    · exact Option.some.inj (h.symm.trans hjob)
    · cases h
  have hredirect : ∀ token, (knowing "one").Shows redirect token → token = "user" := by
    rintro token ((h | h) | h) <;> cases h
  have hservices := knowing_alike "one" "two"
  exact ⟨(respond_secret ⟨hservices, holding_alike _ _ _, minting_alike hstart rfl⟩).1,
    by decide +kernel, by decide +kernel,
    (respond_secret ⟨hservices, holding_alike _ _ _, minting_alike hredirect rfl⟩).1,
    by decide +kernel⟩

end Service

end CredentialBroker.Web
