import CredentialBroker.Proofs.World.Event

namespace CredentialBroker

/-!
# Redirects end the flows that were begun

Anyone can call the address to which providers send users back.  What ties such a call to a flow is
the token that was handed out when the flow was begun.  `Begun` is a flow that a run has begun; a
redirect is `Deployment.Vouched` for when its token has the signature of no other octets than those
in a token handed out before.

* `Deployment.run_complete_begun` — a grant is stored only for a flow that was begun;
* `Deployment.run_complete_of_begun` — for a flow that was begun a grant is stored.
-/

/-! ### Time -/

/-- Time does not go back. -/
theorem Event.seconds_le_run (d : Deployment) (e : Event) (s : Simulation) :
    s.now.seconds ≤ (e.run d s).now.seconds := by
  cases e with
  | putSession | removeSession | registerToken | grant | failNext => exact Int.le_refl _
  | wait length => exact Int.le_add_of_nonneg_right (Int.natCast_nonneg _)
  | perform task exchange =>
    have hnow : ((perform task exchange).run d s).now = s.now := Simulation.run_now _
    exact Int.le_of_eq (congrArg Timestamp.seconds hnow.symm)

namespace Deployment

variable {d : Deployment} {s s' : Simulation} {events : List Event} {params : CallbackParams}
  {exchange : Http.Request → Except Http.Fault Http.Response}

theorem seconds_le_run (d : Deployment) (events : List Event) (s : Simulation) :
    s.now.seconds ≤ (d.run events s).now.seconds :=
  run_invariant (I := fun t => s.now.seconds ≤ t.now.seconds)
    (fun e _ t ht => Int.le_trans ht (e.seconds_le_run d t)) (Int.le_refl _)

/-- The calendar reaches from the beginning of a run to its end. -/
def InCalendar (d : Deployment) (s : Simulation) (events : List Event) : Prop :=
  Timestamp.firstSecond ≤ s.now.seconds ∧ (d.run events s).now.seconds < Timestamp.endSecond

/-! ### Flows that were begun -/

/-- A flow that a run has begun. -/
structure Begun (d : Deployment) (s : Simulation) (events : List Event) where
  /-- What happened before. -/
  before : List Event
  /-- Who began the flow. -/
  who : Client
  /-- The session. -/
  session : ObjectRef
  /-- The provider as it was named. -/
  provider : String
  /-- How token endpoints answered meanwhile. -/
  exchange : Http.Request → Except Http.Fault Http.Response
  /-- What happened after. -/
  after : List Event
  /-- What was answered. -/
  request : AuthorizationRequest
  /-- The flow was begun in the run. -/
  happened : events = before ++ .perform (.begin who session provider) exchange :: after
  /-- It was begun well. -/
  returned : (Simulation.run (d.surroundings exchange) (d.flow.begin who session provider)
    (d.run before s)).1 = .ok request

namespace Begun

/-- The moment at which the flow was begun. -/
def moment (b : Begun d s events) : Simulation := d.run b.before s

/-- The seconds since the flow was begun. -/
def age (b : Begun d s events) : Int := (d.run events s).now.seconds - b.moment.now.seconds

theorem seconds_le (b : Begun d s events) :
    s.now.seconds ≤ b.moment.now.seconds ∧
      b.moment.now.seconds ≤ (d.run events s).now.seconds := by
  -- The run goes on from that moment.
  have hrest : d.run events s = d.run _ b.moment :=
    (congrArg (fun es => d.run es s) b.happened).trans run_append
  refine ⟨seconds_le_run d b.before s, ?_⟩
  rw [hrest]
  exact seconds_le_run d _ b.moment

/-- The token of a flow is signed for its session and its provider, at its moment. -/
theorem state_eq (b : Begun d s events) :
    b.moment.cluster.Allows b.who (.getSession b.session) ∧
      ∃ signer p, d.flow.signer = some signer ∧ d.flow.provider b.provider = .ok p ∧
        b.request.state =
          signer.sign (OAuthFlow.begunPayload p.kind b.session b.moment.now) := by
  obtain ⟨t, hrun⟩ := Simulation.fst_run_eq_ok.mp b.returned
  exact OAuthFlow.run_begin_eq_ok hrun

/-- The time in the token of a flow is a number of 64 bits with sign. -/
theorem inRange (b : Begun d s events) (hcalendar : d.InCalendar s events) (kind : ProviderKind) :
    (OAuthFlow.begunPayload kind b.session b.moment.now).InRange := by
  -- The calendar is within the bounds, and the moment is within the run.
  have hfirst : -(Word.values 63 : Int) ≤ Timestamp.firstSecond := by decide +kernel
  have hend : Timestamp.endSecond ≤ Word.values 63 := by decide +kernel
  obtain ⟨hstart, hnow⟩ := b.seconds_le
  exact ⟨Int.le_trans hfirst (Int.le_trans hcalendar.1 hstart),
    Int.lt_of_lt_of_le (Int.lt_of_le_of_lt hnow hcalendar.2) hend⟩

end Begun

/-- The token of a redirect has the signature of no other octets than those in a token that was
handed out. -/
def Vouched (d : Deployment) (s : Simulation) (events : List Event) (params : CallbackParams) :
    Prop :=
  ∀ signer token octets, d.flow.signer = some signer → params.state = some token →
    signer.authentic token = .ok octets →
    ∃ b : Begun d s events, signer.authentic b.request.state = .ok octets

/-- **Only flows that were begun.**  A grant is stored only for a session and a provider for which a
flow was begun at most five minutes before, by someone who was allowed to read the session. -/
theorem run_complete_begun {session secret : ObjectRef} {kind : ProviderKind}
    (hk : s.cluster.objects.Keyed) (hcalendar : d.InCalendar s events)
    (hvouched : d.Vouched s events params)
    (h : Simulation.run (d.surroundings exchange) (d.flow.complete params) (d.run events s) =
      (.ok (.stored session kind secret), s')) :
    ∃ b : Begun d s events, b.session = session ∧ ProviderKind.ofText b.provider = .ok kind ∧
      0 ≤ b.age ∧ b.age ≤ StateSigner.maxAge ∧
      b.moment.cluster.Allows b.who (.getSession session) ∧
      secret = OAuthFlow.grantSecret session kind ∧
      ∃ g, OAuthFlow.Wrote secret g (d.run events s).cluster.objects s'.cluster.objects := by
  obtain ⟨code, payload, p, hadmitted, hstore⟩ := OAuthFlow.run_complete_eq_ok h
  obtain ⟨houtcome, tokens, _, hwrote⟩ := OAuthFlow.run_store_eq_ok (run_keyed events hk) hstore
  cases houtcome
  obtain ⟨_, token, signer, htoken, hsigner, hverify, _, _, hprovider⟩ :=
    OAuthFlow.admitted_eq_ok.mp hadmitted
  obtain ⟨octets, hauthentic, hread, hpast, hfresh⟩ := StateSigner.verify_eq_ok.mp hverify
  -- The octets under the signature are those of a token that was handed out.
  obtain ⟨b, hb⟩ := hvouched signer token octets hsigner
    (OAuthFlow.nonEmpty_eq_some.mp htoken).1 hauthentic
  obtain ⟨hallows, signer', q, hsigner', hbegun, hstate⟩ := b.state_eq
  obtain rfl : signer = signer' := Option.some.inj (hsigner.symm.trans hsigner')
  rw [hstate] at hb
  obtain rfl := StateSigner.authentic_signOctets hb
  -- So the payload is the one that was signed when that flow was begun.
  rw [StateSigner.readPayload_octets (b.inRange hcalendar q.kind)] at hread
  cases hread
  obtain ⟨hkind, _⟩ := OAuthFlow.provider_eq_ok.mp hprovider
  rw [show (OAuthFlow.begunPayload q.kind b.session b.moment.now).provider = q.kind.text from rfl,
    OAuthFlow.ofText_text] at hkind
  have hkind : q.kind = p.kind := Except.ok.inj hkind
  exact ⟨b, rfl, hkind ▸ (OAuthFlow.provider_eq_ok.mp hbegun).1, hpast, hfresh, hallows, rfl, _,
    hwrote⟩

/-! ### Flows that can be completed -/

/-- The calendar reaches to the end of the tokens, which is an hour away when the provider does not
say: an end past it cannot be written into a grant. -/
def Dated (now : Timestamp) (tokens : TokenResponse) : Prop :=
  Timestamp.firstSecond ≤ now.seconds + tokens.expiresIn.getD 3600 ∧
    now.seconds + tokens.expiresIn.getD 3600 < Timestamp.endSecond

/-- A redirect brings what completes a flow that was begun: its token while it is good, and a code
for which the provider gives tokens that end within the calendar, while the session is there and no
failure waits. -/
structure Begun.Completes (b : Begun d s events) (params : CallbackParams)
    (exchange : Http.Request → Except Http.Fault Http.Response) : Prop where
  /-- The token is that of the flow. -/
  state : params.state = some b.request.state
  /-- The token is good. -/
  fresh : b.age ≤ StateSigner.maxAge
  /-- The session has a namespace. -/
  project : b.session.ns ≠ ""
  /-- The session has a name. -/
  session : b.session.name ≠ ""
  /-- The session is there. -/
  present : ((d.run events s).cluster.objects.sessions.get? b.session).isSome
  /-- There is a code, for which the provider gives tokens that end within the calendar. -/
  exchanged : ∃ code, params.code = some code ∧ code ≠ "" ∧
    ∀ p, d.flow.provider b.provider = .ok p →
      ∃ tokens, (Simulation.run (d.surroundings exchange) (d.flow.providers.exchange p code)
        (d.run events s)).1 = .ok tokens ∧ Dated (d.run events s).now tokens
  /-- No failure waits. -/
  faults : (d.run events s).cluster.faults = []

/-- **All flows that were begun.**  What completes a flow that was begun stores a grant for the
session and the provider of that flow. -/
theorem run_complete_of_begun (hk : s.cluster.objects.Keyed) (hcalendar : d.InCalendar s events)
    (b : Begun d s events) (h : b.Completes params exchange)
    (herror : OAuthFlow.nonEmpty params.error = none) :
    ∃ kind s', ProviderKind.ofText b.provider = .ok kind ∧
      Simulation.run (d.surroundings exchange) (d.flow.complete params) (d.run events s) =
        (.ok (.stored b.session kind (OAuthFlow.grantSecret b.session kind)), s') := by
  obtain ⟨_, signer, p, hsigner, hbegun, hstate⟩ := b.state_eq
  obtain ⟨hname, hplace⟩ := OAuthFlow.provider_eq_ok.mp hbegun
  obtain ⟨code, hcode, hcodeNe, hexchange⟩ := h.exchanged
  obtain ⟨tokens, htokens, _⟩ := hexchange p hbegun
  rw [OAuthFlow.run_exchange] at htokens
  obtain ⟨session, hsession⟩ := Option.isSome_iff_exists.mp h.present
  have hverify : signer.verify b.request.state (d.run events s).now.seconds =
      .ok (OAuthFlow.begunPayload p.kind b.session b.moment.now) := by
    rw [hstate]
    exact (StateSigner.verify_sign (b.inRange hcalendar p.kind)).mpr
      ⟨rfl, Int.sub_nonneg_of_le b.seconds_le.2, h.fresh⟩
  -- The token passes every check, with the payload it was signed for.
  have htoken : b.request.state ≠ "" := hstate ▸ StateSigner.sign_ne_empty
  have hadmitted : d.flow.admitted params (d.run events s).now =
      .ok (code, OAuthFlow.begunPayload p.kind b.session b.moment.now, p) :=
    OAuthFlow.admitted_eq_ok.mpr ⟨OAuthFlow.nonEmpty_eq_some.mpr ⟨hcode, hcodeNe⟩,
      b.request.state, signer, OAuthFlow.nonEmpty_eq_some.mpr ⟨h.state, htoken⟩, hsigner, hverify,
      h.project, h.session, OAuthFlow.provider_eq_ok.mpr ⟨OAuthFlow.ofText_text p.kind, hplace⟩⟩
  have hsession : (d.run events s).cluster.objects.sessions.get?
      (OAuthFlow.begunPayload p.kind b.session b.moment.now).ref = some session := hsession
  obtain ⟨s', hstore⟩ :=
    OAuthFlow.run_store_of_ready h.faults (run_keyed events hk) hsession htokens
  exact ⟨p.kind, s', hname, (OAuthFlow.run_complete_of_admitted herror hadmitted).trans hstore⟩

end Deployment

/-- **Redirects end the flows that were begun.**  Let anything happen to a cluster, and let then a
redirect come in.  As long as its token has the signature of no other octets than those in a token
handed out before, a grant is stored only for a session and a provider for which a flow was begun at
most five minutes before, by someone who was allowed to read the session, and it is stored in the
secret of the two.  And a redirect that reports no error and brings what completes a flow that was
begun stores a grant for the session and the provider of that flow. -/
theorem Deployment.run_complete_bound (d : Deployment) (start : Simulation) (events : List Event)
    (hk : start.cluster.objects.Keyed) (hcalendar : d.InCalendar start events)
    (params : CallbackParams) (exchange : Http.Request → Except Http.Fault Http.Response) :
    let now := d.run events start
    let completed := Simulation.run (d.surroundings exchange) (d.flow.complete params) now
    (d.Vouched start events params → ∀ session kind secret s',
      completed = (.ok (.stored session kind secret), s') →
      ∃ b : Begun d start events, b.session = session ∧
        ProviderKind.ofText b.provider = .ok kind ∧ 0 ≤ b.age ∧ b.age ≤ 300 ∧
        b.moment.cluster.Allows b.who (.getSession session) ∧
        secret = ⟨session.ns, session.name ++ "-" ++ kind.text ++ "-oauth"⟩ ∧
        ∃ g, OAuthFlow.Wrote secret g now.cluster.objects s'.cluster.objects) ∧
    ∀ b : Begun d start events, b.Completes params exchange →
      OAuthFlow.nonEmpty params.error = none →
      ∃ kind s', ProviderKind.ofText b.provider = .ok kind ∧ completed =
        (.ok (.stored b.session kind
          ⟨b.session.ns, b.session.name ++ "-" ++ kind.text ++ "-oauth"⟩), s') :=
  ⟨fun hvouched _ _ _ _ h => run_complete_begun hk hcalendar hvouched h,
    fun b hb herror => run_complete_of_begun hk hcalendar b hb herror⟩

/-! ### A flow with Google -/

namespace Deployment

/-- Google, played by this machine. -/
def localGoogle : Provider :=
  { Provider.google ⟨"id", "secret"⟩ with
    authorizeUrl := "http://[::1]/authorize"
    tokenUrl := "http://[::1]/token" }

/-- A broker that offers Google. -/
def offering : Deployment :=
  { plain with
    flow := ⟨some (.ofSecret "key"),
      (ProviderRegistry.empty "http://[::1]/oauth2callback" (.ofSeconds 10)).register localGoogle⟩ }

/-- A token endpoint that gives tokens for every code. -/
def granting (_ : Http.Request) : Except Http.Fault Http.Response :=
  .ok ⟨200, Text.utf8 "\x7b\"access_token\":\"at\"\x7d"⟩

/-- The session of the flow. -/
def offered : ObjectRef := ⟨"team", "alpha"⟩

/-- An empty cluster. -/
def bare : Simulation := ⟨.ofSeconds 0, {}⟩

/-- What happens before the flow is begun: a user may read a session. -/
def offeringBefore : List Event :=
  [.putSession (.ofUser offered "ada" ∅), .registerToken "t" "ada",
    .grant ⟨"ada", "team", ⟨["vteam.ambient-code"], ["agenticsessions"], ["get"]⟩⟩]

/-- The user begins the flow, and five minutes pass. -/
def offeringEvents : List Event :=
  offeringBefore ++ .perform (.begin (.bearer "t") offered " Google ") granting ::
    [.wait (.ofSeconds 300)]

theorem offering_provider {p : Provider} (h : offering.flow.provider " Google " = .ok p) :
    p = localGoogle := by
  have hgoogle : offering.flow.provider " Google " = .ok localGoogle :=
    OAuthFlow.provider_eq_ok.mpr ⟨by decide +kernel, rfl⟩
  exact Except.ok.inj (h.symm.trans hgoogle)

theorem bare_keyed : bare.cluster.objects.Keyed :=
  ⟨fun _ _ h => (by cases h), fun _ _ h => (by cases h)⟩

theorem offering_inCalendar : offering.InCalendar bare offeringEvents := by
  constructor
  · decide +kernel
  · decide +kernel

/-- The flow is begun, and whatever error a redirect reports, all else completes it. -/
theorem offering_completes (error : Option String) :
    ∃ b : Begun offering bare offeringEvents, b.session = offered ∧ b.provider = " Google " ∧
      b.Completes ⟨some "code", some b.request.state, error, none⟩ granting := by
  obtain ⟨r, hrun⟩ := Simulation.run_of_isOk (offering.surroundings granting)
    (a := offering.flow.begin (.bearer "t") offered " Google ")
    (s := offering.run offeringBefore bare) (by decide +kernel)
  have hproject : offered.ns ≠ "" := by decide
  have hsession : offered.name ≠ "" := by decide
  have hpresent :
      ((offering.run offeringEvents bare).cluster.objects.sessions.get? offered).isSome := by
    decide +kernel
  refine ⟨⟨offeringBefore, .bearer "t", offered, " Google ", granting, [.wait (.ofSeconds 300)], r,
    rfl, Simulation.fst_run_eq_ok.mpr ⟨_, hrun⟩⟩, rfl, rfl, ?_⟩
  refine ⟨rfl, ?_, hproject, hsession, hpresent, ⟨"code", rfl, by decide, ?_⟩, ?_⟩
  · show (offering.run offeringEvents bare).now.seconds -
      (offering.run offeringBefore bare).now.seconds ≤ StateSigner.maxAge
    decide +kernel
  · intro p hp
    obtain rfl := offering_provider hp
    obtain ⟨tokens, htokens⟩ := Simulation.run_of_isOk (offering.surroundings granting)
      (a := offering.flow.providers.exchange localGoogle "code")
      (s := offering.run offeringEvents bare) (by decide +kernel)
    have hunsaid : (Simulation.run (offering.surroundings granting)
        (offering.flow.providers.exchange localGoogle "code")
        (offering.run offeringEvents bare)).1.toOption.map (·.expiresIn) = some none := by
      decide +kernel
    have htokens := Simulation.fst_run_eq_ok.mpr ⟨_, htokens⟩
    rw [htokens] at hunsaid
    refine ⟨tokens, htokens, ?_⟩
    unfold Dated
    rw [show tokens.expiresIn = none from Option.some.inj hunsaid]
    decide +kernel
  · decide +kernel

/-- After five minutes the redirect of a flow with Google stores its grant, and its session is that
of a flow that was begun. -/
theorem run_complete_bound_google :
    ∃ (b c : Begun offering bare offeringEvents) (s' : Simulation),
      Simulation.run (offering.surroundings granting)
        (offering.flow.complete ⟨some "code", some b.request.state, none, none⟩)
        (offering.run offeringEvents bare) =
          (.ok (.stored offered .google ⟨"team", "alpha-google-oauth"⟩), s') ∧
      c.session = offered ∧ 0 ≤ c.age ∧ c.age ≤ 300 ∧
      c.moment.cluster.Allows c.who (.getSession offered) := by
  obtain ⟨b, hsession, hprovider, hcompletes⟩ := offering_completes none
  obtain ⟨honly, hall⟩ := run_complete_bound offering bare offeringEvents bare_keyed
    offering_inCalendar ⟨some "code", some b.request.state, none, none⟩ granting
  obtain ⟨kind, s', hkind, hrun⟩ := hall b hcompletes rfl
  have hgoogle : ProviderKind.ofText " Google " = .ok .google := by decide +kernel
  rw [hprovider, hgoogle] at hkind
  cases hkind
  rw [hsession] at hrun
  have hvouched : offering.Vouched bare offeringEvents
      ⟨some "code", some b.request.state, none, none⟩ := by
    intro signer token octets _ htoken hauthentic
    cases htoken
    exact ⟨b, hauthentic⟩
  obtain ⟨c, hc, _, hpast, hfresh, hallows, _⟩ := honly hvouched _ _ _ _ hrun
  exact ⟨b, c, s', hrun, hc, hpast, hfresh, hallows⟩

/-- A redirect that brings all that completes a flow and reports an error besides stores nothing. -/
theorem not_stored_of_error :
    ¬ ∀ (d : Deployment) (start : Simulation) (events : List Event) (params : CallbackParams)
      (exchange : Http.Request → Except Http.Fault Http.Response) (b : Begun d start events),
      start.cluster.objects.Keyed → d.InCalendar start events → b.Completes params exchange →
      ∃ kind secret s', Simulation.run (d.surroundings exchange) (d.flow.complete params)
        (d.run events start) = (.ok (.stored b.session kind secret), s') := by
  intro hall
  obtain ⟨b, _, _, hcompletes⟩ := offering_completes (some "access_denied")
  obtain ⟨kind, secret, s', hrun⟩ :=
    hall offering bare offeringEvents _ granting b bare_keyed offering_inCalendar hcompletes
  cases hrun

end Deployment

end CredentialBroker
