import CredentialBroker.OAuth.Flow
import CredentialBroker.Proofs.Credential.Store
import CredentialBroker.Proofs.OAuth.StateToken

namespace CredentialBroker.OAuthFlow

/-!
# What authorization flows do

* `begin_follows`, `complete_follows` — the calls that beginning and completing a flow make;
* `run_begin_eq_ok` — for whom and what the token of a flow is signed;
* `admitted_eq_ok` — which redirects are let in;
* `run_store_eq_ok`, `run_store_of_ready` — what is stored, and when it is;
* `run_complete_other` — the secrets that a flow leaves alone.
-/

variable {f : OAuthFlow} {who : Client} {session : ObjectRef} {name : String}
  {gets : (call : Call) → call.Reply → Prop}

/-! ### Calls -/

/-- The calls of authorization flows: a session is read, and a secret is written. -/
inductive Asks (gets : (call : Call) → call.Reply → Prop) : Call → Prop where
  /-- The session is read. -/
  | read (ref : ObjectRef) : Asks gets (.getSession ref)
  /-- The grant is put into a secret. -/
  | store (ref : ObjectRef) (change : SecretChange) {call : Call}
      (h : CredentialStore.Asks gets ref change call) : Asks gets call

/-- The secret for the grant of a provider. -/
def grantSecret (session : ObjectRef) (kind : ProviderKind) : ObjectRef :=
  ⟨session.ns, session.name ++ "-" ++ kind.text ++ "-oauth"⟩

/-- The calls that put the grant of a provider into the secret of a session. -/
inductive Stores (gets : (call : Call) → call.Reply → Prop) (ref : ObjectRef)
    (kind : ProviderKind) : Call → Prop where
  /-- The session is read. -/
  | read : Stores gets ref kind (.getSession ref)
  /-- The grant is put into the secret. -/
  | store (change : SecretChange) {call : Call}
      (h : CredentialStore.Asks gets (grantSecret ref kind) change call) : Stores gets ref kind call

/-- The only secret that is made or replaced is the one for the grant. -/
theorem Stores.secret_ref {kind : ProviderKind} {call : Call} {secret : Secret}
    (h : Stores CredentialStore.addressed session kind call)
    (hcall : call = .createSecret secret ∨ call = .updateSecret secret) :
    secret.ref = grantSecret session kind := by
  cases h with
  | read => rcases hcall with hcall | hcall <;> cases hcall
  | store _ h => exact h.secret_ref hcall

/-- The contract of authorization flows. -/
def contract (gets : (call : Call) → call.Reply → Prop) : Contract demands :=
  .ofCalls (fun _ call => Asks gets call) gets

/-- Beginning a flow reads the session as the client, and nothing else. -/
theorem begin_follows_read :
    (f.begin who session name).Follows
      (.ofCalls (fun caller call => caller = who ∧ call = .getSession session) gets)
      fun _ => True := by
  unfold begin
  refine Action.follows_bind Action.follows_known fun signer _ => ?_
  refine Action.follows_bind Action.follows_known fun provider _ => ?_
  refine Action.follows_bind (Action.follows_discard (Action.follows_mapError
    (Action.follows_call ⟨rfl, rfl⟩))) fun _ _ => ?_
  refine Action.follows_bind (Action.follows_clock trivial) fun now _ => ?_
  refine Action.follows_bind Action.follows_known fun url _ => ?_
  exact Action.follows_pure trivial

theorem begin_follows : (f.begin who session name).Follows (contract gets) fun _ => True := by
  refine Simulation.follows_ofCalls_mono begin_follows_read ?_
  rintro _ _ ⟨rfl, rfl⟩
  exact .read session

theorem exchange_follows {r : ProviderRegistry} {p : Provider} {code : String}
    {asks : Client → Call → Prop} :
    (r.exchange p code).Follows (.ofCalls asks gets) fun _ => True := by
  unfold ProviderRegistry.exchange
  refine Action.follows_bind Action.follows_known fun request _ => ?_
  refine Action.follows_bind (Action.follows_mapError (Action.follows_exchange trivial))
    fun response _ => ?_
  exact Action.follows_known

/-- Storing a grant reads its session and writes the secret of the session and the provider. -/
theorem store_follows_stores {code : String} {payload : StatePayload} {p : Provider} :
    (f.store code payload p).Follows
      (.ofCalls (fun _ call => Stores gets payload.ref p.kind call) gets) fun _ => True := by
  unfold store
  refine Action.follows_bind (Action.follows_mapError (Action.follows_call .read))
    fun stored _ => ?_
  refine Action.follows_bind (Action.follows_mapError exchange_follows) fun tokens _ => ?_
  refine Action.follows_bind (Action.follows_clock trivial) fun now _ => ?_
  -- The secret is written by the platform, and the calls of a write are among those allowed.
  have hwrite : ∀ owner labels (g : StoredGrant),
      (({ client := .platform } : CredentialStore).writeGrant (grantSecret payload.ref p.kind) owner
        labels g).Follows (.ofCalls (fun _ call => Stores gets payload.ref p.kind call) gets)
        fun _ => True := fun _ _ _ =>
    Simulation.follows_ofCalls_mono CredentialStore.write_follows fun _ _ h => .store _ h.2
  exact Action.follows_bind (hwrite _ _ _) fun _ _ => Action.follows_done

theorem store_follows {code : String} {payload : StatePayload} {p : Provider} :
    (f.store code payload p).Follows (contract gets) fun _ => True := by
  refine Simulation.follows_ofCalls_mono store_follows_stores ?_
  rintro _ _ (_ | ⟨change, h⟩)
  · exact .read _
  · exact .store _ change h

/-- Completing a flow reads a session and writes a secret. -/
theorem complete_follows {params : CallbackParams} :
    (f.complete params).Follows (contract gets) fun _ => True := by
  unfold complete
  split
  · exact Action.follows_pure trivial
  · refine Action.follows_bind (Action.follows_clock trivial) fun now _ => ?_
    refine Action.follows_bind Action.follows_known fun admitted _ => ?_
    exact store_follows

/-! ### Providers -/

theorem ofText_text (kind : ProviderKind) : ProviderKind.ofText kind.text = .ok kind := by
  cases kind <;> decide +kernel

/-- The provider with a name is the one that is set up for the kind of that name. -/
theorem provider_eq_ok {p : Provider} :
    f.provider name = .ok p ↔
      ProviderKind.ofText name = .ok p.kind ∧ f.providers.ofKind? p.kind = some p := by
  simp only [provider, ProviderRegistry.get, Outcome.mapError_eq_ok, Outcome.bind_eq_ok]
  constructor
  · rintro ⟨kind, hkind, h⟩
    split at h
    · next q hq =>
      cases h
      rw [ProviderRegistry.kind_of_ofKind? hq]
      exact ⟨hkind, hq⟩
    · cases h
  · rintro ⟨hkind, hp⟩
    refine ⟨p.kind, hkind, ?_⟩
    rw [hp]
    rfl

theorem requireSigner_eq_ok {signer : StateSigner} :
    f.requireSigner = .ok signer ↔ f.signer = some signer := by
  unfold requireSigner
  cases f.signer <;> simp

/-! ### What is let in -/

theorem nonEmpty_eq_some {p : Option String} {t : String} :
    nonEmpty p = some t ↔ p = some t ∧ t ≠ "" := by
  rw [nonEmpty, Option.filter_eq_some_iff, decide_eq_true_iff]

/-- A redirect is let in with a code, and with a token that names a session and a provider. -/
theorem admitted_eq_ok {params : CallbackParams} {now : Timestamp} {code : String}
    {payload : StatePayload} {p : Provider} :
    f.admitted params now = .ok (code, payload, p) ↔
      nonEmpty params.code = some code ∧ ∃ state signer, nonEmpty params.state = some state ∧
        f.signer = some signer ∧ signer.verify state now.seconds = .ok payload ∧
          payload.project ≠ "" ∧ payload.session ≠ "" ∧ f.provider payload.provider = .ok p := by
  unfold admitted
  -- Without a code or without a token nothing is let in.
  cases hcode : nonEmpty params.code with
  | none =>
    constructor
    · intro h
      cases h
    · rintro ⟨h, _⟩
      cases h
  | some given =>
    cases hstate : nonEmpty params.state with
    | none =>
      constructor
      · intro h
        cases h
      · rintro ⟨_, _, _, h, _⟩
        cases h
    | some state =>
      simp only [pure_bind, Outcome.bind_eq_ok, requireSigner_eq_ok, Outcome.mapError_eq_ok]
      constructor
      · rintro ⟨signer, hsigner, found, hverify, h⟩
        split at h
        · cases h
        · next hnamed =>
          obtain ⟨q, hprovider, h⟩ := Outcome.bind_eq_ok.mp h
          cases h
          rw [not_or] at hnamed
          exact ⟨rfl, state, signer, rfl, hsigner, hverify, hnamed.1, hnamed.2, hprovider⟩
      · rintro ⟨hgiven, state', signer, hsame, hsigner, hverify, hproject, hsession, hprovider⟩
        cases hgiven
        cases hsame
        refine ⟨signer, hsigner, payload, hverify, ?_⟩
        rw [if_neg (not_or.mpr ⟨hproject, hsession⟩), hprovider]
        rfl

/-- A redirect that brings a token which was made here is let in with the payload of the token. -/
theorem payload_eq_of_admitted {params : CallbackParams} {now : Timestamp} {code : String}
    {signed payload : StatePayload} {p : Provider} {signer : StateSigner}
    (hsigner : f.signer = some signer) (hstate : params.state = some (signer.sign signed))
    (hrange : signed.InRange) (h : f.admitted params now = .ok (code, payload, p)) :
    payload = signed := by
  obtain ⟨_, token, signer', htoken, hsigner', hverify, _⟩ := admitted_eq_ok.mp h
  obtain ⟨htoken, _⟩ := nonEmpty_eq_some.mp htoken
  obtain rfl : signer = signer' := Option.some.inj (hsigner.symm.trans hsigner')
  obtain rfl : signer.sign signed = token := Option.some.inj (hstate.symm.trans htoken)
  exact ((StateSigner.verify_sign hrange).mp hverify).1

/-! ### Runs -/

section Runs

variable {env : Surroundings} {s s' : Simulation} {params : CallbackParams} {p : Provider}
  {code : String} {payload : StatePayload} {outcome : CallbackOutcome}

/-- The payload that a flow which begins now is given. -/
def begunPayload (kind : ProviderKind) (session : ObjectRef) (now : Timestamp) : StatePayload :=
  ⟨kind.text, session.ns, session.name, now.seconds⟩

/-- A flow that begins well is begun by someone who may read the session, for a provider that is
set up, and its token is signed for that session and provider. -/
theorem run_begin_eq_ok {r : AuthorizationRequest}
    (h : Simulation.run env (f.begin who session name) s = (.ok r, s')) :
    s.cluster.Allows who (.getSession session) ∧ ∃ signer p, f.signer = some signer ∧
      f.provider name = .ok p ∧ r.state = signer.sign (begunPayload p.kind session s.now) := by
  unfold begin at h
  -- The signer and the provider are there before anything is asked.
  obtain ⟨signer, t, hsigner, h⟩ := Simulation.run_bind_eq_ok.mp h
  rw [Simulation.run_ofExcept, Prod.mk.injEq, requireSigner_eq_ok] at hsigner
  obtain ⟨hsigner, rfl⟩ := hsigner
  obtain ⟨p, t, hprovider, h⟩ := Simulation.run_bind_eq_ok.mp h
  rw [Simulation.run_ofExcept, Prod.mk.injEq] at hprovider
  obtain ⟨hprovider, rfl⟩ := hprovider
  -- The session is read as the client, who was let in for that.
  obtain ⟨_, t, hread, h⟩ := Simulation.run_bind_eq_ok.mp h
  have hnow : t.now = s.now := Simulation.now_of_run_eq hread
  obtain ⟨session', hread⟩ := Simulation.run_discard_eq_ok.mp hread
  obtain ⟨user, huser, hrefusal, _⟩ :=
    Simulation.run_call_eq_ok (Simulation.run_mapError_eq_ok.mp hread)
  -- Then the clock is read, and the rest is made from what is known.
  obtain ⟨now, t', hclock, h⟩ := Simulation.run_bind_eq_ok.mp h
  rw [Simulation.run_clock, Prod.mk.injEq, Except.ok.injEq] at hclock
  obtain ⟨rfl, rfl⟩ := hclock
  obtain ⟨url, t', _, h⟩ := Simulation.run_bind_eq_ok.mp h
  cases h
  refine ⟨⟨user, huser, hrefusal⟩, signer, p, hsigner, hprovider, ?_⟩
  rw [begunPayload, hnow]

/-- What a provider answers to a code. -/
def exchanged (endpoint : Http.Request → Except Http.Fault Http.Response) (r : ProviderRegistry)
    (p : Provider) (code : String) : Except OAuthError TokenResponse := do
  let request ← p.exchangeRequest r.redirectUri code
  let response ← (endpoint request).mapError p.exchangeFault
  p.readTokens response

/-- An exchange asks the token endpoint and leaves the cluster alone. -/
theorem run_exchange (r : ProviderRegistry) :
    Simulation.run env (r.exchange p code) s = (exchanged env.exchange r p code, s) := by
  unfold ProviderRegistry.exchange exchanged
  rw [Simulation.run_bind, Simulation.run_ofExcept]
  cases p.exchangeRequest r.redirectUri code with
  | error e => rfl
  | ok request =>
    -- The one request to the outside is answered by the token endpoint.
    dsimp only
    rw [Simulation.run_bind, Simulation.run_mapError, Simulation.run_exchange, Outcome.ok_bind]
    dsimp only
    cases (env.exchange request).mapError p.exchangeFault with
    | error e => rfl
    | ok response => rfl

/-- The secret holds the entries of a grant, and the other secrets are as before. -/
def Wrote (secret : ObjectRef) (g : StoredGrant) (o o' : Objects) : Prop :=
  (∃ written, o'.secrets.get? secret = some written ∧
    ∀ key value, g.entries.get? key = some value → written.data.get? key = some value) ∧
  ∀ other, other ≠ secret → o'.secrets.get? other = o.secrets.get? other

/-- What has gone before when a grant is stored: the session was read and the provider gave tokens,
and neither has changed an object; what is left is the write to the secret. -/
theorem run_store_write (h : Simulation.run env (f.store code payload p) s = (.ok outcome, s')) :
    outcome = .stored payload.ref p.kind (grantSecret payload.ref p.kind) ∧
      ∃ session tokens t, s.cluster.objects.sessions.get? payload.ref = some session ∧
        exchanged env.exchange f.providers p code = .ok tokens ∧
        t.cluster.objects = s.cluster.objects ∧
        Simulation.run env (({ client := .platform } : CredentialStore).writeGrant
          (grantSecret payload.ref p.kind) session.ownerReference (labels payload.ref.name p.kind)
          (grant p tokens s.now)) t = (.ok (), s') := by
  unfold store at h
  obtain ⟨session, t, hread, h⟩ := Simulation.run_bind_eq_ok.mp h
  have hnow : t.now = s.now := Simulation.now_of_run_eq hread
  obtain ⟨_, _, _, happly, _⟩ :=
    Simulation.run_call_eq_ok (Simulation.run_mapError_eq_ok.mp hread)
  obtain ⟨hobjects, hsession⟩ := Objects.apply_getSession.mp happly
  obtain ⟨tokens, t', hexchange, h⟩ := Simulation.run_bind_eq_ok.mp h
  rw [Simulation.run_mapError_eq_ok, run_exchange, Prod.mk.injEq] at hexchange
  obtain ⟨htokens, rfl⟩ := hexchange
  obtain ⟨now, t', hclock, h⟩ := Simulation.run_bind_eq_ok.mp h
  rw [Simulation.run_clock, Prod.mk.injEq, Except.ok.injEq] at hclock
  obtain ⟨rfl, rfl⟩ := hclock
  obtain ⟨_, t', hwrite, h⟩ := Simulation.run_bind_eq_ok.mp h
  cases h
  rw [hnow] at hwrite
  exact ⟨rfl, session, tokens, t, hsession, htokens, hobjects, hwrite⟩

/-- What the provider answered is stored in the secret of the session and the provider. -/
theorem run_store_eq_ok (hk : s.cluster.objects.Keyed)
    (h : Simulation.run env (f.store code payload p) s = (.ok outcome, s')) :
    outcome = .stored payload.ref p.kind (grantSecret payload.ref p.kind) ∧
      ∃ tokens, exchanged env.exchange f.providers p code = .ok tokens ∧
        Wrote (grantSecret payload.ref p.kind) (grant p tokens s.now) s.cluster.objects
          s'.cluster.objects := by
  obtain ⟨houtcome, session, tokens, t, _, htokens, hobjects, hwrite⟩ := run_store_write h
  have hkt : t.cluster.objects.Keyed := hobjects ▸ hk
  obtain ⟨secret, hsecret, hentries⟩ := CredentialStore.run_write_eq_ok hkt hwrite
  refine ⟨houtcome, tokens, htokens, ⟨secret, hsecret, hentries⟩, fun other hother => ?_⟩
  obtain rfl : _ = s' := congrArg Prod.snd hwrite
  rw [← hobjects]
  exact CredentialStore.run_write_other hkt hother

/-- Without failures waiting, tokens that a provider gives are stored for a session that is
there. -/
theorem run_store_of_ready {session : Session} {tokens : TokenResponse}
    (hfaults : s.cluster.faults = []) (hk : s.cluster.objects.Keyed)
    (hsession : s.cluster.objects.sessions.get? payload.ref = some session)
    (htokens : exchanged env.exchange f.providers p code = .ok tokens) :
    ∃ s', Simulation.run env (f.store code payload p) s =
      (.ok (.stored payload.ref p.kind (grantSecret payload.ref p.kind)), s') := by
  obtain ⟨t, hread, hobjects, ht, _⟩ := Simulation.run_platform_of_apply env
    (c := .getSession payload.ref) hfaults (Objects.apply_getSession.mpr ⟨rfl, hsession⟩)
  have hexchange : Simulation.run env (f.providers.exchange p code) t = (.ok tokens, t) := by
    rw [run_exchange, htokens]
  have hkt : t.cluster.objects.Keyed := hobjects ▸ hk
  obtain ⟨s', _, hwrite, _⟩ := CredentialStore.run_write_of_ready { client := .platform }
    (grantSecret payload.ref p.kind)
    ⟨(grant p tokens t.now).entries, labels payload.ref.name p.kind, session.ownerReference⟩ env
    rfl ht hkt
  unfold store
  refine ⟨s', Simulation.run_bind_eq_ok.mpr
    ⟨session, t, Simulation.run_mapError_eq_ok.mpr hread, ?_⟩⟩
  refine Simulation.run_bind_eq_ok.mpr
    ⟨tokens, t, Simulation.run_mapError_eq_ok.mpr hexchange, ?_⟩
  refine Simulation.run_bind_eq_ok.mpr ⟨t.now, t, Simulation.run_clock, ?_⟩
  exact Simulation.run_bind_eq_ok.mpr ⟨(), s', hwrite, rfl⟩

/-- A redirect without error is let in and then its tokens are stored. -/
theorem complete_eq (herror : nonEmpty params.error = none) :
    f.complete params = Action.clock >>= fun now => Action.ofExcept (f.admitted params now) >>=
      fun given => f.store given.1 given.2.1 given.2.2 := by
  unfold complete
  rw [herror]

/-- A flow that ends with a grant in a secret brought no error and was let in. -/
theorem run_complete_eq_ok {session secret : ObjectRef} {kind : ProviderKind}
    (h : Simulation.run env (f.complete params) s = (.ok (.stored session kind secret), s')) :
    ∃ code payload p, f.admitted params s.now = .ok (code, payload, p) ∧
      Simulation.run env (f.store code payload p) s = (.ok (.stored session kind secret), s') := by
  cases herror : nonEmpty params.error with
  | some error =>
    -- A redirect that reports an error ends as a refusal by the provider.
    unfold complete at h
    rw [herror] at h
    cases h
  | none =>
    rw [complete_eq herror] at h
    obtain ⟨now, t, hclock, h⟩ := Simulation.run_bind_eq_ok.mp h
    rw [Simulation.run_clock, Prod.mk.injEq, Except.ok.injEq] at hclock
    obtain ⟨rfl, rfl⟩ := hclock
    obtain ⟨⟨code, payload, p⟩, t, hadmitted, h⟩ := Simulation.run_bind_eq_ok.mp h
    rw [Simulation.run_ofExcept, Prod.mk.injEq] at hadmitted
    obtain ⟨hadmitted, rfl⟩ := hadmitted
    exact ⟨code, payload, p, hadmitted, h⟩

/-- A flow ends like the storing of its tokens, once it is let in. -/
theorem run_complete_of_admitted (herror : nonEmpty params.error = none)
    (h : f.admitted params s.now = .ok (code, payload, p)) :
    Simulation.run env (f.complete params) s = Simulation.run env (f.store code payload p) s := by
  rw [complete_eq herror, Simulation.run_bind, Simulation.run_clock]
  dsimp only
  rw [Simulation.run_bind, Simulation.run_ofExcept, h]

/-- A redirect leaves everything as it is, unless it is let in and its tokens are stored. -/
theorem run_complete_cases (f : OAuthFlow) (env : Surroundings) (params : CallbackParams)
    (s : Simulation) :
    (Simulation.run env (f.complete params) s).2 = s ∨
      ∃ code payload p, f.admitted params s.now = .ok (code, payload, p) ∧
        Simulation.run env (f.complete params) s =
          Simulation.run env (f.store code payload p) s := by
  cases herror : nonEmpty params.error with
  | some error =>
    unfold complete
    rw [herror]
    exact .inl rfl
  | none =>
    cases hadmitted : f.admitted params s.now with
    | ok given => exact .inr ⟨_, _, _, rfl, run_complete_of_admitted herror hadmitted⟩
    | error e =>
      rw [complete_eq herror, Simulation.run_bind, Simulation.run_clock]
      dsimp only
      rw [Simulation.run_bind, Simulation.run_ofExcept, hadmitted]
      exact .inl rfl

/-- However a flow ends, the secrets that are not for grants to its session are as before. -/
theorem run_complete_other {ref other : ObjectRef} (hk : s.cluster.objects.Keyed)
    (hnamed : ∀ code payload p, f.admitted params s.now = .ok (code, payload, p) →
      payload.ref = ref) (hother : ∀ kind, other ≠ grantSecret ref kind) :
    (Simulation.run env (f.complete params) s).2.cluster.objects.secrets.get? other =
      s.cluster.objects.secrets.get? other := by
  rcases f.run_complete_cases env params s with hsame | ⟨code, payload, p, hadmitted, hstore⟩
  · rw [hsame]
  · rw [hstore]
    refine CredentialStore.run_secrets_other store_follows_stores
      (fun _ _ _ hstores hcall => ?_) hk
    rw [hstores.secret_ref hcall, hnamed _ _ _ hadmitted]
    exact (hother p.kind).symm

end Runs

end CredentialBroker.OAuthFlow
