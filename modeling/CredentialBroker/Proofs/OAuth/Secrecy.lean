import CredentialBroker.Proofs.Credential.Secrecy
import CredentialBroker.Proofs.OAuth.Flow

namespace CredentialBroker

/-!
# Flows tell no secret

Two authorization flows whose providers differ in the secrets of this program go on alike when the
token endpoints grant tokens that differ in their text.  What goes wrong may be worded differently
for the logs, and is shown to callers in one way.

* `Provider.readTokens_alike` — answers of token endpoints that differ in the tokens granted, or in
  whatever stands in a refusal;
* `OAuthFlow.begin_alike`, `OAuthFlow.complete_alike` — the two ends of a flow.
-/

/-! ### Failures -/

/-- The failures are shown to callers in one way. -/
structure CredentialError.Alike (e e' : CredentialError) : Prop where
  /-- The status of the answer. -/
  status : e'.status = e.status
  /-- The message in it. -/
  publicMessage : e'.publicMessage = e.publicMessage

theorem CredentialError.alike_refl (e : CredentialError) : e.Alike e := ⟨rfl, rfl⟩

theorem CredentialError.alike_of_eq (e e' : CredentialError) (h : e = e') : e.Alike e' :=
  h ▸ e.alike_refl

/-- Whatever the detail, a service that does not answer is shown in one way. -/
theorem CredentialError.alike_unavailable (detail detail' : String) :
    (unavailable detail).Alike (unavailable detail') := ⟨rfl, rfl⟩

/-- The failures of providers are shown to callers in one way. -/
def OAuthError.Alike (e e' : OAuthError) : Prop := e.toCredential.Alike e'.toCredential

/-! ### Tokens -/

/-- The answers differ in the text of the tokens at most, and grant an access token both or
neither. -/
def TokenResponse.Alike (t t' : TokenResponse) : Prop :=
  ∃ access refresh, t' = { t with accessToken := access, refreshToken := refresh } ∧
    (t.accessToken = "" ↔ access = "")

/-- The tokens that the body of an answer names. -/
def TokenResponse.ofAnswer? (a : Http.Response) : Option TokenResponse :=
  (Json.read? a.body).bind TokenResponse.ofJson?

/-- The answers have one status; as long as it is a good one, they differ in the text of tokens at
most. -/
structure TokenResponse.AnswersAlike (a a' : Http.Response) : Prop where
  /-- The status. -/
  status : a'.status = a.status
  /-- What is granted. -/
  tokens : a.isSuccess → Option.Rel TokenResponse.Alike (ofAnswer? a) (ofAnswer? a')

/-! ### Providers -/

/-- The providers differ in the secret of this program at most. -/
def Provider.Alike (p p' : Provider) : Prop :=
  ∃ secret, p' = { p with credentials := { p.credentials with clientSecret := secret } }

namespace Provider

variable {p p' : Provider}

theorem authorizationUrl_alike (hp : p.Alike p') (redirectUri state : String) :
    p'.authorizationUrl redirectUri state = p.authorizationUrl redirectUri state := by
  obtain ⟨secret, rfl⟩ := hp
  rfl

theorem exchangeFault_alike (hp : p.Alike p') (fault : Http.Fault) :
    p'.exchangeFault fault = p.exchangeFault fault := by
  obtain ⟨secret, rfl⟩ := hp
  cases fault <;> rfl

/-- Whether a request can be made does not depend on its body. -/
theorem make?_body (method target : String) (headers : List (String × String))
    (body body' : Bytes) :
    Http.Request.make? method target headers body' =
      (Http.Request.make? method target headers body).map fun q => { q with body := body' } := by
  unfold Http.Request.make?
  cases Url.read? target with
  | none => rfl
  | some url =>
    simp only [Option.bind_eq_bind, Option.bind_some]
    split <;> rfl

/-- A code can be sent to both providers or to neither. -/
theorem exchangeRequest_alike (hp : p.Alike p') (redirectUri code : String) :
    Outcome.Alike Eq
      (fun q q' => p.exchangeRequest redirectUri code = .ok q ∧
        p'.exchangeRequest redirectUri code = .ok q')
      (p.exchangeRequest redirectUri code) (p'.exchangeRequest redirectUri code) := by
  obtain ⟨secret, rfl⟩ := hp
  simp only [exchangeRequest]
  -- Only the body tells the secret.
  rw [make?_body _ _ _ (Text.utf8 (Form.encode (p.exchangePairs redirectUri code)))
    (Text.utf8 (Form.encode (exchangePairs
      { p with credentials := { p.credentials with clientSecret := secret } } redirectUri code)))]
  cases Http.Request.make? "POST" p.tokenUrl _
    (Text.utf8 (Form.encode (p.exchangePairs redirectUri code))) with
  | none => exact .error rfl
  | some q => exact .ok ⟨rfl, rfl⟩

/-- What is read from answers that are alike is alike: tokens, or failures shown in one way. -/
theorem readTokens_alike (hp : p.Alike p') {a a' : Http.Response}
    (ha : TokenResponse.AnswersAlike a a') :
    Outcome.Alike OAuthError.Alike TokenResponse.Alike (p.readTokens a) (p'.readTokens a') := by
  obtain ⟨secret, rfl⟩ := hp
  have hsuccess : a'.isSuccess = a.isSuccess := by
    unfold Http.Response.isSuccess
    rw [ha.status]
  simp only [readTokens, hsuccess]
  by_cases h : a.isSuccess
  · rw [if_neg (not_not_intro h), if_neg (not_not_intro h)]
    have htokens := ha.tokens h
    unfold TokenResponse.ofAnswer? at htokens
    revert htokens
    generalize (Json.read? a.body).bind TokenResponse.ofJson? = x
    generalize (Json.read? a'.body).bind TokenResponse.ofJson? = x'
    rintro (⟨access, refresh, rfl, hempty⟩ | _)
    · rename_i t
      dsimp only
      cases herror : t.error with
      | some error => exact .error (CredentialError.alike_unavailable _ _)
      | none =>
        dsimp only
        by_cases hnone : t.accessToken = ""
        · rw [if_pos hnone, if_pos (hempty.mp hnone)]
          exact .error (CredentialError.alike_unavailable _ _)
        · rw [if_neg hnone, if_neg (mt hempty.mpr hnone)]
          exact .ok ⟨access, refresh, by rw [herror], hempty⟩
    · exact .error (CredentialError.alike_unavailable _ _)
  · -- The body of a refusal stands in the logs alone.
    rw [if_pos h, if_pos h]
    exact .error (CredentialError.alike_unavailable _ _)

end Provider

namespace ProviderRegistry

/-- The registries differ in the secrets of this program at most. -/
structure Alike (r r' : ProviderRegistry) : Prop where
  /-- One provider stands in each place, or none in both. -/
  ofKind? : ∀ kind, Option.Rel Provider.Alike (r.ofKind? kind) (r'.ofKind? kind)
  /-- Where providers send users back to. -/
  redirectUri : r'.redirectUri = r.redirectUri
  /-- How long to wait for tokens. -/
  timeout : r'.timeout = r.timeout

/-- The providers stand in one place of the registries. -/
def Twins (r r' : ProviderRegistry) (p p' : Provider) : Prop :=
  ∃ kind, r.ofKind? kind = some p ∧ r'.ofKind? kind = some p'

/-- The requests bring one code to providers that stand in one place. -/
def PostsAlike (r r' : ProviderRegistry) (q q' : Http.Request) : Prop :=
  ∃ p p' code, r.Twins r' p p' ∧ p.exchangeRequest r.redirectUri code = .ok q ∧
    p'.exchangeRequest r'.redirectUri code = .ok q'

variable {r r' : ProviderRegistry} {p p' : Provider}

theorem Alike.of_twins (h : r.Alike r') (hp : r.Twins r' p p') : p.Alike p' := by
  obtain ⟨kind, hp, hp'⟩ := hp
  have hrel := h.ofKind? kind
  rw [hp, hp'] at hrel
  cases hrel with
  | some h => exact h

theorem get_alike (h : r.Alike r') (name : String) :
    Outcome.Alike Eq (r.Twins r') (r.get name) (r'.get name) := by
  unfold get
  refine Outcome.alike_bind (Outcome.alike_refl Eq.refl _) ?_
  rintro kind _ rfl
  have hrel := h.ofKind? kind
  generalize hp : r.ofKind? kind = x at hrel ⊢
  generalize hp' : r'.ofKind? kind = x' at hrel ⊢
  cases hrel with
  | none => exact .error rfl
  | some _ => exact .ok ⟨kind, hp, hp'⟩

end ProviderRegistry

/-! ### Flows -/

namespace OAuthFlow

/-- The flows differ in the secrets of this program at providers at most. -/
structure Alike (f f' : OAuthFlow) : Prop where
  /-- What signs state tokens. -/
  signer : f'.signer = f.signer
  /-- The providers. -/
  providers : f.providers.Alike f'.providers

/-- What two flows may differ in, while certain tokens are shown to the cluster. -/
def likeness (f f' : OAuthFlow) (shown : String → Prop) : Likeness :=
  ⟨shown, f.providers.PostsAlike f'.providers, TokenResponse.AnswersAlike⟩

variable {f f' : OAuthFlow} {shown : String → Prop}

theorem exchange_alike (hf : f.Alike f') {p p' : Provider}
    (hp : f.providers.Twins f'.providers p p') (code : String) :
    (f.providers.exchange p code).Alike (Demand.Paired (f.likeness f' shown)) OAuthError.Alike
      TokenResponse.Alike (f'.providers.exchange p' code) := by
  have halike := hf.providers.of_twins hp
  unfold ProviderRegistry.exchange
  rw [hf.providers.redirectUri, hf.providers.timeout]
  have hrequest : Outcome.Alike OAuthError.Alike (f.providers.PostsAlike f'.providers)
      (p.exchangeRequest f.providers.redirectUri code)
      (p'.exchangeRequest f.providers.redirectUri code) :=
    (Provider.exchangeRequest_alike halike _ code).mono
      (fun _ _ he => CredentialError.alike_of_eq _ _ (congrArg _ he))
      fun q q' hq => ⟨p, p', code, hp, hq.1, hf.providers.redirectUri ▸ hq.2⟩
  refine Action.alike_bind (Action.alike_ofExcept hrequest) fun q q' hq => ?_
  have hexchange : ((Action.exchange q f.providers.timeout).mapError p.exchangeFault).Alike
      (Demand.Paired (f.likeness f' shown)) OAuthError.Alike TokenResponse.AnswersAlike
      ((Action.exchange q' f.providers.timeout).mapError p'.exchangeFault) := by
    refine Action.alike_mapError (Action.alike_exchange (.exchange hq _)) ?_
    rintro fault _ rfl
    rw [Provider.exchangeFault_alike halike]
    exact CredentialError.alike_refl _
  refine Action.alike_bind hexchange fun a a' ha => ?_
  exact Action.alike_ofExcept (Provider.readTokens_alike halike ha)

theorem provider_alike (hf : f.Alike f') (name : String) :
    Outcome.Alike Eq (f.providers.Twins f'.providers) (f.provider name) (f'.provider name) :=
  Outcome.alike_mapError (ProviderRegistry.get_alike hf.providers name)
    fun _ _ he => congrArg _ he

/-- Flows are begun alike. -/
theorem begin_alike (hf : f.Alike f') {who : Client} (hwho : who.Shows shown) {session : ObjectRef}
    {name : String} :
    (f.begin who session name).Alike (Demand.Paired (f.likeness f' shown)) Eq Eq
      (f'.begin who session name) := by
  have hsigner : f'.requireSigner = f.requireSigner := by
    unfold requireSigner
    rw [hf.signer]
  unfold begin
  rw [hsigner, hf.providers.redirectUri]
  refine Action.alike_then (Action.alike_known Eq.refl _) fun signer => ?_
  refine Action.alike_bind (Action.alike_ofExcept (provider_alike hf name)) fun p p' hp => ?_
  have halike := hf.providers.of_twins hp
  have hkind : p'.kind = p.kind := by
    obtain ⟨secret, rfl⟩ := halike
    rfl
  have hread : (discard ((Action.cluster who (.getSession session)).mapError
      ClusterError.toCredential)).Alike (Demand.Paired (f.likeness f' shown)) Eq Eq
      (discard ((Action.cluster who (.getSession session)).mapError
        ClusterError.toCredential)) :=
    Action.alike_discard (Action.alike_mapError (Action.open_alike hwho trivial)
      fun _ _ he => congrArg _ he)
  refine Action.alike_then hread fun _ => ?_
  refine Action.alike_then (Action.alike_clock .clock) fun now => ?_
  simp only [hkind, Provider.authorizationUrl_alike halike]
  exact Action.alike_then (Action.alike_known Eq.refl _) fun url => Action.alike_pure rfl

theorem admitted_alike (hf : f.Alike f') (params : CallbackParams) (now : Timestamp) :
    Outcome.Alike Eq
      (fun x x' => x.1 = x'.1 ∧ x.2.1 = x'.2.1 ∧ f.providers.Twins f'.providers x.2.2 x'.2.2)
      (f.admitted params now) (f'.admitted params now) := by
  have hsigner : f'.requireSigner = f.requireSigner := by
    unfold requireSigner
    rw [hf.signer]
  unfold admitted
  rw [hsigner]
  dsimp only
  cases nonEmpty params.code with
  | none => exact .error rfl
  | some code =>
    cases nonEmpty params.state with
    | none => exact .error rfl
    | some state =>
      simp only [pure_bind]
      refine Outcome.alike_bind (Outcome.alike_refl Eq.refl _) ?_
      rintro signer _ rfl
      refine Outcome.alike_bind (Outcome.alike_refl Eq.refl _) ?_
      rintro payload _ rfl
      split
      · exact .error rfl
      · exact Outcome.alike_bind (provider_alike hf _) fun p p' hp => .ok ⟨rfl, rfl, hp⟩

theorem store_alike (hf : f.Alike f') {p p' : Provider} (hp : f.providers.Twins f'.providers p p')
    (code : String) (payload : StatePayload) :
    (f.store code payload p).Alike (Demand.Paired (f.likeness f' shown)) CredentialError.Alike Eq
      (f'.store code payload p') := by
  unfold store
  refine Action.alike_then (Action.alike_mapError (Action.platform_alike trivial)
    fun _ _ he => CredentialError.alike_of_eq _ _ (congrArg _ he)) fun session => ?_
  refine Action.alike_bind (Action.alike_mapError (exchange_alike hf hp code) fun _ _ he => he) ?_
  rintro tokens _ ⟨access, refresh, rfl, _⟩
  refine Action.alike_then (Action.alike_clock .clock) fun now => ?_
  obtain ⟨secret, rfl⟩ := hf.providers.of_twins hp
  -- The grants differ in the tokens and in the secret, which are octets of the change alone.
  refine Action.alike_then ?_ fun _ => Action.alike_pure rfl
  refine (CredentialStore.write_alike ?_ ⟨_, rfl⟩).mono CredentialError.alike_of_eq fun _ _ h => h
  exact trivial

/-- Flows are completed alike, or fail in ways that are shown alike. -/
theorem complete_alike (hf : f.Alike f') (params : CallbackParams) :
    (f.complete params).Alike (Demand.Paired (f.likeness f' shown)) CredentialError.Alike Eq
      (f'.complete params) := by
  unfold complete
  split
  · exact Action.alike_pure rfl
  · refine Action.alike_then (Action.alike_clock .clock) fun now => ?_
    have hadmitted := (Action.alike_ofExcept (k := Demand.Paired (f.likeness f' shown))
      (admitted_alike hf params now)).mono CredentialError.alike_of_eq fun _ _ h => h
    refine Action.alike_bind hadmitted ?_
    rintro ⟨code, payload, p⟩ ⟨_, _, p'⟩ ⟨rfl, rfl, hp⟩
    exact store_alike hf hp code payload

end OAuthFlow

end CredentialBroker
