import CredentialBroker.Proofs.OAuth.Containment

namespace CredentialBroker

/-!
# How redirects fail, and what is told of it

Most failures are told in words of the program's own.  Three kinds of them are told with a text from
outside: the provider or the session that a verified token names, and what a failure of the cluster
says is missing.

* `ClusterError.isFixed_toCredential`, `StateError.isFixed_toCredential`,
  `OAuthError.isFixed_toCredential` — which failures are told without such a text;
* `OAuthFlow.Refused` — why a redirect fails, and the text from outside in what is told;
* `OAuthFlow.run_complete_error` — a redirect fails in no other way.
-/

/-! ### What is told -/

/-- What is told of failures whatever they are about. -/
def CredentialError.fixedMessages : List String :=
  ["unauthenticated", "forbidden", "invalid or expired state", "conflict, retry the request",
    "upstream unavailable, retry later", "internal error", "missing authorization code",
    "state carries no session"]

/-- The failure is told without a text from outside. -/
def CredentialError.IsFixed (e : CredentialError) : Prop := e.publicMessage ∈ fixedMessages

/-- Of the failures of the cluster only something that is missing is named. -/
theorem ClusterError.isFixed_toCredential {e : ClusterError} (h : e.isNotFound = false) :
    e.toCredential.IsFixed := by
  cases e with
  | notFound => cases h
  | api status message =>
    unfold toCredential
    dsimp only
    split <;> simp [CredentialError.IsFixed, CredentialError.publicMessage,
      CredentialError.fixedMessages]
  | _ => simp [toCredential, CredentialError.IsFixed, CredentialError.publicMessage,
      CredentialError.fixedMessages]

theorem StateError.isFixed_toCredential (e : StateError) : e.toCredential.IsFixed := by
  cases e <;> simp [toCredential, CredentialError.IsFixed, CredentialError.publicMessage,
    CredentialError.fixedMessages]

/-- Of the failures of providers only a name that no provider has is told. -/
theorem OAuthError.isFixed_toCredential {e : OAuthError}
    (h : ∀ name, e ≠ .unsupportedProvider name) :
    e.toCredential.IsFixed := by
  cases e with
  | unsupportedProvider name => exact absurd rfl (h name)
  | _ => simp [toCredential, CredentialError.IsFixed, CredentialError.publicMessage,
      CredentialError.fixedMessages]

theorem ClusterError.eq_notFound {e : ClusterError} (h : e.isNotFound = true) :
    ∃ kind name, e = .notFound kind name := by
  cases e with
  | notFound kind name => exact ⟨kind, name, rfl⟩
  | _ => cases h

/-- A name that no provider has is told trimmed and in small letters. -/
theorem ProviderKind.ofText_eq_error {name : String} {e : OAuthError}
    (h : ProviderKind.ofText name = .error e) :
    e = .unsupportedProvider (Text.lowercase (Text.trim name)) := by
  unfold ofText at h
  dsimp only at h
  split at h
  · cases h
  · split at h
    · cases h
    · exact (Except.error.inj h).symm

namespace OAuthFlow

variable {f : OAuthFlow} {params : CallbackParams} {now : Timestamp} {env : Surroundings}
  {s t : Simulation} {code : String} {payload : StatePayload} {p : Provider} {e : CredentialError}

/-- A redirect brings a token that is verified at a time, and this is its payload. -/
def Vouched (f : OAuthFlow) (params : CallbackParams) (now : Timestamp) (payload : StatePayload) :
    Prop :=
  ∃ state signer, params.state = some state ∧ f.signer = some signer ∧
    signer.verify state now.seconds = .ok payload

/-- A token that was made here vouches for the payload it was made for. -/
theorem eq_of_vouched {signer : StateSigner} {signed : StatePayload}
    (hsigner : f.signer = some signer)
    (hstate : params.state = some (signer.sign signed)) (hrange : signed.InRange)
    (h : f.Vouched params now payload) : payload = signed := by
  obtain ⟨state, signer', hstate', hsigner', hverify⟩ := h
  obtain rfl : signer = signer' := Option.some.inj (hsigner.symm.trans hsigner')
  obtain rfl : signer.sign signed = state := Option.some.inj (hstate.symm.trans hstate')
  exact ((StateSigner.verify_sign hrange).mp hverify).1

/-- Why a redirect fails, and the text from outside that it is told with. -/
inductive Refused (f : OAuthFlow) (params : CallbackParams) (s : Simulation) :
    String → CredentialError → Prop where
  /-- It is told without one. -/
  | fixed {e : CredentialError} (h : e.IsFixed) : Refused f params s "" e
  /-- The provider that a verified token names is not known. -/
  | provider {payload : StatePayload} (h : f.Vouched params s.now payload)
      (hunknown : ∀ kind, ProviderKind.ofText payload.provider ≠ .ok kind) :
      Refused f params s payload.provider (.invalidInput
        ("Unsupported OAuth provider: " ++ Text.lowercase (Text.trim payload.provider)))
  /-- The session that a verified token names is not there. -/
  | session {payload : StatePayload} (h : f.Vouched params s.now payload)
      (habsent : s.cluster.objects.sessions.get? payload.ref = none) :
      Refused f params s payload.ref.text (.notFound ("AgenticSession " ++ payload.ref.text))
  /-- A failure that waited for a call of the flow says that something is missing. -/
  | failure {op : Operation} {kind name : String}
      (hop : op = .getSession ∨ op = .createSecret ∨ op = .updateSecret)
      (h : (op, .notFound kind name) ∈ s.cluster.faults) :
      Refused f params s (kind ++ " " ++ name) (.notFound (kind ++ " " ++ name))

/-! ### The checks -/

theorem provider_eq_error {name : String} (h : f.provider name = .error e) :
    e.IsFixed ∨ (∀ kind, ProviderKind.ofText name ≠ .ok kind) ∧ e = .invalidInput
      ("Unsupported OAuth provider: " ++ Text.lowercase (Text.trim name)) := by
  unfold provider ProviderRegistry.get at h
  obtain ⟨e', hname, rfl⟩ := Outcome.mapError_eq_error.mp h
  rcases Outcome.bind_eq_error.mp hname with hkind | ⟨kind, _, hname⟩
  · refine .inr ⟨fun kind => ?_, ?_⟩
    · rw [hkind]
      exact nofun
    · rw [ProviderKind.ofText_eq_error hkind]
      rfl
  · split at hname
    · cases hname
    · cases hname
      exact .inl (OAuthError.isFixed_toCredential fun _ => nofun)

/-- A redirect that is not let in is told of a token only what provider it names, and only of one
that is verified. -/
theorem admitted_eq_error (h : f.admitted params now = .error e) :
    e.IsFixed ∨ ∃ payload, f.Vouched params now payload ∧
      (∀ kind, ProviderKind.ofText payload.provider ≠ .ok kind) ∧ e = .invalidInput
        ("Unsupported OAuth provider: " ++ Text.lowercase (Text.trim payload.provider)) := by
  have hwords : ∀ message ∈ CredentialError.fixedMessages,
      (CredentialError.invalidInput message).IsFixed := fun _ => id
  unfold admitted at h
  cases hcode : nonEmpty params.code with
  | none =>
    rw [hcode] at h
    cases h
    exact .inl (hwords _ (by decide))
  | some given =>
    cases hstate : nonEmpty params.state with
    | none =>
      rw [hcode, hstate] at h
      cases h
      exact .inl (StateError.isFixed_toCredential .malformed)
    | some state =>
      rw [hcode, hstate] at h
      simp only [pure_bind] at h
      rcases Outcome.bind_eq_error.mp h with hsigner | ⟨signer, hsigner, h⟩
      · unfold requireSigner at hsigner
        split at hsigner
        · cases hsigner
        · cases hsigner
          exact .inl (StateError.isFixed_toCredential _)
      · rcases Outcome.bind_eq_error.mp h with hverify | ⟨payload, hverify, h⟩
        · obtain ⟨e', _, rfl⟩ := Outcome.mapError_eq_error.mp hverify
          exact .inl (StateError.isFixed_toCredential e')
        · have hvouched : f.Vouched params now payload :=
            ⟨state, signer, (nonEmpty_eq_some.mp hstate).1, requireSigner_eq_ok.mp hsigner,
              Outcome.mapError_eq_ok.mp hverify⟩
          split at h
          · cases h
            exact .inl (hwords _ (by decide))
          · rcases Outcome.bind_eq_error.mp h with hprovider | ⟨_, _, h⟩
            · exact (provider_eq_error hprovider).imp_right fun hname => ⟨payload, hvouched, hname⟩
            · cases h

/-! ### The rest of the flow -/

/-- A provider that gives no tokens is one that is known. -/
theorem exchanged_ne_unsupported {endpoint : Http.Request → Except Http.Fault Http.Response}
    {r : ProviderRegistry} {e : OAuthError} (h : exchanged endpoint r p code = .error e)
    (name : String) : e ≠ .unsupportedProvider name := by
  rintro rfl
  unfold exchanged at h
  rcases Outcome.bind_eq_error.mp h with hrequest | ⟨request, _, h⟩
  · unfold Provider.exchangeRequest at hrequest
    dsimp only at hrequest
    split at hrequest <;> cases hrequest
  · rcases Outcome.bind_eq_error.mp h with hanswer | ⟨response, _, h⟩
    · obtain ⟨fault, _, hfault⟩ := Outcome.mapError_eq_error.mp hanswer
      cases fault <;> cases hfault
    · unfold Provider.readTokens at h
      split at h
      · cases h
      · split at h
        · cases h
        · split at h
          · cases h
          · split at h <;> cases h

/-- A failure of the cluster is told without a text from outside, unless it waited for a call of the
flow and says that something is missing. -/
theorem exists_refused {e : ClusterError} (h : e.isNotFound = true → ∃ op,
    (op = .getSession ∨ op = .createSecret ∨ op = .updateSecret) ∧ (op, e) ∈ s.cluster.faults) :
    ∃ given, Refused f params s given e.toCredential := by
  cases hmissing : e.isNotFound with
  | false => exact ⟨"", .fixed (ClusterError.isFixed_toCredential hmissing)⟩
  | true =>
    obtain ⟨kind, name, rfl⟩ := ClusterError.eq_notFound hmissing
    obtain ⟨op, hop, hfault⟩ := h rfl
    exact ⟨kind ++ " " ++ name, .failure hop hfault⟩

/-- What the session of a flow cannot be read for. -/
theorem run_read_refused {e : ClusterError} (hvouched : f.Vouched params s.now payload)
    (h : Simulation.run env (Action.cluster .platform (.getSession payload.ref)) s =
      (.error e, t)) :
    ∃ given, Refused f params s given e.toCredential := by
  rcases Simulation.run_platform_error h with hfault | herror
  · exact exists_refused fun _ => ⟨.getSession, .inl rfl, hfault⟩
  · cases hsession : s.cluster.objects.sessions.get? payload.ref with
    | none =>
      rw [Objects.apply_getSession_absent hsession] at herror
      cases herror
      exact ⟨_, .session hvouched hsession⟩
    | some session =>
      rw [Objects.apply_getSession.mpr ⟨rfl, hsession⟩] at herror
      cases herror

/-- What the grant of a flow cannot be written for. -/
theorem run_putAway_refused {session : Session} {tokens : TokenResponse}
    (hk : s.cluster.objects.Keyed)
    (h : Simulation.run env (putAway payload p session tokens) s = (.error e, t)) :
    ∃ given, Refused f params s given e := by
  unfold putAway at h
  rcases Simulation.run_bind_eq_error.mp h with hclock | ⟨now, u, hclock, h⟩
  · cases hclock
  · rw [Simulation.run_clock, Prod.mk.injEq] at hclock
    obtain ⟨-, rfl⟩ := hclock
    rcases Simulation.run_bind_eq_error.mp h with hwrite | ⟨_, _, _, h⟩
    · obtain ⟨e', rfl, hwaiting⟩ := CredentialStore.run_write_missing rfl hk hwrite
      refine exists_refused fun hmissing => ?_
      rcases hwaiting hmissing with hfault | hfault
      · exact ⟨.createSecret, .inr (.inl rfl), hfault⟩
      · exact ⟨.updateSecret, .inr (.inr rfl), hfault⟩
    · cases h

/-- What fails later fails as it would have at first, as long as the objects are the same and no
failure has come in. -/
theorem Refused.of_later {u : Simulation} {given : String} (h : Refused f params u given e)
    (hobjects : u.cluster.objects = s.cluster.objects)
    (hfaults : u.cluster.faults ⊆ s.cluster.faults) (hnow : u.now = s.now) :
    Refused f params s given e := by
  cases h with
  | fixed h => exact .fixed h
  | provider h hunknown => exact .provider (hnow ▸ h) hunknown
  | session h habsent => exact .session (hnow ▸ h) (hobjects ▸ habsent)
  | failure hop h => exact .failure hop (hfaults h)

theorem run_store_refused (hk : s.cluster.objects.Keyed) (hvouched : f.Vouched params s.now payload)
    (h : Simulation.run env (f.store code payload p) s = (.error e, t)) :
    ∃ given, Refused f params s given e := by
  rw [store_eq] at h
  rcases Simulation.run_bind_eq_error.mp h with hread | ⟨session, u, hread, h⟩
  · obtain ⟨e', hcall, rfl⟩ := Simulation.run_mapError_eq_error.mp hread
    exact run_read_refused hvouched hcall
  · have hread := Simulation.run_mapError_eq_ok.mp hread
    obtain ⟨_, _, _, happly, _⟩ := Simulation.run_call_eq_ok hread
    have hobjects : u.cluster.objects = s.cluster.objects := (Objects.apply_getSession.mp happly).1
    -- An exchange asks nothing of the cluster, so the write meets what the session was read of.
    rcases Simulation.run_bind_eq_error.mp h with hexchange | ⟨tokens, v, hexchange, h⟩
    · obtain ⟨e', hasked, rfl⟩ := Simulation.run_mapError_eq_error.mp hexchange
      rw [run_exchange, Prod.mk.injEq] at hasked
      exact ⟨_, .fixed (OAuthError.isFixed_toCredential (exchanged_ne_unsupported hasked.1))⟩
    · rw [Simulation.run_mapError_eq_ok, run_exchange, Prod.mk.injEq] at hexchange
      obtain ⟨-, rfl⟩ := hexchange
      obtain ⟨given, hrefused⟩ := run_putAway_refused (hobjects ▸ hk) h
      exact ⟨given, hrefused.of_later hobjects (Simulation.faults_of_run_eq hread).subset
        (Simulation.now_of_run_eq hread)⟩

/-- **Redirects that fail.**  In whatever way a redirect fails, it is told in words of the program's
own, or with the provider or the session that its verified token names, or with what a failure that
waited for a call of the flow says is missing. -/
theorem run_complete_error (hk : s.cluster.objects.Keyed)
    (h : Simulation.run env (f.complete params) s = (.error e, t)) :
    ∃ given, Refused f params s given e := by
  cases herror : nonEmpty params.error with
  | some error =>
    unfold complete at h
    rw [herror] at h
    cases h
  | none =>
    cases hadmitted : f.admitted params s.now with
    | ok admitted =>
      obtain ⟨code, payload, p⟩ := admitted
      obtain ⟨_, state, signer, hstate, hsigner, hverify, _⟩ := admitted_eq_ok.mp hadmitted
      rw [run_complete_of_admitted herror hadmitted] at h
      exact run_store_refused hk
        ⟨state, signer, (nonEmpty_eq_some.mp hstate).1, hsigner, hverify⟩ h
    | error e' =>
      rw [complete_eq herror, Simulation.run_bind, Simulation.run_clock] at h
      dsimp only at h
      rw [Simulation.run_bind, Simulation.run_ofExcept, hadmitted] at h
      cases h
      obtain hfixed | ⟨payload, hvouched, hunknown, rfl⟩ := admitted_eq_error hadmitted
      · exact ⟨_, .fixed hfixed⟩
      · exact ⟨_, .provider hvouched hunknown⟩

end OAuthFlow

end CredentialBroker
