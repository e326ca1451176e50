import CredentialBroker.Proofs.Cluster.Reachable
import CredentialBroker.Proofs.Credential.Convergence
import CredentialBroker.Proofs.World.Authorization
import Mathlib.Data.List.Infix

namespace CredentialBroker

/-!
# Which secrets sessions share

The secret with a session's token has the name of the session at the end of its own name, those with
its grants have it at the beginning.  Two names of one kind are told apart like the sessions, but
the token secret of a session may be a grant secret of another one.

* `tokenSecretName_eq_grantSecretName` — for which sessions that is so;
* `shared_secretNames_iff` — that nothing else is shared;
* `run_secrets_apart` — issuing for a session and completing its flows leave the secrets of the
  others as they are, where nothing is shared;
* `Issuer.run_issue_clash` — and where a secret is shared, issuing writes the token into it.
-/

variable {a b : String} {kind : ProviderKind}

/-! ### Names -/

/-- The names of the secrets of a session. -/
def secretNames (session : String) : List String :=
  [tokenSecretName session, grantSecretName session .google, grantSecretName session .github]

theorem ProviderKind.exists_iff {P : ProviderKind → Prop} :
    (∃ kind, P kind) ↔ P .google ∨ P .github := by
  constructor
  · rintro ⟨kind, h⟩
    cases kind with
    | google => exact .inl h
    | github => exact .inr h
  · rintro (h | h)
    · exact ⟨.google, h⟩
    · exact ⟨.github, h⟩

theorem mem_secretNames {name : String} :
    name ∈ secretNames a ↔ name = tokenSecretName a ∨ ∃ kind, name = grantSecretName a kind := by
  simp only [secretNames, List.mem_cons, List.not_mem_nil, or_false, ProviderKind.exists_iff]

/-- What precedes the name of a session in the name of its token secret. -/
def tokenPrefix : List Char := "ambient-runner-token-".toList

/-- What follows the name of a session in the name of a grant secret. -/
def grantSuffix (kind : ProviderKind) : List Char := ("-" ++ kind.text ++ "-oauth").toList

theorem toList_tokenSecretName : (tokenSecretName a).toList = tokenPrefix ++ a.toList :=
  String.toList_append

theorem toList_grantSecretName :
    (grantSecretName a kind).toList = a.toList ++ grantSuffix kind := by
  simp only [grantSecretName, grantSuffix, String.toList_append, List.append_assoc]

/-- Grant secrets are told apart by session and provider. -/
theorem grantSecretName_injective {kind' : ProviderKind}
    (h : grantSecretName a kind = grantSecretName b kind') : a = b ∧ kind = kind' := by
  have hlists : a.toList ++ grantSuffix kind = b.toList ++ grantSuffix kind' := by
    rw [← toList_grantSecretName, h, toList_grantSecretName]
  -- The names of the providers are of one length.
  have hlength : (grantSuffix kind).length = (grantSuffix kind').length := by
    cases kind <;> cases kind' <;> decide +kernel
  obtain ⟨hname, hright⟩ := List.append_inj' hlists hlength
  refine ⟨String.toList_inj.mp hname, ?_⟩
  revert hright
  cases kind <;> cases kind' <;> decide +kernel

/-- What is both the end of the one fixed part and the beginning of the other is at most a
hyphen. -/
theorem overlap_fixed {w : List Char} (hend : w <:+ tokenPrefix) (hbegin : w <+: grantSuffix kind) :
    w = [] ∨ w = ['-'] := by
  have hall : ∀ w ∈ tokenPrefix.tails, w <+: grantSuffix kind → w = [] ∨ w = ['-'] := by
    cases kind <;> decide +kernel
  exact hall w ((List.mem_tails _ _).mpr hend) hbegin

/-- A text that begins with the one fixed part and ends with the other has a part between the two,
or they have their hyphen in common. -/
theorem split_of_append_eq {x y : List Char} (h : tokenPrefix ++ x = y ++ grantSuffix kind) :
    (∃ z, y = tokenPrefix ++ z ∧ x = z ++ grantSuffix kind) ∨
      tokenPrefix = y ++ ['-'] ∧ grantSuffix kind = '-' :: x := by
  rcases List.append_eq_append_iff.mp h with hbetween | ⟨w, hleft, hright⟩
  · exact .inl hbetween
  · rcases overlap_fixed ⟨_, hleft.symm⟩ ⟨_, hright.symm⟩ with rfl | rfl
    · exact .inl ⟨[], by simpa using hleft.symm, by simpa using hright.symm⟩
    · exact .inr ⟨hleft, hright⟩

/-- **Clashes.**  The token secret of a session is a grant secret of another one when there is a
name between the two fixed parts, or when they have one hyphen in common. -/
theorem tokenSecretName_eq_grantSecretName :
    tokenSecretName a = grantSecretName b kind ↔
      (a = kind.text ++ "-oauth" ∧ b = "ambient-runner-token") ∨
        ∃ x, a = grantSecretName x kind ∧ b = tokenSecretName x := by
  constructor
  · intro h
    have hlists : tokenPrefix ++ a.toList = b.toList ++ grantSuffix kind := by
      rw [← toList_tokenSecretName, h, toList_grantSecretName]
    rcases split_of_append_eq hlists with ⟨x, hb, ha⟩ | ⟨hb, ha⟩
    · -- The name of the second session goes on where the first fixed part ends.
      refine .inr ⟨.ofList x, ?_, ?_⟩
      · rw [← String.toList_inj, ha, toList_grantSecretName, String.toList_ofList]
      · rw [← String.toList_inj, hb, toList_tokenSecretName, String.toList_ofList]
    · -- The fixed parts have their hyphen in common.
      refine .inl ⟨?_, ?_⟩
      · refine String.toList_inj.mp (List.cons_injective (ha.symm.trans ?_))
        cases kind <;> decide +kernel
      · refine String.toList_inj.mp (List.append_cancel_right (hb.symm.trans ?_))
        decide +kernel
  · intro h
    rw [← String.toList_inj, toList_tokenSecretName, toList_grantSecretName]
    rcases h with ⟨rfl, rfl⟩ | ⟨x, rfl, rfl⟩
    · cases kind <;> decide +kernel
    · rw [toList_grantSecretName, toList_tokenSecretName, List.append_assoc]

/-- The token secret of the first session is a grant secret of the second one. -/
def Clash (a b : String) : Prop :=
  ∃ kind : ProviderKind, (a = kind.text ++ "-oauth" ∧ b = "ambient-runner-token") ∨
    ∃ x, a = grantSecretName x kind ∧ b = tokenSecretName x

theorem clash_iff : Clash a b ↔ ∃ kind, tokenSecretName a = grantSecretName b kind :=
  exists_congr fun _ => tokenSecretName_eq_grantSecretName.symm

instance (a b : String) : Decidable (Clash a b) :=
  decidable_of_iff' _ (clash_iff.trans ProviderKind.exists_iff)

theorem tokenSecretName_mem_secretNames :
    tokenSecretName a ∈ secretNames b ↔ a = b ∨ Clash a b := by
  rw [mem_secretNames, clash_iff]
  exact or_congr_left ⟨tokenSecretName_injective, congrArg tokenSecretName⟩

theorem grantSecretName_mem_secretNames :
    (∃ kind, grantSecretName a kind ∈ secretNames b) ↔ a = b ∨ Clash b a := by
  simp only [mem_secretNames, clash_iff]
  constructor
  · rintro ⟨kind, h | ⟨kind', h⟩⟩
    · exact .inr ⟨kind, h.symm⟩
    · exact .inl (grantSecretName_injective h).1
  · rintro (rfl | ⟨kind, h⟩)
    · exact ⟨.google, .inr ⟨.google, rfl⟩⟩
    · exact ⟨kind, .inl h.symm⟩

/-- Two sessions share a secret exactly when one of them clashes with the other. -/
theorem shared_secretNames_iff :
    (∃ name ∈ secretNames a, name ∈ secretNames b) ↔ a = b ∨ Clash a b ∨ Clash b a := by
  constructor
  · rintro ⟨name, ha, hb⟩
    rcases mem_secretNames.mp ha with rfl | ⟨kind, rfl⟩
    · exact (tokenSecretName_mem_secretNames.mp hb).imp_right .inl
    · exact (grantSecretName_mem_secretNames.mp ⟨kind, hb⟩).imp_right .inr
  · rintro (rfl | h | h)
    · exact ⟨_, tokenSecretName_mem_secretNames.mpr (.inl rfl),
        tokenSecretName_mem_secretNames.mpr (.inl rfl)⟩
    · exact ⟨_, tokenSecretName_mem_secretNames.mpr (.inl rfl),
        tokenSecretName_mem_secretNames.mpr (.inr h)⟩
    · exact ⟨_, tokenSecretName_mem_secretNames.mpr (.inr h),
        tokenSecretName_mem_secretNames.mpr (.inl rfl)⟩

/-! ### Runs -/

variable {i : Issuer} {f : OAuthFlow} {env : Surroundings} {s : Simulation} {ref other : ObjectRef}
  {name : String}

/-- An issue leaves the secrets of a session that its own does not clash with. -/
theorem Issuer.run_issue_apart (hk : s.cluster.objects.Keyed) (hne : other ≠ ref)
    (hname : name ∈ secretNames other.name)
    (hclash : other.ns = ref.ns → ¬ Clash ref.name other.name) :
    (Simulation.run env (i.issue ref) s).2.cluster.objects.secrets.get? ⟨other.ns, name⟩ =
      s.cluster.objects.secrets.get? ⟨other.ns, name⟩ := by
  refine run_issue_other hk fun hsame => ?_
  obtain ⟨hns, rfl⟩ := ObjectRef.mk.inj hsame
  rcases tokenSecretName_mem_secretNames.mp hname with heq | hclashes
  · exact hne (ObjectRef.ext hns heq.symm)
  · exact hclash hns hclashes

/-- A flow leaves the secrets of a session that does not clash with its own. -/
theorem OAuthFlow.run_complete_apart {params : CallbackParams} (hk : s.cluster.objects.Keyed)
    (hne : other ≠ ref) (hname : name ∈ secretNames other.name)
    (hclash : other.ns = ref.ns → ¬ Clash other.name ref.name)
    (hnamed : ∀ code payload p, f.admitted params s.now = .ok (code, payload, p) →
      payload.ref = ref) :
    (Simulation.run env (f.complete params) s).2.cluster.objects.secrets.get? ⟨other.ns, name⟩ =
      s.cluster.objects.secrets.get? ⟨other.ns, name⟩ := by
  refine run_complete_other hk hnamed fun kind hsame => ?_
  obtain ⟨hns, rfl⟩ := ObjectRef.mk.inj hsame
  rcases grantSecretName_mem_secretNames.mp ⟨kind, hname⟩ with heq | hclashes
  · exact hne (ObjectRef.ext hns heq.symm)
  · exact hclash hns hclashes

/-- **Secrets apart.**  The names of the secrets of two sessions have one in common exactly when one
of the sessions clashes with the other.  From every state that a cluster can reach, issuing for a
session leaves the secrets of each session that it does not clash with, and completing a flow of a
session leaves those of each session that does not clash with it. -/
theorem run_secrets_apart (i : Issuer) (f : OAuthFlow) (env : Surroundings) :
    (∀ a b, (∃ name ∈ secretNames a, name ∈ secretNames b) ↔ a = b ∨ Clash a b ∨ Clash b a) ∧
    ∀ (s : Simulation) (ref other : ObjectRef), s.cluster.Reachable env.supply → other ≠ ref →
      ∀ name ∈ secretNames other.name,
        ((other.ns = ref.ns → ¬ Clash ref.name other.name) →
          (Simulation.run env (i.issue ref) s).2.cluster.objects.secrets.get? ⟨other.ns, name⟩ =
            s.cluster.objects.secrets.get? ⟨other.ns, name⟩) ∧
        ((other.ns = ref.ns → ¬ Clash other.name ref.name) → ∀ params,
          (∀ code payload p, f.admitted params s.now = .ok (code, payload, p) →
            payload.ref = ref) →
          (Simulation.run env (f.complete params) s).2.cluster.objects.secrets.get?
            ⟨other.ns, name⟩ = s.cluster.objects.secrets.get? ⟨other.ns, name⟩) :=
  ⟨fun _ _ => shared_secretNames_iff, fun _ _ _ hreachable hne _ hname =>
    ⟨Issuer.run_issue_apart hreachable.keyed hne hname, fun hclash _ =>
      OAuthFlow.run_complete_apart hreachable.keyed hne hname hclash⟩⟩

/-- The secret with the token of one session stays as it is while a credential is issued for the
other, and while a flow with Google is completed for the other. -/
theorem run_secrets_apart_alpha :
    let alpha : ObjectRef := ⟨"team", "alpha"⟩
    let beta : ObjectRef := ⟨"team", "beta"⟩
    let env := Deployment.offering.surroundings Deployment.granting
    let start : Simulation := ⟨.ofSeconds 0, [.putSession (.ofUser alpha "ada" ∅),
      .call .platform (.createSecret ⟨Issuer.tokenSecret beta, ∅,
        SortedMap.ofList [(tokenKey, Text.utf8 "t")], [], none⟩)
      ].foldl (Happening.run env.supply (.ofSeconds 0)) {}⟩
    let callback : CallbackParams := ⟨some "code",
      some ((StateSigner.ofSecret "key").sign (OAuthFlow.begunPayload .google alpha start.now)),
      none, none⟩
    let secretIn := fun s : Simulation => s.cluster.objects.secrets.get? (Issuer.tokenSecret beta)
    (secretIn start).isSome ∧
      secretIn (Simulation.run env (Deployment.offering.issuer.issue alpha) start).2 =
        secretIn start ∧
      secretIn (Simulation.run env (Deployment.offering.flow.complete callback) start).2 =
        secretIn start := by
  intro alpha beta env start callback secretIn
  have hissue : ¬ Clash alpha.name beta.name := by decide +kernel
  have hcomplete : ¬ Clash beta.name alpha.name := by decide +kernel
  have hreachable : start.cluster.Reachable env.supply := (ClusterState.Reachable.fresh {}).happen _
  have hapart := (run_secrets_apart Deployment.offering.issuer Deployment.offering.flow env).2 start
    alpha beta hreachable (by decide) (tokenSecretName beta.name) (mem_secretNames.mpr (.inl rfl))
  refine ⟨by decide +kernel, hapart.1 fun _ => hissue, hapart.2 (fun _ => hcomplete) callback ?_⟩
  intro code payload p hadmitted
  -- The token was signed for the session.
  have hrange : (OAuthFlow.begunPayload .google alpha start.now).InRange := by
    constructor <;> decide +kernel
  have hsigner : Deployment.offering.flow.signer = some (.ofSecret "key") := rfl
  rw [OAuthFlow.payload_eq_of_admitted hsigner rfl hrange hadmitted]
  rfl

/-- Where a session clashes with another one, an issue for it writes its token into a secret of the
other. -/
theorem Issuer.run_issue_clash (hclient : i.client = .platform) (hfaults : s.cluster.faults = [])
    (hk : s.cluster.objects.Keyed) (htoken : env.supply.token s.cluster.minted ≠ "")
    (hsession : (s.cluster.objects.sessions.get? ref).isSome) (hclash : Clash ref.name other.name)
    (hns : other.ns = ref.ns) :
    ∃ name ∈ secretNames other.name, ∃ issued s' secret,
      Simulation.run env (i.issue ref) s = (.ok issued, s') ∧
      s'.cluster.objects.secrets.get? ⟨other.ns, name⟩ = some secret ∧
      secret.data.get? tokenKey = some (Text.utf8 (env.supply.token s.cluster.minted)) := by
  obtain ⟨session, hsession⟩ := Option.isSome_iff_exists.mp hsession
  obtain ⟨s', hrun, hsettles, _⟩ :=
    run_issue_of_ready ref env hclient hfaults hk htoken hsession
  obtain ⟨secret, hsecret, hdata, _⟩ := hsettles.provided.secret
  refine ⟨tokenSecretName ref.name, tokenSecretName_mem_secretNames.mpr (.inr hclash), _, s',
    secret, hrun, ?_, ?_⟩
  · rw [hns]
    exact hsecret
  · rw [hdata, SortedMap.get?_insert_self]

/-- A session whose name ends like that of a grant secret: an issue for it puts its token into the
secret with another session's grant. -/
theorem Issuer.run_issue_intrudes :
    let intruder : ObjectRef := ⟨"team", "google-oauth"⟩
    let other : ObjectRef := ⟨"team", "ambient-runner-token"⟩
    let env := Deployment.plain.surroundings fun _ => .error .timedOut
    let start : Simulation := ⟨.ofSeconds 0, [.putSession (.ofUser intruder "bob" ∅),
      .putSession (.ofUser other "ada" ∅),
      .call .platform (.createSecret ⟨OAuthFlow.grantSecret other .google, ∅,
        SortedMap.ofList [(StoredGrant.accessTokenKey, Text.utf8 "at")], [], none⟩)
      ].foldl (Happening.run env.supply (.ofSeconds 0)) {}⟩
    let outcome := Simulation.run env (Deployment.plain.issuer.issue intruder) start
    let tokenIn := fun s : Simulation =>
      (s.cluster.objects.secrets.get? (OAuthFlow.grantSecret other .google)).map
        (·.data.get? tokenKey)
    intruder.name ≠ other.name ∧
      tokenSecretName intruder.name = grantSecretName other.name .google ∧
      outcome.1.isOk ∧ tokenIn start = some none ∧
      tokenIn outcome.2 = some (some (Text.utf8 "m")) := by
  decide +kernel

end CredentialBroker
