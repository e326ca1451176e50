import CredentialBroker.Proofs.Credential.Failing
import CredentialBroker.Proofs.Effect.Requests
import CredentialBroker.Proofs.World.Authorization

namespace CredentialBroker

/-!
# What a redirect can do

Anyone can send a redirect.  The checks come first, the token endpoint is asked after them, and the
secret is written last, so what a redirect can do is bounded by how far it gets.

* `OAuthFlow.Gate` — what must hold before a token endpoint is asked;
* `OAuthFlow.complete_gated`, `OAuthFlow.run_complete_tampered`, `OAuthFlow.run_complete_kept`,
  `OAuthFlow.run_complete_stored` — a redirect asks one token endpoint at most, one that fails to
  verify asks nothing of anyone, and only a grant that is stored changes an object, its own secret;
* `OAuthFlow.complete_contained` — the four together.
-/

/-! ### Writes -/

namespace CredentialStore

variable {st : CredentialStore} {ref : ObjectRef} {c : SecretChange}

theorem tryWrite_inside : (st.tryWrite ref c).Follows .inside fun _ => True := by
  unfold tryWrite
  refine Action.follows_bind (Action.follows_outcome (Action.follows_call rfl)) fun reply _ => ?_
  cases reply with
  | ok found => exact Action.follows_discard (Action.follows_call rfl)
  | error e =>
    dsimp only
    split
    · exact Action.follows_discard (Action.follows_call rfl)
    · exact Action.follows_throw

/-- A write asks no token endpoint, at any of its attempts. -/
theorem write_inside : (st.write ref c).Follows .inside fun _ => True :=
  Action.follows_mapError (Action.follows_retried (fun _ => rfl) fun _ => tryWrite_inside)

end CredentialStore

namespace OAuthFlow

variable {f : OAuthFlow} {env : Surroundings} {s t : Simulation} {params : CallbackParams}
  {code : String} {payload : StatePayload} {p : Provider}

/-! ### The parts of a flow -/

/-- What is left to do for a session once there are tokens. -/
def putAway (payload : StatePayload) (p : Provider) (session : Session) (tokens : TokenResponse) :
    Action CredentialError CallbackOutcome := do
  let now ← Action.clock
  let store : CredentialStore := { client := .platform }
  store.writeGrant (grantSecret payload.ref p.kind) session.ownerReference
    (labels payload.ref.name p.kind) (grant p tokens now)
  pure (.stored payload.ref p.kind (grantSecret payload.ref p.kind))

theorem store_eq : f.store code payload p =
    (Action.cluster .platform (.getSession payload.ref)).mapError ClusterError.toCredential >>=
      fun session => (f.providers.exchange p code).mapError OAuthError.toCredential >>=
        putAway payload p session := rfl

/-! ### The token endpoint -/

/-- An exchange asks the token endpoint once, when there is a request to ask. -/
theorem exchanges_exchange (r : ProviderRegistry) :
    Simulation.exchanges env (r.exchange p code) s =
      (p.exchangeRequest r.redirectUri code).toOption.toList := by
  unfold ProviderRegistry.exchange
  cases hrequest : p.exchangeRequest r.redirectUri code with
  | error e => rfl
  | ok request =>
    -- Reading the answer asks nothing more.
    rw [Simulation.exchanges_bind_of_ok (Simulation.run_ofExcept _),
      Simulation.exchanges_bind_of_inside fun _ => Action.follows_known,
      Simulation.exchanges_mapError]
    rfl

theorem putAway_inside {session : Session} {tokens : TokenResponse} :
    (putAway payload p session tokens).Follows .inside fun _ => True := by
  unfold putAway
  refine Action.follows_bind (Action.follows_clock rfl) fun now _ => ?_
  exact Action.follows_bind CredentialStore.write_inside fun _ _ => Action.follows_done

/-- What is asked of token endpoints while a grant is stored: nothing, or the tokens for the code
once the session was found. -/
theorem exchanges_store (f : OAuthFlow) (env : Surroundings) (code : String)
    (payload : StatePayload) (p : Provider) (s : Simulation) :
    Simulation.exchanges env (f.store code payload p) s = [] ∨
      (s.cluster.objects.sessions.get? payload.ref).isSome ∧
        ∃ request, p.exchangeRequest f.providers.redirectUri code = .ok request ∧
          Simulation.exchanges env (f.store code payload p) s = [request] := by
  rw [store_eq]
  have hquiet : Simulation.exchanges env ((Action.cluster .platform
      (.getSession payload.ref)).mapError ClusterError.toCredential) s = [] :=
    Simulation.exchanges_mapError
  cases hread : Simulation.run env ((Action.cluster .platform (.getSession payload.ref)).mapError
      ClusterError.toCredential) s with
  | mk x u =>
    cases x with
    | error e => exact .inl ((Simulation.exchanges_bind_of_error hread).trans hquiet)
    | ok session =>
      obtain ⟨_, _, _, happly, _⟩ :=
        Simulation.run_call_eq_ok (Simulation.run_mapError_eq_ok.mp hread)
      have hfound : (s.cluster.objects.sessions.get? payload.ref).isSome :=
        Option.isSome_iff_exists.mpr ⟨session, (Objects.apply_getSession.mp happly).2⟩
      rw [Simulation.exchanges_bind_of_ok hread, hquiet, List.nil_append,
        Simulation.exchanges_bind_of_inside fun _ => putAway_inside,
        Simulation.exchanges_mapError, exchanges_exchange]
      cases p.exchangeRequest f.providers.redirectUri code with
      | error e => exact .inl rfl
      | ok request => exact .inr ⟨hfound, request, rfl, rfl⟩

/-! ### The gate -/

/-- What must hold before a token endpoint is asked for the tokens of a code. -/
structure Gate (f : OAuthFlow) (params : CallbackParams) (s : Simulation) (code : String)
    (payload : StatePayload) (p : Provider) : Prop where
  /-- The redirect reports no error. -/
  error : params.error = none ∨ params.error = some ""
  /-- It brings the code. -/
  code : params.code = some code ∧ code ≠ ""
  /-- It brings a token that is verified at the time of the clock, and the payload is that of the
  token. -/
  verified : ∃ state signer, params.state = some state ∧ state ≠ "" ∧ f.signer = some signer ∧
    signer.verify state s.now.seconds = .ok payload
  /-- The payload names a session. -/
  named : payload.project ≠ "" ∧ payload.session ≠ ""
  /-- The provider that it names is set up. -/
  provider : f.provider payload.provider = .ok p
  /-- The session is there. -/
  session : (s.cluster.objects.sessions.get? payload.ref).isSome

theorem nonEmpty_eq_none {given : Option String} :
    nonEmpty given = none ↔ given = none ∨ given = some "" := by
  cases given with
  | none => simp [nonEmpty]
  | some text => simp [nonEmpty, Option.filter_some]

theorem Gate.of_admitted (herror : nonEmpty params.error = none)
    (hadmitted : f.admitted params s.now = .ok (code, payload, p))
    (hsession : (s.cluster.objects.sessions.get? payload.ref).isSome) :
    f.Gate params s code payload p := by
  obtain ⟨hcode, state, signer, hstate, hsigner, hverify, hproject, hname, hprovider⟩ :=
    admitted_eq_ok.mp hadmitted
  obtain ⟨hstate, hne⟩ := nonEmpty_eq_some.mp hstate
  exact ⟨nonEmpty_eq_none.mp herror, nonEmpty_eq_some.mp hcode,
    ⟨state, signer, hstate, hne, hsigner, hverify⟩, ⟨hproject, hname⟩, hprovider, hsession⟩

/-- Reading the clock and checking the redirect ask nothing of a token endpoint. -/
theorem exchanges_complete_of_admitted (herror : nonEmpty params.error = none)
    (hadmitted : f.admitted params s.now = .ok (code, payload, p)) :
    Simulation.exchanges env (f.complete params) s =
      Simulation.exchanges env (f.store code payload p) s := by
  rw [complete_eq herror, Simulation.exchanges_bind_of_ok Simulation.run_clock, hadmitted,
    Simulation.exchanges_bind_of_ok (Simulation.run_ofExcept _)]
  rfl

/-- **Exchanges come after the checks.**  A redirect asks one token endpoint at most, and none
unless it has passed the gate. -/
theorem complete_gated :
    Simulation.exchanges env (f.complete params) s = [] ∨
      ∃ code payload p request, f.Gate params s code payload p ∧
        p.exchangeRequest f.providers.redirectUri code = .ok request ∧
        Simulation.exchanges env (f.complete params) s = [request] := by
  cases herror : nonEmpty params.error with
  | some error =>
    left
    unfold complete
    rw [herror]
    rfl
  | none =>
    cases hadmitted : f.admitted params s.now with
    | error e =>
      left
      rw [complete_eq herror, Simulation.exchanges_bind_of_ok Simulation.run_clock, hadmitted]
      rfl
    | ok given =>
      obtain ⟨code, payload, p⟩ := given
      rw [exchanges_complete_of_admitted herror hadmitted]
      rcases f.exchanges_store env code payload p s with hnone | ⟨hsession, request, hrequest, hone⟩
      · exact .inl hnone
      · exact .inr
          ⟨code, payload, p, request, .of_admitted herror hadmitted hsession, hrequest, hone⟩

/-! ### Redirects that are turned away -/

/-- However a token fails to verify, it counts as tampered with. -/
theorem toCredential_of_verify {signer : StateSigner} {token : String} {now : Int} {e : StateError}
    (h : signer.verify token now = .error e) : e.toCredential = .tamper e.message := by
  have hsigner : e ≠ .notConfigured := StateSigner.verify_ne_notConfigured h
  cases e with
  | notConfigured => exact absurd rfl hsigner
  | _ => rfl

/-- **Tampered redirects.**  When all is there but the token fails to verify, the redirect counts as
tampered with: nothing but the clock was asked, and nothing has changed. -/
theorem run_complete_tampered {state : String} {signer : StateSigner} {e : StateError}
    (herror : nonEmpty params.error = none) (hcode : nonEmpty params.code = some code)
    (hstate : nonEmpty params.state = some state) (hsigner : f.signer = some signer)
    (hverify : signer.verify state s.now.seconds = .error e) :
    Simulation.run env (f.complete params) s = (.error (.tamper e.message), s) ∧
      Simulation.requests env (f.complete params) s = [.clock] := by
  have hadmitted : f.admitted params s.now = .error (.tamper e.message) := by
    unfold admitted
    simp only [hcode, hstate, pure_bind, requireSigner_eq_ok.mpr hsigner, Outcome.ok_bind, hverify,
      Outcome.error_mapError, Outcome.error_bind, toCredential_of_verify hverify]
  rw [complete_eq herror]
  constructor
  · rw [Simulation.run_bind, Simulation.run_clock]
    dsimp only
    rw [Simulation.run_bind, Simulation.run_ofExcept, hadmitted]
  · rw [Simulation.requests_bind, Simulation.run_clock]
    dsimp only
    rw [hadmitted]
    rfl

/-! ### What is left alone -/

/-- Storing a grant that fails leaves all objects alone. -/
theorem run_store_error {e : CredentialError}
    (h : Simulation.run env (f.store code payload p) s = (.error e, t)) :
    t.cluster.objects = s.cluster.objects := by
  rw [store_eq] at h
  rcases Simulation.run_bind_eq_error.mp h with hread | ⟨session, u, hread, h⟩
  · exact (Simulation.run_mappedCall_error hread).1
  · obtain ⟨_, _, _, happly, _⟩ :=
      Simulation.run_call_eq_ok (Simulation.run_mapError_eq_ok.mp hread)
    have hobjects : u.cluster.objects = s.cluster.objects := (Objects.apply_getSession.mp happly).1
    rw [← hobjects]
    -- An exchange asks nothing of the cluster, so what matters is the write.
    rcases Simulation.run_bind_eq_error.mp h with hexchange | ⟨tokens, v, hexchange, h⟩
    · rw [Simulation.run_mapError, run_exchange] at hexchange
      obtain rfl : u = t := congrArg Prod.snd hexchange
      rfl
    · rw [Simulation.run_mapError, run_exchange] at hexchange
      obtain rfl : u = v := congrArg Prod.snd hexchange
      unfold putAway at h
      rcases Simulation.run_bind_eq_error.mp h with hclock | ⟨now, w, hclock, h⟩
      · cases hclock
      · rw [Simulation.run_clock, Prod.mk.injEq] at hclock
        obtain ⟨-, rfl⟩ := hclock
        rcases Simulation.run_bind_eq_error.mp h with hwrite | ⟨_, w, _, h⟩
        · exact CredentialStore.run_write_error hwrite
        · cases h

/-- **Redirects that store nothing.**  However a redirect ends, unless it is with a grant in a
secret all objects are as before. -/
theorem run_complete_kept
    (h : ∀ session kind secret, (Simulation.run env (f.complete params) s).1 ≠
      .ok (.stored session kind secret)) :
    (Simulation.run env (f.complete params) s).2.cluster.objects = s.cluster.objects := by
  rcases f.run_complete_cases env params s with hsame | ⟨code, payload, p, _, hstore⟩
  · rw [hsame]
  · rw [hstore] at h ⊢
    cases hrun : Simulation.run env (f.store code payload p) s with
    | mk x t =>
      cases x with
      | error e => exact run_store_error hrun
      | ok outcome =>
        rw [hrun] at h
        exact absurd (congrArg Except.ok (run_store_write hrun).1) (h _ _ _)

/-! ### What is written -/

/-- Of all objects one secret is written, and what it held apart from a grant stays. -/
structure Put (secret : ObjectRef) (stored : Secret) (o o' : Objects) : Prop where
  /-- Everything else is as before. -/
  objects : o' = { o with secrets := o.secrets.insert secret stored }
  /-- So are the entries under other keys. -/
  data : ∀ key ∉ ["credentials.json", "access_token", "refresh_token"],
    stored.data.get? key = (o.secrets.get? secret).bind fun found => found.data.get? key
  /-- So are the other labels. -/
  labels : ∀ label ∉ ["app", "ambient-code.io/session", "ambient-code.io/provider",
      "ambient-code.io/oauth"],
    stored.labels.get? label = (o.secrets.get? secret).bind fun found => found.labels.get? label
  /-- So are the owners, if there are any. -/
  owners : ∀ found, o.secrets.get? secret = some found → found.owners ≠ [] →
    stored.owners = found.owners

theorem get?_entries_other {g : StoredGrant} {key : String}
    (h : key ∉ ["credentials.json", "access_token", "refresh_token"]) :
    g.entries.get? key = none := by
  refine SortedMap.get?_ofList_of_forall_ne fun e he heq => h ?_
  rw [heq]
  exact List.mem_map_of_mem (f := Prod.fst) he

theorem get?_labels_other {name label : String} {kind : ProviderKind}
    (h : label ∉ ["app", "ambient-code.io/session", "ambient-code.io/provider",
      "ambient-code.io/oauth"]) : (labels name kind).get? label = none := by
  refine SortedMap.get?_ofList_of_forall_ne fun e he heq => h ?_
  rw [heq]
  exact List.mem_map_of_mem (f := Prod.fst) he

/-- What a map has under a key that another one lacks is the same after a merge of the two. -/
theorem get?_merged {α : Type} {found : Option Secret} {part : Secret → SortedMap String α}
    {change : SortedMap String α} {key : String} (h : change.get? key = none) :
    (((found.map part).getD ∅).union change).get? key =
      found.bind fun secret => (part secret).get? key := by
  rw [SortedMap.get?_union, h, Option.none_or]
  cases found with
  | none => rfl
  | some secret => rfl

/-- **Stored grants.**  A redirect that ends with a grant in a secret has passed the gate, and has
written the secret of its session and provider. -/
theorem run_complete_stored {session secret : ObjectRef} {kind : ProviderKind}
    (hk : s.cluster.objects.Keyed)
    (h : Simulation.run env (f.complete params) s = (.ok (.stored session kind secret), t)) :
    ∃ code payload p, f.Gate params s code payload p ∧ session = payload.ref ∧ kind = p.kind ∧
      secret = ⟨session.ns, session.name ++ "-" ++ kind.text ++ "-oauth"⟩ ∧
      ∃ stored, Put secret stored s.cluster.objects t.cluster.objects := by
  have herror : nonEmpty params.error = none := by
    cases herror : nonEmpty params.error with
    | none => rfl
    | some error =>
      unfold complete at h
      rw [herror] at h
      cases h
  obtain ⟨code, payload, p, hadmitted, hstore⟩ := run_complete_eq_ok h
  obtain ⟨houtcome, found, tokens, u, hsession, _, hobjects, hwrite⟩ := run_store_write hstore
  cases houtcome
  refine ⟨code, payload, p, .of_admitted herror hadmitted (Option.isSome_iff_exists.mpr
    ⟨found, hsession⟩), rfl, rfl, rfl, ?_⟩
  obtain ⟨version, hwritten⟩ := CredentialStore.run_write_written (hobjects ▸ hk) hwrite
  rw [hobjects] at hwritten
  refine ⟨_, hwritten, fun key hkey => ?_, fun label hlabel => ?_, fun secret hsecret howners => ?_⟩
  · rw [SecretChange.data_written]
    exact get?_merged (get?_entries_other hkey)
  · rw [SecretChange.labels_written]
    exact get?_merged (get?_labels_other hlabel)
  · rw [hsecret]
    exact SecretChange.owners_written howners

/-! ### All together -/

/-- **Redirects are gated and contained.**  For any redirect, from any state that the cluster can
reach, with any failures waiting and whatever token endpoints answer: at most one request goes to a
token endpoint, and only behind the gate; a token that fails to verify ends the flow as tampered
with before anything but the clock is asked; unless a grant is stored all objects are as before; and
when one is stored, only its own secret has changed, which keeps its other entries and labels. -/
theorem complete_contained (f : OAuthFlow) (env : Surroundings) (params : CallbackParams)
    {s : Simulation} (hreachable : s.cluster.Reachable env.supply) :
    (Simulation.exchanges env (f.complete params) s = [] ∨
      ∃ code payload p request, f.Gate params s code payload p ∧
        p.exchangeRequest f.providers.redirectUri code = .ok request ∧
        Simulation.exchanges env (f.complete params) s = [request]) ∧
    (∀ code state signer e, params.error = none ∨ params.error = some "" →
      params.code = some code → code ≠ "" → params.state = some state → state ≠ "" →
      f.signer = some signer → signer.verify state s.now.seconds = .error e →
        Simulation.run env (f.complete params) s = (.error (.tamper e.message), s) ∧
          Simulation.requests env (f.complete params) s = [.clock]) ∧
    ((∀ session kind secret, (Simulation.run env (f.complete params) s).1 ≠
        .ok (.stored session kind secret)) →
      (Simulation.run env (f.complete params) s).2.cluster.objects = s.cluster.objects) ∧
    ∀ session kind secret t,
      Simulation.run env (f.complete params) s = (.ok (.stored session kind secret), t) →
        ∃ code payload p, f.Gate params s code payload p ∧ session = payload.ref ∧
          kind = p.kind ∧
          secret = ⟨session.ns, session.name ++ "-" ++ kind.text ++ "-oauth"⟩ ∧
          ∃ stored, Put secret stored s.cluster.objects t.cluster.objects := by
  refine ⟨complete_gated, ?_, run_complete_kept,
    fun _ _ _ _ => run_complete_stored hreachable.keyed⟩
  intro code state signer e herror hcode hcode_ne hstate hstate_ne hsigner hverify
  exact run_complete_tampered (nonEmpty_eq_none.mpr herror)
    (nonEmpty_eq_some.mpr ⟨hcode, hcode_ne⟩) (nonEmpty_eq_some.mpr ⟨hstate, hstate_ne⟩) hsigner
    hverify

/-- A redirect for a session whose secret has a note in it.  The first write meets a conflict; the
grant is stored at the second attempt, beside the note, for the tokens that were asked for once. -/
theorem complete_contained_google :
    let env := Deployment.offering.surroundings Deployment.granting
    let secret : ObjectRef := ⟨"team", "alpha-google-oauth"⟩
    let noted : Secret := ⟨secret, ∅, SortedMap.ofList [("note", Text.utf8 "keep")], [], none⟩
    let token := (StateSigner.ofSecret "key").sign ⟨"google", "team", "alpha", 0⟩
    let start : Simulation := ⟨.ofSeconds 60,
      [.putSession (.ofUser Deployment.offered "ada" ∅), .call .platform (.createSecret noted),
        .failNext .updateSecret (.conflict "Secret" secret.text)].foldl
          (Happening.run env.supply (.ofSeconds 0)) {}⟩
    let complete := Deployment.offering.flow.complete ⟨some "code", some token, none, none⟩
    (∃ request, Simulation.exchanges env complete start = [request]) ∧
      ∃ stored t, Simulation.run env complete start =
        (.ok (.stored Deployment.offered .google secret), t) ∧
        t.cluster.objects.secrets.get? secret = some stored ∧
        stored.data.get? "note" = some (Text.utf8 "keep") := by
  intro env secret noted token start complete
  have hreachable : start.cluster.Reachable env.supply := (ClusterState.Reachable.fresh {}).happen _
  -- The token was made at most five minutes ago, so the redirect is let in.
  have hverify : (StateSigner.ofSecret "key").verify token start.now.seconds =
      .ok ⟨"google", "team", "alpha", 0⟩ :=
    (StateSigner.verify_sign ⟨by decide +kernel, by decide +kernel⟩).mpr
      ⟨rfl, by decide +kernel, by decide +kernel⟩
  have hadmitted :
      Deployment.offering.flow.admitted ⟨some "code", some token, none, none⟩ start.now =
        .ok ("code", ⟨"google", "team", "alpha", 0⟩, Deployment.localGoogle) :=
    admitted_eq_ok.mpr ⟨rfl, token, .ofSecret "key",
      nonEmpty_eq_some.mpr ⟨rfl, StateSigner.sign_ne_empty⟩, rfl, hverify, by decide, by decide,
      provider_eq_ok.mpr ⟨by decide +kernel, rfl⟩⟩
  have hasked : (Simulation.exchanges env complete start).isEmpty = false := by
    rw [exchanges_complete_of_admitted rfl hadmitted]
    decide +kernel
  have houtcome : (Simulation.run env complete start).1.toOption =
      some (.stored Deployment.offered .google secret) := by
    rw [run_complete_of_admitted rfl hadmitted]
    decide +kernel
  have hnote : ((start.cluster.objects.secrets.get? secret).bind fun found =>
      found.data.get? "note") = some (Text.utf8 "keep") := by decide +kernel
  obtain ⟨hgated, -, -, hstored⟩ := complete_contained Deployment.offering.flow env
    ⟨some "code", some token, none, none⟩ hreachable
  constructor
  · rcases hgated with hnone | ⟨_, _, _, request, _, _, hone⟩
    · rw [hnone] at hasked
      cases hasked
    · exact ⟨request, hone⟩
  · cases hrun : Simulation.run env complete start with
    | mk x t =>
      rw [hrun] at houtcome
      cases x with
      | error e => cases houtcome
      | ok outcome =>
        cases houtcome
        obtain ⟨_, _, _, _, _, _, _, stored, hput⟩ := hstored _ _ _ _ hrun
        refine ⟨stored, t, rfl, ?_, (hput.data "note" (by decide)).trans hnote⟩
        rw [hput.objects]
        exact SortedMap.get?_insert_self _ _ _

end OAuthFlow

end CredentialBroker
