import CredentialBroker.Proofs.Credential.Grant
import CredentialBroker.Proofs.World.Authorization
import CredentialBroker.Proofs.World.Edits
import CredentialBroker.Proofs.World.Merging

namespace CredentialBroker

/-!
# Secrets with grants are coherent

A grant is written as three entries of a secret, by a write that reads, merges and writes back, and
several flows may do so at once on one secret, with issuers beside them.  All the same a secret
never holds the document of one grant and a token of another, and its grant is one that some flow
obtained.

* `OAuthFlow.Obtained` — the grant is made of one answer of a token endpoint to this flow;
* `OAuthFlow.complete_reaches` — a flow writes no grant but the one it has obtained;
* `Task.coherent_of_reaches` — what a task writes is coherent when what it has read was;
* `Deployment.interleave_coherent` — so are all secrets after any moves.
-/

/-! ### What a flow obtains -/

namespace OAuthFlow

variable {f : OAuthFlow} {params : CallbackParams} {past : List (Answer demands)} {g : StoredGrant}

/-- The flow of a redirect has obtained a grant: a token endpoint accepted the code of the redirect,
the clock was read next, and the grant is made of that one answer and that time. -/
def Obtained (f : OAuthFlow) (params : CallbackParams) (past : List (Answer demands))
    (g : StoredGrant) : Prop :=
  ∃ (p : Provider) (code : String) (request : Http.Request) (response : Http.Response)
    (tokens : TokenResponse) (now : Timestamp) (before after : List (Answer demands)),
    f.providers.ofKind? p.kind = some p ∧ params.code = some code ∧
    p.exchangeRequest f.providers.redirectUri code = .ok request ∧
    p.readTokens response = .ok tokens ∧
    past = before ++
      ⟨.exchange request f.providers.timeout, .ok response⟩ :: ⟨.clock, now⟩ :: after ∧
    g.token = tokens.accessToken ∧ g.refreshToken = tokens.refreshToken.getD "" ∧
    g.tokenUri = p.tokenUrl ∧ g.clientId = p.credentials.clientId ∧
    g.clientSecret = p.credentials.clientSecret ∧ g.scopes = p.scopes ∧
    g.expiry =
      { now with seconds := now.seconds + tokens.expiresIn.getD 3600 : Timestamp }.naiveText

/-- What was obtained stays so. -/
theorem Obtained.append (h : f.Obtained params past g) (more : List (Answer demands)) :
    f.Obtained params (past ++ more) g := by
  obtain ⟨p, code, request, response, tokens, now, before, after, hprovider, hcode, hrequest,
    htokens, rfl, hgrant⟩ := h
  refine ⟨p, code, request, response, tokens, now, before, after ++ more, hprovider, hcode,
    hrequest, htokens, ?_, hgrant⟩
  rw [List.append_assoc, List.cons_append, List.cons_append]

/-- An exchange that ends well is one request, and an answer in which there are tokens. -/
theorem exchange_ends {r : ProviderRegistry} {p : Provider} {code : String}
    {tokens : TokenResponse} (h : (r.exchange p code).Ends past (.ok tokens)) :
    ∃ request response, p.exchangeRequest r.redirectUri code = .ok request ∧
      p.readTokens response = .ok tokens ∧
      past = [⟨.exchange request r.timeout, .ok response⟩] := by
  unfold ProviderRegistry.exchange at h
  obtain ⟨request, none, asked, rfl, hmade, hasked⟩ := Action.ends_bind_ok.mp h
  obtain ⟨rfl, hrequest⟩ := Action.ends_ofExcept.mp hmade
  obtain ⟨response, answered, last, rfl, hanswered, hread⟩ := Action.ends_bind_ok.mp hasked
  rw [Action.ends_mapError_ok, Action.ends_exchange] at hanswered
  obtain ⟨rfl, htokens⟩ := Action.ends_ofExcept.mp hread
  exact ⟨request, response, hrequest.symm, htokens.symm, by rw [hanswered]; rfl⟩

/-- An exchange makes no call. -/
theorem not_exchange_reaches {r : ProviderRegistry} {p : Provider} {code : String} {who : Client}
    {call : Call} : ¬ (r.exchange p code).Reaches past (.cluster who call) := by
  unfold ProviderRegistry.exchange
  intro h
  rcases Action.reaches_bind.mp h with hmade | ⟨request, _, _, _, _, hasked⟩
  · exact Action.not_reaches_ofExcept hmade
  · rcases Action.reaches_bind.mp hasked with hanswered | ⟨_, _, _, _, _, hread⟩
    · cases (Action.reaches_exchange.mp (Action.reaches_mapError.mp hanswered)).2
    · exact Action.not_reaches_ofExcept hread

variable {code : String} {payload : StatePayload} {p : Provider} {who : Client} {call : Call}
  {earlier : List (Answer demands)}

/-- What is stored for a code is the grant that was obtained for it. -/
theorem store_reaches (hprovider : f.providers.ofKind? p.kind = some p)
    (hcode : params.code = some code)
    (h : (f.store code payload p).Reaches past (.cluster who call)) :
    call = .getSession payload.ref ∨
      ∃ g ref change, f.Obtained params (earlier ++ past) g ∧ change.entries = g.entries ∧
        CredentialStore.Asks (Told (earlier ++ past)) ref change call := by
  generalize htold : earlier ++ past = told
  unfold store at h
  rcases Action.reaches_bind.mp h with hread | ⟨session, read, _, rfl, _, hasks⟩
  · -- The session is read first.
    rw [Action.reaches_mapError, Action.reaches_cluster] at hread
    cases hread.2
    exact .inl rfl
  right
  rcases Action.reaches_bind.mp hasks with hask | ⟨tokens, asked, _, rfl, hasked, htimes⟩
  · exact absurd (Action.reaches_mapError.mp hask) not_exchange_reaches
  rw [Action.ends_mapError_ok] at hasked
  obtain ⟨request, response, hrequest, htokens, rfl⟩ := exchange_ends hasked
  rcases Action.reaches_bind.mp htimes with htime | ⟨now, timed, after, rfl, htimed, hwrites⟩
  · cases (Action.reaches_clock.mp htime).2
  obtain ⟨now, rfl, hnow⟩ := Action.ends_clock.mp htimed
  cases hnow
  rcases Action.reaches_bind.mp hwrites with hwrite | ⟨_, _, _, _, _, hend⟩
  · -- Then the grant is written, with nothing asked in between.
    have hpast : after ⊆ told := by
      rw [← htold]
      exact fun x hx => List.mem_append_right _ (List.mem_append_right _ (List.mem_append_right _
        (List.mem_append_right _ hx)))
    have hcall : _ ∧ CredentialStore.Asks (Told told) _ _ call :=
      CredentialStore.write_follows.asks_of_told hwrite hpast
    refine ⟨grant p tokens now, _, _, ⟨p, code, request, response, tokens, now, earlier ++ read,
      after, hprovider, hcode, hrequest, htokens, ?_, rfl, rfl, rfl, rfl, rfl, rfl, rfl⟩, rfl,
      hcall.2⟩
    rw [← htold]
    simp only [List.append_assoc, List.cons_append, List.nil_append]
  · exact absurd hend Action.not_reaches_pure

/-- **Calls of a redirect.**  A flow reads a session, and writes the grant that it has obtained. -/
theorem complete_reaches (h : (f.complete params).Reaches past (.cluster who call)) :
    (∃ ref, call = .getSession ref) ∨
      ∃ g ref change, f.Obtained params past g ∧ change.entries = g.entries ∧
        CredentialStore.Asks (Told past) ref change call := by
  cases herror : nonEmpty params.error with
  | some error =>
    unfold complete at h
    rw [herror] at h
    exact absurd h Action.not_reaches_pure
  | none =>
    rw [complete_eq herror] at h
    rcases Action.reaches_bind.mp h with htime | ⟨now, timed, _, rfl, _, hadmits⟩
    · cases (Action.reaches_clock.mp htime).2
    rcases Action.reaches_bind.mp hadmits with hadmit | ⟨given, known, _, rfl, hadmitted, hstores⟩
    · exact absurd hadmit Action.not_reaches_ofExcept
    obtain ⟨rfl, hgiven⟩ := Action.ends_ofExcept.mp hadmitted
    obtain ⟨code, payload, p⟩ := given
    obtain ⟨hcode, _, _, _, _, _, _, _, hprovider⟩ := admitted_eq_ok.mp hgiven.symm
    rcases store_reaches (provider_eq_ok.mp hprovider).2 (nonEmpty_eq_some.mp hcode).1 hstores with
      hread | hwrite
    · exact .inl ⟨_, hread⟩
    · exact .inr hwrite

end OAuthFlow

/-! ### What tasks write -/

/-- Data that holds the document of a grant holds one of the given grants, with its tokens. -/
def Coherent (granted : StoredGrant → Prop) (data : SortedMap String Bytes) : Prop :=
  ∀ document, data.get? StoredGrant.documentKey = some document → ∃ g, granted g ∧ g.HeldIn data

section Writes

variable {granted more : StoredGrant → Prop} {data : SortedMap String Bytes} {g : StoredGrant}
  {gets : (call : Call) → call.Reply → Prop} {call : Call} {secret : Secret} {ref : ObjectRef}

theorem Coherent.mono (h : Coherent granted data) (hmore : ∀ g, granted g → more g) :
    Coherent more data := by
  intro document hdocument
  obtain ⟨g, hg, hheld⟩ := h document hdocument
  exact ⟨g, hmore g hg, hheld⟩

theorem coherent_empty : Coherent granted ∅ := fun _ h => absurd h nofun

/-- A grant makes any data coherent. -/
theorem coherent_union (hg : granted g) : Coherent granted (data.union g.entries) :=
  fun _ _ => ⟨g, hg, g.heldIn_union data⟩

/-- The token of a session is kept under a key of its own. -/
theorem get?_tokenChange_other {token key : String} {owner : OwnerReference}
    (hkey : key ≠ tokenKey) : (Issuer.tokenChange token owner).entries.get? key = none := by
  unfold Issuer.tokenChange SortedMap.ofList
  rw [SortedMap.get?_insertMany]
  simp [SortedMap.find?, hkey]

theorem Coherent.union_token {token : String} {owner : OwnerReference}
    (h : Coherent granted data) :
    Coherent granted (data.union (Issuer.tokenChange token owner).entries) := by
  have hdocument : (Issuer.tokenChange token owner).entries.get? StoredGrant.documentKey = none :=
    get?_tokenChange_other (by decide)
  intro document hfound
  rw [SortedMap.get?_union, hdocument, Option.none_or] at hfound
  obtain ⟨g, hg, hheld⟩ := h document hfound
  exact ⟨g, hg, (StoredGrant.heldIn_union_other hdocument (get?_tokenChange_other (by decide))
    (get?_tokenChange_other (by decide))).mpr hheld⟩

/-- What a write sends is coherent when the secrets that were read are, and merging the change in
keeps data so. -/
theorem CredentialStore.Asks.coherent {change : SecretChange}
    (h : CredentialStore.Asks gets ref change call)
    (hmerge : ∀ data, Coherent granted data → Coherent granted (data.union change.entries))
    (hread : ∀ ref found, gets (.getSecret ref) found → Coherent granted found.data)
    (hcall : call = .createSecret secret ∨ call = .updateSecret secret) :
    Coherent granted secret.data := by
  cases h with
  | read => rcases hcall with hcall | hcall <;> cases hcall
  | update found hfound =>
    rcases hcall with hcall | hcall <;> cases hcall
    exact hmerge found.data (hread ref found hfound)
  | create =>
    rcases hcall with hcall | hcall <;> cases hcall
    have hempty : Coherent granted (SortedMap.empty.union change.entries) :=
      hmerge ∅ coherent_empty
    rwa [SortedMap.empty_union] at hempty

/-- What is sent to issue a credential is coherent. -/
theorem Issuer.Asks.coherent {i : Issuer} (h : Issuer.Asks i gets ref call)
    (hread : ∀ ref found, gets (.getSecret ref) found → Coherent granted found.data)
    (hcall : call = .createSecret secret ∨ call = .updateSecret secret) :
    Coherent granted secret.data := by
  cases h with
  | prepare h => rcases hcall with rfl | rfl <;> cases h
  | token | record => rcases hcall with hcall | hcall <;> cases hcall
  | store _ _ h => exact h.coherent (fun _ hdata => hdata.union_token) hread hcall

/-- **Writes of tasks.**  What a task sends is coherent when the secrets that it has read are, and
the grants that it has obtained are among those given. -/
theorem Task.coherent_of_reaches {d : Deployment} {task : Task} {past : List (Answer demands)}
    {who : Client} (h : (task.program d).Reaches past (.cluster who call))
    (hgranted : ∀ params g, task = .complete params → d.flow.Obtained params past g → granted g)
    (hread : ∀ ref found, Told past (.getSecret ref) found → Coherent granted found.data)
    (hcall : call = .createSecret secret ∨ call = .updateSecret secret) :
    Coherent granted secret.data := by
  have hasks : task.Asks d (Told past) who call :=
    task.program_follows.asks_of_told h (List.Subset.refl _)
  cases task with
  | provision caller session =>
    cases hasks with
    | provision hasks => exact hasks.coherent hread hcall
  | start caller session =>
    cases hasks with
    | start hasks =>
      cases hasks with
      | client hasks => rcases hcall with rfl | rfl <;> cases hasks
      | issuer hasks => exact hasks.coherent hread hcall
  | stop caller session =>
    cases hasks with
    | stop hasks => rcases hcall with rfl | rfl <;> cases hasks
  | begin caller session provider =>
    -- A flow that begins only reads the session.
    have hbegin : who = caller ∧ call = .getSession session :=
      OAuthFlow.begin_follows_read.asks_of_told (Action.reaches_discard.mp h) (List.Subset.refl _)
    rw [hbegin.2] at hcall
    rcases hcall with hcall | hcall <;> cases hcall
  | complete params =>
    rcases OAuthFlow.complete_reaches (Action.reaches_discard.mp h) with
      ⟨session, rfl⟩ | ⟨g, ref, change, hobtained, hentries, hasks⟩
    · rcases hcall with hcall | hcall <;> cases hcall
    · refine hasks.coherent (fun data _ => ?_) hread hcall
      rw [hentries]
      exact coherent_union (hgranted params g rfl hobtained)

end Writes

/-! ### Tasks side by side -/

section Moves

variable {ι : Type} {d : Deployment} {tasks : ι → Task}
  {c : Interleaving ι (Except CredentialError Unit)}

/-- The grants that flows among the tasks have obtained. -/
def Deployment.Granted (d : Deployment) (tasks : ι → Task)
    (c : Interleaving ι (Except CredentialError Unit)) (g : StoredGrant) : Prop :=
  ∃ i params, tasks i = .complete params ∧ d.flow.Obtained params (c.threads i).past g

/-- The tasks have come by courses of their own, and all secrets that are stored or that they have
read are coherent. -/
structure Deployment.Tidy (d : Deployment) (tasks : ι → Task)
    (c : Interleaving ι (Except CredentialError Unit)) : Prop where
  /-- What is left of each task is what its answers lead to. -/
  course : ∀ i, (d.programs tasks i).Course (c.threads i).past (c.threads i).left
  /-- The secrets that are stored are coherent. -/
  stored : ∀ ref secret, c.world.cluster.objects.secrets.get? ref = some secret →
    Coherent (d.Granted tasks c) secret.data
  /-- The secrets that were read are. -/
  read : ∀ i ref secret, Told (c.threads i).past (.getSecret ref) secret →
    Coherent (d.Granted tasks c) secret.data

/-- Whatever call a task makes, the secrets that are stored after it are coherent. -/
theorem Deployment.Tidy.call {i : ι} {who : Client} {call : Call}
    {next : Except ClusterError call.Reply → Program demands (Except CredentialError Unit)}
    (h : d.Tidy tasks c) (hleft : (c.threads i).left = .ask (.cluster who call) next)
    (now : Timestamp) :
    ∀ ref secret,
      (c.world.cluster.step d.supply now who call).2.objects.secrets.get? ref = some secret →
      Coherent (d.Granted tasks c) secret.data := by
  have hreaches : ((tasks i).program d).Reaches (c.threads i).past (.cluster who call) :=
    ⟨next, hleft ▸ h.course i⟩
  refine ClusterState.step_keeps (I := fun o => ∀ ref secret, o.secrets.get? ref = some secret →
    Coherent (d.Granted tasks c) secret.data) h.stored fun o' heffect => ?_
  rcases heffect.secrets with hsame | ⟨secret, hcall, hinsert⟩
  · rw [hsame]
    exact h.stored
  · have hsent : Coherent (d.Granted tasks c) secret.data := Task.coherent_of_reaches hreaches
      (fun params g htask hobtained => ⟨i, params, htask, hobtained⟩) (h.read i) hcall
    rw [hinsert]
    exact SortedMap.forall_insert h.stored hsent

variable [DecidableEq ι] {env : Surroundings} {i : ι}

/-- No grant is lost in a turn. -/
theorem Deployment.Granted.turn {g : StoredGrant} (h : d.Granted tasks c g) :
    d.Granted tasks (c.turn env i) g := by
  obtain ⟨j, params, htask, hobtained⟩ := h
  obtain ⟨more, hpast⟩ := Interleaving.past_turn env i j c
  exact ⟨j, params, htask, hpast ▸ hobtained.append more⟩

theorem Deployment.Tidy.turn (h : d.Tidy tasks c) (i : ι)
    (exchange : Http.Request → Except Http.Fault Http.Response) :
    d.Tidy tasks (c.turn ⟨d.supply, exchange⟩ i) := by
  cases hleft : (c.threads i).left with
  | done a => rwa [Interleaving.turn_of_done hleft]
  | ask r next =>
    refine ⟨Interleaving.course_turn hleft h.course, ?stored, ?read⟩
    case stored =>
      rw [Interleaving.world_turn hleft]
      by_cases hcall : ∃ who call, r = .cluster who call
      · obtain ⟨who, call, rfl⟩ := hcall
        exact fun ref secret hsecret =>
          (h.call hleft c.world.now ref secret hsecret).mono fun _ hg => hg.turn
      · rw [Simulation.handler_cluster _ _ fun who call heq => hcall ⟨who, call, heq⟩]
        exact fun ref secret hsecret => (h.stored ref secret hsecret).mono fun _ hg => hg.turn
    case read =>
      refine Interleaving.forall_threads_turn
        (P := fun _ thread => ∀ ref secret, Told thread.past (.getSecret ref) secret →
          Coherent (d.Granted tasks (c.turn ⟨d.supply, exchange⟩ i)) secret.data) hleft
        (fun j _ ref secret htold => (h.read j ref secret htold).mono fun _ hg => hg.turn) ?_
      rintro ref secret ⟨who, hmem⟩
      rcases List.mem_append.mp hmem with hbefore | hnow
      · exact (h.read i ref secret ⟨who, hbefore⟩).mono fun _ hg => hg.turn
      · -- A secret that is read now is one that is stored.
        obtain ⟨hrequest, hreply⟩ := Answer.mk.inj (List.mem_singleton.mp hnow)
        subst hrequest
        obtain ⟨_, _, happly⟩ := ClusterState.apply_of_step (eq_of_heq hreply).symm
        exact (h.stored ref secret (Objects.apply_getSecret.mp happly).2).mono fun _ hg => hg.turn

theorem Deployment.Tidy.move (h : d.Tidy tasks c) {m : Move ι}
    (hothers : ∀ e, m = .other e → ∀ ref, e.Spares ref) : d.Tidy tasks (c.move d.supply m) := by
  cases m with
  | turn i exchange => exact h.turn i exchange
  | wait length => exact ⟨h.course, h.stored, h.read⟩
  | other e =>
    refine ⟨h.course, fun ref secret hsecret => ?_, h.read⟩
    have hkept : (e.run d.supply c.world.now c.world.cluster).objects.secrets.get? ref =
        c.world.cluster.objects.secrets.get? ref := (hothers e rfl ref).get?_secrets
    exact h.stored ref secret (hkept.symm.trans hsecret)

/-- **Secrets with grants are coherent.**  Let tasks run side by side on a cluster in which no
secret holds the document of a grant, among anything else that is no write of a secret, failures let
in included.  At every moment a secret that holds such a document holds one that is read as a grant,
of which its other entries are the access token and the refresh token; and the grant is one that
some flow among the tasks has obtained, all of it from one answer. -/
theorem Deployment.interleave_coherent (d : Deployment) (tasks : ι → Task) (world : Simulation)
    (hworld : ∀ ref secret, world.cluster.objects.secrets.get? ref = some secret →
      secret.data.get? StoredGrant.documentKey = none)
    (moves : List (Move ι)) (hothers : ∀ e, .other e ∈ moves → ∀ ref, e.Spares ref) :
    let c := d.interleave tasks world moves
    ∀ ref secret document, c.world.cluster.objects.secrets.get? ref = some secret →
      secret.data.get? StoredGrant.documentKey = some document →
      ∃ g, (Json.read? document).bind StoredGrant.ofJson? = some g ∧
        secret.data.get? StoredGrant.accessTokenKey = some (Text.utf8 g.token) ∧
        secret.data.get? StoredGrant.refreshTokenKey = some (Text.utf8 g.refreshToken) ∧
        ∃ i params, tasks i = .complete params ∧
          d.flow.Obtained params (c.threads i).past g := by
  intro c ref secret document hsecret hdocument
  have htidy : d.Tidy tasks c := by
    refine Interleaving.run_invariant
      (fun m hm c hc => hc.move fun e heq => hothers e (heq ▸ hm)) ?_
    refine ⟨fun i => .here _, fun ref secret hsecret document hdocument => ?_,
      fun i ref secret htold => ?_⟩
    · rw [hworld ref secret hsecret] at hdocument
      cases hdocument
    · obtain ⟨_, hmem⟩ := htold
      exact absurd hmem List.not_mem_nil
  obtain ⟨g, hgranted, hheld⟩ := htidy.stored ref secret hsecret document hdocument
  obtain rfl : g.document = document := Option.some.inj (hheld.document.symm.trans hdocument)
  exact ⟨g, g.read?_document, hheld.access, hheld.refresh, hgranted⟩

end Moves

/-- A redirect without error is let in, or not, by the time that its flow is told first. -/
theorem Deployment.programs_complete {ι : Type} (d : Deployment) {params : CallbackParams}
    (herror : OAuthFlow.nonEmpty params.error = none) :
    d.programs (fun _ : ι => .complete params) = fun _ => .ask .clock fun now =>
      (discard (Action.ofExcept (d.flow.admitted params now) >>= fun given =>
        d.flow.store given.1 given.2.1 given.2.2)).run := by
  have hask : ∀ next : Timestamp → Action CredentialError CallbackOutcome,
      (discard (Action.clock >>= next)).run = .ask .clock fun now => (discard (next now)).run :=
    fun _ => rfl
  funext i
  show (discard (d.flow.complete params)).run = _
  rw [OAuthFlow.complete_eq herror]
  exact hask _

/-- Two flows end on one secret that neither of them found.  The one whose write is refused writes
over the other's grant, and nothing is left of the refresh token that only the first one got.  No
answer says how long its tokens are good, so the grant ends an hour after the time of the clock. -/
theorem Deployment.interleave_coherent_overtaken :
    let state := (StateSigner.ofSecret "key").sign ⟨"google", "team", "alpha", 0⟩
    let params : CallbackParams := ⟨some "code", some state, none, none⟩
    let answering (body : String) : Http.Request → Except Http.Fault Http.Response :=
      fun _ => .ok ⟨200, Text.utf8 body⟩
    let turn (b : Bool) : Move Bool := .turn b (answering
      (if b then "\x7b\"access_token\":\"a\",\"refresh_token\":\"r\"\x7d"
        else "\x7b\"access_token\":\"b\"\x7d"))
    let arrivals := [.other (.putSession (.ofUser offered "ada" ∅)), turn true, turn false]
    let exchanges := List.replicate 4 (turn true) ++ List.replicate 4 (turn false) ++
      turn true :: List.replicate 4 (turn false)
    let c := offering.interleave (fun _ => .complete params) bare (arrivals ++ exchanges)
    ∃ secret g, c.world.cluster.objects.secrets.get? ⟨"team", "alpha-google-oauth"⟩ = some secret ∧
      ((secret.data.get? "credentials.json").bind Json.read?).bind StoredGrant.ofJson? = some g ∧
      g.token = "b" ∧ g.refreshToken = "" ∧ g.expiry = "1970-01-01T01:00:00" ∧
      ∃ i, offering.flow.Obtained params (c.threads i).past g := by
  intro state params answering turn arrivals exchanges c
  have hadmitted : offering.flow.admitted params (.ofSeconds 0) =
      .ok ("code", ⟨"google", "team", "alpha", 0⟩, localGoogle) := by
    have hrange : StatePayload.InRange ⟨"google", "team", "alpha", 0⟩ := by
      constructor <;> decide
    refine OAuthFlow.admitted_eq_ok.mpr ⟨rfl, state, .ofSecret "key", ?_, rfl,
      (StateSigner.verify_sign hrange).mpr ⟨rfl, by decide, by decide⟩, by decide, by decide,
      OAuthFlow.provider_eq_ok.mpr ⟨by decide +kernel, rfl⟩⟩
    exact OAuthFlow.nonEmpty_eq_some.mpr ⟨rfl, StateSigner.sign_ne_empty⟩
  clear_value state
  -- After its first turn a flow is let in, and goes on with what its token says.
  let store := offering.flow.store "code" ⟨"google", "team", "alpha", 0⟩ localGoogle
  let begun : Interleaving Bool (Except CredentialError Unit) :=
    ⟨⟨.ofSeconds 0, (bare.cluster.putSession offering.supply (.ofUser offered "ada" ∅)).2⟩,
      fun _ => ⟨[⟨.clock, .ofSeconds 0⟩], (discard store).run⟩⟩
  have hleft : (discard (Action.ofExcept (offering.flow.admitted params (.ofSeconds 0)) >>=
      fun given => offering.flow.store given.1 given.2.1 given.2.2)).run = (discard store).run := by
    rw [hadmitted]
    rfl
  have hbegun : offering.interleave (fun _ => .complete params) bare arrivals = begun := by
    unfold interleave
    rw [programs_complete offering rfl]
    generalize offering.flow.admitted params = admitted at hleft ⊢
    refine congrArg (Interleaving.mk _) (funext fun b => ?_)
    cases b <;> exact congrArg (Thread.mk _) hleft
  -- The document is known as it was written, and is read as the grant that it was written for.
  let last : StoredGrant := ⟨"b", "", localGoogle.tokenUrl, "id", "secret", localGoogle.scopes,
    "1970-01-01T01:00:00"⟩
  have hdata : (c.world.cluster.objects.secrets.get? ⟨"team", "alpha-google-oauth"⟩).map
      (·.data.get? "credentials.json") = some (some last.document) := by
    have hc : c = begun.run offering.supply exchanges := by
      rw [← hbegun]
      exact List.foldl_append
    rw [hc]
    decide +kernel
  have hlast : last.token = "b" ∧ last.refreshToken = "" ∧
      last.expiry = "1970-01-01T01:00:00" := ⟨rfl, rfl, rfl⟩
  clear_value last
  obtain ⟨secret, hsecret, hdocument⟩ := Option.map_eq_some_iff.mp hdata
  have hothers : ∀ e, .other e ∈ arrivals ++ exchanges → ∀ ref, e.Spares ref := by
    intro e he ref
    obtain rfl : e = .putSession (.ofUser offered "ada" ∅) := by
      simpa [arrivals, exchanges, turn] using he
    exact trivial
  have hcoherent := interleave_coherent offering (fun _ => .complete params) bare
    (fun _ _ h => by cases h) (arrivals ++ exchanges) hothers _ secret last.document hsecret
    hdocument
  obtain ⟨g, hg, _, _, i, _, htask, hobtained⟩ := hcoherent
  cases htask
  have hread := last.read?_document
  obtain rfl : last = g := Option.some.inj (hread.symm.trans hg)
  refine ⟨secret, last, hsecret, ?_, hlast.1, hlast.2.1, hlast.2.2, i, hobtained⟩
  rw [hdocument, Option.bind_some, hread]

end CredentialBroker
