import CredentialBroker.Proofs.Cluster.Reachable
import CredentialBroker.Proofs.Credential.Settled

namespace CredentialBroker.Issuer

/-!
# Issues repair and converge

Whatever bears the names of a session's objects, an issue brings them into order, and a second one
finds nothing left to do but to renew the token.

* `Issuer.Provided` — the order that an issue brings about, and what it leaves alone;
* `Issuer.Renewed` — a cluster in which a token was renewed and nothing else was done;
* `Issuer.Settles.again` — what is settled is settled once and for all;
* `Issuer.run_issue_converges` — the property of every cluster without failures waiting.
-/

variable {i : Issuer} {ref : ObjectRef} {session stored : Session} {token next : String}
  {o o₁ o₂ : Objects}

/-- The objects of a session are in order, and nothing but them is touched. -/
structure Provided (i : Issuer) (ref : ObjectRef) (session : Session) (token : String)
    (o o' : Objects) : Prop where
  /-- The account is there. -/
  account : (o'.accounts.get? (accountOf ref)).isSome
  /-- The role has the required rules. -/
  role : ∃ role, o'.roles.get? (roleOf ref) = some role ∧ role.rules = requiredRules i.resource
  /-- The subject of the role binding is the account, and nobody else. -/
  binding : ∃ b, o'.bindings.get? (bindingOf ref) = some b ∧
    b.subjects = [⟨"ServiceAccount", identityName ref.name, some ref.ns⟩]
  /-- The token is in the secret, whose other keys and labels are as before. -/
  secret : ∃ secret, o'.secrets.get? (tokenSecret ref) = some secret ∧
    secret.data = (((o.secrets.get? (tokenSecret ref)).map Secret.data).getD ∅).insert tokenKey
      (Text.utf8 token) ∧
    secret.labels = ((o.secrets.get? (tokenSecret ref)).map Secret.labels).getD ∅
  /-- The session has the names of its identity and its secret on record. -/
  session : ∃ version, o'.sessions.get? ref = some { session with
    metadata := { session.metadata with
      resourceVersion := some version
      annotations := (session.metadata.annotations.insert Session.identityKey
        (identityName ref.name)).insert Session.credentialSecretKey (tokenSecretName ref.name) } }
  /-- The token stands for the account, and every other token for whom it stood. -/
  tokens : o'.tokens = o.tokens.insert token (Identity.user (accountOf ref))
  /-- The other accounts are as before. -/
  accounts : ∀ other, other ≠ accountOf ref → o'.accounts.get? other = o.accounts.get? other
  /-- The other roles are as before. -/
  roles : ∀ other, other ≠ roleOf ref → o'.roles.get? other = o.roles.get? other
  /-- The other role bindings are as before. -/
  bindings : ∀ other, other ≠ bindingOf ref → o'.bindings.get? other = o.bindings.get? other
  /-- The other secrets are as before. -/
  secrets : ∀ other, other ≠ tokenSecret ref → o'.secrets.get? other = o.secrets.get? other
  /-- The other sessions are as before. -/
  sessions : ∀ other, other ≠ ref → o'.sessions.get? other = o.sessions.get? other
  /-- The jobs are as before. -/
  jobs : o'.jobs = o.jobs
  /-- The pods are as before. -/
  pods : o'.pods = o.pods
  /-- The rules given by name are as before. -/
  grants : o'.grants = o.grants

/-- The cluster after the token in a secret was renewed: the token is registered and replaced, the
secret and the session get new versions, and nothing else but counters and the log of calls is
changed. -/
def Renewed (ref : ObjectRef) (token : String) (t t' : ClusterState) : Prop :=
  ∃ secret session v w versions minted calls,
    t.objects.secrets.get? (tokenSecret ref) = some secret ∧
    t.objects.sessions.get? ref = some session ∧
    t' = { t with
      objects := { t.objects with
        tokens := t.objects.tokens.insert token (Identity.user (accountOf ref))
        secrets := t.objects.secrets.insert (tokenSecret ref) { secret with
          data := secret.data.insert tokenKey (Text.utf8 token)
          resourceVersion := some v }
        sessions := t.objects.sessions.insert ref (Objects.versioned session w) }
      versions := versions
      minted := minted
      calls := calls }

/-! ### Objects -/

/-- The entries of a secret with a token put into it. -/
theorem union_tokenChange (data : SortedMap String Bytes) (token : String)
    (owner : OwnerReference) :
    data.union (tokenChange token owner).entries = data.insert tokenKey (Text.utf8 token) :=
  SortedMap.union_ofList _ _

/-- Settled objects are in order. -/
theorem Settles.provided (h : i.Settles ref session token o o₁) :
    i.Provided ref session token o o₁ := by
  obtain ⟨v, hroles⟩ := h.roles
  obtain ⟨w, hbindings⟩ := h.bindings
  obtain ⟨x, hsecrets⟩ := h.secrets
  obtain ⟨y, hsessions⟩ := h.sessions
  constructor
  case account =>
    rw [h.accounts, SortedMap.get?_insert_self]
    rfl
  case role =>
    rw [hroles, SortedMap.get?_insert_self]
    exact ⟨_, rfl, rules_settledRole _⟩
  case binding =>
    rw [hbindings, SortedMap.get?_insert_self]
    exact ⟨_, rfl, subjects_settledBinding _⟩
  case secret =>
    rw [hsecrets, SortedMap.get?_insert_self]
    refine ⟨_, rfl, ?_, ?_⟩
    · rw [SecretChange.data_written, union_tokenChange]
    · rw [SecretChange.labels_written]
      exact SortedMap.union_empty _
  case session =>
    rw [hsessions, SortedMap.get?_insert_self]
    exact ⟨y, by rw [recorded, union_record]; rfl⟩
  case accounts => exact fun other hne => by rw [h.accounts, SortedMap.get?_insert, if_neg hne]
  case roles => exact fun other hne => by rw [hroles, SortedMap.get?_insert, if_neg hne]
  case bindings => exact fun other hne => by rw [hbindings, SortedMap.get?_insert, if_neg hne]
  case secrets => exact fun other hne => by rw [hsecrets, SortedMap.get?_insert, if_neg hne]
  case sessions => exact fun other hne => by rw [hsessions, SortedMap.get?_insert, if_neg hne]
  case tokens => exact h.tokens
  case jobs => exact h.jobs
  case pods => exact h.pods
  case grants => exact h.grants

/-- The names are recorded once. -/
theorem recorded_recorded (version : String) :
    recorded ref (Objects.versioned (recorded ref session) version) =
      Objects.versioned (recorded ref session) version := by
  unfold recorded Objects.versioned
  dsimp only
  rw [SortedMap.union_union_self]

/-- A token that is put into a secret with owners takes the place of the one before. -/
theorem written_tokenChange {secret : Secret} {owner : OwnerReference} {version : String}
    (howners : secret.owners ≠ []) :
    (tokenChange token owner).written ref version (some secret) = { secret with
      data := secret.data.insert tokenKey (Text.utf8 token)
      resourceVersion := some version } := by
  have hkept : secret.owners.isEmpty = false := by simpa using howners
  rw [SecretChange.written, SecretChange.applyTo, hkept, union_tokenChange]
  rfl

/-- **Settled once and for all.**  Where an issue has been, the next one leaves the account, the
role and the role binding alone, puts its token in the place of the one before, and finds the names
on record. -/
theorem Settles.again (h₁ : i.Settles ref session token o o₁)
    (h₂ : i.Settles ref stored next o₁ o₂) (hstored : o₁.sessions.get? ref = some stored) :
    ∃ secret v w, o₁.secrets.get? (tokenSecret ref) = some secret ∧
      o₂ = { o₁ with
        tokens := o₁.tokens.insert next (Identity.user (accountOf ref))
        secrets := o₁.secrets.insert (tokenSecret ref) { secret with
          data := secret.data.insert tokenKey (Text.utf8 next)
          resourceVersion := some v }
        sessions := o₁.sessions.insert ref (Objects.versioned stored w) } := by
  obtain ⟨account, haccount⟩ := Option.isSome_iff_exists.mp h₁.provided.account
  obtain ⟨role, hrole, hrules⟩ := h₁.provided.role
  obtain ⟨b, hbinding, hsubjects⟩ := h₁.provided.binding
  -- The secret has owners since the first issue, and the session has the names on record.
  obtain ⟨x, hsecrets₁⟩ := h₁.secrets
  obtain ⟨secret, hsecret, howners⟩ :
      ∃ secret, o₁.secrets.get? (tokenSecret ref) = some secret ∧ secret.owners ≠ [] :=
    ⟨_, by rw [hsecrets₁, SortedMap.get?_insert_self], SecretChange.owners_written_ne_nil⟩
  obtain ⟨y, hsessions₁⟩ := h₁.sessions
  have hrecorded : recorded ref stored = stored := by
    rw [hsessions₁, SortedMap.get?_insert_self, Option.some.injEq] at hstored
    rw [← hstored, recorded_recorded]
  obtain ⟨_, hroles⟩ := h₂.roles
  obtain ⟨_, hbindings⟩ := h₂.bindings
  obtain ⟨v, hsecrets⟩ := h₂.secrets
  obtain ⟨w, hsessions⟩ := h₂.sessions
  refine ⟨secret, v, w, hsecret, Objects.ext ?sessions ?accounts ?roles ?bindings ?secrets h₂.jobs
    h₂.pods h₂.tokens h₂.grants⟩
  case sessions => rw [hsessions, hrecorded]
  case accounts =>
    rw [h₂.accounts, haccount]
    exact SortedMap.insert_eq_self haccount
  case roles => rw [hroles, hrole, settledRole_of_settled hrules, SortedMap.insert_eq_self hrole]
  case bindings =>
    rw [hbindings, hbinding, settledBinding_of_settled hsubjects, SortedMap.insert_eq_self hbinding]
  case secrets =>
    rw [hsecrets, hsecret, written_tokenChange howners]

/-! ### Runs -/

/-- **Repair and convergence.**  From every state that a cluster can reach, whatever there is under
the names of a session's objects: without failures waiting, the platform's issue for a session that
is there ends well and brings its objects into order, with a fresh token in the secret and nothing
else touched; and a second issue, then or later, renews the token and does nothing else.  Tokens are
meant that end within the calendar, see `Objects.lifetimeFor`. -/
theorem run_issue_converges (i : Issuer) (env : Surroundings) (s : Simulation) (ref : ObjectRef)
    (hclient : i.client = .platform) (hreachable : s.cluster.Reachable env.supply)
    (hfaults : s.cluster.faults = []) (htokens : ∀ k, env.supply.token k ≠ "")
    (hsession : s.cluster.objects.sessions.get? ref = some session) :
    ∃ s₁, Simulation.run env (i.issue ref) s =
        (.ok ⟨identityName ref.name, tokenSecret ref,
          s.now.after (Objects.lifetimeFor i.lifetime)⟩, s₁) ∧
      i.Provided ref session (env.supply.token s.cluster.minted) s.cluster.objects
        s₁.cluster.objects ∧
      ∀ later, ∃ s₂, Simulation.run env (i.issue ref) { s₁ with now := later } =
          (.ok ⟨identityName ref.name, tokenSecret ref,
            later.after (Objects.lifetimeFor i.lifetime)⟩, s₂) ∧
        Renewed ref (env.supply.token s₁.cluster.minted) s₁.cluster s₂.cluster := by
  obtain ⟨s₁, hrun₁, hsettles₁, hfaults₁⟩ :=
    run_issue_of_ready ref env hclient hfaults hreachable.keyed (htokens _) hsession
  refine ⟨s₁, hrun₁, hsettles₁.provided, fun later => ?_⟩
  -- The session is there again, so the second issue cannot fail either.
  obtain ⟨version, hstored⟩ := hsettles₁.provided.session
  have hk₁ : s₁.cluster.objects.Keyed := Simulation.keyed_of_run_eq hreachable.keyed hrun₁
  obtain ⟨s₂, hrun₂, hsettles₂, hfaults₂⟩ := run_issue_of_ready (s := { s₁ with now := later })
    ref env hclient hfaults₁ hk₁ (htokens _) hstored
  obtain ⟨secret, v, w, hsecret, hobjects⟩ := hsettles₁.again hsettles₂ hstored
  obtain ⟨hresource, hnamed⟩ : s₂.cluster.resource = s₁.cluster.resource ∧
      s₂.cluster.named = s₁.cluster.named := by
    obtain rfl : _ = s₂ := congrArg Prod.snd hrun₂
    exact Simulation.run_fixed _
  refine ⟨s₂, hrun₂, secret, _, v, w, s₂.cluster.versions, s₂.cluster.minted, s₂.cluster.calls,
    hsecret, hstored, ?_⟩
  rw [← hobjects, ← hresource, ← hnamed, hfaults₁, ← hfaults₂]

/-- An account, a role with other rules, a role binding with another subject and a secret with other
keys are there before the session is provided with anything. -/
theorem run_issue_converges_stale :
    let alpha : ObjectRef := ⟨"team", "alpha"⟩
    let i : Issuer := { resource := {}, lifetime := .ofSeconds 3600 }
    let env : Surroundings := ⟨⟨fun k => "m" ++ toString k, toString⟩, fun _ => .error .timedOut⟩
    let s : Simulation := ⟨.ofSeconds 0, [
      .putSession ⟨"", "", ⟨"alpha", "team", "", none, ∅, ∅, ∅⟩, ⟨none, none, ∅⟩,
        ⟨none, none, none, none, none, ∅⟩⟩,
      .putServiceAccount ⟨accountOf alpha, ∅, ∅, []⟩,
      .putRole ⟨roleOf alpha, [⟨["*"], ["*"], ["*"]⟩], [], none⟩,
      .call .platform (.createRoleBinding
        ⟨bindingOf alpha, roleName "alpha", [⟨"User", "mallory", none⟩], [], none⟩),
      .call .platform (.createSecret ⟨tokenSecret alpha, ∅,
        SortedMap.ofList [("note", Text.utf8 "keep"), (tokenKey, Text.utf8 "old")], [], none⟩)
      ].foldl (Happening.run env.supply (.ofSeconds 0)) {}⟩
    ∃ s₁ role secret, (Simulation.run env (i.issue alpha) s).2 = s₁ ∧
      s₁.cluster.objects.roles.get? (roleOf alpha) = some role ∧ role.rules = requiredRules {} ∧
      s₁.cluster.objects.secrets.get? (tokenSecret alpha) = some secret ∧
      secret.data = SortedMap.ofList [("note", Text.utf8 "keep"), (tokenKey, Text.utf8 "m0")] ∧
      ∃ s₂, (Simulation.run env (i.issue alpha) s₁).2 = s₂ ∧
        Renewed alpha "m1" s₁.cluster s₂.cluster := by
  intro alpha i env s
  obtain ⟨session, hsession⟩ := Option.isSome_iff_exists.mp
    (by decide +kernel : (s.cluster.objects.sessions.get? alpha).isSome)
  obtain ⟨s₁, hrun₁, hprovided, hagain⟩ := run_issue_converges i env s alpha rfl
    ((ClusterState.Reachable.fresh {}).happen _) (by decide +kernel) (fun k h => by simp [env] at h)
    hsession
  obtain ⟨role, hrole, hrules⟩ := hprovided.role
  obtain ⟨secret, hsecret, hdata, _⟩ := hprovided.secret
  obtain ⟨s₂, hrun₂, hrenewed⟩ := hagain s₁.now
  have hminted : s₁.cluster.minted = 1 := by
    obtain rfl : _ = s₁ := congrArg Prod.snd hrun₁
    decide +kernel
  refine ⟨s₁, role, secret, congrArg Prod.snd hrun₁, hrole, hrules, hsecret, hdata.trans ?_, s₂,
    congrArg Prod.snd hrun₂, ?_⟩
  · decide +kernel
  · rwa [hminted] at hrenewed

end CredentialBroker.Issuer
