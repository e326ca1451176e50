import CredentialBroker.Cluster.State
import CredentialBroker.Proofs.Effect.Outcome

namespace CredentialBroker

/-- Whether a call is a question, which changes no object. -/
def Call.isRead : Call → Bool
  | .getSession _ | .getServiceAccount _ | .getRole _ | .getRoleBinding _ | .getSecret _
  | .reviewToken _ | .checkAccess _ => true
  | _ => false

namespace Objects

attribute [ext] Objects

/-!
# What calls do to the objects

`Effect` says, table by table, what an admitted call can do: leave the table alone, or write one
entry in a stated way.  Later proofs read a call off `apply_effect` and the lemmas on reads and
never open `Objects.apply`.

* `SessionWrite` — a session is patched, updated, or gets a new status;
* `apply_effect` — roles, bindings and secrets are written at their own address, a token is minted
  for the identity the call names, and the rules given by name never change.
-/

/-! ### Checks that pass -/

@[simp] theorem found_eq_ok {α : Type} {kind : String} {ref : ObjectRef} {x : Option α} {a : α} :
    found kind ref x = .ok a ↔ x = some a := by
  cases x <;> simp [found]

@[simp] theorem checkAbsent_eq_ok {α : Type} {kind name : String} {x : Option α} {u : Unit} :
    checkAbsent kind name x = .ok u ↔ x = none := by
  cases x <;> simp [checkAbsent]

@[simp] theorem checkVersion_eq_ok {kind : String} {ref : ObjectRef} {given stored : Option String}
    {u : Unit} :
    checkVersion kind ref given stored = .ok u ↔ given = none ∨ given = stored := by
  unfold checkVersion
  cases given with
  | none => simp
  | some v => by_cases h : some v = stored <;> simp [h]

/-- A session is accepted exactly with the stored version, which has to be given. -/
@[simp] theorem checkSession_eq_ok {session stored : Session} {u : Unit} :
    checkSession session stored = .ok u ↔
      session.metadata.resourceVersion.isSome ∧
        session.metadata.resourceVersion = stored.metadata.resourceVersion := by
  unfold checkSession
  cases h : session.metadata.resourceVersion with
  | none => simp
  | some v => simp

/-! ### Tables -/

/-- How a call writes the session at an address: the stored one, and what takes its place but for
the version. -/
inductive SessionWrite : Call → ObjectRef → Session → Session → Prop where
  /-- Annotations are merged in. -/
  | patch (ref : ObjectRef) (annotations : SortedMap String String) (stored : Session) :
    SessionWrite (.patchSessionAnnotations ref annotations) ref stored
      { stored with metadata := { stored.metadata with
        annotations := stored.metadata.annotations.union annotations } }
  /-- Metadata and specification are replaced. -/
  | update (session stored : Session) (h : checkSession session stored = .ok ()) :
    SessionWrite (.updateSession session) session.ref stored
      { stored with metadata := session.metadata, spec := session.spec }
  /-- The status is replaced. -/
  | status (session stored : Session) (h : checkSession session stored = .ok ()) :
    SessionWrite (.updateSessionStatus session) session.ref stored
      { stored with status := session.status }

/-- What an admitted call can do to the objects, table by table. -/
structure Effect (d : Draw) (call : Call) (o o' : Objects) : Prop where
  /-- A session is written in one of the ways of `SessionWrite`. -/
  sessions : o'.sessions = o.sessions ∨
    ∃ ref stored new, SessionWrite call ref stored new ∧ o.sessions.get? ref = some stored ∧
      o'.sessions = o.sessions.insert ref (versioned new d.version)
  /-- A role is written only by a call that names it as a whole. -/
  roles : o'.roles = o.roles ∨
    ∃ role, (call = .createRole role ∨ call = .updateRole role) ∧
      o'.roles = o.roles.insert role.ref { role with resourceVersion := some d.version }
  /-- A role binding is written only by a call that names it as a whole. -/
  bindings : o'.bindings = o.bindings ∨
    ∃ binding, (call = .createRoleBinding binding ∨ call = .updateRoleBinding binding) ∧
      o'.bindings =
        o.bindings.insert binding.ref { binding with resourceVersion := some d.version }
  /-- A secret is written only by a call that names it as a whole. -/
  secrets : o'.secrets = o.secrets ∨
    ∃ secret, (call = .createSecret secret ∨ call = .updateSecret secret) ∧
      o'.secrets = o.secrets.insert secret.ref { secret with resourceVersion := some d.version }
  /-- Tokens change only when one is minted, and that one stands for the identity it is for. -/
  tokens : (call.isMinting = false ∧ o'.tokens = o.tokens) ∨
    ∃ account lifetime, call = .createToken account lifetime ∧
      o'.tokens = o.tokens.insert d.token (Identity.user account)
  /-- No call gives rules by name. -/
  grants : o'.grants = o.grants

/-- **Effects of calls.**  The one place where the cases of `Objects.apply` are opened. -/
theorem apply_effect {d : Draw} {who : Client} {user : String} {o o' : Objects} {call : Call}
    {reply : call.Reply} (h : o.apply d who user call = .ok (o', reply)) :
    Effect d call o o' := by
  cases call with
  | patchSessionAnnotations ref annotations =>
    simp only [apply, Outcome.bind_eq_ok, found_eq_ok] at h
    obtain ⟨stored, hstored, h⟩ := h
    cases h
    exact ⟨.inr ⟨ref, stored, _, .patch ref annotations stored, hstored, rfl⟩, .inl rfl, .inl rfl,
      .inl rfl, .inl ⟨rfl, rfl⟩, rfl⟩
  | updateSession session =>
    simp only [apply, Outcome.bind_eq_ok, found_eq_ok] at h
    obtain ⟨stored, hstored, _, hcheck, h⟩ := h
    cases h
    exact ⟨.inr ⟨session.ref, stored, _, .update session stored hcheck, hstored, rfl⟩, .inl rfl,
      .inl rfl, .inl rfl, .inl ⟨rfl, rfl⟩, rfl⟩
  | updateSessionStatus session =>
    simp only [apply, Outcome.bind_eq_ok, found_eq_ok] at h
    obtain ⟨stored, hstored, _, hcheck, h⟩ := h
    cases h
    exact ⟨.inr ⟨session.ref, stored, _, .status session stored hcheck, hstored, rfl⟩, .inl rfl,
      .inl rfl, .inl rfl, .inl ⟨rfl, rfl⟩, rfl⟩
  | createRole role =>
    simp only [apply, Outcome.bind_eq_ok] at h
    obtain ⟨_, _, h⟩ := h
    cases h
    exact ⟨.inl rfl, .inr ⟨role, .inl rfl, rfl⟩, .inl rfl, .inl rfl, .inl ⟨rfl, rfl⟩, rfl⟩
  | updateRole role =>
    simp only [apply, Outcome.bind_eq_ok] at h
    obtain ⟨_, _, _, _, h⟩ := h
    cases h
    exact ⟨.inl rfl, .inr ⟨role, .inr rfl, rfl⟩, .inl rfl, .inl rfl, .inl ⟨rfl, rfl⟩, rfl⟩
  | createRoleBinding binding =>
    simp only [apply, Outcome.bind_eq_ok] at h
    obtain ⟨_, _, h⟩ := h
    cases h
    exact ⟨.inl rfl, .inl rfl, .inr ⟨binding, .inl rfl, rfl⟩, .inl rfl, .inl ⟨rfl, rfl⟩, rfl⟩
  | updateRoleBinding binding =>
    simp only [apply, Outcome.bind_eq_ok] at h
    obtain ⟨_, _, _, _, h⟩ := h
    cases h
    exact ⟨.inl rfl, .inl rfl, .inr ⟨binding, .inr rfl, rfl⟩, .inl rfl, .inl ⟨rfl, rfl⟩, rfl⟩
  | createSecret secret =>
    simp only [apply, Outcome.bind_eq_ok] at h
    obtain ⟨_, _, h⟩ := h
    cases h
    exact ⟨.inl rfl, .inl rfl, .inl rfl, .inr ⟨secret, .inl rfl, rfl⟩, .inl ⟨rfl, rfl⟩, rfl⟩
  | updateSecret secret =>
    simp only [apply, Outcome.bind_eq_ok] at h
    obtain ⟨_, _, _, _, h⟩ := h
    cases h
    exact ⟨.inl rfl, .inl rfl, .inl rfl, .inr ⟨secret, .inr rfl, rfl⟩, .inl ⟨rfl, rfl⟩, rfl⟩
  | createToken account lifetime =>
    simp only [apply, Outcome.bind_eq_ok] at h
    obtain ⟨_, _, h⟩ := h
    cases h
    exact ⟨.inl rfl, .inl rfl, .inl rfl, .inl rfl, .inr ⟨account, lifetime, rfl, rfl⟩, rfl⟩
  -- Reads that always end well, and pods, which are in no table looked at here.
  | reviewToken token | checkAccess check | deletePods ns selector =>
    cases h
    exact ⟨.inl rfl, .inl rfl, .inl rfl, .inl rfl, .inl ⟨rfl, rfl⟩, rfl⟩
  -- Reads that may find nothing, and writes of accounts and jobs.
  | getSession ref | getServiceAccount ref | createServiceAccount account
  | patchServiceAccountAnnotations ref annotations | getRole ref | getRoleBinding ref
  | getSecret ref | deleteJob ref propagation =>
    simp only [apply, Outcome.bind_eq_ok] at h
    obtain ⟨_, _, h⟩ := h
    cases h
    exact ⟨.inl rfl, .inl rfl, .inl rfl, .inl rfl, .inl ⟨rfl, rfl⟩, rfl⟩

/-! ### Reads -/

/-- A call that reads leaves the objects alone. -/
theorem apply_read {d : Draw} {who : Client} {user : String} {o o' : Objects} {call : Call}
    {reply : call.Reply} (hread : call.isRead = true)
    (h : o.apply d who user call = .ok (o', reply)) : o' = o := by
  cases call with
  | reviewToken | checkAccess =>
    cases h
    rfl
  | getSession | getServiceAccount | getRole | getRoleBinding | getSecret =>
    simp only [apply, Outcome.bind_eq_ok] at h
    obtain ⟨_, _, h⟩ := h
    cases h
    rfl
  | _ => cases hread

section Single

variable {d : Draw} {who : Client} {user : String} {o o' : Objects} {α : Type}

theorem read_eq_ok {kind : String} {ref : ObjectRef} {x : Option α} {a : α} :
    (do let stored ← found kind ref x
        pure (o, stored) : Except ClusterError (Objects × α)) = .ok (o', a) ↔
      o' = o ∧ x = some a := by
  simp only [Outcome.bind_eq_ok, found_eq_ok]
  constructor
  · rintro ⟨stored, hstored, h⟩
    cases h
    exact ⟨rfl, hstored⟩
  · rintro ⟨rfl, hstored⟩
    exact ⟨a, hstored, rfl⟩

/-- The session that is read is the one stored at that address. -/
theorem apply_getSession {ref : ObjectRef} {session : Session} :
    o.apply d who user (.getSession ref) = .ok (o', session) ↔
      o' = o ∧ o.sessions.get? ref = some session := read_eq_ok

theorem apply_getServiceAccount {ref : ObjectRef} {account : ServiceAccount} :
    o.apply d who user (.getServiceAccount ref) = .ok (o', account) ↔
      o' = o ∧ o.accounts.get? ref = some account := read_eq_ok

theorem apply_getRole {ref : ObjectRef} {role : Role} :
    o.apply d who user (.getRole ref) = .ok (o', role) ↔
      o' = o ∧ o.roles.get? ref = some role := read_eq_ok

theorem apply_getRoleBinding {ref : ObjectRef} {binding : RoleBinding} :
    o.apply d who user (.getRoleBinding ref) = .ok (o', binding) ↔
      o' = o ∧ o.bindings.get? ref = some binding := read_eq_ok

theorem apply_getSecret {ref : ObjectRef} {secret : Secret} :
    o.apply d who user (.getSecret ref) = .ok (o', secret) ↔
      o' = o ∧ o.secrets.get? ref = some secret := read_eq_ok

/-- A review tells what the cluster knows of a token. -/
theorem apply_reviewToken {token : String} {review : TokenReview}
    (h : o.apply d who user (.reviewToken token) = .ok (o', review)) :
    o' = o ∧ review = o.review token := by
  obtain ⟨hobjects, hreview⟩ := Prod.mk.inj (Except.ok.inj h)
  exact ⟨hobjects.symm, hreview.symm⟩

/-- A check tells what the cluster lets its caller do. -/
theorem apply_checkAccess {check : AccessCheck} {decision : AccessDecision}
    (h : o.apply d who user (.checkAccess check) = .ok (o', decision)) :
    o' = o ∧ decision = o.decide who user check := by
  obtain ⟨hobjects, hdecision⟩ := Prod.mk.inj (Except.ok.inj h)
  exact ⟨hobjects.symm, hdecision.symm⟩

/-- A session that is not there is not found. -/
theorem apply_getSession_absent {ref : ObjectRef} (h : o.sessions.get? ref = none) :
    o.apply d who user (.getSession ref) = .error (.notFound sessionKind ref.text) := by
  simp only [apply, h]
  rfl

/-- A secret that is not there is not found. -/
theorem apply_getSecret_absent {ref : ObjectRef} (h : o.secrets.get? ref = none) :
    o.apply d who user (.getSecret ref) = .error (.notFound "Secret" ref.text) := by
  simp only [apply, h]
  rfl

/-! ### Writes of sessions -/

/-- A machine identity with annotations merged in is stored at its address. -/
theorem apply_patchServiceAccount {ref : ObjectRef} {annotations : SortedMap String String} :
    o.apply d who user (.patchServiceAccountAnnotations ref annotations) = .ok (o', ()) ↔
      ∃ stored, o.accounts.get? ref = some stored ∧
        o' = { o with accounts := o.accounts.insert ref { stored with
          annotations := stored.annotations.union annotations } } := by
  simp only [apply, Outcome.bind_eq_ok, found_eq_ok]
  constructor
  · rintro ⟨stored, hstored, h⟩
    cases h
    exact ⟨stored, hstored, rfl⟩
  · rintro ⟨stored, hstored, rfl⟩
    exact ⟨stored, hstored, rfl⟩

/-- A session with annotations merged in is stored at its address. -/
theorem apply_patchSession {ref : ObjectRef} {annotations : SortedMap String String}
    {session : Session} :
    o.apply d who user (.patchSessionAnnotations ref annotations) = .ok (o', session) ↔
      ∃ stored, o.sessions.get? ref = some stored ∧
        session = versioned { stored with metadata := { stored.metadata with
          annotations := stored.metadata.annotations.union annotations } } d.version ∧
        o' = { o with sessions := o.sessions.insert ref session } := by
  simp only [apply, Outcome.bind_eq_ok, found_eq_ok]
  constructor
  · rintro ⟨stored, hstored, h⟩
    cases h
    exact ⟨stored, hstored, rfl, rfl⟩
  · rintro ⟨stored, hstored, rfl, rfl⟩
    exact ⟨stored, hstored, rfl⟩

/-- A session is updated where there is one, of the version named, and keeps its status. -/
theorem updateSession_eq_ok {session updated : Session} :
    o.apply d who user (.updateSession session) = .ok (o', updated) ↔
      ∃ stored, o.sessions.get? session.ref = some stored ∧
        checkSession session stored = .ok () ∧
        updated = versioned { stored with metadata := session.metadata, spec := session.spec }
          d.version ∧
        o' = { o with sessions := o.sessions.insert session.ref updated } := by
  simp only [apply, Outcome.bind_eq_ok, found_eq_ok]
  constructor
  · rintro ⟨stored, hstored, _, hcheck, h⟩
    cases h
    exact ⟨stored, hstored, hcheck, rfl, rfl⟩
  · rintro ⟨stored, hstored, hcheck, rfl, rfl⟩
    exact ⟨stored, hstored, (), hcheck, rfl⟩

/-- A status is written where there is a session, of the version named, and nothing else of it. -/
theorem updateSessionStatus_eq_ok {session updated : Session} :
    o.apply d who user (.updateSessionStatus session) = .ok (o', updated) ↔
      ∃ stored, o.sessions.get? session.ref = some stored ∧
        checkSession session stored = .ok () ∧
        updated = versioned { stored with status := session.status } d.version ∧
        o' = { o with sessions := o.sessions.insert session.ref updated } := by
  simp only [apply, Outcome.bind_eq_ok, found_eq_ok]
  constructor
  · rintro ⟨stored, hstored, _, hcheck, h⟩
    cases h
    exact ⟨stored, hstored, hcheck, rfl, rfl⟩
  · rintro ⟨stored, hstored, hcheck, rfl, rfl⟩
    exact ⟨stored, hstored, (), hcheck, rfl⟩

/-- A session of the version that is stored is accepted. -/
theorem updateSession_current {session stored : Session}
    (hstored : o.sessions.get? session.ref = some stored)
    (hgiven : session.metadata.resourceVersion.isSome)
    (hversion : session.metadata.resourceVersion = stored.metadata.resourceVersion) :
    ∃ o' updated, o.apply d who user (.updateSession session) = .ok (o', updated) :=
  ⟨_, _, updateSession_eq_ok.mpr
    ⟨stored, hstored, checkSession_eq_ok.mpr ⟨hgiven, hversion⟩, rfl, rfl⟩⟩

theorem updateSessionStatus_current {session stored : Session}
    (hstored : o.sessions.get? session.ref = some stored)
    (hgiven : session.metadata.resourceVersion.isSome)
    (hversion : session.metadata.resourceVersion = stored.metadata.resourceVersion) :
    ∃ o' updated, o.apply d who user (.updateSessionStatus session) = .ok (o', updated) :=
  ⟨_, _, updateSessionStatus_eq_ok.mpr
    ⟨stored, hstored, checkSession_eq_ok.mpr ⟨hgiven, hversion⟩, rfl, rfl⟩⟩

/-- A session of another version than the stored one is refused. -/
theorem checkSession_of_ne {session stored : Session}
    (hgiven : session.metadata.resourceVersion.isSome)
    (hne : session.metadata.resourceVersion ≠ stored.metadata.resourceVersion) :
    checkSession session stored = .error (.conflict sessionKind session.ref.text) := by
  unfold checkSession checkVersion
  rw [if_neg (by simpa using Option.ne_none_iff_isSome.mpr hgiven), if_pos ⟨hgiven, hne⟩]

/-- Nothing is written over a session of another version. -/
theorem refused_of_ne {β : Type} {session stored : Session}
    {write : Session → Except ClusterError β}
    (hgiven : session.metadata.resourceVersion.isSome)
    (hne : session.metadata.resourceVersion ≠ stored.metadata.resourceVersion) :
    (do let stored ← found sessionKind session.ref (some stored)
        checkSession session stored
        write stored) = .error (.conflict sessionKind session.ref.text) := by
  show (checkSession session stored >>= fun _ => write stored) = _
  rw [checkSession_of_ne hgiven hne]
  rfl

theorem updateSession_conflict {session stored : Session}
    (hstored : o.sessions.get? session.ref = some stored)
    (hgiven : session.metadata.resourceVersion.isSome)
    (hne : session.metadata.resourceVersion ≠ stored.metadata.resourceVersion) :
    o.apply d who user (.updateSession session) =
      .error (.conflict sessionKind session.ref.text) := by
  simp only [apply, hstored]
  exact refused_of_ne hgiven hne

theorem updateSessionStatus_conflict {session stored : Session}
    (hstored : o.sessions.get? session.ref = some stored)
    (hgiven : session.metadata.resourceVersion.isSome)
    (hne : session.metadata.resourceVersion ≠ stored.metadata.resourceVersion) :
    o.apply d who user (.updateSessionStatus session) =
      .error (.conflict sessionKind session.ref.text) := by
  simp only [apply, hstored]
  exact refused_of_ne hgiven hne

/-- A session that is updated keeps its status. -/
theorem apply_updateSession {session updated : Session}
    (h : o.apply d who user (.updateSession session) = .ok (o', updated)) :
    updated.ref = session.ref ∧ o'.sessions.get? session.ref = some updated ∧
      ∃ stored, o.sessions.get? session.ref = some stored ∧
        session.metadata.resourceVersion = stored.metadata.resourceVersion ∧
        updated.status = stored.status := by
  obtain ⟨stored, hstored, hcheck, rfl, rfl⟩ := updateSession_eq_ok.mp h
  exact ⟨rfl, SortedMap.get?_insert_self _ _ _, stored, hstored,
    (checkSession_eq_ok.mp hcheck).2, rfl⟩

/-- A status that is written is that of the session stored at its address, of the version named. -/
theorem apply_updateSessionStatus {session updated : Session}
    (h : o.apply d who user (.updateSessionStatus session) = .ok (o', updated)) :
    ∃ stored, o.sessions.get? session.ref = some stored ∧
      session.metadata.resourceVersion = stored.metadata.resourceVersion := by
  obtain ⟨stored, hstored, hcheck, _⟩ := updateSessionStatus_eq_ok.mp h
  exact ⟨stored, hstored, (checkSession_eq_ok.mp hcheck).2⟩

/-! ### Objects that are made -/

/-- An object is made where there is none. -/
theorem made_eq_ok {kind name : String} {x : Option α} {new a : α} (put : α → Objects) :
    (do checkAbsent kind name x
        pure (put new, new) : Except ClusterError (Objects × α)) = .ok (o', a) ↔
      x = none ∧ a = new ∧ o' = put a := by
  simp only [Outcome.bind_eq_ok, checkAbsent_eq_ok]
  constructor
  · rintro ⟨_, habsent, h⟩
    cases h
    exact ⟨habsent, rfl, rfl⟩
  · rintro ⟨habsent, rfl, rfl⟩
    exact ⟨(), habsent, rfl⟩

/-- Nothing is made where something is. -/
theorem made_of_present {β : Type} {kind name : String} {x : Option α} {made : β}
    (h : x.isSome) :
    (do checkAbsent kind name x
        pure made : Except ClusterError β) = .error (.alreadyExists kind name) := by
  obtain ⟨a, rfl⟩ := Option.isSome_iff_exists.mp h
  rfl

theorem apply_createServiceAccount {account stored : ServiceAccount} :
    o.apply d who user (.createServiceAccount account) = .ok (o', stored) ↔
      o.accounts.get? account.ref = none ∧ stored = account ∧
        o' = { o with accounts := o.accounts.insert account.ref stored } :=
  made_eq_ok fun a => { o with accounts := o.accounts.insert account.ref a }

theorem apply_createServiceAccount_present {account : ServiceAccount}
    (h : (o.accounts.get? account.ref).isSome) :
    o.apply d who user (.createServiceAccount account) =
      .error (.alreadyExists "ServiceAccount" account.ref.name) := made_of_present h

theorem apply_createRole {role stored : Role} :
    o.apply d who user (.createRole role) = .ok (o', stored) ↔
      o.roles.get? role.ref = none ∧ stored = { role with resourceVersion := some d.version } ∧
        o' = { o with roles := o.roles.insert role.ref stored } :=
  made_eq_ok fun r => { o with roles := o.roles.insert role.ref r }

theorem apply_createRole_present {role : Role} (h : (o.roles.get? role.ref).isSome) :
    o.apply d who user (.createRole role) = .error (.alreadyExists "Role" role.ref.name) :=
  made_of_present h

theorem apply_createRoleBinding {binding stored : RoleBinding} :
    o.apply d who user (.createRoleBinding binding) = .ok (o', stored) ↔
      o.bindings.get? binding.ref = none ∧
        stored = { binding with resourceVersion := some d.version } ∧
        o' = { o with bindings := o.bindings.insert binding.ref stored } :=
  made_eq_ok fun b => { o with bindings := o.bindings.insert binding.ref b }

theorem apply_createRoleBinding_present {binding : RoleBinding}
    (h : (o.bindings.get? binding.ref).isSome) :
    o.apply d who user (.createRoleBinding binding) =
      .error (.alreadyExists "RoleBinding" binding.ref.name) := made_of_present h

/-- A secret is made where there is none. -/
theorem apply_createSecret {secret stored : Secret} :
    o.apply d who user (.createSecret secret) = .ok (o', stored) ↔
      o.secrets.get? secret.ref = none ∧
        stored = { secret with resourceVersion := some d.version } ∧
        o' = { o with secrets := o.secrets.insert secret.ref stored } :=
  made_eq_ok fun s => { o with secrets := o.secrets.insert secret.ref s }

/-- A secret is made unless there is one. -/
theorem apply_createSecret_error {secret : Secret} {e : ClusterError}
    (h : o.apply d who user (.createSecret secret) = .error e) :
    e = .alreadyExists "Secret" secret.ref.name := by
  cases hstored : o.secrets.get? secret.ref with
  | none =>
    rw [apply_createSecret.mpr ⟨hstored, rfl, rfl⟩] at h
    cases h
  | some stored =>
    have hpresent : o.apply d who user (.createSecret secret) =
        .error (.alreadyExists "Secret" secret.ref.name) :=
      made_of_present (Option.isSome_iff_exists.mpr ⟨stored, hstored⟩)
    exact Except.error.inj (h.symm.trans hpresent)

/-- A token that is minted is the one drawn, for an identity that is there. -/
theorem apply_createToken {account : ObjectRef} {lifetime : Span} {minted : MintedToken} :
    o.apply d who user (.createToken account lifetime) = .ok (o', minted) ↔
      (o.accounts.get? account).isSome ∧ minted = ⟨d.token, d.now.after (lifetimeFor lifetime)⟩ ∧
        o' = { o with tokens := o.tokens.insert d.token (Identity.user account) } := by
  simp only [apply, Outcome.bind_eq_ok, found_eq_ok, Option.isSome_iff_exists]
  constructor
  · rintro ⟨stored, hstored, h⟩
    cases h
    exact ⟨⟨stored, hstored⟩, rfl, rfl⟩
  · rintro ⟨⟨stored, hstored⟩, rfl, rfl⟩
    exact ⟨stored, hstored, rfl⟩

/-! ### Objects that are removed -/

/-- A job is removed where there is one. -/
theorem apply_deleteJob {ref : ObjectRef} {propagation : Propagation} {v : Unit} :
    o.apply d who user (.deleteJob ref propagation) = .ok (o', v) ↔
      (o.jobs.get? ref).isSome ∧ o' = { o with jobs := o.jobs.erase ref } := by
  simp only [apply, Outcome.bind_eq_ok, found_eq_ok, Option.isSome_iff_exists]
  constructor
  · rintro ⟨stored, hstored, h⟩
    cases h
    exact ⟨⟨stored, hstored⟩, rfl⟩
  · rintro ⟨⟨stored, hstored⟩, rfl⟩
    exact ⟨stored, hstored, rfl⟩

/-- Pods are all that is removed with them. -/
theorem apply_deletePods {ns selector : String} {v : Unit}
    (h : o.apply d who user (.deletePods ns selector) = .ok (o', v)) :
    ∃ pods, o' = { o with pods := pods } := by
  cases h
  exact ⟨_, rfl⟩

/-! ### Objects that are replaced -/

/-- An object is replaced where there is one, of the version named if one is. -/
theorem replaced_eq_ok {kind : String} {ref : ObjectRef} {x : Option α} {given : Option String}
    {new a : α} (version : α → Option String) (put : α → Objects) :
    (do let stored ← found kind ref x
        checkVersion kind ref given (version stored)
        pure (put new, new) : Except ClusterError (Objects × α)) = .ok (o', a) ↔
      (∃ old, x = some old ∧ (given = none ∨ given = version old)) ∧ a = new ∧ o' = put a := by
  simp only [Outcome.bind_eq_ok, found_eq_ok, checkVersion_eq_ok]
  constructor
  · rintro ⟨old, hold, _, hversion, h⟩
    cases h
    exact ⟨⟨old, hold, hversion⟩, rfl, rfl⟩
  · rintro ⟨⟨old, hold, hversion⟩, rfl, rfl⟩
    exact ⟨old, hold, (), hversion, rfl⟩

theorem apply_updateRole {role stored : Role} :
    o.apply d who user (.updateRole role) = .ok (o', stored) ↔
      (∃ old, o.roles.get? role.ref = some old ∧
        (role.resourceVersion = none ∨ role.resourceVersion = old.resourceVersion)) ∧
        stored = { role with resourceVersion := some d.version } ∧
        o' = { o with roles := o.roles.insert role.ref stored } :=
  replaced_eq_ok Role.resourceVersion fun r => { o with roles := o.roles.insert role.ref r }

theorem apply_updateRoleBinding {binding stored : RoleBinding} :
    o.apply d who user (.updateRoleBinding binding) = .ok (o', stored) ↔
      (∃ old, o.bindings.get? binding.ref = some old ∧
        (binding.resourceVersion = none ∨ binding.resourceVersion = old.resourceVersion)) ∧
        stored = { binding with resourceVersion := some d.version } ∧
        o' = { o with bindings := o.bindings.insert binding.ref stored } :=
  replaced_eq_ok RoleBinding.resourceVersion fun b =>
    { o with bindings := o.bindings.insert binding.ref b }

/-- A secret is replaced where there is one, of the version named in it if one is. -/
theorem apply_updateSecret {secret stored : Secret} :
    o.apply d who user (.updateSecret secret) = .ok (o', stored) ↔
      (∃ old, o.secrets.get? secret.ref = some old ∧
        (secret.resourceVersion = none ∨ secret.resourceVersion = old.resourceVersion)) ∧
        stored = { secret with resourceVersion := some d.version } ∧
        o' = { o with secrets := o.secrets.insert secret.ref stored } :=
  replaced_eq_ok Secret.resourceVersion fun s =>
    { o with secrets := o.secrets.insert secret.ref s }

/-- A secret that is there is replaced unless it is of another version than the one named. -/
theorem apply_updateSecret_error {secret : Secret} {e : ClusterError}
    (hpresent : (o.secrets.get? secret.ref).isSome)
    (h : o.apply d who user (.updateSecret secret) = .error e) :
    e = .conflict "Secret" secret.ref.text := by
  obtain ⟨stored, hstored⟩ := Option.isSome_iff_exists.mp hpresent
  simp only [apply, hstored] at h
  rcases Outcome.bind_eq_error.mp h with hfound | ⟨_, _, h⟩
  · cases hfound
  · rcases Outcome.bind_eq_error.mp h with hversion | ⟨_, _, h⟩
    · unfold checkVersion at hversion
      split at hversion
      · cases hversion
        rfl
      · cases hversion
    · cases h

end Single

end Objects

end CredentialBroker
