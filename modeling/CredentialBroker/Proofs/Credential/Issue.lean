import CredentialBroker.Credential.Issue
import CredentialBroker.Proofs.Cluster.Frame
import CredentialBroker.Proofs.Credential.Store

namespace CredentialBroker

/-!
# What issuing a credential does

* `Issuer.issue_follows`, `Issuer.run_issue_other` — the calls that issuing makes, which all concern
  one session, and the secrets that it leaves alone;
* `Issuer.issue_mintsPrepared` — a token is minted only after role and role binding are in place,
  even when issuing fails later on;
* `Issuer.run_issue_eq_ok` — after an issue that ends well the secret has the token that was minted,
  and the session has the identity on record.
-/

/-! ### Names -/

/-- The account of the identity of a session. -/
def accountOf (ref : ObjectRef) : ObjectRef := ⟨ref.ns, identityName ref.name⟩

theorem identityName_injective {a b : String} (h : identityName a = identityName b) : a = b :=
  (String.append_right_inj _).mp h

theorem roleName_injective {a b : String} (h : roleName a = roleName b) : a = b :=
  (String.append_right_inj _).mp ((String.append_left_inj _).mp h)

theorem bindingName_injective {a b : String} (h : bindingName a = bindingName b) : a = b :=
  (String.append_right_inj _).mp ((String.append_left_inj _).mp h)

theorem tokenSecretName_injective {a b : String} (h : tokenSecretName a = tokenSecretName b) :
    a = b := (String.append_right_inj _).mp h

attribute [ext] ObjectRef

/-- Objects named after sessions in their namespaces are told apart like their names. -/
theorem ObjectRef.named_injective {name : String → String}
    (hname : ∀ {a b}, name a = name b → a = b) {a b : ObjectRef}
    (h : (⟨a.ns, name a.name⟩ : ObjectRef) = ⟨b.ns, name b.name⟩) : a = b := by
  obtain ⟨hns, hsame⟩ := ObjectRef.mk.inj h
  exact ObjectRef.ext hns (hname hsame)

theorem accountOf_injective {a b : ObjectRef} (h : accountOf a = accountOf b) : a = b :=
  ObjectRef.named_injective identityName_injective h

namespace Issuer

/-! ### Calls -/

variable {i : Issuer} {ref : ObjectRef} {owner : OwnerReference}
  {gets : (call : Call) → call.Reply → Prop}

/-- The annotations that a session gets. -/
def record (ref : ObjectRef) : SortedMap String String :=
  SortedMap.ofList [(Session.identityKey, identityName ref.name),
    (Session.credentialSecretKey, tokenSecretName ref.name)]

/-- The session after an issue, but for its version. -/
def recorded (ref : ObjectRef) (session : Session) : Session :=
  { session with metadata := { session.metadata with
      annotations := session.metadata.annotations.union (record ref) } }

/-- The secret that a token is put into. -/
def tokenSecret (ref : ObjectRef) : ObjectRef := ⟨ref.ns, tokenSecretName ref.name⟩

/-- The change that puts a token into its secret. -/
def tokenChange (token : String) (owner : OwnerReference) : SecretChange :=
  ⟨SortedMap.ofList [(tokenKey, Text.utf8 token)], ∅, owner⟩

/-- The calls made to put the objects of a session in place. -/
inductive Prepares (i : Issuer) (gets : (call : Call) → call.Reply → Prop) (ref : ObjectRef) :
    Call → Prop where
  /-- The session is read. -/
  | session : Prepares i gets ref (.getSession ref)
  /-- The identity is made. -/
  | account (owner : OwnerReference) :
    Prepares i gets ref (.createServiceAccount (identity ref owner))
  /-- The role is made. -/
  | createRole (owner : OwnerReference) : Prepares i gets ref (.createRole (i.role ref owner))
  /-- The role is read. -/
  | getRole (owner : OwnerReference) : Prepares i gets ref (.getRole (i.role ref owner).ref)
  /-- The rules of the role are repaired. -/
  | updateRole (owner : OwnerReference) (version : Option String) (owners : List OwnerReference) :
    Prepares i gets ref (.updateRole
      { i.role ref owner with resourceVersion := version, owners := owners })
  /-- The role binding is made. -/
  | createBinding (owner : OwnerReference) :
    Prepares i gets ref (.createRoleBinding (binding ref owner))
  /-- The role binding is read. -/
  | getBinding (owner : OwnerReference) :
    Prepares i gets ref (.getRoleBinding (binding ref owner).ref)
  /-- The subjects of the role binding are repaired; its role stays the one that was read. -/
  | updateBinding (owner : OwnerReference) (found : RoleBinding)
      (h : gets (.getRoleBinding (binding ref owner).ref) found) :
    Prepares i gets ref (.updateRoleBinding
      { binding ref owner with resourceVersion := found.resourceVersion,
                               roleName := found.roleName })

/-- The calls made to issue a credential for a session. -/
inductive Asks (i : Issuer) (gets : (call : Call) → call.Reply → Prop) (ref : ObjectRef) :
    Call → Prop where
  /-- The objects of the session are put in place. -/
  | prepare {call : Call} (h : Prepares i gets ref call) : Asks i gets ref call
  /-- A token is minted. -/
  | token : Asks i gets ref (.createToken (accountOf ref) i.lifetime)
  /-- A token is put into the secret. -/
  | store (token : String) (owner : OwnerReference) {call : Call}
      (h : CredentialStore.Asks gets (tokenSecret ref) (tokenChange token owner) call) :
    Asks i gets ref call
  /-- The session gets the names of its identity and its secret. -/
  | record : Asks i gets ref (.patchSessionAnnotations ref (record ref))

/-- The only token asked for is one for the identity of the session. -/
theorem Asks.account_eq {account : ObjectRef} {lifetime : Span}
    (h : Asks i gets ref (.createToken account lifetime)) : account = accountOf ref := by
  cases h with
  | prepare h => cases h
  | token => rfl
  | store _ _ h => cases h

/-- The only secret that is made or replaced is the one for the token. -/
theorem Asks.secret_ref {call : Call} {secret : Secret}
    (h : Asks i CredentialStore.addressed ref call)
    (hcall : call = .createSecret secret ∨ call = .updateSecret secret) :
    secret.ref = tokenSecret ref := by
  cases h with
  | prepare h => rcases hcall with rfl | rfl <;> cases h
  | token | record => rcases hcall with hcall | hcall <;> cases hcall
  | store _ _ h => exact h.secret_ref hcall

/-- The contract of calls that an issuer makes. -/
def contract (i : Issuer) (asks : Call → Prop) (gets : (call : Call) → call.Reply → Prop) :
    Contract demands :=
  .ofCalls (fun who call => who = i.client ∧ asks call) gets

theorem ask_follows {asks : Call → Prop} {call : Call} (h : asks call) :
    (i.ask call).Follows (i.contract asks gets) (gets call) :=
  Action.follows_mapError (Action.follows_cluster ⟨rfl, h⟩ fun v hv => hv v rfl)

theorem create_follows {asks : Call → Prop} {call : Call} (h : asks call) :
    (i.create call).Follows (i.contract asks gets) fun _ => True := by
  unfold create
  refine Action.follows_bind (Action.follows_outcome (Action.follows_call ⟨rfl, h⟩))
    fun reply _ => ?_
  cases reply with
  | ok v => exact Action.follows_pure trivial
  | error e =>
    -- An object that is there already is no failure.
    dsimp only
    split
    · exact Action.follows_pure trivial
    · exact Action.follows_throw

theorem ensureIdentity_follows :
    (i.ensureIdentity ref owner).Follows (i.contract (Prepares i gets ref) gets) fun _ => True :=
  Action.follows_discard (create_follows (.account owner))

theorem ensureRole_follows :
    (i.ensureRole ref owner).Follows (i.contract (Prepares i gets ref) gets) fun _ => True := by
  unfold ensureRole
  refine Action.follows_bind (create_follows (.createRole owner)) fun present _ => ?_
  cases present with
  | false => exact Action.follows_pure trivial
  | true =>
    refine Action.follows_bind (ask_follows (.getRole owner)) fun found _ => ?_
    split
    · exact Action.follows_discard (ask_follows (.updateRole owner _ _))
    · exact Action.follows_pure trivial

theorem ensureBinding_follows :
    (i.ensureBinding ref owner).Follows (i.contract (Prepares i gets ref) gets)
      fun _ => True := by
  unfold ensureBinding
  refine Action.follows_bind (create_follows (.createBinding owner)) fun present _ => ?_
  cases present with
  | false => exact Action.follows_pure trivial
  | true =>
    refine Action.follows_bind (ask_follows (.getBinding owner)) fun found hfound => ?_
    split
    · exact Action.follows_discard (ask_follows (.updateBinding owner found hfound))
    · exact Action.follows_pure trivial

/-- The first half of an issue: the objects of the session are put in place. -/
def prepare (i : Issuer) (ref : ObjectRef) : Action CredentialError OwnerReference := do
  let session ← i.ask (.getSession ref)
  i.ensureIdentity ref session.ownerReference
  i.ensureRole ref session.ownerReference
  i.ensureBinding ref session.ownerReference
  pure session.ownerReference

/-- The second half of an issue: a token is minted, stored and put on record. -/
def deliver (i : Issuer) (ref : ObjectRef) (owner : OwnerReference) :
    Action CredentialError IssuedCredential := do
  let minted ← i.ask (.createToken (accountOf ref) i.lifetime)
  if minted.token = "" then
    throw (.internal ("cluster returned an empty token for " ++ (accountOf ref).text))
  let store : CredentialStore := { client := i.client }
  store.write (tokenSecret ref) (tokenChange minted.token owner)
  discard (i.ask (.patchSessionAnnotations ref (record ref)))
  pure ⟨identityName ref.name, tokenSecret ref, minted.expiresAt⟩

/-- The last part of an issue: a token that was minted is stored and put on record. -/
def settle (i : Issuer) (ref : ObjectRef) (owner : OwnerReference) (minted : MintedToken) :
    Action CredentialError IssuedCredential := do
  if minted.token = "" then
    throw (.internal ("cluster returned an empty token for " ++ (accountOf ref).text))
  let store : CredentialStore := { client := i.client }
  store.write (tokenSecret ref) (tokenChange minted.token owner)
  discard (i.ask (.patchSessionAnnotations ref (record ref)))
  pure ⟨identityName ref.name, tokenSecret ref, minted.expiresAt⟩

theorem deliver_eq (i : Issuer) (ref : ObjectRef) (owner : OwnerReference) :
    i.deliver ref owner =
      i.ask (.createToken (accountOf ref) i.lifetime) >>= i.settle ref owner := rfl

/-- An issue is its two halves. -/
theorem issue_eq (i : Issuer) (ref : ObjectRef) :
    i.issue ref = i.prepare ref >>= i.deliver ref := by
  unfold prepare
  simp only [bind_assoc, pure_bind]
  rfl

theorem prepare_follows :
    (i.prepare ref).Follows (i.contract (Prepares i gets ref) gets) fun _ => True := by
  unfold prepare
  refine Action.follows_bind (ask_follows .session) fun session _ => ?_
  refine Action.follows_bind ensureIdentity_follows fun _ _ => ?_
  refine Action.follows_bind ensureRole_follows fun _ _ => ?_
  refine Action.follows_bind ensureBinding_follows fun _ _ => ?_
  exact Action.follows_pure trivial

/-- Calls of the issuer that are of a wider kind as well. -/
theorem Follows.widen {ε α : Type} {a : Action ε α} {asks wider : Call → Prop} {ends : α → Prop}
    (h : a.Follows (i.contract asks gets) ends) (hwider : ∀ call, asks call → wider call) :
    a.Follows (i.contract wider gets) ends :=
  Simulation.follows_ofCalls_mono h fun _ call hcall => ⟨hcall.1, hwider call hcall.2⟩

theorem store_follows (token : String) :
    (({ client := i.client } : CredentialStore).write (tokenSecret ref)
      (tokenChange token owner)).Follows (i.contract (Asks i gets ref) gets) fun _ => True :=
  Simulation.follows_ofCalls_mono CredentialStore.write_follows
    fun _ _ h => ⟨h.1, .store token owner h.2⟩

theorem deliver_follows :
    (i.deliver ref owner).Follows (i.contract (Asks i gets ref) gets) fun _ => True := by
  unfold deliver
  refine Action.follows_bind (ask_follows .token) fun minted _ => ?_
  dsimp only
  split
  · exact Action.follows_throw_bind
  · refine Action.follows_bind (store_follows minted.token) fun _ _ => ?_
    refine Action.follows_bind (Action.follows_discard (ask_follows .record)) fun _ _ => ?_
    exact Action.follows_pure trivial

/-- **Calls of an issue.**  Issuing asks for nothing but the objects of its session. -/
theorem issue_follows :
    (i.issue ref).Follows (i.contract (Asks i gets ref) gets) fun _ => True := by
  rw [issue_eq]
  exact Action.follows_bind (Follows.widen prepare_follows fun _ h => .prepare h) fun _ _ =>
    deliver_follows

/-- However an issue ends, the other secrets are as before. -/
theorem run_issue_other {env : Surroundings} {s : Simulation} {other : ObjectRef}
    (hk : s.cluster.objects.Keyed) (hother : other ≠ tokenSecret ref) :
    (Simulation.run env (i.issue ref) s).2.cluster.objects.secrets.get? other =
      s.cluster.objects.secrets.get? other :=
  CredentialStore.run_secrets_other issue_follows
    (fun _ _ _ hasks hcall => hasks.2.secret_ref hcall ▸ hother.symm) hk

theorem issue?_follows {ε : Type} :
    (i.issue? ref : Action ε (Option IssuedCredential)).Follows
      (i.contract (Asks i gets ref) gets) fun _ => True := by
  unfold issue?
  refine Action.follows_bind (Action.follows_outcome issue_follows) fun outcome _ => ?_
  cases outcome with
  | ok credential => exact Action.follows_pure trivial
  | error e => exact Action.follows_pure trivial

/-! ### Tables that are left alone -/

variable {env : Surroundings} {s s' : Simulation}

/-- Putting the objects in place leaves the other tables alone. -/
theorem prepare_agrees (table : Table) {x : Except CredentialError OwnerReference}
    (h : Simulation.run env (i.prepare ref) s = (x, s'))
    (htable : table ∉ [Table.accounts, .roles, .bindings]) :
    s.cluster.objects.Agrees s'.cluster.objects table := by
  obtain rfl : _ = s' := congrArg Prod.snd h
  refine Simulation.run_agrees env s prepare_follows ?_
  rintro who call ⟨_, hcall⟩ heq
  cases hcall <;> cases heq <;> exact htable (by decide)

/-- Storing a token leaves the other tables alone. -/
theorem store_agrees (table : Table) {token : String} {x : Except CredentialError Unit}
    (h : Simulation.run env (({ client := i.client } : CredentialStore).write (tokenSecret ref)
      (tokenChange token owner)) s = (x, s')) (htable : table ≠ .secrets) :
    s.cluster.objects.Agrees s'.cluster.objects table := by
  obtain rfl : _ = s' := congrArg Prod.snd h
  refine Simulation.run_agrees env s CredentialStore.write_follows ?_
  rintro who call ⟨_, hcall⟩ heq
  cases hcall <;> cases heq <;> exact htable rfl

/-! ### Order of calls -/

/-- An object whose making ends well was made, or was there before. -/
theorem run_create_eq_ok {call : Call} {present : Bool}
    (h : Simulation.run env (i.create call) s = (.ok present, s')) :
    present = true ∨ ∃ v, Simulation.run env (Action.cluster i.client call) s = (.ok v, s') := by
  unfold create at h
  obtain ⟨reply, t, hcall, h⟩ := Simulation.run_bind_eq_ok.mp h
  rw [Simulation.run_outcome] at hcall
  cases reply with
  | ok v =>
    cases h
    refine .inr ⟨v, ?_⟩
    simpa only [Prod.mk.injEq, Except.ok.injEq, Prod.ext_iff] using hcall
  | error e =>
    dsimp only at h
    split at h
    · cases h
      exact .inl rfl
    · cases h

theorem run_ask_eq_ok {call : Call} {v : call.Reply}
    (h : Simulation.run env (i.ask call) s = (.ok v, s')) :
    Simulation.run env (Action.cluster i.client call) s = (.ok v, s') :=
  Simulation.run_mapError_eq_ok.mp h

/-- Once the role is seen to, it is there. -/
theorem run_ensureRole_eq_ok {u : Unit}
    (h : Simulation.run env (i.ensureRole ref owner) s = (.ok u, s')) :
    (s'.cluster.objects.roles.get? (i.role ref owner).ref).isSome := by
  unfold ensureRole at h
  obtain ⟨present, t, hcreate, h⟩ := Simulation.run_bind_eq_ok.mp h
  rcases run_create_eq_ok hcreate with rfl | ⟨v, hcreated⟩
  · -- A role that is said to be there is read, so it is.
    obtain ⟨found, t', hget, h⟩ := Simulation.run_bind_eq_ok.mp h
    obtain ⟨_, _, _, happly, _⟩ := Simulation.run_call_eq_ok (run_ask_eq_ok hget)
    obtain ⟨hsame, hfound⟩ := Objects.apply_getRole.mp happly
    have hthere : (t'.cluster.objects.roles.get? (i.role ref owner).ref).isSome := by
      rw [hsame, hfound]
      rfl
    obtain rfl : _ = s' := congrArg Prod.snd h
    exact Simulation.run_role_stays _ hthere
  · obtain ⟨_, _, _, happly, _⟩ := Simulation.run_call_eq_ok hcreated
    obtain rfl : _ = s' := congrArg Prod.snd h
    obtain ⟨_, _, hobjects⟩ := Objects.apply_createRole.mp happly
    refine Simulation.run_role_stays _ ?_
    rw [hobjects, SortedMap.get?_insert_self]
    rfl

/-- Once the role binding is seen to, it is there. -/
theorem run_ensureBinding_eq_ok {u : Unit}
    (h : Simulation.run env (i.ensureBinding ref owner) s = (.ok u, s')) :
    (s'.cluster.objects.bindings.get? (binding ref owner).ref).isSome := by
  unfold ensureBinding at h
  obtain ⟨present, t, hcreate, h⟩ := Simulation.run_bind_eq_ok.mp h
  rcases run_create_eq_ok hcreate with rfl | ⟨v, hcreated⟩
  · -- And so is a role binding.
    obtain ⟨found, t', hget, h⟩ := Simulation.run_bind_eq_ok.mp h
    obtain ⟨_, _, _, happly, _⟩ := Simulation.run_call_eq_ok (run_ask_eq_ok hget)
    obtain ⟨hsame, hfound⟩ := Objects.apply_getRoleBinding.mp happly
    have hthere : (t'.cluster.objects.bindings.get? (binding ref owner).ref).isSome := by
      rw [hsame, hfound]
      rfl
    obtain rfl : _ = s' := congrArg Prod.snd h
    exact Simulation.run_binding_stays _ hthere
  · obtain ⟨_, _, _, happly, _⟩ := Simulation.run_call_eq_ok hcreated
    obtain rfl : _ = s' := congrArg Prod.snd h
    obtain ⟨_, _, hobjects⟩ := Objects.apply_createRoleBinding.mp happly
    refine Simulation.run_binding_stays _ ?_
    rw [hobjects, SortedMap.get?_insert_self]
    rfl

/-- The role and the role binding of a session are there. -/
def Prepared (ref : ObjectRef) (o : Objects) : Prop :=
  (o.roles.get? ⟨ref.ns, roleName ref.name⟩).isSome ∧
    (o.bindings.get? ⟨ref.ns, bindingName ref.name⟩).isSome

theorem run_prepared (env : Surroundings) {ε α : Type} (a : Action ε α)
    (h : Prepared ref s.cluster.objects) :
    Prepared ref (Simulation.run env a s).2.cluster.objects :=
  ⟨Simulation.run_role_stays a h.1, Simulation.run_binding_stays a h.2⟩

/-- However the action ends, it has minted no token unless the objects of the session are there. -/
def MintsPrepared {ε α : Type} (ref : ObjectRef) (a : Action ε α) : Prop :=
  ∀ env s,
    (Simulation.run env a s).2.cluster.minted = s.cluster.minted ∨
      Prepared ref (Simulation.run env a s).2.cluster.objects

section Minting

variable {ε ε' α β : Type}

/-- No token is minted by what asks for none. -/
theorem run_minted_of_follows {a : Action ε α} {ends : α → Prop}
    (h : a.Follows (.ofCalls (fun _ call => call.isMinting = false) gets) ends)
    (hgets : ∀ call v, gets call v) :
    (Simulation.run env a s).2.cluster.minted = s.cluster.minted := by
  refine (Simulation.run_follows env (I := fun t => t.minted = s.cluster.minted)
    (fun now t who call ht hcall => ⟨?_, fun v _ => hgets call v⟩) h rfl).1
  rcases ClusterState.step_effect env.supply now who call t with ⟨_, hsame⟩ | ⟨_, hminted⟩
  · rw [hsame, ht]
  · rw [hminted, hcall, ht]
    rfl

theorem mintsPrepared_of_follows {a : Action ε α}
    (h : a.Follows (.ofCalls (fun _ call => call.isMinting = false) fun _ _ => True)
      fun _ => True) :
    MintsPrepared ref a :=
  fun _ _ => .inl (run_minted_of_follows h fun _ _ => trivial)

/-- One after the other: what the first part put in place stays there during the second. -/
theorem mintsPrepared_bind {a : Action ε β} {f : β → Action ε α} (ha : MintsPrepared ref a)
    (hf : ∀ b, MintsPrepared ref (f b)) : MintsPrepared ref (a >>= f) := by
  intro env s
  rw [Simulation.run_bind]
  have hfirst := ha env s
  cases hrun : Simulation.run env a s with
  | mk x t =>
    rw [hrun] at hfirst
    cases x with
    | error e => exact hfirst
    | ok b =>
      rcases hfirst with hsame | hprepared
      · -- The first part minted nothing, so what is new is the second part's.
        have hsecond := hf b env t
        rwa [hsame] at hsecond
      · exact .inr (run_prepared _ _ hprepared)

theorem mintsPrepared_discard {a : Action ε α} (h : MintsPrepared ref a) :
    MintsPrepared ref (discard a) := by
  intro env s
  rw [Simulation.run_discard]
  exact h env s

theorem mintsPrepared_outcome {a : Action ε α} (h : MintsPrepared ref a) :
    MintsPrepared ref (a.outcome : Action ε' (Except ε α)) := by
  intro env s
  rw [Simulation.run_outcome]
  exact h env s

theorem mintsPrepared_pure (v : α) : MintsPrepared ref (pure v : Action ε α) :=
  fun _ _ => .inl rfl

end Minting

/-- Putting the objects in place mints nothing. -/
theorem run_prepare_minted :
    (Simulation.run env (i.prepare ref) s).2.cluster.minted = s.cluster.minted := by
  have hfollows : (i.prepare ref).Follows
      (.ofCalls (fun _ call => call.isMinting = false) fun _ _ => True) fun _ => True := by
    refine Simulation.follows_ofCalls_mono prepare_follows ?_
    rintro who call ⟨_, hcall⟩
    cases hcall <;> rfl
  exact run_minted_of_follows hfollows fun _ _ => trivial

/-- After that, when it ends well, they are there. -/
theorem run_prepare_eq_ok
    (h : Simulation.run env (i.prepare ref) s = (.ok owner, s')) :
    Prepared ref s'.cluster.objects := by
  unfold prepare at h
  obtain ⟨session, t₁, _, h⟩ := Simulation.run_bind_eq_ok.mp h
  obtain ⟨_, t₂, _, h⟩ := Simulation.run_bind_eq_ok.mp h
  obtain ⟨_, t₃, hrole, h⟩ := Simulation.run_bind_eq_ok.mp h
  obtain ⟨_, t₄, hbinding, h⟩ := Simulation.run_bind_eq_ok.mp h
  cases h
  have hthere := run_ensureRole_eq_ok hrole
  -- The role was there before the role binding was seen to, and it stays.
  refine ⟨?_, run_ensureBinding_eq_ok hbinding⟩
  obtain rfl : _ = s' := congrArg Prod.snd hbinding
  exact Simulation.run_role_stays _ hthere

/-- **Order of an issue.**  However an issue ends, no token is minted unless role and role binding
are there. -/
theorem issue_mintsPrepared : MintsPrepared ref (i.issue ref) := by
  intro env s
  rw [issue_eq, Simulation.run_bind]
  cases hprepare : Simulation.run env (i.prepare ref) s with
  | mk x t =>
    cases x with
    | error e =>
      -- Whatever fails before the token is minted leaves the count alone.
      left
      have hminted : (Simulation.run env (i.prepare ref) s).2.cluster.minted = s.cluster.minted :=
        run_prepare_minted
      rwa [hprepare] at hminted
    | ok owner => exact .inr (run_prepared _ _ (run_prepare_eq_ok hprepare))

theorem issue?_mintsPrepared {ε : Type} :
    MintsPrepared ref (i.issue? ref : Action ε (Option IssuedCredential)) := by
  unfold issue?
  refine mintsPrepared_bind (mintsPrepared_outcome issue_mintsPrepared) fun outcome => ?_
  cases outcome with
  | ok credential => exact mintsPrepared_pure _
  | error e => exact mintsPrepared_pure _

/-! ### Issues that end well -/

/-- What there is after an issue for a session with the token of number `k`. -/
structure Issued (supply : Supply) (ref : ObjectRef) (k : Nat) (t : ClusterState) : Prop where
  /-- The token stands for the identity of the session. -/
  holds : t.Holds supply k (Identity.user (accountOf ref))
  /-- The token is in the secret. -/
  stored : ∃ secret, t.objects.secrets.get? (tokenSecret ref) = some secret ∧
    secret.data.get? tokenKey = some (Text.utf8 (supply.token k))
  /-- The identity is on record. -/
  recorded : ∃ session, t.objects.sessions.get? ref = some session ∧
    session.metadata.annotations.get? Session.identityKey = some (identityName ref.name)

/-- The names that a session gets on record. -/
theorem union_record (annotations : SortedMap String String) (ref : ObjectRef) :
    annotations.union (record ref) =
      (annotations.insert Session.identityKey (identityName ref.name)).insert
        Session.credentialSecretKey (tokenSecretName ref.name) := SortedMap.union_ofList _ _

theorem get?_record : (record ref).get? Session.identityKey = some (identityName ref.name) := by
  unfold record SortedMap.ofList
  rw [SortedMap.get?_insertMany]
  rfl

theorem get?_tokenChange {token : String} :
    (tokenChange token owner).entries.get? tokenKey = some (Text.utf8 token) := by
  unfold tokenChange SortedMap.ofList
  rw [SortedMap.get?_insertMany]
  rfl

/-- A token that is settled is in its secret, and the session has the names on record. -/
theorem run_settle_eq_ok {minted : MintedToken} {issued : IssuedCredential}
    (hk : s.cluster.objects.Keyed)
    (h : Simulation.run env (i.settle ref owner minted) s = (.ok issued, s')) :
    issued = ⟨identityName ref.name, tokenSecret ref, minted.expiresAt⟩ ∧ minted.token ≠ "" ∧
      (∃ secret, s'.cluster.objects.secrets.get? (tokenSecret ref) = some secret ∧
        secret.data.get? tokenKey = some (Text.utf8 minted.token)) ∧
      s'.cluster.objects.tokens = s.cluster.objects.tokens ∧
      ∃ session version, s.cluster.objects.sessions.get? ref = some session ∧
        s'.cluster.objects.sessions = s.cluster.objects.sessions.insert ref
          (Objects.versioned (recorded ref session) version) := by
  unfold settle at h
  dsimp only at h
  split at h
  · cases h
  · next hne =>
    obtain ⟨_, t, hstore, h⟩ := Simulation.run_bind_eq_ok.mp h
    obtain ⟨_, u, hrecord, h⟩ := Simulation.run_bind_eq_ok.mp h
    cases h
    obtain ⟨secret, hsecret, hentries⟩ := CredentialStore.run_write_eq_ok hk hstore
    -- The record comes last, and writes the session alone.
    obtain ⟨_, hrecord⟩ := Simulation.run_discard_eq_ok.mp hrecord
    obtain ⟨_, _, _, happly, _⟩ := Simulation.run_call_eq_ok (run_ask_eq_ok hrecord)
    obtain ⟨session, hsession, rfl, hobjects⟩ := Objects.apply_patchSession.mp happly
    have hsessions : t.cluster.objects.sessions = s.cluster.objects.sessions :=
      store_agrees .sessions hstore nofun
    rw [hsessions] at hsession hobjects
    refine ⟨rfl, hne, ⟨secret, ?_, hentries _ _ get?_tokenChange⟩, ?_, session, _, hsession,
      congrArg Objects.sessions hobjects⟩
    · rw [hobjects, hsecret]
    · rw [hobjects]
      exact store_agrees .tokens hstore nofun

/-- A token that is delivered is in its secret, and the session has its identity on record. -/
theorem run_deliver_eq_ok {issued : IssuedCredential} (hfresh : Function.Injective env.supply.token)
    (hk : s.cluster.objects.Keyed)
    (h : Simulation.run env (i.deliver ref owner) s = (.ok issued, s')) :
    issued.identity = identityName ref.name ∧ issued.secret = tokenSecret ref ∧
      env.supply.token s.cluster.minted ≠ "" ∧
      Issued env.supply ref s.cluster.minted s'.cluster := by
  rw [deliver_eq] at h
  -- The token that is minted is the next one drawn.
  obtain ⟨minted, t, hmint, h⟩ := Simulation.run_bind_eq_ok.mp h
  obtain ⟨_, _, _, happly, hcount, _⟩ := Simulation.run_call_eq_ok (run_ask_eq_ok hmint)
  obtain ⟨_, rfl, hobjects⟩ := Objects.apply_createToken.mp happly
  have hholds : t.cluster.Holds env.supply s.cluster.minted (Identity.user (accountOf ref)) :=
    ⟨by rw [hcount]; exact Nat.lt_succ_self _, by
      rw [hobjects]
      exact SortedMap.get?_insert_self _ _ _⟩
  obtain ⟨rfl, hne, hstored, _, session, version, _, hsessions⟩ :=
    run_settle_eq_ok (Simulation.keyed_of_run_eq hk hmint) h
  obtain rfl : _ = s' := congrArg Prod.snd h
  refine ⟨rfl, rfl, hne, Simulation.run_holds hfresh _ hholds, hstored,
    Objects.versioned (recorded ref session) version, ?_, ?_⟩
  · rw [hsessions, SortedMap.get?_insert_self]
  · show (session.metadata.annotations.union (record ref)).get? _ = _
    rw [SortedMap.get?_union, get?_record]
    rfl

/-- **Issues that end well.**  The token minted is in the secret that is named, stands for the
identity of the session, and the session has that identity on record. -/
theorem run_issue_eq_ok {issued : IssuedCredential} (hfresh : Function.Injective env.supply.token)
    (hk : s.cluster.objects.Keyed) (h : Simulation.run env (i.issue ref) s = (.ok issued, s')) :
    issued.identity = identityName ref.name ∧ issued.secret = tokenSecret ref ∧
      env.supply.token s.cluster.minted ≠ "" ∧
      Issued env.supply ref s.cluster.minted s'.cluster := by
  rw [issue_eq] at h
  obtain ⟨owner, t, hprepare, h⟩ := Simulation.run_bind_eq_ok.mp h
  obtain rfl : _ = t := congrArg Prod.snd hprepare
  have hdeliver := run_deliver_eq_ok hfresh (Simulation.run_keyed _ hk) h
  rwa [run_prepare_minted] at hdeliver

end Issuer

end CredentialBroker
