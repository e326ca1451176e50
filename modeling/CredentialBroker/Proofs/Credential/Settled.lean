import CredentialBroker.Proofs.Credential.Issue

namespace CredentialBroker

/-!
# What issuing leaves behind

An issue makes the objects of a session where they are missing and repairs them where they differ.

* `Issuer.Settles` — table by table, what an issue makes of the objects of a cluster;
* `Issuer.run_issue_of_ready` — without failures waiting, the platform's issues for a session that
  is there end well, and leave that and nothing else;
* `Issuer.settledRole_of_settled`, `Issuer.settledBinding_of_settled` — what is settled stays as it
  is.
-/

/-! ### Addresses -/

/-- The role of a session. -/
def roleOf (ref : ObjectRef) : ObjectRef := ⟨ref.ns, roleName ref.name⟩

/-- The role binding of a session. -/
def bindingOf (ref : ObjectRef) : ObjectRef := ⟨ref.ns, bindingName ref.name⟩

theorem roleOf_injective {a b : ObjectRef} (h : roleOf a = roleOf b) : a = b :=
  ObjectRef.named_injective roleName_injective h

theorem bindingOf_injective {a b : ObjectRef} (h : bindingOf a = bindingOf b) : a = b :=
  ObjectRef.named_injective bindingName_injective h

namespace Issuer

theorem tokenSecret_injective {a b : ObjectRef} (h : tokenSecret a = tokenSecret b) : a = b :=
  ObjectRef.named_injective tokenSecretName_injective h

variable {i : Issuer} {ref : ObjectRef} {owner : OwnerReference} {version : String}

/-! ### Objects after an issue -/

/-- The account after an issue, from the one that was there, if any. -/
def settledAccount (ref : ObjectRef) (owner : OwnerReference) :
    Option ServiceAccount → ServiceAccount
  | none => identity ref owner
  | some found => found

/-- The role after an issue: with other rules it is replaced, and keeps its owners if it has any. -/
def settledRole (i : Issuer) (ref : ObjectRef) (owner : OwnerReference) (version : String) :
    Option Role → Role
  | none => { i.role ref owner with resourceVersion := some version }
  | some found =>
    if found.rules = (i.role ref owner).rules then found
    else { i.role ref owner with
      owners := if found.owners.isEmpty then [owner] else found.owners
      resourceVersion := some version }

/-- The role binding after an issue: with other subjects it is replaced, and goes on to give the
role that it gave. -/
def settledBinding (ref : ObjectRef) (owner : OwnerReference) (version : String) :
    Option RoleBinding → RoleBinding
  | none => { binding ref owner with resourceVersion := some version }
  | some found =>
    if found.subjects = (binding ref owner).subjects then found
    else { binding ref owner with
      roleName := found.roleName
      resourceVersion := some version }

@[simp] theorem rules_settledRole (found : Option Role) :
    (i.settledRole ref owner version found).rules = requiredRules i.resource := by
  cases found with
  | none => rfl
  | some found =>
    rw [settledRole]
    split
    · assumption
    · rfl

@[simp] theorem subjects_settledBinding (found : Option RoleBinding) :
    (settledBinding ref owner version found).subjects =
      [⟨"ServiceAccount", identityName ref.name, some ref.ns⟩] := by
  cases found with
  | none => rfl
  | some found =>
    rw [settledBinding]
    split
    · assumption
    · rfl

/-- **Roles of bindings.**  A role binding that is there goes on to give the role that it gave. -/
theorem roleName_settledBinding (found : Option RoleBinding) :
    (settledBinding ref owner version found).roleName =
      (found.map (·.roleName)).getD (roleName ref.name) := by
  cases found with
  | none => rfl
  | some found =>
    rw [settledBinding]
    split <;> rfl

/-- A role that is settled stays as it is. -/
theorem settledRole_of_settled {role : Role} (h : role.rules = requiredRules i.resource) :
    i.settledRole ref owner version (some role) = role := if_pos h

/-- A role that has owners keeps them. -/
theorem owners_settledRole {role : Role} (h : role.owners ≠ []) :
    (i.settledRole ref owner version (some role)).owners = role.owners := by
  rw [settledRole]
  split
  · rfl
  · exact if_neg (by simpa using h)

/-- A role binding that is settled stays as it is. -/
theorem settledBinding_of_settled {b : RoleBinding}
    (h : b.subjects = [⟨"ServiceAccount", identityName ref.name, some ref.ns⟩]) :
    settledBinding ref owner version (some b) = b := if_pos h

/-- What an issue for a session makes of the objects of a cluster, table by table. -/
structure Settles (i : Issuer) (ref : ObjectRef) (session : Session) (token : String)
    (o o' : Objects) : Prop where
  /-- The account is there. -/
  accounts : o'.accounts = o.accounts.insert (accountOf ref)
    (settledAccount ref session.ownerReference (o.accounts.get? (accountOf ref)))
  /-- The role has the required rules. -/
  roles : ∃ version, o'.roles = o.roles.insert (roleOf ref)
    (i.settledRole ref session.ownerReference version (o.roles.get? (roleOf ref)))
  /-- The role binding has the account as its subject. -/
  bindings : ∃ version, o'.bindings = o.bindings.insert (bindingOf ref)
    (settledBinding ref session.ownerReference version (o.bindings.get? (bindingOf ref)))
  /-- The token stands for the account. -/
  tokens : o'.tokens = o.tokens.insert token (Identity.user (accountOf ref))
  /-- The token is in the secret. -/
  secrets : ∃ version, o'.secrets = o.secrets.insert (tokenSecret ref)
    ((tokenChange token session.ownerReference).written (tokenSecret ref) version
      (o.secrets.get? (tokenSecret ref)))
  /-- The session has the names on record. -/
  sessions : ∃ version, o'.sessions =
    o.sessions.insert ref (Objects.versioned (recorded ref session) version)
  /-- Jobs stay. -/
  jobs : o'.jobs = o.jobs
  /-- Pods stay. -/
  pods : o'.pods = o.pods
  /-- Rules given by name stay. -/
  grants : o'.grants = o.grants

/-! ### Runs without failures -/

section Ready

variable (env : Surroundings) {s : Simulation} {c : Call}

/-- An object that nothing is in the way of is made. -/
theorem run_create_of_apply (hclient : i.client = .platform) (hfaults : s.cluster.faults = [])
    {v : c.Reply} {o : Objects}
    (happly : s.cluster.objects.apply (s.cluster.draw env.supply s.now) .platform platformUser
      c = .ok (o, v)) :
    ∃ t, Simulation.run env (i.create c) s = (.ok false, t) ∧ t.cluster.objects = o ∧
      t.cluster.faults = [] := by
  obtain ⟨t, hrun, hobjects, ht, _⟩ := Simulation.run_platform_of_apply env hfaults happly
  refine ⟨t, ?_, hobjects, ht⟩
  unfold create
  rw [hclient]
  refine Simulation.run_bind_eq_ok.mpr ⟨.ok v, t, ?_, rfl⟩
  rw [Simulation.run_outcome, hrun]

/-- An object that is there is found to be there. -/
theorem run_create_of_present (hclient : i.client = .platform) (hfaults : s.cluster.faults = [])
    {kind name : String}
    (happly : s.cluster.objects.apply (s.cluster.draw env.supply s.now) .platform platformUser
      c = .error (.alreadyExists kind name)) :
    ∃ t, Simulation.run env (i.create c) s = (.ok true, t) ∧
      t.cluster.objects = s.cluster.objects ∧ t.cluster.faults = [] := by
  obtain ⟨t, hrun, hobjects, ht, _⟩ := Simulation.run_platform_of_apply_error env hfaults happly
  refine ⟨t, ?_, hobjects, ht⟩
  unfold create
  rw [hclient]
  refine Simulation.run_bind_eq_ok.mpr ⟨.error (.alreadyExists kind name), t, ?_, rfl⟩
  rw [Simulation.run_outcome, hrun]

theorem run_ask_of_apply (hclient : i.client = .platform) (hfaults : s.cluster.faults = [])
    {v : c.Reply} {o : Objects}
    (happly : s.cluster.objects.apply (s.cluster.draw env.supply s.now) .platform platformUser
      c = .ok (o, v)) :
    ∃ t, Simulation.run env (i.ask c) s = (.ok v, t) ∧ t.cluster.objects = o ∧
      t.cluster.faults = [] := by
  obtain ⟨t, hrun, hobjects, ht, _⟩ := Simulation.run_platform_of_apply env hfaults happly
  refine ⟨t, ?_, hobjects, ht⟩
  unfold ask
  rw [hclient]
  exact Simulation.run_mapError_eq_ok.mpr hrun

/-- An object that is there is read, and replaced when it differs from what is wanted. -/
theorem run_repair_of_present (make get : Call) (put : get.Reply → Call)
    (differs : get.Reply → Prop) [DecidablePred differs] {kind name : String} {found : get.Reply}
    {o : Draw → Objects} {v : Draw → (put found).Reply} (hclient : i.client = .platform)
    (hfaults : s.cluster.faults = [])
    (hmake : ∀ d, s.cluster.objects.apply d .platform platformUser make =
      .error (.alreadyExists kind name))
    (hget : ∀ d, s.cluster.objects.apply d .platform platformUser get =
      .ok (s.cluster.objects, found))
    (hput : ∀ d, s.cluster.objects.apply d .platform platformUser (put found) = .ok (o d, v d)) :
    ∃ t d, Simulation.run env (do
        if ← i.create make then
          let found ← i.ask get
          if differs found then discard (i.ask (put found))) s = (.ok (), t) ∧
      t.cluster.objects = (if differs found then o d else s.cluster.objects) ∧
      t.cluster.faults = [] := by
  obtain ⟨t₁, hmade, hobjects₁, ht₁⟩ := run_create_of_present env (i := i) hclient hfaults
    (hmake _)
  obtain ⟨t₂, hread, hobjects₂, ht₂⟩ := run_ask_of_apply env (i := i) hclient ht₁
    (by rw [hobjects₁]; exact hget _)
  have hrest : ∀ {t}, Simulation.run env
      (if differs found then discard (i.ask (put found)) else pure ()) t₂ = (.ok (), t) →
      Simulation.run env (do
        if ← i.create make then
          let found ← i.ask get
          if differs found then discard (i.ask (put found))) s = (.ok (), t) := fun h =>
    Simulation.run_bind_eq_ok.mpr ⟨true, t₁, hmade, Simulation.run_bind_eq_ok.mpr
      ⟨found, t₂, hread, h⟩⟩
  by_cases hdiffers : differs found
  · obtain ⟨t₃, hwrite, hobjects₃, ht₃⟩ := run_ask_of_apply env (i := i) hclient ht₂
      (by rw [hobjects₂]; exact hput _)
    refine ⟨t₃, t₂.cluster.draw env.supply t₂.now, hrest ?_, ?_, ht₃⟩
    · rw [if_pos hdiffers]
      exact Simulation.run_discard_eq_ok.mpr ⟨_, hwrite⟩
    · rw [if_pos hdiffers, hobjects₃]
  · refine ⟨t₂, t₂.cluster.draw env.supply t₂.now, hrest ?_, ?_, ht₂⟩
    · rw [if_neg hdiffers]
      rfl
    · rw [if_neg hdiffers, hobjects₂]

variable (ref owner)

theorem run_ensureIdentity_of_ready (hclient : i.client = .platform)
    (hfaults : s.cluster.faults = []) :
    ∃ t, Simulation.run env (i.ensureIdentity ref owner) s = (.ok (), t) ∧
      t.cluster.objects = { s.cluster.objects with
        accounts := s.cluster.objects.accounts.insert (accountOf ref)
          (settledAccount ref owner (s.cluster.objects.accounts.get? (accountOf ref))) } ∧
      t.cluster.faults = [] := by
  unfold ensureIdentity
  cases hfound : s.cluster.objects.accounts.get? (accountOf ref) with
  | none =>
    obtain ⟨t, hrun, hobjects, ht⟩ := run_create_of_apply env (i := i)
      (c := .createServiceAccount (identity ref owner)) hclient hfaults
      (Objects.apply_createServiceAccount.mpr ⟨hfound, rfl, rfl⟩)
    exact ⟨t, Simulation.run_discard_eq_ok.mpr ⟨_, hrun⟩, hobjects, ht⟩
  | some found =>
    have hthere : (s.cluster.objects.accounts.get? (identity ref owner).ref).isSome :=
      Option.isSome_of_eq_some hfound
    obtain ⟨t, hrun, hobjects, ht⟩ := run_create_of_present env (i := i) hclient hfaults
      (Objects.apply_createServiceAccount_present hthere)
    refine ⟨t, Simulation.run_discard_eq_ok.mpr ⟨_, hrun⟩, ?_, ht⟩
    rw [hobjects, settledAccount, SortedMap.insert_eq_self hfound]

theorem run_ensureRole_of_ready (hclient : i.client = .platform)
    (hfaults : s.cluster.faults = []) :
    ∃ t version, Simulation.run env (i.ensureRole ref owner) s = (.ok (), t) ∧
      t.cluster.objects = { s.cluster.objects with
        roles := s.cluster.objects.roles.insert (roleOf ref)
          (i.settledRole ref owner version (s.cluster.objects.roles.get? (roleOf ref))) } ∧
      t.cluster.faults = [] := by
  cases hfound : s.cluster.objects.roles.get? (roleOf ref) with
  | none =>
    obtain ⟨t, hrun, hobjects, ht⟩ := run_create_of_apply env (i := i)
      (c := .createRole (i.role ref owner)) hclient hfaults
      (Objects.apply_createRole.mpr ⟨hfound, rfl, rfl⟩)
    exact ⟨t, _, Simulation.run_bind_eq_ok.mpr ⟨false, t, hrun, rfl⟩, hobjects, ht⟩
  | some found =>
    obtain ⟨t, d, hrun, hobjects, ht⟩ := run_repair_of_present env
      (.createRole (i.role ref owner)) (.getRole (roleOf ref))
      (fun found => .updateRole { i.role ref owner with
        resourceVersion := found.resourceVersion
        owners := if found.owners.isEmpty then [owner] else found.owners })
      (fun found => found.rules ≠ (i.role ref owner).rules) hclient hfaults
      (fun _ => Objects.apply_createRole_present (Option.isSome_of_eq_some hfound))
      (fun _ => Objects.apply_getRole.mpr ⟨rfl, hfound⟩)
      (fun _ => Objects.apply_updateRole.mpr ⟨⟨found, hfound, .inr rfl⟩, rfl, rfl⟩)
    refine ⟨t, d.version, hrun, ?_, ht⟩
    by_cases hrules : found.rules = (i.role ref owner).rules
    · rw [hobjects, if_neg (not_not_intro hrules), settledRole, if_pos hrules,
        SortedMap.insert_eq_self hfound]
    · rw [hobjects, if_pos hrules, settledRole, if_neg hrules]
      rfl

theorem run_ensureBinding_of_ready (hclient : i.client = .platform)
    (hfaults : s.cluster.faults = []) :
    ∃ t version, Simulation.run env (i.ensureBinding ref owner) s = (.ok (), t) ∧
      t.cluster.objects = { s.cluster.objects with
        bindings := s.cluster.objects.bindings.insert (bindingOf ref)
          (settledBinding ref owner version (s.cluster.objects.bindings.get? (bindingOf ref))) } ∧
      t.cluster.faults = [] := by
  cases hfound : s.cluster.objects.bindings.get? (bindingOf ref) with
  | none =>
    obtain ⟨t, hrun, hobjects, ht⟩ := run_create_of_apply env (i := i)
      (c := .createRoleBinding (binding ref owner)) hclient hfaults
      (Objects.apply_createRoleBinding.mpr ⟨hfound, rfl, rfl⟩)
    exact ⟨t, _, Simulation.run_bind_eq_ok.mpr ⟨false, t, hrun, rfl⟩, hobjects, ht⟩
  | some found =>
    obtain ⟨t, d, hrun, hobjects, ht⟩ := run_repair_of_present env
      (.createRoleBinding (binding ref owner)) (.getRoleBinding (bindingOf ref))
      (fun found => .updateRoleBinding { binding ref owner with
        resourceVersion := found.resourceVersion
        roleName := found.roleName })
      (fun found => found.subjects ≠ (binding ref owner).subjects) hclient hfaults
      (fun _ => Objects.apply_createRoleBinding_present (Option.isSome_of_eq_some hfound))
      (fun _ => Objects.apply_getRoleBinding.mpr ⟨rfl, hfound⟩)
      (fun _ => Objects.apply_updateRoleBinding.mpr ⟨⟨found, hfound, .inr rfl⟩, rfl, rfl⟩)
    refine ⟨t, d.version, hrun, ?_, ht⟩
    by_cases hsubjects : found.subjects = (binding ref owner).subjects
    · rw [hobjects, if_neg (not_not_intro hsubjects), settledBinding, if_pos hsubjects,
        SortedMap.insert_eq_self hfound]
    · rw [hobjects, if_pos hsubjects, settledBinding, if_neg hsubjects]
      rfl

variable {session : Session}

/-- The objects of a session that is there are put in place. -/
theorem run_prepare_of_ready (hclient : i.client = .platform) (hfaults : s.cluster.faults = [])
    (hsession : s.cluster.objects.sessions.get? ref = some session) :
    ∃ t v w, Simulation.run env (i.prepare ref) s = (.ok session.ownerReference, t) ∧
      t.cluster.objects = { s.cluster.objects with
        accounts := s.cluster.objects.accounts.insert (accountOf ref)
          (settledAccount ref session.ownerReference
            (s.cluster.objects.accounts.get? (accountOf ref)))
        roles := s.cluster.objects.roles.insert (roleOf ref)
          (i.settledRole ref session.ownerReference v (s.cluster.objects.roles.get? (roleOf ref)))
        bindings := s.cluster.objects.bindings.insert (bindingOf ref)
          (settledBinding ref session.ownerReference w
            (s.cluster.objects.bindings.get? (bindingOf ref))) } ∧
      t.cluster.faults = [] := by
  obtain ⟨t₁, hread, hobjects₁, ht₁⟩ := run_ask_of_apply env (i := i)
    (c := .getSession ref) hclient hfaults (Objects.apply_getSession.mpr ⟨rfl, hsession⟩)
  obtain ⟨t₂, haccount, hobjects₂, ht₂⟩ :=
    run_ensureIdentity_of_ready ref session.ownerReference env hclient ht₁
  obtain ⟨t₃, v, hrole, hobjects₃, ht₃⟩ :=
    run_ensureRole_of_ready ref session.ownerReference env hclient ht₂
  obtain ⟨t, w, hbinding, hobjects, ht⟩ :=
    run_ensureBinding_of_ready ref session.ownerReference env hclient ht₃
  refine ⟨t, v, w, ?_, ?_, ht⟩
  · exact Simulation.run_bind_eq_ok.mpr ⟨session, t₁, hread, Simulation.run_bind_eq_ok.mpr
      ⟨(), t₂, haccount, Simulation.run_bind_eq_ok.mpr ⟨(), t₃, hrole,
        Simulation.run_bind_eq_ok.mpr ⟨(), t, hbinding, rfl⟩⟩⟩⟩
  · rw [hobjects, hobjects₃, hobjects₂, hobjects₁]

/-- A token is minted for an account that is there, put into the secret and recorded. -/
theorem run_deliver_of_ready (hclient : i.client = .platform) (hfaults : s.cluster.faults = [])
    (hk : s.cluster.objects.Keyed) (htoken : env.supply.token s.cluster.minted ≠ "")
    (haccount : (s.cluster.objects.accounts.get? (accountOf ref)).isSome)
    (hsession : s.cluster.objects.sessions.get? ref = some session) :
    ∃ t v w, Simulation.run env (i.deliver ref owner) s =
        (.ok ⟨identityName ref.name, tokenSecret ref,
          s.now.after (Objects.lifetimeFor i.lifetime)⟩, t) ∧
      t.cluster.objects = { s.cluster.objects with
        tokens := s.cluster.objects.tokens.insert (env.supply.token s.cluster.minted)
          (Identity.user (accountOf ref))
        secrets := s.cluster.objects.secrets.insert (tokenSecret ref)
          ((tokenChange (env.supply.token s.cluster.minted) owner).written (tokenSecret ref) v
            (s.cluster.objects.secrets.get? (tokenSecret ref)))
        sessions := s.cluster.objects.sessions.insert ref
          (Objects.versioned (recorded ref session) w) } ∧
      t.cluster.faults = [] := by
  obtain ⟨t₁, hmint, hobjects₁, ht₁⟩ := run_ask_of_apply env (i := i)
    (c := .createToken (accountOf ref) i.lifetime) hclient hfaults
    (Objects.apply_createToken.mpr ⟨haccount, rfl, rfl⟩)
  have hk₁ : t₁.cluster.objects.Keyed := Simulation.keyed_of_run_eq hk hmint
  obtain ⟨t₂, v, hwrite, hobjects₂, ht₂⟩ := CredentialStore.run_write_of_ready
    { client := i.client } (tokenSecret ref)
    (tokenChange (env.supply.token s.cluster.minted) owner) env hclient ht₁ hk₁
  have hsession₂ : t₂.cluster.objects.sessions.get? ref = some session := by
    rw [hobjects₂, hobjects₁, hsession]
  obtain ⟨t, hpatch, hobjects, ht⟩ := run_ask_of_apply env (i := i)
    (c := .patchSessionAnnotations ref (record ref)) hclient ht₂
    (Objects.apply_patchSession.mpr ⟨session, hsession₂, rfl, rfl⟩)
  refine ⟨t, v, toString (t₂.cluster.versions + 1), ?_, ?_, ht⟩
  · unfold deliver
    refine Simulation.run_bind_eq_ok.mpr ⟨_, t₁, hmint, ?_⟩
    -- The token drawn is not empty.
    refine (congrArg (Simulation.run env · t₁) (if_neg htoken)).trans ?_
    refine Simulation.run_bind_eq_ok.mpr ⟨(), t₂, hwrite, ?_⟩
    exact Simulation.run_bind_eq_ok.mpr
      ⟨(), t, Simulation.run_discard_eq_ok.mpr ⟨_, hpatch⟩, rfl⟩
  · rw [hobjects, hobjects₂, hobjects₁]
    rfl

/-- **Issues that cannot fail.**  Without failures waiting, the platform's issues for a session that
is there end well, and make of the objects what `Settles` says. -/
theorem run_issue_of_ready (hclient : i.client = .platform) (hfaults : s.cluster.faults = [])
    (hk : s.cluster.objects.Keyed) (htoken : env.supply.token s.cluster.minted ≠ "")
    (hsession : s.cluster.objects.sessions.get? ref = some session) :
    ∃ t, Simulation.run env (i.issue ref) s =
        (.ok ⟨identityName ref.name, tokenSecret ref,
          s.now.after (Objects.lifetimeFor i.lifetime)⟩, t) ∧
      i.Settles ref session (env.supply.token s.cluster.minted) s.cluster.objects
        t.cluster.objects ∧
      t.cluster.faults = [] := by
  obtain ⟨t₁, v, w, hprepare, hobjects₁, ht₁⟩ :=
    run_prepare_of_ready ref env hclient hfaults hsession
  -- Putting the objects in place mints no token and takes no time.
  have hnow : t₁.now = s.now := Simulation.now_of_run_eq hprepare
  have hminted : t₁.cluster.minted = s.cluster.minted := by
    have h : (Simulation.run env (i.prepare ref) s).2.cluster.minted = s.cluster.minted :=
      run_prepare_minted
    rwa [hprepare] at h
  have hk₁ : t₁.cluster.objects.Keyed := Simulation.keyed_of_run_eq hk hprepare
  have haccount : (t₁.cluster.objects.accounts.get? (accountOf ref)).isSome := by
    rw [hobjects₁]
    exact Option.isSome_of_eq_some (SortedMap.get?_insert_self _ _ _)
  have hsession₁ : t₁.cluster.objects.sessions.get? ref = some session := by
    rw [hobjects₁, hsession]
  obtain ⟨t, x, y, hdeliver, hobjects, ht⟩ := run_deliver_of_ready ref session.ownerReference env
    hclient ht₁ hk₁ (hminted ▸ htoken) haccount hsession₁
  refine ⟨t, ?_, ?_, ht⟩
  · rw [issue_eq, ← hnow]
    exact Simulation.run_bind_eq_ok.mpr ⟨session.ownerReference, t₁, hprepare, hdeliver⟩
  · rw [hobjects, hobjects₁, hminted]
    exact ⟨rfl, ⟨v, rfl⟩, ⟨w, rfl⟩, rfl, ⟨x, rfl⟩, ⟨y, rfl⟩, rfl, rfl, rfl⟩

/-- An issue for a session that is not there fails and changes no object. -/
theorem run_issue_of_absent (hclient : i.client = .platform) (hfaults : s.cluster.faults = [])
    (habsent : s.cluster.objects.sessions.get? ref = none) :
    ∃ e t, Simulation.run env (i.issue ref) s = (.error e, t) ∧
      t.cluster.objects = s.cluster.objects ∧ t.cluster.faults = [] := by
  obtain ⟨t, hread, hobjects, ht, _⟩ := Simulation.run_platform_of_apply_error env
    (c := .getSession ref) hfaults (Objects.apply_getSession_absent habsent)
  refine ⟨(ClusterError.notFound Objects.sessionKind ref.text).toCredential, t, ?_, hobjects, ht⟩
  unfold issue ask
  rw [hclient, Simulation.run_bind, Simulation.run_mapError, hread]
  rfl

end Ready

end Issuer

end CredentialBroker
