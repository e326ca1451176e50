import CredentialBroker.Proofs.Credential.Failing

namespace CredentialBroker

/-!
# What issues leave behind

An issue may meet failures at any of its calls.  However it ends, it has touched nothing outside of
the session it is for; and when it ends well the token is in place, whatever failures it met.

* `Issuer.Delivered`, `Issuer.run_issue_delivered` — the sessions, the secret and the tokens after
  an issue that ends well;
* `Issuer.run_issue_unrelated` — jobs and pods stay, however an issue ends;
* `Issuer.run_issue_entitles` — and so do full rights that rest on neither the role nor the role
  binding of the session.
-/

/-! ### Rights apart from a session -/

namespace Objects

variable {ref : ObjectRef} {o : Objects} {user : String} {check : AccessCheck}

/-- The objects without the role and the role binding of a session. -/
def apart (ref : ObjectRef) (o : Objects) : Objects :=
  { o with roles := o.roles.erase (roleOf ref), bindings := o.bindings.erase (bindingOf ref) }

/-- What gives rights is the same but for the role and the role binding of a session. -/
structure SameApart (ref : ObjectRef) (o o' : Objects) : Prop where
  /-- The rules given by name are. -/
  grants : o'.grants = o.grants
  /-- All other roles are. -/
  roles : o'.roles.erase (roleOf ref) = o.roles.erase (roleOf ref)
  /-- All other role bindings are. -/
  bindings : o'.bindings.erase (bindingOf ref) = o.bindings.erase (bindingOf ref)

theorem SameApart.permits {o' : Objects} (h : o.SameApart ref o') (user : String)
    (check : AccessCheck) :
    (o'.apart ref).permits user check = (o.apart ref).permits user check := by
  unfold Objects.permits Objects.rulesFor Objects.boundRules Objects.apart
  dsimp only
  rw [h.grants, h.roles, h.bindings]

/-- What is permitted without a role and a role binding is permitted with them. -/
theorem permits_of_apart (h : (o.apart ref).permits user check = true) :
    o.permits user check = true := by
  obtain ⟨rule, hrule, hallows⟩ := List.any_eq_true.mp h
  refine List.any_eq_true.mpr ⟨rule, ?_, hallows⟩
  rcases List.mem_append.mp hrule with hgranted | hbound
  · exact List.mem_append_left _ hgranted
  · refine List.mem_append_right _ ?_
    cases hsubject : Identity.accountOf? user with
    | none =>
      rw [hsubject] at hbound
      cases hbound
    | some account =>
      rw [hsubject] at hbound
      -- The role binding and the role that give the rule are among the others.
      obtain ⟨b, hb, hgives⟩ := List.mem_flatMap.mp hbound
      obtain ⟨hvalue, hbinds⟩ := List.mem_filter.mp hb
      obtain ⟨key, hkey⟩ := SortedMap.mem_values.mp hvalue
      refine List.mem_flatMap.mpr
        ⟨b, List.mem_filter.mpr ⟨SortedMap.mem_values.mpr ⟨key, ?_⟩, hbinds⟩, ?_⟩
      · exact SortedMap.of_get?_erase hkey
      · cases hrole : (o.apart ref).roles.get? ⟨check.ns, b.roleName⟩ with
        | none =>
          rw [hrole] at hgives
          cases hgives
        | some role =>
          rw [hrole] at hgives
          rw [SortedMap.of_get?_erase hrole]
          exact hgives

end Objects

/-- The state without the role and the role binding of a session. -/
def ClusterState.apart (ref : ObjectRef) (s : ClusterState) : ClusterState :=
  { s with objects := s.objects.apart ref }

/-- A bearer may make a call that is checked when its user is permitted what the check asks for. -/
theorem ClusterState.allows_bearer_iff {s : ClusterState} {token : String} {call : Call}
    {check : AccessCheck} (h : call.access? s.resource = some check) :
    s.Allows (.bearer token) call ↔
      ∃ user, s.objects.tokens.get? token = some user ∧ s.objects.permits user check = true := by
  refine exists_congr fun user => and_congr_right fun _ => ?_
  unfold refusal?
  rw [h]
  dsimp only
  split
  · next hpermits => simp [hpermits]
  · next hpermits => simp [hpermits]

namespace Issuer

variable {i : Issuer} {env : Surroundings} {s t : Simulation} {ref : ObjectRef}
  {owner : OwnerReference}

/-! ### Issues that end well -/

/-- What an issue that ends well has done, whatever failures it met. -/
structure Delivered (supply : Supply) (ref : ObjectRef) (s t : ClusterState)
    (issued : IssuedCredential) : Prop where
  /-- The credential names the secret of the session. -/
  secret : issued.secret = tokenSecret ref
  /-- The token that was minted is in it. -/
  stored : ∃ secret, t.objects.secrets.get? (tokenSecret ref) = some secret ∧
    secret.data.get? tokenKey = some (Text.utf8 (supply.token s.minted))
  /-- The token stands for the identity of the session. -/
  tokens : t.objects.tokens =
    s.objects.tokens.insert (supply.token s.minted) (Identity.user (accountOf ref))
  /-- The session has the names on record, and no other session has changed. -/
  sessions : ∃ session version, s.objects.sessions.get? ref = some session ∧ t.objects.sessions =
    s.objects.sessions.insert ref (Objects.versioned (recorded ref session) version)

/-- **Issues that end well.**  Whatever failures were waiting, the token that was minted is in the
secret of the session, and the names are on record. -/
theorem run_issue_delivered {issued : IssuedCredential} (hk : s.cluster.objects.Keyed)
    (h : Simulation.run env (i.issue ref) s = (.ok issued, t)) :
    Delivered env.supply ref s.cluster t.cluster issued := by
  rw [issue_eq] at h
  obtain ⟨owner, u, hprepare, h⟩ := Simulation.run_bind_eq_ok.mp h
  rw [deliver_eq] at h
  obtain ⟨minted, v, hmint, h⟩ := Simulation.run_bind_eq_ok.mp h
  obtain ⟨_, _, _, happly, _⟩ := Simulation.run_call_eq_ok (run_ask_eq_ok hmint)
  obtain ⟨_, hminted, hobjects⟩ := Objects.apply_createToken.mp happly
  -- The token is the next one drawn, since nothing was minted before.
  have hcount : u.cluster.minted = s.cluster.minted := by
    obtain rfl : _ = u := congrArg Prod.snd hprepare
    exact run_prepare_minted
  have hdrawn : minted.token = env.supply.token s.cluster.minted := by
    rw [hminted, ← hcount]
    rfl
  have hsessions : v.cluster.objects.sessions = s.cluster.objects.sessions := by
    rw [hobjects]
    exact prepare_agrees .sessions hprepare (by decide)
  obtain ⟨rfl, _, hstored, htokens, hrecorded⟩ := run_settle_eq_ok
    (Simulation.keyed_of_run_eq (Simulation.keyed_of_run_eq hk hprepare) hmint) h
  refine ⟨rfl, hdrawn ▸ hstored, ?_, hsessions ▸ hrecorded⟩
  rw [htokens, hobjects, prepare_agrees .tokens hprepare (by decide), ← hdrawn, hminted]

/-! ### What every issue leaves alone -/

/-- Jobs and pods stay, however an issue ends. -/
theorem run_issue_unrelated (i : Issuer) (env : Surroundings) (s : Simulation) (ref : ObjectRef) :
    (Simulation.run env (i.issue ref) s).2.cluster.objects.jobs = s.cluster.objects.jobs ∧
      (Simulation.run env (i.issue ref) s).2.cluster.objects.pods = s.cluster.objects.pods := by
  have hother : ∀ table, table = Table.jobs ∨ table = Table.pods →
      s.cluster.objects.Agrees (Simulation.run env (i.issue ref) s).2.cluster.objects table := by
    intro table htable
    refine Simulation.run_agrees env s issue_follows ?_
    rintro who call ⟨_, hcall⟩ heq
    cases hcall with
    | prepare hcall => cases hcall <;> cases heq <;> simp at htable
    | token | record =>
      cases heq
      simp at htable
    | store _ _ hcall => cases hcall <;> cases heq <;> simp at htable
  exact ⟨hother .jobs (.inl rfl), hother .pods (.inr rfl)⟩

/-- However an issue ends, the user behind another token than the next one stays. -/
theorem run_issue_tokens (i : Issuer) (ref : ObjectRef) {token : String}
    (hk : s.cluster.objects.Keyed) (hother : token ≠ env.supply.token s.cluster.minted) :
    (Simulation.run env (i.issue ref) s).2.cluster.objects.tokens.get? token =
      s.cluster.objects.tokens.get? token := by
  cases hrun : Simulation.run env (i.issue ref) s with
  | mk x t =>
    cases x with
    | ok issued =>
      show t.cluster.objects.tokens.get? token = _
      rw [(run_issue_delivered hk hrun).tokens, SortedMap.get?_insert, if_neg hother]
    | error e => exact (run_issue_error hrun).get?_tokens hother

/-- The roles and role bindings that an issue writes are those of its session. -/
theorem Asks.apart {gets : (call : Call) → call.Reply → Prop} {call : Call}
    (h : Asks i gets ref call) :
    (∀ role, call = .createRole role ∨ call = .updateRole role → role.ref = roleOf ref) ∧
      ∀ b, call = .createRoleBinding b ∨ call = .updateRoleBinding b → b.ref = bindingOf ref := by
  cases h with
  | prepare h => cases h <;> simp [role, binding, roleOf, bindingOf]
  | token | record => simp
  | store _ _ h => cases h <;> simp

/-- However an issue ends, it has changed nothing that gives rights but the role and the role
binding of the session. -/
theorem run_issue_sameApart (i : Issuer) (env : Surroundings) (s : Simulation) (ref : ObjectRef) :
    s.cluster.objects.SameApart ref (Simulation.run env (i.issue ref) s).2.cluster.objects := by
  have hcalls : (i.issue ref).Follows (i.contract (Asks i (fun _ _ => True) ref) fun _ _ => True)
      fun _ => True := issue_follows
  refine (Simulation.run_follows env (I := fun t => s.cluster.objects.SameApart ref t.objects)
    (fun now t who call ht hcall => ⟨?_, fun _ _ => trivial⟩) hcalls ⟨rfl, rfl, rfl⟩).1
  -- A role or a role binding that is written is one of the session, and those are left out.
  obtain ⟨hrole, hbinding⟩ := hcall.2.apart
  refine ClusterState.step_keeps (I := s.cluster.objects.SameApart ref) ht fun o' heffect =>
    ⟨heffect.grants.trans ht.grants, ?_, ?_⟩
  · rw [← ht.roles]
    rcases heffect.roles with hsame | ⟨role, hwritten, hinsert⟩
    · rw [hsame]
    · rw [hinsert, hrole role hwritten, SortedMap.erase_insert_self]
  · rw [← ht.bindings]
    rcases heffect.bindings with hsame | ⟨b, hwritten, hinsert⟩
    · rw [hsame]
    · rw [hinsert, hbinding b hwritten, SortedMap.erase_insert_self]

/-- **Rights after an issue.**  However an issue ends, a bearer keeps full rights that rest on
neither the role nor the role binding of the session. -/
theorem run_issue_entitles (i : Issuer) {token ns : String} (hk : s.cluster.objects.Keyed)
    (hother : token ≠ env.supply.token s.cluster.minted)
    (hrights : (s.cluster.apart ref).Entitles (.bearer token) ns) :
    (Simulation.run env (i.issue ref) s).2.cluster.Entitles (.bearer token) ns := by
  intro call check haccess hns
  -- The custom resource stays, so that the call is checked as before.
  have hcheck : call.access? (s.cluster.apart ref).resource = some check := by
    rwa [(Simulation.run_fixed _).1] at haccess
  obtain ⟨user, huser, hpermits⟩ :=
    (ClusterState.allows_bearer_iff hcheck).mp (hrights call check hcheck hns)
  refine (ClusterState.allows_bearer_iff haccess).mpr ⟨user, ?_, ?_⟩
  · rw [run_issue_tokens i ref hk hother]
    exact huser
  · have hsame := (run_issue_sameApart i env s ref).permits user check
    exact Objects.permits_of_apart (hsame.trans hpermits)

end Issuer

end CredentialBroker
