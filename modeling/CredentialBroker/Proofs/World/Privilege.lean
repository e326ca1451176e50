import CredentialBroker.Credential.Access
import CredentialBroker.Proofs.Cluster.Identity
import CredentialBroker.Proofs.World.Event

namespace CredentialBroker

/-!
# What a session's token allows

The identity of a session gets the rules that sessions need, in its own namespace, and no others.

* `Objects.Contained` — the invariant: every role has those rules, and every role binding gives the
  role of one session to the identity of that session alone;
* `Objects.permits_identity` — what follows for the access control;
* `Deployment.run_privilege_contained` — the property of whole runs.
-/

/-! ### The invariant -/

/-- The role binding is the one made for a session: its role for its identity alone. -/
def Issuer.Binds (b : RoleBinding) (session : ObjectRef) : Prop :=
  b.ref = ⟨session.ns, bindingName session.name⟩ ∧ b.roleName = roleName session.name ∧
    b.subjects = [⟨"ServiceAccount", identityName session.name, some session.ns⟩]

/-- All rights come from roles and role bindings that were made for sessions. -/
structure Objects.Contained (resource : SessionResource) (o : Objects) : Prop where
  /-- Every role has the rules that sessions need. -/
  roles : ∀ ref role, o.roles.get? ref = some role → role.rules = requiredRules resource
  /-- Every role binding is the one of a session. -/
  bindings : ∀ ref b, o.bindings.get? ref = some b → b.ref = ref ∧ ∃ session, Issuer.Binds b session
  /-- No rule is given to a machine identity by name. -/
  grants : ∀ g ∈ o.grants, Identity.accountOf? g.user = none

theorem Issuer.binds_binding (ref : ObjectRef) (owner : OwnerReference) :
    Binds (binding ref owner) ref := ⟨rfl, rfl, rfl⟩

/-- A role binding is for one session only. -/
theorem Issuer.Binds.session_eq {b : RoleBinding} {ref session : ObjectRef}
    (h : Binds b session) (href : b.ref = ⟨ref.ns, bindingName ref.name⟩) : session = ref := by
  obtain ⟨ns, name⟩ := session
  obtain ⟨ns', name'⟩ := ref
  have hsame := h.1.symm.trans href
  simp only [ObjectRef.mk.injEq] at hsame
  rw [hsame.1, bindingName_injective hsame.2]

/-- What can be relied on when a role binding is read. -/
def containedReads : (call : Call) → call.Reply → Prop
  | .getRoleBinding ref, b => RoleBinding.ref b = ref ∧ ∃ session, Issuer.Binds b session
  | _, _ => True

/-- What a call must be like so that rights stay contained. -/
def Call.KeepsContained (resource : SessionResource) : Call → Prop
  | .createRole role | .updateRole role => role.rules = requiredRules resource
  | .createRoleBinding b | .updateRoleBinding b => ∃ session, Issuer.Binds b session
  | _ => True

/-! ### Steps -/

section Steps

variable {resource : SessionResource} {d : Draw} {call : Call} {o o' : Objects}

theorem Objects.Effect.contained (h : Effect d call o o') (hcall : call.KeepsContained resource)
    (ho : o.Contained resource) : o'.Contained resource := by
  constructor
  · rcases h.roles with hsame | ⟨written, hwritten, hinsert⟩
    · rw [hsame]
      exact ho.roles
    · have hrules : written.rules = requiredRules resource := by
        rcases hwritten with rfl | rfl <;> exact hcall
      rw [hinsert]
      exact SortedMap.forall_insert ho.roles hrules
  · rcases h.bindings with hsame | ⟨written, hwritten, hinsert⟩
    · rw [hsame]
      exact ho.bindings
    · have hbinds : ∃ session, Issuer.Binds written session := by
        rcases hwritten with rfl | rfl <;> exact hcall
      rw [hinsert]
      exact SortedMap.forall_insert ho.bindings ⟨rfl, hbinds⟩
  · rw [h.grants]
    exact ho.grants

theorem ClusterState.step_contained {supply : Supply} {now : Timestamp} {who : Client}
    {s : ClusterState} (hcall : call.KeepsContained resource) (hs : s.objects.Contained resource) :
    (s.step supply now who call).2.objects.Contained resource ∧
      ∀ v, (s.step supply now who call).1 = .ok v → containedReads call v := by
  refine ⟨step_keeps hs fun _ h => h.contained hcall hs, fun v hv => ?_⟩
  cases call with
  | getRoleBinding ref =>
    obtain ⟨_, _, happly⟩ := apply_of_step hv
    exact hs.bindings ref v (Objects.apply_getRoleBinding.mp happly).2
  | _ => trivial

/-- Roles and role bindings are made for sessions, and repaired to be as they were made. -/
theorem Issuer.Prepares.keepsContained {i : Issuer} {ref : ObjectRef}
    (h : i.Prepares containedReads ref call) : call.KeepsContained i.resource := by
  cases h with
  | createRole | updateRole => rfl
  | createBinding owner => exact ⟨ref, Issuer.binds_binding ref owner⟩
  | updateBinding owner found hfound =>
    obtain ⟨href, session, hfor⟩ := hfound
    have hsession : session = ref := hfor.session_eq href
    exact ⟨ref, rfl, hsession ▸ hfor.2.1, rfl⟩
  | session | account | getRole | getBinding => trivial

theorem Task.Asks.keepsContained {d : Deployment} {task : Task} {who : Client}
    (h : task.Asks d containedReads who call) : call.KeepsContained d.issuer.resource := by
  rcases h.origin with ⟨i, ref, hi, hissue⟩ | ⟨ref, htransition⟩ | hflow
  · cases hissue with
    | prepare h => exact hi ▸ h.keepsContained
    | token | record => trivial
    | store _ _ h => cases h <;> trivial
  · -- What starts and stops write has nothing to do with roles.
    cases htransition <;> trivial
  · cases hflow with
    | read => trivial
    | store _ _ h => cases h <;> trivial

end Steps

/-! ### Access control -/

section Access

variable {resource : SessionResource} {o : Objects} {ref : ObjectRef} {c : AccessCheck}

/-- The rules of a session's identity come from the role binding and the role of that session. -/
theorem Objects.mem_rulesFor_identity (h : o.Contained resource) (hcolon : ':' ∉ ref.ns.toList)
    {ns : String} {rule : Rule} :
    rule ∈ o.rulesFor (Identity.user (accountOf ref)) ns ↔
      ns = ref.ns ∧ (o.bindings.get? ⟨ref.ns, bindingName ref.name⟩).isSome ∧
        (o.roles.get? ⟨ref.ns, roleName ref.name⟩).isSome ∧ rule ∈ requiredRules resource := by
  have haccount : Identity.accountOf? (Identity.user (accountOf ref)) = some (accountOf ref) :=
    Identity.accountOf?_user hcolon
  -- No rule comes by name, as none is given to an account by name.
  have hgrants : (o.grants.filter fun g =>
      g.user = Identity.user (accountOf ref) && (g.ns = "*" || g.ns = ns)) = [] := by
    rw [List.filter_eq_nil_iff]
    intro g hg hmatch
    simp only [Bool.and_eq_true, decide_eq_true_eq] at hmatch
    have hnone := h.grants g hg
    rw [hmatch.1, haccount] at hnone
    cases hnone
  unfold rulesFor
  rw [hgrants, haccount]
  simp only [List.map_nil, List.nil_append, Option.map_some, Option.getD_some]
  unfold boundRules
  simp only [List.mem_flatMap, List.mem_filter, SortedMap.mem_values, Bool.and_eq_true,
    decide_eq_true_eq]
  constructor
  · rintro ⟨b, ⟨⟨key, hb⟩, hns, hsubject⟩, hrule⟩
    obtain ⟨hkey, session, hbref, hbrole, hbsubjects⟩ := h.bindings key b hb
    rw [hbsubjects] at hsubject
    simp only [List.any_cons, List.any_nil, Bool.or_false, isSubject, Bool.and_eq_true,
      decide_eq_true_eq, Option.getD_some] at hsubject
    -- The one subject of the binding is the identity of its session, which is the one at hand.
    have hsession : session = ref := by
      refine accountOf_injective ?_
      show (⟨session.ns, identityName session.name⟩ : ObjectRef) = _
      rw [hsubject.1.2, hsubject.2]
    subst hsession
    have hns' : ns = session.ns := by rw [← hns, hbref]
    rw [hns', hbrole] at hrule
    refine ⟨hns', ?_, ?_, ?_⟩
    · rw [← hbref, hkey, hb]
      rfl
    · cases hrole : o.roles.get? ⟨session.ns, roleName session.name⟩ with
      | none => rw [hrole] at hrule; cases hrule
      | some role => rfl
    · cases hrole : o.roles.get? ⟨session.ns, roleName session.name⟩ with
      | none => rw [hrole] at hrule; cases hrule
      | some role =>
        rw [hrole] at hrule
        exact h.roles _ role hrole ▸ hrule
  · -- The role binding that is there is the one of the session, and so is its role.
    rintro ⟨rfl, hbound, hrole, hrule⟩
    obtain ⟨b, hb⟩ := Option.isSome_iff_exists.mp hbound
    obtain ⟨role, hrole⟩ := Option.isSome_iff_exists.mp hrole
    obtain ⟨hkey, session, hfor⟩ := h.bindings _ b hb
    obtain rfl : session = ref := hfor.session_eq hkey
    obtain ⟨hbref, hbrole, hbsubjects⟩ := hfor
    refine ⟨b, ⟨⟨_, hb⟩, ?_, ?_⟩, ?_⟩
    · rw [hbref]
    · rw [hbsubjects]
      simp [isSubject, accountOf]
    · rw [hbrole, hrole, Option.map_some, Option.getD_some, h.roles _ role hrole]
      exact hrule

/-- What a session's identity may do: in its own namespace what sessions need, once its role and its
role binding are there. -/
theorem Objects.permits_identity (h : o.Contained resource) (hcolon : ':' ∉ ref.ns.toList) :
    o.permits (Identity.user (accountOf ref)) c = true ↔
      Issuer.Prepared ref o ∧ c.ns = ref.ns ∧
        ∃ rule ∈ requiredRules resource, rule.allows c.group c.resource c.verb = true := by
  unfold permits AccessCheck.allowedBy
  rw [List.any_eq_true]
  constructor
  · rintro ⟨rule, hrule, hallows⟩
    obtain ⟨hns, hbinding, hrole, hrule⟩ := (mem_rulesFor_identity h hcolon).mp hrule
    exact ⟨⟨hrole, hbinding⟩, hns, rule, hrule, hallows⟩
  · rintro ⟨⟨hrole, hbinding⟩, hns, rule, hrule, hallows⟩
    exact ⟨rule, (mem_rulesFor_identity h hcolon).mpr ⟨hns, hbinding, hrole, hrule⟩, hallows⟩

variable {env : Surroundings} {s : Simulation} {token user : String}

/-- The holder of a token is told what the user of the token may do. -/
theorem AccessCheck.run_ask_eq_ok {decision : AccessDecision}
    (htoken : s.cluster.objects.tokens.get? token = some user)
    (h : (Simulation.run env (c.ask (.bearer token)) s).1 = .ok decision) :
    decision.allowed = s.cluster.objects.permits user c := by
  obtain ⟨s', hrun⟩ := Simulation.fst_run_eq_ok.mp h
  obtain ⟨known, hknown, _, happly, _⟩ := Simulation.run_call_eq_ok hrun
  obtain ⟨_, rfl⟩ := Objects.apply_checkAccess happly
  -- The one who asks is the user of the token.
  have hsame : known = user := Option.some.inj (hknown.symm.trans htoken)
  subst hsame
  unfold Objects.decide
  cases s.cluster.objects.permits known c <;> rfl

/-- Without failures waiting, whoever is known gets an answer. -/
theorem AccessCheck.run_ask_of_ready (hfaults : s.cluster.faults = [])
    (htoken : s.cluster.objects.tokens.get? token = some user) :
    ∃ decision, (Simulation.run env (c.ask (.bearer token)) s).1 = .ok decision := by
  have huser : s.cluster.objects.userOf? (.bearer token) = some user := htoken
  obtain ⟨s', hrun, _⟩ :=
    Simulation.run_call_of_apply env (c := .checkAccess c) hfaults huser rfl rfl
  exact ⟨_, Simulation.fst_run_eq_ok.mpr ⟨s', hrun⟩⟩

end Access

/-! ### Runs -/

section Runs

variable {d : Deployment} {s : Simulation} {events : List Event} {ref : ObjectRef} {k : Nat}

theorem Event.run_contained {e : Event}
    (hgrant : ∀ g, e = .grant g → Identity.accountOf? g.user = none)
    (h : s.cluster.objects.Contained d.issuer.resource) :
    (e.run d s).cluster.objects.Contained d.issuer.resource := by
  cases e with
  | grant rule =>
    refine ⟨h.roles, h.bindings, fun g hg => ?_⟩
    change g ∈ s.cluster.objects.grants ++ [rule] at hg
    rcases List.mem_append.mp hg with hg | hg
    · exact h.grants g hg
    · rw [List.mem_singleton.mp hg]
      exact hgrant rule rfl
  | putSession | removeSession | registerToken | failNext | wait =>
    exact ⟨h.roles, h.bindings, h.grants⟩
  | perform task exchange =>
    exact perform_keeps (I := fun t => t.objects.Contained d.issuer.resource)
      (fun _ _ _ _ ht hasks => ClusterState.step_contained hasks.keepsContained ht) h

theorem Event.run_prepared {e : Event} (h : Issuer.Prepared ref s.cluster.objects) :
    Issuer.Prepared ref (e.run d s).cluster.objects := by
  cases e with
  | putSession | removeSession | registerToken | grant | failNext | wait => exact h
  | perform task exchange => exact Issuer.run_prepared (d.surroundings exchange) _ h

/-- A task mints a token for a session only when role and role binding of the session are there. -/
theorem Event.run_mints_prepared {task : Task}
    {exchange : Http.Request → Except Http.Fault Http.Response}
    (href : task.provisioned? = some ref)
    (hminted : s.cluster.minted < ((perform task exchange).run d s).cluster.minted) :
    Issuer.Prepared ref ((perform task exchange).run d s).cluster.objects := by
  have hlate : Issuer.MintsPrepared ref (task.program d) := by
    cases task with
    | provision who session =>
      cases href
      exact Issuer.mintsPrepared_discard Issuer.issue_mintsPrepared
    | start who session =>
      cases href
      exact Issuer.mintsPrepared_discard Transition.start_mintsPrepared
    | stop | begin | complete => cases href
  rcases hlate (d.surroundings exchange) s with hsame | hprepared
  · have hrun : ((perform task exchange).run d s).cluster.minted = s.cluster.minted := hsame
    omega
  · exact hprepared

/-- Once a token was minted for a session, its role and its role binding are there for good. -/
theorem Deployment.run_mintedFor_prepared (h : d.MintedFor s events ref k) :
    Issuer.Prepared ref (d.run events s).cluster.objects := by
  obtain ⟨before, task, exchange, after, rfl, href, hold, hk⟩ := h
  rw [run_append, run_cons]
  refine run_invariant (I := fun t => Issuer.Prepared ref t.cluster.objects)
    (fun e _ t ht => Event.run_prepared ht) ?_
  exact Event.run_mints_prepared href (Nat.lt_of_le_of_lt hold hk)

end Runs

/-- **Containment of privileges.**  Start from a cluster without roles and role bindings, where
rules are given by name to users that are no machine identities, and let anything happen to it.
Then a token minted for a session allows exactly what sessions need, in the namespace of that
session, from the moment it is minted; and as long as no failure is waiting there is an answer. -/
theorem Deployment.run_privilege_contained (d : Deployment) (start : Simulation)
    (events : List Event) (hfresh : d.Fresh events) (hroles : start.cluster.objects.roles = ∅)
    (hbindings : start.cluster.objects.bindings = ∅)
    (hgrants : ∀ g ∈ start.cluster.objects.grants, Identity.accountOf? g.user = none)
    (hgranted : ∀ g, .grant g ∈ events → Identity.accountOf? g.user = none) :
    ∀ ref k, ':' ∉ ref.ns.toList → d.MintedFor start events ref k →
      ∀ (check : AccessCheck) (env : Surroundings),
        let asked := (Simulation.run env (check.ask (.bearer (d.supply.token k)))
          (d.run events start)).1
        (∀ decision, asked = .ok decision →
          (decision.allowed = true ↔ check.ns = ref.ns ∧
            ∃ rule ∈ requiredRules d.issuer.resource,
              rule.allows check.group check.resource check.verb = true)) ∧
        ((d.run events start).cluster.faults = [] → ∃ decision, asked = .ok decision) := by
  intro ref k hcolon hminted check env asked
  have htoken := (run_mintedFor hfresh hminted).2
  have hprepared := run_mintedFor_prepared hminted
  -- A cluster without roles and role bindings contains all rights.
  have hstart : start.cluster.objects.Contained d.issuer.resource := by
    refine ⟨fun _ _ h => ?_, fun _ _ h => ?_, hgrants⟩
    · rw [hroles] at h
      cases h
    · rw [hbindings] at h
      cases h
  have hcontained : (d.run events start).cluster.objects.Contained d.issuer.resource :=
    run_invariant (I := fun t => t.cluster.objects.Contained d.issuer.resource)
      (fun e he _ ht => Event.run_contained (fun g heq => hgranted g (heq ▸ he)) ht) hstart
  refine ⟨fun decision hdecision => ?_, fun hfaults => AccessCheck.run_ask_of_ready hfaults htoken⟩
  rw [AccessCheck.run_ask_eq_ok htoken hdecision, Objects.permits_identity hcontained hcolon]
  exact and_iff_right hprepared

/-- A session's token reads sessions and no secrets, whatever another user may do. -/
theorem Deployment.run_privilege_contained_reading :
    let alpha : ObjectRef := ⟨"team", "alpha"⟩
    let silent := fun _ : Http.Request => Except.error Http.Fault.timedOut
    let start : Simulation := ⟨.ofSeconds 0, { objects :=
      { tokens := SortedMap.ofList [("t", "ada")]
        grants := [⟨"ada", "*", ⟨["*"], ["*"], ["*"]⟩⟩] } }⟩
    let asked := fun check : AccessCheck =>
      (Simulation.run (plain.surroundings silent) (check.ask (.bearer "m"))
        (plain.run [.putSession (.ofUser alpha "bob" ∅),
          .perform (.provision .platform alpha) silent] start)).1
    (∃ decision, asked ⟨"vteam.ambient-code", "agenticsessions", "get", "team"⟩ = .ok decision ∧
      decision.allowed = true) ∧
    ∀ decision, asked (.secrets "team" "get") = .ok decision → decision.allowed ≠ true := by
  intro alpha silent start asked
  have hcontained := fun check => run_privilege_contained plain start
    [.putSession (.ofUser alpha "bob" ∅), .perform (.provision .platform alpha) silent]
    (plain_fresh fun token user => by simp) rfl rfl (by decide) (fun g hg => by simp at hg) alpha 0
    (by decide) ⟨[.putSession (.ofUser alpha "bob" ∅)], .provision .platform alpha, silent, [], rfl,
      rfl, by decide +kernel, by decide +kernel⟩ check (plain.surroundings silent)
  constructor
  · obtain ⟨hallowed, hanswered⟩ :=
      hcontained ⟨"vteam.ambient-code", "agenticsessions", "get", "team"⟩
    obtain ⟨decision, hdecision⟩ := hanswered (by decide +kernel)
    exact ⟨decision, hdecision, (hallowed decision hdecision).mpr (by decide)⟩
  · intro decision hdecision hallowed
    obtain ⟨hexact, _⟩ := hcontained (.secrets "team" "get")
    exact absurd ((hexact decision hdecision).mp hallowed) (by decide)

end CredentialBroker
