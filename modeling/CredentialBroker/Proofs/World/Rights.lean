import CredentialBroker.Proofs.Credential.Convergence
import CredentialBroker.Proofs.World.Privilege

namespace CredentialBroker

/-!
# What an issued token is good for

A token lets its holder do what sessions need as soon as the role binding of the session gives the
role of the session.  An issue makes it do so when there is none; one that is there goes on to give
the role that it gave.

* `Objects.permits_of_bound` — a role binding and its role let the subject do what the role allows;
* `Issuer.run_issue_empowers` — which role is given after an issue, and what the token in the secret
  then allows;
* `Issuer.run_issue_misdirected` — a role binding that gives another role leaves the token without
  any rights.
-/

/-! ### Access control -/

/-- A role binding lets its subjects do what its role allows. -/
theorem Objects.permits_of_bound {o : Objects} {account key : ObjectRef} {b : RoleBinding}
    {role : Role} {c : AccessCheck} (hcolon : ':' ∉ account.ns.toList)
    (hb : o.bindings.get? key = some b) (hns : b.ref.ns = c.ns)
    (hsubject : ∃ subject ∈ b.subjects, isSubject account c.ns subject = true)
    (hrole : o.roles.get? ⟨c.ns, b.roleName⟩ = some role)
    (hallowed : c.allowedBy role.rules = true) :
    o.permits (Identity.user account) c = true := by
  obtain ⟨rule, hrule, hallows⟩ := List.any_eq_true.mp hallowed
  refine List.any_eq_true.mpr ⟨rule, ?_, hallows⟩
  unfold rulesFor
  rw [Identity.accountOf?_user hcolon]
  refine List.mem_append_right _ (List.mem_flatMap.mpr ⟨b, List.mem_filter.mpr ⟨?_, ?_⟩, ?_⟩)
  · exact SortedMap.mem_values.mpr ⟨key, hb⟩
  · rw [hns, decide_eq_true rfl, Bool.true_and]
    exact List.any_eq_true.mpr hsubject
  · rw [hrole]
    exact hrule

namespace Issuer

variable {i : Issuer} {ref : ObjectRef} {session : Session} {token : String} {o o' : Objects}

/-- The role binding after an issue gives the role that the one before it gave, or the role of the
session when there was none. -/
theorem Settles.roleName_eq {b : RoleBinding} (h : i.Settles ref session token o o')
    (hb : o'.bindings.get? (bindingOf ref) = some b) :
    b.roleName = ((o.bindings.get? (bindingOf ref)).map (·.roleName)).getD (roleName ref.name) := by
  obtain ⟨version, hbindings⟩ := h.bindings
  rw [hbindings, SortedMap.get?_insert_self, Option.some.injEq] at hb
  rw [← hb, roleName_settledBinding]

/-- Settled objects let the identity of the session do what sessions need, as soon as the role
binding gives the role of the session. -/
theorem Settles.permits {b : RoleBinding} {c : AccessCheck} (h : i.Settles ref session token o o')
    (hcolon : ':' ∉ ref.ns.toList) (hb : o'.bindings.get? (bindingOf ref) = some b)
    (hbref : b.ref = bindingOf ref) (hgives : b.roleName = roleName ref.name) (hns : c.ns = ref.ns)
    (hneeded : ∃ rule ∈ requiredRules i.resource, rule.allows c.group c.resource c.verb = true) :
    o'.permits (Identity.user (accountOf ref)) c = true := by
  obtain ⟨role, hrole, hrules⟩ := h.provided.role
  obtain ⟨b', hb', hsubjects⟩ := h.provided.binding
  obtain rfl : b' = b := Option.some.inj (hb'.symm.trans hb)
  have hgiven : o'.roles.get? ⟨c.ns, b'.roleName⟩ = some role := by
    rw [hgives, hns]
    exact hrole
  refine Objects.permits_of_bound hcolon hb ?_ ?_ hgiven ?_
  · rw [hbref, hns]
    rfl
  · rw [hsubjects]
    exact ⟨_, List.mem_singleton_self _, by simp [Objects.isSubject, accountOf]⟩
  · rw [hrules]
    exact List.any_eq_true.mpr hneeded

/-- **What an issued token is good for.**  From every state that a cluster can reach, without
failures waiting, the platform's issue for a session that is there ends well.  The role binding then
gives the role that the one before it gave, or the role of the session when there was none; and when
it gives the role of the session, the holder of the token in the secret is told that it may do
everything sessions need, in the namespace of the session. -/
theorem run_issue_empowers (i : Issuer) (env : Surroundings) (s : Simulation) (ref : ObjectRef)
    (hclient : i.client = .platform) (hreachable : s.cluster.Reachable env.supply)
    (hfaults : s.cluster.faults = []) (htokens : ∀ k, env.supply.token k ≠ "")
    (hsession : (s.cluster.objects.sessions.get? ref).isSome) (hcolon : ':' ∉ ref.ns.toList) :
    ∃ issued s₁ b secret token, Simulation.run env (i.issue ref) s = (.ok issued, s₁) ∧
      s₁.cluster.objects.bindings.get? (bindingOf ref) = some b ∧
      b.roleName = ((s.cluster.objects.bindings.get? (bindingOf ref)).map (·.roleName)).getD
        (roleName ref.name) ∧
      s₁.cluster.objects.secrets.get? issued.secret = some secret ∧
      secret.data.get? tokenKey = some (Text.utf8 token) ∧
      (b.roleName = roleName ref.name → ∀ check : AccessCheck, check.ns = ref.ns →
        (∃ rule ∈ requiredRules i.resource,
          rule.allows check.group check.resource check.verb = true) →
        ∃ decision, (Simulation.run env (check.ask (.bearer token)) s₁).1 = .ok decision ∧
          decision.allowed = true) := by
  obtain ⟨session, hsession⟩ := Option.isSome_iff_exists.mp hsession
  obtain ⟨s₁, hrun, hsettles, hfaults₁⟩ :=
    run_issue_of_ready ref env hclient hfaults hreachable.keyed (htokens _) hsession
  obtain ⟨b, hb, _⟩ := hsettles.provided.binding
  obtain ⟨secret, hsecret, hdata, _⟩ := hsettles.provided.secret
  refine ⟨_, s₁, b, secret, env.supply.token s.cluster.minted, hrun, hb, hsettles.roleName_eq hb,
    hsecret, by rw [hdata, SortedMap.get?_insert_self], fun hgives check hns hneeded => ?_⟩
  -- The token stands for the identity, which the role binding and the role let do all this.
  have htoken : s₁.cluster.objects.tokens.get? (env.supply.token s.cluster.minted) =
      some (Identity.user (accountOf ref)) := by
    rw [hsettles.tokens, SortedMap.get?_insert_self]
  have hbref : b.ref = bindingOf ref := by
    obtain rfl : _ = s₁ := congrArg Prod.snd hrun
    exact (hreachable.run _).bindings_keyed _ b hb
  obtain ⟨decision, hdecision⟩ : ∃ decision, (Simulation.run env (check.ask
      (.bearer (env.supply.token s.cluster.minted))) s₁).1 = .ok decision :=
    AccessCheck.run_ask_of_ready hfaults₁ htoken
  refine ⟨decision, hdecision, ?_⟩
  rw [AccessCheck.run_ask_eq_ok htoken hdecision]
  exact hsettles.permits hcolon hb hbref hgives hns hneeded

/-- A role binding for someone else is repaired, and then the token reads sessions. -/
theorem run_issue_empowers_repaired :
    let alpha : ObjectRef := ⟨"team", "alpha"⟩
    let env := Deployment.plain.surroundings fun _ => .error .timedOut
    let start : Simulation := ⟨.ofSeconds 0, [.putSession (.ofUser alpha "bob" ∅),
      .call .platform (.createRoleBinding
        ⟨bindingOf alpha, roleName "alpha", [⟨"User", "mallory", none⟩], [], none⟩)
      ].foldl (Happening.run env.supply (.ofSeconds 0)) {}⟩
    ∃ issued s₁ secret token,
      Simulation.run env (Deployment.plain.issuer.issue alpha) start = (.ok issued, s₁) ∧
      s₁.cluster.objects.secrets.get? issued.secret = some secret ∧
      secret.data.get? tokenKey = some (Text.utf8 token) ∧
      ∃ decision, (Simulation.run env (AccessCheck.ask
        ⟨"vteam.ambient-code", "agenticsessions", "get", "team"⟩ (.bearer token)) s₁).1 =
        .ok decision ∧ decision.allowed = true := by
  intro alpha env start
  obtain ⟨issued, s₁, b, secret, token, hrun, hb, hgives, hsecret, htoken, hallowed⟩ :=
    run_issue_empowers Deployment.plain.issuer env start alpha rfl
      ((ClusterState.Reachable.fresh {}).happen _) (by decide +kernel)
      (fun k h => by simp [env, Deployment.surroundings, Deployment.plain, Supply.counting] at h)
      (by decide +kernel) (by decide)
  refine ⟨issued, s₁, secret, token, hrun, hsecret, htoken, hallowed (hgives.trans ?_) _ rfl ?_⟩
  · decide +kernel
  · decide

/-- A role binding that gives another role goes on to give it: the issue ends well, and the token in
the secret does not even read its own session. -/
theorem run_issue_misdirected :
    let alpha : ObjectRef := ⟨"team", "alpha"⟩
    let env := Deployment.plain.surroundings fun _ => .error .timedOut
    let start : Simulation := ⟨.ofSeconds 0, [.putSession (.ofUser alpha "bob" ∅),
      .call .platform (.createRoleBinding ⟨bindingOf alpha, "viewer",
        [⟨"ServiceAccount", identityName "alpha", some "team"⟩], [], none⟩)
      ].foldl (Happening.run env.supply (.ofSeconds 0)) {}⟩
    let outcome := Simulation.run env (Deployment.plain.issuer.issue alpha) start
    outcome.1.isOk ∧
      (outcome.2.cluster.objects.bindings.get? (bindingOf alpha)).map (·.roleName) =
        some "viewer" ∧
      ((outcome.2.cluster.objects.secrets.get? (tokenSecret alpha)).bind
        (·.data.get? tokenKey)) = some (Text.utf8 "m") ∧
      (requiredRules {}).any
        (fun rule => rule.allows "vteam.ambient-code" "agenticsessions" "get") ∧
      (Simulation.run env (AccessCheck.ask
        ⟨"vteam.ambient-code", "agenticsessions", "get", "team"⟩ (.bearer "m")) outcome.2).1 =
        .ok ⟨false, "no matching rule"⟩ := by
  decide +kernel

end Issuer

end CredentialBroker
