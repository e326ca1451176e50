import CredentialBroker.Proofs.Cluster.Step

namespace CredentialBroker.ClusterState

/-!
# Callers with full rights

A caller with full rights in a namespace may make every call that is checked there, and keeps that
right as long as nobody touches the tokens, the rules and what gives them.

* `Entitles` — the caller has full rights; the platform has them everywhere;
* `SameRights` — states between which no rights change;
* `step_of_allowed` — without failures waiting, the effect of an allowed call is what answers it;
* `step_of_accepted` — so it succeeds when its effect does.
-/

variable {supply : Supply} {now : Timestamp} {who : Client} {call : Call} {ns token user : String}
  {s t u : ClusterState}

/-- The caller may make every call that is checked in a namespace. -/
def Entitles (s : ClusterState) (who : Client) (ns : String) : Prop :=
  ∀ call check, call.access? s.resource = some check → check.ns = ns → s.Allows who call

/-- The platform may make every call. -/
theorem allows_platform : s.Allows .platform call := ⟨platformUser, rfl, refusal?_platform _⟩

theorem entitles_platform : s.Entitles .platform ns := fun _ _ _ _ => allows_platform

/-- A bearer has full rights when its user is permitted everything. -/
theorem entitles_bearer (huser : s.objects.tokens.get? token = some user)
    (hpermits : ∀ check : AccessCheck, check.ns = ns → s.objects.permits user check = true) :
    s.Entitles (.bearer token) ns := by
  intro call check haccess hns
  refine ⟨user, huser, ?_⟩
  unfold refusal?
  rw [haccess]
  dsimp only
  rw [if_pos (hpermits check hns)]

/-- So it has when one of the rules for its user allows everything. -/
theorem entitles_of_rule (huser : s.objects.tokens.get? token = some user)
    (hrule : ⟨["*"], ["*"], ["*"]⟩ ∈ s.objects.rulesFor user ns) : s.Entitles (.bearer token) ns :=
  entitles_bearer huser fun check hns =>
    List.any_eq_true.mpr ⟨⟨["*"], ["*"], ["*"]⟩, hns ▸ hrule, by simp [Rule.allows, Rule.covers]⟩

/-- So it has when everything is given to its user by name. -/
theorem entitles_granted (huser : s.objects.tokens.get? token = some user)
    (hgrant : ⟨user, ns, ⟨["*"], ["*"], ["*"]⟩⟩ ∈ s.objects.grants) :
    s.Entitles (.bearer token) ns := by
  refine entitles_of_rule huser (List.mem_append_left _ ?_)
  exact List.mem_map.mpr ⟨_, List.mem_filter.mpr ⟨hgrant, by simp⟩, rfl⟩

/-- Who is known, and what the rules give to whom, is the same. -/
structure SameRights (s t : ClusterState) : Prop where
  /-- The custom resource is the same. -/
  resource : t.resource = s.resource
  /-- The tokens are. -/
  tokens : t.objects.tokens = s.objects.tokens
  /-- The rules given by name are. -/
  grants : t.objects.grants = s.objects.grants
  /-- The roles are. -/
  roles : t.objects.roles = s.objects.roles
  /-- The role bindings are. -/
  bindings : t.objects.bindings = s.objects.bindings

theorem SameRights.refl (s : ClusterState) : s.SameRights s := ⟨rfl, rfl, rfl, rfl, rfl⟩

theorem SameRights.trans (h : s.SameRights t) (h' : t.SameRights u) : s.SameRights u :=
  ⟨h'.resource.trans h.resource, h'.tokens.trans h.tokens, h'.grants.trans h.grants,
    h'.roles.trans h.roles, h'.bindings.trans h.bindings⟩

theorem SameRights.permits (h : s.SameRights t) (check : AccessCheck) :
    t.objects.permits user check = s.objects.permits user check := by
  unfold Objects.permits Objects.rulesFor Objects.boundRules
  rw [h.grants, h.roles, h.bindings]

theorem SameRights.allows (h : s.SameRights t) (hallows : s.Allows who call) :
    t.Allows who call := by
  obtain ⟨user, huser, hrefusal⟩ := hallows
  refine ⟨user, ?_, ?_⟩
  · cases who with
    | platform => exact huser
    | bearer token =>
      show t.objects.tokens.get? token = some user
      rw [h.tokens]
      exact huser
  · unfold refusal? at hrefusal ⊢
    simp only [h.resource, h.permits]
    exact hrefusal

theorem SameRights.entitles (h : s.SameRights t) (hentitles : s.Entitles who ns) :
    t.Entitles who ns := by
  intro call check haccess hns
  rw [h.resource] at haccess
  exact h.allows (hentitles call check haccess hns)

/-- **Calls that nobody stops.**  Without failures waiting, the effect of an allowed call is what
answers it. -/
theorem step_of_allowed (supply : Supply) (now : Timestamp) (hfaults : s.faults = [])
    (h : s.Allows who call) :
    ∃ user t, t.faults = [] ∧ t.resource = s.resource ∧
      ((∃ reply, s.objects.apply (s.draw supply now) who user call = .ok (t.objects, reply) ∧
          s.step supply now who call = (.ok reply, t)) ∨
        ∃ e, s.objects.apply (s.draw supply now) who user call = .error e ∧
          s.step supply now who call = (.error e, t) ∧ t.objects = s.objects) := by
  obtain ⟨user, huser, hrefusal⟩ := h
  have hfault : takeFault call.operation s.faults = none := by rw [hfaults, takeFault_nil]
  cases happly : s.objects.apply (s.draw supply now) who user call with
  | ok outcome =>
    obtain ⟨t, hstep, hobjects, htfaults, hresource, _⟩ :=
      step_of_apply hfault huser hrefusal happly
    refine ⟨user, t, htfaults.trans hfaults, hresource, .inl ⟨outcome.2, ?_, hstep⟩⟩
    rw [happly, hobjects]
  | error e =>
    obtain ⟨t, hstep, htfaults⟩ := step_of_apply_error hfault huser hrefusal happly
    obtain ⟨hobjects, _, hresource⟩ := step_error hstep
    exact ⟨user, t, htfaults.trans hfaults, hresource, .inr ⟨e, happly, hstep, hobjects⟩⟩

/-- So an allowed call succeeds when its effect does, whoever makes it. -/
theorem step_of_accepted (supply : Supply) (now : Timestamp) (hfaults : s.faults = [])
    (h : s.Allows who call)
    (haccepted : ∀ user, ∃ o' reply,
      s.objects.apply (s.draw supply now) who user call = .ok (o', reply)) :
    ∃ user t reply, t.faults = [] ∧ t.resource = s.resource ∧
      s.objects.apply (s.draw supply now) who user call = .ok (t.objects, reply) ∧
        s.step supply now who call = (.ok reply, t) := by
  obtain ⟨user, t, htfaults, hresource, ⟨reply, happly, hstep⟩ | ⟨e, happly, _⟩⟩ :=
    step_of_allowed supply now hfaults h
  · exact ⟨user, t, reply, htfaults, hresource, happly, hstep⟩
  · obtain ⟨_, _, haccepted⟩ := haccepted user
    rw [haccepted] at happly
    cases happly

end CredentialBroker.ClusterState
