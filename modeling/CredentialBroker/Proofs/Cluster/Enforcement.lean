import CredentialBroker.Proofs.Cluster.Step

namespace CredentialBroker

/-!
# Checks and refusals

A caller can ask what it may do, and every call asks the same before it takes effect.  Both answers
come from the rules of the caller, so that a call is refused exactly when the question is answered
in the negative.

* `Operation.needs` — the API group, the resource and the verb of each operation;
* `Objects.refuses_of_apply` — no effect of a call fails by refusing its caller;
* `ClusterState.step_eq` — calls of bearers, case by case, when no failure is waiting;
* `ClusterState.step_enforced` — refusals are what the check foretells, and change nothing.
-/

/-- Whether the error says that the caller is not known, or may not make the call. -/
def ClusterError.refuses : ClusterError → Bool
  | .unauthorized | .forbidden _ => true
  | _ => false

/-- The session that a call is about. -/
def Call.session? : Call → Option ObjectRef
  | .getSession ref | .patchSessionAnnotations ref _ => some ref
  | .updateSession session | .updateSessionStatus session => some session.ref
  | _ => none

/-- What follows the plural name of sessions in a check: status writes are checked apart. -/
def Call.subresource : Call → String
  | .updateSessionStatus _ => "/status"
  | _ => ""

/-- The API group, the resource and the verb of each operation that a caller must be allowed to
make; none is needed to ask what one may do. -/
def Operation.needs (sessions : SessionResource) : List (Operation × String × String × String) :=
  [(.getSession, sessions.group, sessions.plural, "get"),
   (.patchSessionAnnotations, sessions.group, sessions.plural, "patch"),
   (.updateSession, sessions.group, sessions.plural, "update"),
   (.updateSessionStatus, sessions.group, sessions.plural ++ "/status", "update"),
   (.getServiceAccount, "", "serviceaccounts", "get"),
   (.createServiceAccount, "", "serviceaccounts", "create"),
   (.patchServiceAccountAnnotations, "", "serviceaccounts", "patch"),
   (.createToken, "", "serviceaccounts/token", "create"),
   (.getRole, "rbac.authorization.k8s.io", "roles", "get"),
   (.createRole, "rbac.authorization.k8s.io", "roles", "create"),
   (.updateRole, "rbac.authorization.k8s.io", "roles", "update"),
   (.getRoleBinding, "rbac.authorization.k8s.io", "rolebindings", "get"),
   (.createRoleBinding, "rbac.authorization.k8s.io", "rolebindings", "create"),
   (.updateRoleBinding, "rbac.authorization.k8s.io", "rolebindings", "update"),
   (.getSecret, "", "secrets", "get"),
   (.createSecret, "", "secrets", "create"),
   (.updateSecret, "", "secrets", "update"),
   (.reviewToken, "authentication.k8s.io", "tokenreviews", "create"),
   (.deleteJob, "batch", "jobs", "delete"),
   (.deletePods, "", "pods", "deletecollection")]

/-- Where a call must be allowed: in the namespace of what it is about.  Whom a token stands for is
asked of no namespace. -/
def Call.place : Call → String
  | .getSession ref | .patchSessionAnnotations ref _ | .getServiceAccount ref
  | .patchServiceAccountAnnotations ref _ | .createToken ref _ | .getRole ref | .getRoleBinding ref
  | .getSecret ref | .deleteJob ref _ => ref.ns
  | .updateSession session | .updateSessionStatus session => session.ref.ns
  | .createServiceAccount account => account.ref.ns
  | .createRole role | .updateRole role => role.ref.ns
  | .createRoleBinding binding | .updateRoleBinding binding => binding.ref.ns
  | .createSecret secret | .updateSecret secret => secret.ref.ns
  | .deletePods ns _ => ns
  | .reviewToken _ | .checkAccess _ => ""

/-! ### Errors of effects -/

namespace Objects

variable {d : Draw} {who : Client} {user : String} {o : Objects} {call : Call} {e : ClusterError}
  {kind name : String} {ref : ObjectRef}

theorem refuses_found {α : Type} {x : Option α} (h : found kind ref x = .error e) :
    e.refuses = false := by
  cases x with
  | some a => cases h
  | none => cases h; rfl

theorem refuses_checkAbsent {α : Type} {x : Option α} (h : checkAbsent kind name x = .error e) :
    e.refuses = false := by
  cases x with
  | some a => cases h; rfl
  | none => cases h

theorem refuses_checkVersion {given stored : Option String}
    (h : checkVersion kind ref given stored = .error e) : e.refuses = false := by
  unfold checkVersion at h
  split at h
  · cases h; rfl
  · cases h

theorem refuses_checkSession {session stored : Session}
    (h : checkSession session stored = .error e) : e.refuses = false := by
  unfold checkSession at h
  split at h
  · cases h; rfl
  · exact refuses_checkVersion h

/-- **Errors of effects.**  Objects may be missing, be there already or have changed, but nobody is
refused once the call is admitted. -/
theorem refuses_of_apply (h : o.apply d who user call = .error e) : e.refuses = false := by
  cases call with
  | getSession ref | patchSessionAnnotations ref _ | getServiceAccount ref
  | patchServiceAccountAnnotations ref _ | createToken ref _ | getRole ref | getRoleBinding ref
  | getSecret ref | deleteJob ref _ =>
    rcases Outcome.bind_eq_error.mp h with h | ⟨_, _, h⟩
    · exact refuses_found h
    · cases h
  | createServiceAccount object | createRole object | createRoleBinding object
  | createSecret object =>
    rcases Outcome.bind_eq_error.mp h with h | ⟨_, _, h⟩
    · exact refuses_checkAbsent h
    · cases h
  | updateSession session | updateSessionStatus session =>
    rcases Outcome.bind_eq_error.mp h with h | ⟨_, _, h⟩
    · exact refuses_found h
    · rcases Outcome.bind_eq_error.mp h with h | ⟨_, _, h⟩
      · exact refuses_checkSession h
      · cases h
  | updateRole object | updateRoleBinding object | updateSecret object =>
    rcases Outcome.bind_eq_error.mp h with h | ⟨_, _, h⟩
    · exact refuses_found h
    · rcases Outcome.bind_eq_error.mp h with h | ⟨_, _, h⟩
      · exact refuses_checkVersion h
      · cases h
  | reviewToken _ | checkAccess _ | deletePods _ _ => cases h

end Objects

/-! ### Calls of bearers -/

namespace ClusterState

variable {s : ClusterState} {supply : Supply} {now : Timestamp} {who : Client} {call : Call}
  {token user : String}

/-- Without failures waiting, a call is answered by whoever stops it first: the caller has to be
known, then nobody may refuse it, and then its effect answers. -/
theorem step_eq (hfaults : s.faults = []) :
    (s.step supply now who call).1 =
      match s.objects.userOf? who with
      | none => .error .unauthorized
      | some user =>
        match s.refusal? who user call with
        | some e => .error e
        | none => (s.objects.apply (s.draw supply now) who user call).map Prod.snd := by
  have hfault : takeFault call.operation (s.recorded who call).faults = none := by
    show takeFault call.operation s.faults = none
    rw [hfaults, takeFault_nil]
  unfold step
  dsimp only
  rw [hfault]
  show Prod.fst (match s.objects.userOf? who with
    | none => _
    | some user => match s.refusal? who user call with
      | some e => _
      | none => (s.recorded who call).perform supply now who user call) = _
  cases s.objects.userOf? who with
  | none => rfl
  | some user =>
    dsimp only
    cases s.refusal? who user call with
    | some e => rfl
    | none =>
      have hdrawn : (s.recorded who call).objects.apply ((s.recorded who call).draw supply now) who
          user call = s.objects.apply (s.draw supply now) who user call := rfl
      unfold perform
      rw [hdrawn]
      cases s.objects.apply (s.draw supply now) who user call with
      | error e => rfl
      | ok outcome => rfl

/-- A call by someone unknown. -/
theorem step_of_unknown (hfaults : s.faults = []) (huser : s.objects.userOf? who = none) :
    (s.step supply now who call).1 = .error .unauthorized := by
  rw [step_eq hfaults, huser]

/-- A bearer is refused exactly what its rules do not allow. -/
theorem refusal?_bearer {check : AccessCheck} (haccess : call.access? s.resource = some check) :
    (∃ reason, s.refusal? (.bearer token) user call = some (.forbidden reason)) ↔
      s.objects.permits user check = false := by
  unfold refusal?
  rw [haccess]
  dsimp only
  cases s.objects.permits user check with
  | true => simp
  | false => simp

/-- Whatever refuses a call says that it is forbidden. -/
theorem forbidden_of_refusal? {e : ClusterError} (h : s.refusal? who user call = some e) :
    ∃ reason, e = .forbidden reason := by
  unfold refusal? at h
  split at h
  · split at h
    · cases h
    · cases h; exact ⟨_, rfl⟩
  · cases h

/-- What a bearer is told about its rights. -/
theorem step_checkAccess {check : AccessCheck} (hfaults : s.faults = [])
    (huser : s.objects.tokens.get? token = some user) :
    ∃ decision, (s.step supply now (.bearer token) (.checkAccess check)).1 = .ok decision ∧
      decision.allowed = s.objects.permits user check := by
  have hknown : s.objects.userOf? (.bearer token) = some user := huser
  have hrefusal : s.refusal? (.bearer token) user (.checkAccess check) = none := rfl
  refine ⟨s.objects.decide (.bearer token) user check, ?_, ?_⟩
  · rw [step_eq hfaults, hknown]
    dsimp only
    rw [hrefusal]
    rfl
  · unfold Objects.decide
    dsimp only
    cases s.objects.permits user check with
    | true => rfl
    | false => rfl

/-- A call of a known bearer is forbidden exactly when its rules do not allow it, and never said to
come from someone unknown. -/
theorem step_of_known {check : AccessCheck} (hfaults : s.faults = [])
    (huser : s.objects.tokens.get? token = some user)
    (haccess : call.access? s.resource = some check) :
    (s.step supply now (.bearer token) call).1 ≠ .error .unauthorized ∧
      ((∃ reason, (s.step supply now (.bearer token) call).1 = .error (.forbidden reason)) ↔
        s.objects.permits user check = false) := by
  have hknown : s.objects.userOf? (.bearer token) = some user := huser
  rw [← refusal?_bearer haccess, step_eq hfaults, hknown]
  dsimp only
  cases hrefusal : s.refusal? (.bearer token) user call with
  | some e =>
    obtain ⟨reason, rfl⟩ := forbidden_of_refusal? hrefusal
    exact ⟨nofun, ⟨fun _ => ⟨reason, rfl⟩, fun _ => ⟨reason, rfl⟩⟩⟩
  | none =>
    dsimp only
    cases happly : s.objects.apply (s.draw supply now) (.bearer token) user call with
    | ok outcome => exact ⟨nofun, ⟨nofun, nofun⟩⟩
    | error e =>
      -- The effect fails for reasons of its own.
      have hother := Objects.refuses_of_apply happly
      refine ⟨?_, ?_, nofun⟩
      · rintro ⟨⟩
        cases hother
      · rintro ⟨reason, ⟨⟩⟩
        cases hother

/-- Every call but the check itself needs what its operation does, in the place it is about. -/
theorem access?_of_ne (resource : SessionResource) (hcall : ∀ check, call ≠ .checkAccess check) :
    ∃ check, call.access? resource = some check ∧
      (call.operation, check.group, check.resource, check.verb) ∈ Operation.needs resource ∧
      check.ns = call.place := by
  cases call with
  | checkAccess check => exact absurd rfl (hcall check)
  | _ => exact ⟨_, rfl, by simp [Operation.needs, Call.operation, Call.rbacGroup], rfl⟩

/-- About sessions it is the verb on the custom resource that holds them. -/
theorem access?_of_session {resource : SessionResource} {check : AccessCheck} {ref : ObjectRef}
    (hsession : call.session? = some ref) (haccess : call.access? resource = some check) :
    check.group = resource.group ∧ check.resource = resource.plural ++ call.subresource ∧
      check.ns = ref.ns := by
  cases call with
  | getSession | patchSessionAnnotations | updateSession =>
    cases hsession
    cases haccess
    exact ⟨rfl, String.append_empty.symm, rfl⟩
  | updateSessionStatus =>
    cases hsession
    cases haccess
    exact ⟨rfl, rfl, rfl⟩
  | _ => cases hsession

/-- **Refusals are what the check foretells.**  In every state without failures waiting, a call of a
bearer is unauthorized exactly when the token stands for nobody.  Else the same bearer is told,
when it asks, whether it is allowed what the call needs by the table, and the call is forbidden
exactly when it is told that it is not.  A call that is refused in either way leaves every object,
token and grant as it was. -/
theorem step_enforced (s : ClusterState) (supply : Supply) (now : Timestamp) (token : String)
    (call : Call) (hcall : ∀ check, call ≠ .checkAccess check) (hfaults : s.faults = []) :
    let answer := s.step supply now (.bearer token) call
    (answer.1 = .error .unauthorized ↔ s.objects.tokens.get? token = none) ∧
      (s.objects.tokens.get? token ≠ none →
        ∃ check decision, call.access? s.resource = some check ∧
          ((call.operation, check.group, check.resource, check.verb) ∈ Operation.needs s.resource ∧
            check.ns = call.place) ∧
          (∀ ref, call.session? = some ref → check.group = s.resource.group ∧
            check.resource = s.resource.plural ++ call.subresource ∧ check.ns = ref.ns) ∧
          (s.step supply now (.bearer token) (.checkAccess check)).1 = .ok decision ∧
          ((∃ reason, answer.1 = .error (.forbidden reason)) ↔ decision.allowed = false)) ∧
      (∀ e, answer.1 = .error e → e.refuses = true → answer.2.objects = s.objects) := by
  intro answer
  obtain ⟨check, haccess, hneeds⟩ := access?_of_ne s.resource hcall
  refine ⟨?_, ?_, fun e he _ => (step_error (Prod.ext he rfl)).1⟩
  · cases huser : s.objects.tokens.get? token with
    | none => exact iff_of_true (step_of_unknown hfaults huser) rfl
    | some user => exact iff_of_false (step_of_known hfaults huser haccess).1 nofun
  · intro hknown
    obtain ⟨user, huser⟩ := Option.ne_none_iff_exists'.mp hknown
    obtain ⟨decision, hdecision, hallowed⟩ := step_checkAccess hfaults huser
    refine ⟨check, decision, haccess, hneeds,
      fun ref hsession => access?_of_session hsession haccess, hdecision, ?_⟩
    rw [hallowed]
    exact (step_of_known hfaults huser haccess).2

/-- A machine identity that its role lets read sessions in its namespace, and patch none: it is told
so, and the patch is forbidden although the session is not even there. -/
theorem step_enforced_reader :
    let reader : ObjectRef := ⟨"team", "reader"⟩
    let s : ClusterState := { objects := {
      roles := SortedMap.ofList
        [(reader, ⟨reader, [⟨["*"], ["agenticsessions"], ["get"]⟩], [], none⟩)]
      bindings := SortedMap.ofList
        [(reader, ⟨reader, "reader", [⟨"ServiceAccount", "reader", none⟩], [], none⟩)]
      tokens := SortedMap.ofList [("t", Identity.user reader)] } }
    let supply : Supply := ⟨toString, toString⟩
    let call : Call := .patchSessionAnnotations ⟨"team", "alpha"⟩ ∅
    let answer := s.step supply (.ofSeconds 0) (.bearer "t") call
    ∃ check decision, call.access? s.resource = some check ∧ check.verb = "patch" ∧
      check.ns = "team" ∧
      (s.step supply (.ofSeconds 0) (.bearer "t") (.checkAccess check)).1 = .ok decision ∧
      decision.allowed = false ∧ (∃ reason, answer.1 = .error (.forbidden reason)) ∧
      answer.2.objects = s.objects := by
  intro reader s supply call answer
  have huser : s.objects.tokens.get? "t" = some (Identity.user reader) := by decide +kernel
  obtain ⟨_, hchecked, hkept⟩ :=
    step_enforced s supply (.ofSeconds 0) "t" call (fun _ => nofun) rfl
  obtain ⟨check, decision, haccess, hneeds, hsession, hdecision, hforbidden⟩ :=
    hchecked (Option.ne_none_iff_exists'.mpr ⟨_, huser⟩)
  have hdenied : decision.allowed = false := by
    obtain ⟨told, htold, hallowed⟩ :
        ∃ told, (s.step supply (.ofSeconds 0) (.bearer "t") (.checkAccess check)).1 = .ok told ∧
          told.allowed = s.objects.permits (Identity.user reader) check :=
      step_checkAccess rfl huser
    rw [Except.ok.inj (hdecision.symm.trans htold), hallowed, ← Option.some.inj haccess]
    decide +kernel
  obtain ⟨reason, hreason⟩ := hforbidden.mpr hdenied
  obtain ⟨_, _, hverb⟩ : check.group = s.resource.group ∧ check.resource = s.resource.plural ∧
      check.verb = "patch" := by simpa [Operation.needs, call, Call.operation] using hneeds.1
  exact ⟨check, decision, haccess, hverb, (hsession _ rfl).2.2, hdecision, hdenied,
    ⟨reason, hreason⟩, hkept _ hreason rfl⟩

end ClusterState

end CredentialBroker
