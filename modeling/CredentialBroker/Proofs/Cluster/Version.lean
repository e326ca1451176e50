import CredentialBroker.Proofs.Cluster.Kept

namespace CredentialBroker

/-!
# Versions

A cluster draws a version for every session, role, role binding and secret it writes, all from one
counter, and never draws one twice.  A `Chronicle` lists the objects that a cluster has held; two of
them with the same version are the same object.  So when a write is accepted because it names the
version that is stored, the object it was made from, however long ago it was read, is the one it
replaces.

* `Objects.apply_result` — a call stores the object it answers with, under the version drawn, or
  stores nothing that carries a version;
* `ClusterState.step_evolves` — so a call stores one object at most, under a version not drawn
  before;
* `Numbered.concat` — an object under the next version is told apart from those before it;
* `Chronicle.extend` — the chronicle goes on with the cluster.
-/

/-- Versions are told apart by their numbers. -/
theorem toString_injective {m n : Nat} (h : toString m = toString n) : m = n := by
  have hdigits : Nat.toDigits 10 m = Nat.toDigits 10 n := by
    simpa only [Nat.toString_eq_ofList_toDigits, String.ofList_inj] using h
  rw [← Nat.ofDigitChars_ten_toDigits (n := m), hdigits, Nat.ofDigitChars_ten_toDigits]

/-- An object that carries a version. -/
inductive VersionedObject where
  /-- A session. -/
  | session (s : Session)
  /-- A role. -/
  | role (r : Role)
  /-- A role binding. -/
  | binding (b : RoleBinding)
  /-- A secret. -/
  | secret (s : Secret)

namespace VersionedObject

/-- The version of an object. -/
def version : VersionedObject → Option String
  | .session s => s.metadata.resourceVersion
  | .role r => r.resourceVersion
  | .binding b => b.resourceVersion
  | .secret s => s.resourceVersion

/-- Whether an object is stored, just as it is. -/
def StoredIn (o : Objects) : VersionedObject → Prop
  | .session s => ∃ ref, o.sessions.get? ref = some s
  | .role r => ∃ ref, o.roles.get? ref = some r
  | .binding b => ∃ ref, o.bindings.get? ref = some b
  | .secret s => ∃ ref, o.secrets.get? ref = some s

/-- The objects with one more stored at an address. -/
def storeAt (ref : ObjectRef) (o : Objects) : VersionedObject → Objects
  | .session s => { o with sessions := o.sessions.insert ref s }
  | .role r => { o with roles := o.roles.insert ref r }
  | .binding b => { o with bindings := o.bindings.insert ref b }
  | .secret s => { o with secrets := o.secrets.insert ref s }

variable {o : Objects} {ref : ObjectRef} {a new : VersionedObject}

/-- What is stored depends on the four tables of objects that carry versions. -/
theorem storedIn_congr {o' : Objects} (hsessions : o'.sessions = o.sessions)
    (hroles : o'.roles = o.roles) (hbindings : o'.bindings = o.bindings)
    (hsecrets : o'.secrets = o.secrets) : a.StoredIn o' ↔ a.StoredIn o := by
  cases a with
  | session => simp only [StoredIn, hsessions]
  | role => simp only [StoredIn, hroles]
  | binding => simp only [StoredIn, hbindings]
  | secret => simp only [StoredIn, hsecrets]

theorem storedIn_storeAt_self : new.StoredIn (new.storeAt ref o) := by
  cases new <;> exact ⟨ref, SortedMap.get?_insert_self _ _ _⟩

/-- Storing an object brings no other one. -/
theorem storedIn_storeAt (h : a.StoredIn (new.storeAt ref o)) : a = new ∨ a.StoredIn o := by
  -- A table of another kind is the same one, and the same table has one entry more.
  cases new with
  | session s =>
    cases a with
    | session => exact (SortedMap.exists_get?_insert h).imp_left (congrArg VersionedObject.session)
    | role | binding | secret => exact .inr h
  | role r =>
    cases a with
    | role => exact (SortedMap.exists_get?_insert h).imp_left (congrArg VersionedObject.role)
    | session | binding | secret => exact .inr h
  | binding b =>
    cases a with
    | binding => exact (SortedMap.exists_get?_insert h).imp_left (congrArg VersionedObject.binding)
    | session | role | secret => exact .inr h
  | secret s =>
    cases a with
    | secret => exact (SortedMap.exists_get?_insert h).imp_left (congrArg VersionedObject.secret)
    | session | role | binding => exact .inr h

end VersionedObject

/-! ### Calls -/

/-- The object in the answer to a call, when it is one that carries a version. -/
def Call.result : (call : Call) → call.Reply → Option VersionedObject
  | .getSession _, s => some (.session s)
  | .patchSessionAnnotations .., s => some (.session s)
  | .updateSession _, s => some (.session s)
  | .updateSessionStatus _, s => some (.session s)
  | .getRole _, r => some (.role r)
  | .createRole _, r => some (.role r)
  | .updateRole _, r => some (.role r)
  | .getRoleBinding _, b => some (.binding b)
  | .createRoleBinding _, b => some (.binding b)
  | .updateRoleBinding _, b => some (.binding b)
  | .getSecret _, s => some (.secret s)
  | .createSecret _, s => some (.secret s)
  | .updateSecret _, s => some (.secret s)
  | _, _ => none

namespace Objects

variable {d : Draw} {who : Client} {user : String} {o o' : Objects} {call : Call}
  {reply : call.Reply}

/-- **Answers of calls.**  An admitted call stores the object it answers with under the version
drawn for it; or no object that carries a version comes or goes, and one it answers with is
stored. -/
theorem apply_result (h : o.apply d who user call = .ok (o', reply)) :
    (∃ ref new, call.result reply = some new ∧ new.version = some d.version ∧
      (call.isWrite || call.isCreation) = true ∧ o' = new.storeAt ref o) ∨
    ((∀ a : VersionedObject, a.StoredIn o' ↔ a.StoredIn o) ∧
      ∀ a, call.result reply = some a → a.StoredIn o) := by
  cases call with
  | getSession ref =>
    obtain ⟨rfl, hstored⟩ := apply_getSession.mp h
    exact .inr ⟨fun _ => .rfl, fun a ha => Option.some.inj ha ▸ ⟨ref, hstored⟩⟩
  | getRole ref =>
    obtain ⟨rfl, hstored⟩ := apply_getRole.mp h
    exact .inr ⟨fun _ => .rfl, fun a ha => Option.some.inj ha ▸ ⟨ref, hstored⟩⟩
  | getRoleBinding ref =>
    obtain ⟨rfl, hstored⟩ := apply_getRoleBinding.mp h
    exact .inr ⟨fun _ => .rfl, fun a ha => Option.some.inj ha ▸ ⟨ref, hstored⟩⟩
  | getSecret ref =>
    obtain ⟨rfl, hstored⟩ := apply_getSecret.mp h
    exact .inr ⟨fun _ => .rfl, fun a ha => Option.some.inj ha ▸ ⟨ref, hstored⟩⟩
  | patchSessionAnnotations ref annotations =>
    obtain ⟨stored, _, rfl, rfl⟩ := apply_patchSession.mp h
    exact .inl ⟨ref, _, rfl, rfl, rfl, rfl⟩
  | updateSession session =>
    obtain ⟨stored, _, _, rfl, rfl⟩ := updateSession_eq_ok.mp h
    exact .inl ⟨session.ref, _, rfl, rfl, rfl, rfl⟩
  | updateSessionStatus session =>
    obtain ⟨stored, _, _, rfl, rfl⟩ := updateSessionStatus_eq_ok.mp h
    exact .inl ⟨session.ref, _, rfl, rfl, rfl, rfl⟩
  | createRole role =>
    obtain ⟨_, rfl, rfl⟩ := apply_createRole.mp h
    exact .inl ⟨role.ref, _, rfl, rfl, rfl, rfl⟩
  | updateRole role =>
    obtain ⟨_, rfl, rfl⟩ := apply_updateRole.mp h
    exact .inl ⟨role.ref, _, rfl, rfl, rfl, rfl⟩
  | createRoleBinding binding =>
    obtain ⟨_, rfl, rfl⟩ := apply_createRoleBinding.mp h
    exact .inl ⟨binding.ref, _, rfl, rfl, rfl, rfl⟩
  | updateRoleBinding binding =>
    obtain ⟨_, rfl, rfl⟩ := apply_updateRoleBinding.mp h
    exact .inl ⟨binding.ref, _, rfl, rfl, rfl, rfl⟩
  | createSecret secret =>
    obtain ⟨_, rfl, rfl⟩ := apply_createSecret.mp h
    exact .inl ⟨secret.ref, _, rfl, rfl, rfl, rfl⟩
  | updateSecret secret =>
    obtain ⟨_, rfl, rfl⟩ := apply_updateSecret.mp h
    exact .inl ⟨secret.ref, _, rfl, rfl, rfl, rfl⟩
  -- The tables of accounts, tokens, jobs and pods hold nothing that carries a version.
  | reviewToken | checkAccess | deletePods =>
    cases h
    exact .inr ⟨fun _ => VersionedObject.storedIn_congr rfl rfl rfl rfl, fun _ ha => by cases ha⟩
  | getServiceAccount | createServiceAccount | patchServiceAccountAnnotations | createToken
  | deleteJob =>
    simp only [apply, Outcome.bind_eq_ok] at h
    obtain ⟨_, _, h⟩ := h
    cases h
    exact .inr ⟨fun _ => VersionedObject.storedIn_congr rfl rfl rfl rfl, fun _ ha => by cases ha⟩

end Objects

/-! ### Steps -/

namespace ClusterState

variable {supply : Supply} {now : Timestamp} {who : Client} {call : Call} {s t : ClusterState}

/-- How the objects that carry versions can change: some go, or one is stored under the next
version. -/
inductive Evolves (s t : ClusterState) : Prop where
  /-- None comes. -/
  | kept (hversions : s.versions ≤ t.versions)
      (h : ∀ a : VersionedObject, a.StoredIn t.objects → a.StoredIn s.objects)
  /-- One is stored. -/
  | written (ref : ObjectRef) (new : VersionedObject) (hversions : t.versions = s.versions + 1)
      (hversion : new.version = some (toString (s.versions + 1)))
      (h : t.objects = new.storeAt ref s.objects)

/-- A call that succeeds draws a version when it is one that writes. -/
theorem step_versions {reply : call.Reply} (h : s.step supply now who call = (.ok reply, t)) :
    t.versions = s.versions + (call.isWrite || call.isCreation).toNat := by
  unfold step at h
  dsimp only at h
  split at h
  · cases h
  · split at h
    · cases h
    · split at h
      · cases h
      · unfold perform at h
        split at h <;> cases h
        rfl

/-- No call takes a version back. -/
theorem versions_le_step : s.versions ≤ (s.step supply now who call).2.versions := by
  unfold step
  dsimp only
  split
  · exact Nat.le_refl _
  · split
    · exact Nat.le_refl _
    · split
      · exact Nat.le_refl _
      · unfold perform
        split <;> exact Nat.le_add_right _ _

/-- **Versions and calls.**  A call that fails stores nothing, and one that succeeds stores one
object at most, under the next version. -/
theorem step_evolves (who : Client) (call : Call) :
    s.Evolves (s.step supply now who call).2 := by
  have hle : s.versions ≤ (s.step supply now who call).2.versions := versions_le_step
  cases h : s.step supply now who call with
  | mk x t =>
    rw [h] at hle
    cases x with
    | error e => exact .kept hle fun a ha => (step_error h).1 ▸ ha
    | ok reply =>
      obtain ⟨_, user, _, _, happly, _⟩ := step_eq_ok h
      rcases Objects.apply_result happly with ⟨ref, new, _, hversion, hdraws, hobjects⟩ | ⟨hsame, _⟩
      · refine .written ref new ?_ hversion hobjects
        rw [step_versions h, hdraws]
        rfl
      · exact .kept hle fun a => (hsame a).mp

end ClusterState

/-! ### Chronicles -/

/-- Objects that have versions drawn so far, no two of them the same. -/
structure Numbered {α : Type} (version : α → Option String) (drawn : Nat) (history : List α) :
    Prop where
  /-- Each has a version that was drawn. -/
  numbered : ∀ a ∈ history, ∃ n ≤ drawn, version a = some (toString n)
  /-- No two have the same version. -/
  unique : ∀ a ∈ history, ∀ b ∈ history, version a = version b → a = b

namespace Numbered

variable {α : Type} {version : α → Option String} {history : List α} {drawn n : Nat} {new : α}

theorem nil : Numbered version drawn [] where
  numbered _ ha := absurd ha List.not_mem_nil
  unique _ ha := absurd ha List.not_mem_nil

theorem mono (h : Numbered version drawn history) (hle : drawn ≤ n) :
    Numbered version n history := by
  refine ⟨fun a ha => ?_, h.unique⟩
  obtain ⟨k, hk, hversion⟩ := h.numbered a ha
  exact ⟨k, by omega, hversion⟩

/-- The next version is one that no object has. -/
theorem ne_next (h : Numbered version drawn history) :
    ∀ a ∈ history, version a ≠ some (toString (drawn + 1)) := by
  intro a ha heq
  obtain ⟨k, hk, hnumber⟩ := h.numbered a ha
  rw [hnumber, Option.some.injEq] at heq
  have := toString_injective heq
  omega

/-- An object under the next version goes last. -/
theorem concat (h : Numbered version drawn history)
    (hnew : version new = some (toString (drawn + 1))) :
    Numbered version (drawn + 1) (history ++ [new]) := by
  have hlast : ∀ {a}, a ∈ history ++ [new] → a ∈ history ∨ a = new := fun ha => by
    simpa only [List.mem_append, List.mem_singleton] using ha
  refine ⟨?numbered, ?unique⟩
  case numbered =>
    intro a ha
    rcases hlast ha with hold | rfl
    · exact (h.mono (Nat.le_succ _)).numbered a hold
    · exact ⟨drawn + 1, Nat.le_refl _, hnew⟩
  case unique =>
    intro a ha b hb heq
    rcases hlast ha with hold | rfl <;> rcases hlast hb with hold' | rfl
    · exact h.unique a hold b hold' heq
    · exact absurd (heq.trans hnew) (h.ne_next a hold)
    · exact absurd (heq.symm.trans hnew) (h.ne_next b hold')
    · rfl

end Numbered

/-- The objects that carry versions that a cluster has held, oldest first. -/
structure Chronicle (s : ClusterState) (history : List VersionedObject) : Prop where
  /-- What is stored is among them. -/
  stored : ∀ a : VersionedObject, a.StoredIn s.objects → a ∈ history
  /-- Their versions were drawn and tell them apart. -/
  numbered : Numbered VersionedObject.version s.versions history

namespace Chronicle

variable {s t : ClusterState} {history : List VersionedObject}

/-- Before anything is stored. -/
theorem nil (resource : SessionResource) : Chronicle { resource := resource } [] := by
  refine ⟨fun a h => ?_, .nil⟩
  cases a <;> (obtain ⟨ref, h⟩ := h; cases (SortedMap.get?_empty ref).symm.trans h)

/-- **Chronicles go on.**  A new object has a version that none before it has. -/
theorem extend (hc : Chronicle s history) (h : s.Evolves t) :
    ∃ added, Chronicle t (history ++ added) := by
  cases h with
  | kept hversions hkept =>
    refine ⟨[], ?_⟩
    rw [List.append_nil]
    exact ⟨fun a h => hc.stored a (hkept a h), hc.numbered.mono hversions⟩
  | written ref new hversions hversion hobjects =>
    refine ⟨[new], fun a h => ?_, ?_⟩
    · rw [hobjects] at h
      rcases VersionedObject.storedIn_storeAt h with rfl | hold
      · exact List.mem_append_right _ List.mem_cons_self
      · exact List.mem_append_left _ (hc.stored a hold)
    · rw [hversions]
      exact hc.numbered.concat hversion

/-- A stored object has a version. -/
theorem version_isSome (hc : Chronicle s history) {a : VersionedObject} (ha : a ∈ history) :
    a.version.isSome = true := by
  obtain ⟨n, _, hn⟩ := hc.numbered.numbered a ha
  exact Option.isSome_iff_exists.mpr ⟨_, hn⟩

theorem session_eq (hc : Chronicle s history) {a b : Session} (ha : .session a ∈ history)
    (hb : .session b ∈ history) (h : a.metadata.resourceVersion = b.metadata.resourceVersion) :
    a = b :=
  VersionedObject.session.inj (hc.numbered.unique _ ha _ hb h)

theorem secret_eq (hc : Chronicle s history) {a b : Secret} (ha : .secret a ∈ history)
    (hb : .secret b ∈ history) (h : a.resourceVersion = b.resourceVersion) : a = b :=
  VersionedObject.secret.inj (hc.numbered.unique _ ha _ hb h)

end Chronicle

end CredentialBroker
