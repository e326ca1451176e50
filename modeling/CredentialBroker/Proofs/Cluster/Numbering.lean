import CredentialBroker.Proofs.Cluster.Reachable

namespace CredentialBroker

/-!
# Versions tell contents apart

Sessions, roles, role bindings and secrets draw their versions from one counter.  So a version
names one object and one state of it, however long a run goes on and whatever is removed and stored
again in between, and whoever writes with a version writes over what it names.

* `Objects.apply_sent` — an update that names a version is accepted for that version only;
* `ClusterState.run_chronicle` — the chronicle of a run has all that comes up in it;
* `ClusterState.run_versions_identify` — both together, of every run from an empty cluster.
-/

/-- The object of the same kind that is stored at the address of this one. -/
def VersionedObject.stored? (o : Objects) : VersionedObject → Option VersionedObject
  | .session s => (o.sessions.get? s.ref).map .session
  | .role r => (o.roles.get? r.ref).map .role
  | .binding b => (o.bindings.get? b.ref).map .binding
  | .secret s => (o.secrets.get? s.ref).map .secret

/-! ### Calls -/

/-- The object that a call sends to take the place of the one stored. -/
def Call.sent? : Call → Option VersionedObject
  | .updateSession s | .updateSessionStatus s => some (.session s)
  | .updateRole r => some (.role r)
  | .updateRoleBinding b => some (.binding b)
  | .updateSecret s => some (.secret s)
  | _ => none

namespace Objects

variable {d : Draw} {who : Client} {user : String} {o o' : Objects} {call : Call}
  {reply : call.Reply}

/-- An update that names a version is accepted where that version is stored, and its answer takes
the place of what is stored, under the version drawn. -/
theorem apply_sent {sent : VersionedObject} {version : String}
    (h : o.apply d who user call = .ok (o', reply)) (hsent : call.sent? = some sent)
    (hversion : sent.version = some version) :
    (∃ old, sent.stored? o = some old ∧ old.version = some version) ∧
      ∃ new, call.result reply = some new ∧ sent.stored? o' = some new ∧
        new.version = some d.version := by
  have named : ∀ {stored : Option String}, sent.version = none ∨ sent.version = stored →
      stored = some version := by
    rintro stored (hnone | hsame)
    · rw [hversion] at hnone; cases hnone
    · rw [← hsame, hversion]
  cases call with
  | updateSession session =>
    cases hsent
    obtain ⟨stored, hstored, hcheck, rfl, rfl⟩ := updateSession_eq_ok.mp h
    exact ⟨⟨.session stored, congrArg (Option.map VersionedObject.session) hstored,
        named (.inr (checkSession_eq_ok.mp hcheck).2)⟩, _, rfl,
      congrArg (Option.map VersionedObject.session) (SortedMap.get?_insert_self _ _ _), rfl⟩
  | updateSessionStatus session =>
    cases hsent
    obtain ⟨stored, hstored, hcheck, rfl, rfl⟩ := updateSessionStatus_eq_ok.mp h
    exact ⟨⟨.session stored, congrArg (Option.map VersionedObject.session) hstored,
        named (.inr (checkSession_eq_ok.mp hcheck).2)⟩, _, rfl,
      congrArg (Option.map VersionedObject.session) (SortedMap.get?_insert_self _ _ _), rfl⟩
  | updateRole role =>
    cases hsent
    obtain ⟨⟨old, hold, hold'⟩, rfl, rfl⟩ := apply_updateRole.mp h
    exact ⟨⟨.role old, congrArg (Option.map VersionedObject.role) hold, named hold'⟩, _, rfl,
      congrArg (Option.map VersionedObject.role) (SortedMap.get?_insert_self _ _ _), rfl⟩
  | updateRoleBinding binding =>
    cases hsent
    obtain ⟨⟨old, hold, hold'⟩, rfl, rfl⟩ := apply_updateRoleBinding.mp h
    exact ⟨⟨.binding old, congrArg (Option.map VersionedObject.binding) hold, named hold'⟩, _, rfl,
      congrArg (Option.map VersionedObject.binding) (SortedMap.get?_insert_self _ _ _), rfl⟩
  | updateSecret secret =>
    cases hsent
    obtain ⟨⟨old, hold, hold'⟩, rfl, rfl⟩ := apply_updateSecret.mp h
    exact ⟨⟨.secret old, congrArg (Option.map VersionedObject.secret) hold, named hold'⟩, _, rfl,
      congrArg (Option.map VersionedObject.secret) (SortedMap.get?_insert_self _ _ _), rfl⟩
  | getSession | patchSessionAnnotations | getServiceAccount | createServiceAccount
  | patchServiceAccountAnnotations | createToken | getRole | createRole | getRoleBinding
  | createRoleBinding | getSecret | createSecret | reviewToken | checkAccess | deleteJob
  | deletePods => cases hsent

end Objects

/-! ### Happenings -/

/-- The object that carries a version in the result of what happens to a cluster. -/
def Happening.result? (supply : Supply) (now : Timestamp) (s : ClusterState) :
    Happening → Option VersionedObject
  | .call who c =>
    match (s.step supply now who c).1 with
    | .ok reply => c.result reply
    | .error _ => none
  | .putSession session => some (.session (s.putSession supply session).1)
  | _ => none

namespace Happening

variable {supply : Supply} {now : Timestamp} {s : ClusterState}

/-- A result is stored when it is given. -/
theorem result?_stored (h : Happening) {a : VersionedObject}
    (hresult : h.result? supply now s = some a) : a.StoredIn (h.run supply now s).objects := by
  cases h with
  | call who c =>
    unfold result? at hresult
    dsimp only at hresult
    split at hresult
    · next reply hreply =>
      obtain ⟨_, user, _, _, happly, _⟩ := ClusterState.step_eq_ok (Prod.ext hreply rfl)
      rcases Objects.apply_result happly with ⟨ref, new, hnew, _, _, hobjects⟩ | ⟨hsame, hstored⟩
      · have hstored : new.StoredIn (s.step supply now who c).2.objects :=
          hobjects ▸ VersionedObject.storedIn_storeAt_self
        exact Option.some.inj (hnew.symm.trans hresult) ▸ hstored
      · exact (hsame a).mpr (hstored a hresult)
    · cases hresult
  | putSession session =>
    cases hresult
    exact ⟨session.ref, SortedMap.get?_insert_self _ _ _⟩
  | removeSession | putServiceAccount | putRole | putJob | addPod | registerToken | grant
  | failNext => cases hresult

end Happening

/-! ### Runs -/

namespace ClusterState

variable {s : ClusterState}

/-- The state that a run leads to. -/
def after (supply : Supply) : ClusterState → List (Timestamp × Happening) → ClusterState
  | s, [] => s
  | s, (now, h) :: run => after supply (h.run supply now s) run

/-- Whether an object comes up in a run: it is stored at some point, or the result of something that
happens. -/
def Shows (supply : Supply) :
    ClusterState → List (Timestamp × Happening) → VersionedObject → Prop
  | s, [], a => a.StoredIn s.objects
  | s, (now, h) :: run, a =>
    a.StoredIn s.objects ∨ h.result? supply now s = some a ∨ Shows supply (h.run supply now s) run a

/-- The chronicle of a run has all that came up in it. -/
theorem run_chronicle (supply : Supply) (run : List (Timestamp × Happening))
    {history : List VersionedObject} (ha : Chronicle s history) :
    ∃ added, Chronicle (s.after supply run) (history ++ added) ∧
      ∀ a, s.Shows supply run a → a ∈ history ++ added := by
  induction run generalizing s history with
  | nil =>
    refine ⟨[], ?_⟩
    rw [List.append_nil]
    exact ⟨ha, fun a => ha.stored a⟩
  | cons head run ih =>
    obtain ⟨now, h⟩ := head
    obtain ⟨first, hfirst⟩ := ha.extend (h.evolves supply now s)
    obtain ⟨rest, hrest, hshown⟩ := ih hfirst
    rw [List.append_assoc] at hrest hshown
    refine ⟨first ++ rest, hrest, ?_⟩
    rintro a (hstored | hresult | hlater)
    · exact List.mem_append_left _ (ha.stored a hstored)
    · have hthen := hfirst.stored a (h.result?_stored hresult)
      rw [← List.append_assoc]
      exact List.mem_append_left _ hthen
    · exact hshown a hlater

/-- **Versions tell contents apart.**  Take any run of a cluster from an empty one: calls by anyone,
failures let in, sessions stored, removed and stored again, and whatever else is arranged.  Two
objects that come up in it, wherever, are equal when they have the same version.  And an update that
names a version is accepted only where the object then stored has that version; its answer is stored
then, under a version that nothing in the run had before. -/
theorem run_versions_identify (supply : Supply) (resource : SessionResource)
    (run : List (Timestamp × Happening)) :
    let start : ClusterState := { resource := resource }
    let s := start.after supply run
    (∀ a b, start.Shows supply run a → start.Shows supply run b → a.version = b.version → a = b) ∧
      ∀ now who (call : Call) reply sent version, (s.step supply now who call).1 = .ok reply →
        call.sent? = some sent → sent.version = some version →
        (∃ old, sent.stored? s.objects = some old ∧ old.version = some version) ∧
        ∃ new fresh, call.result reply = some new ∧
          sent.stored? (s.step supply now who call).2.objects = some new ∧
          new.version = some fresh ∧ ∀ a, start.Shows supply run a → a.version ≠ some fresh := by
  intro start s
  obtain ⟨history, hchronicle, hshown⟩ := run_chronicle supply run (.nil resource)
  refine ⟨fun a b ha hb => hchronicle.numbered.unique a (hshown a ha) b (hshown b hb), ?_⟩
  intro now who call reply sent version hreply hsent hversion
  obtain ⟨_, user, _, _, happly, _⟩ := step_eq_ok (Prod.ext hreply rfl)
  obtain ⟨hold, new, hresult, hstored, hnew⟩ := Objects.apply_sent happly hsent hversion
  exact ⟨hold, new, _, hresult, hstored, hnew,
    fun a ha => hchronicle.numbered.ne_next a (hshown a ha)⟩

/-- A session is stored, read, removed and stored again: what was read first is the only object of
the first version, and an update of the second session gets a version of its own. -/
theorem run_versions_identify_stored_again :
    let alpha : Session := ⟨"", "", ⟨"alpha", "team", "", none, ∅, ∅, ∅⟩, default, default⟩
    let supply : Supply := ⟨toString, toString⟩
    let now : Timestamp := .ofSeconds 0
    let start : ClusterState := {}
    let run := [(now, Happening.putSession alpha), (now, .call .platform (.getSession alpha.ref)),
      (now, .removeSession alpha.ref), (now, .putSession alpha)]
    let s := start.after supply run
    let first := (start.putSession supply alpha).1
    let again := ((start.after supply (run.take 3)).putSession supply alpha).1
    (∀ b, start.Shows supply run b → b.version = some "1" → b = .session first) ∧
      ∃ (reply : Session) (fresh : String),
        (s.step supply now .platform (.updateSession again)).1 = .ok reply ∧
        reply.metadata.resourceVersion = some fresh ∧ fresh ≠ "1" ∧ fresh ≠ "2" := by
  intro alpha supply now start run s first again
  have hfirst : start.Shows supply run (.session first) := .inr (.inl rfl)
  have hagain : start.Shows supply run (.session again) :=
    .inr (.inr (.inr (.inr (.inr (.inr (.inr (.inl rfl)))))))
  have hone : (VersionedObject.session first).version = some "1" := by decide +kernel
  have htwo : (VersionedObject.session again).version = some "2" := by decide +kernel
  have hok : (s.step supply now .platform (.updateSession again)).1.isOk := by decide +kernel
  obtain ⟨reply, hreply⟩ :
      ∃ reply, (s.step supply now .platform (.updateSession again)).1 = .ok reply := by
    cases h : (s.step supply now .platform (.updateSession again)).1 with
    | ok reply => exact ⟨reply, rfl⟩
    | error e => rw [h] at hok; cases hok
  have hidentify := run_versions_identify supply {} run
  refine ⟨fun b hb hversion => hidentify.1 b _ hb hfirst (hversion.trans hone.symm), ?_⟩
  obtain ⟨_, new, fresh, hnew, _, hversion, hfresh⟩ :=
    hidentify.2 now .platform (.updateSession again) reply _ "2" hreply rfl htwo
  cases hnew
  refine ⟨reply, fresh, hreply, hversion, ?_, ?_⟩
  · rintro rfl
    exact hfresh _ hfirst hone
  · rintro rfl
    exact hfresh _ hagain htwo

end ClusterState

end CredentialBroker
