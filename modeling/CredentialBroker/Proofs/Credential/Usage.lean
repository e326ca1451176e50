import CredentialBroker.Credential.Usage
import CredentialBroker.Proofs.Cluster.Step
import CredentialBroker.Proofs.Credential.Runner
import CredentialBroker.Proofs.Effect.Execution

namespace CredentialBroker.Usage

/-!
# What noting the use of access keys changes

The use of a token is noted as the platform, for whoever the token claims to be for, and the token
may be anything.  So what is noted is bounded by the objects that are there: the time of the last
use, on one identity, and only if that identity is an access key.

* `Noted` — all that a note may change;
* `program_follows` — the calls of a note;
* `step_noted` — those calls keep within `Noted`.
-/

variable {token : String} {account : ObjectRef} {stored : ServiceAccount} {o o' : Objects}

/-- The token claims to be for an identity, which is there and is an access key. -/
structure IsKeyOf (token : String) (o : Objects) (account : ObjectRef) (stored : ServiceAccount) :
    Prop where
  /-- The identity is the one that the token names as its subject. -/
  claimed : ∃ subject, Bearer.claimedSubject? token = some subject ∧
    Identity.IsSubject account.ns account.name subject
  /-- It is there. -/
  there : o.accounts.get? account = some stored
  /-- It is an access key. -/
  label : stored.labels.get? "app" = some accessKeyLabel

/-- An identity with the time of its last use on it. -/
def usedAt (stored : ServiceAccount) (time : String) : ServiceAccount :=
  { stored with annotations := stored.annotations.insert lastUsedKey time }

/-- The objects are as they were, but for the time of the last use on the access key that the token
claims to be for. -/
def Noted (token : String) (o o' : Objects) : Prop :=
  o' = o ∨ ∃ account stored time, IsKeyOf token o account stored ∧
    o' = { o with accounts := o.accounts.insert account (usedAt stored time) }

theorem Noted.refl (token : String) (o : Objects) : Noted token o o := .inl rfl

/-- No token is added or taken away by a note. -/
theorem Noted.tokens (h : Noted token o o') : o'.tokens = o.tokens := by
  obtain rfl | ⟨_, _, _, _, rfl⟩ := h
  · rfl
  · rfl

theorem target?_eq_some_iff : target? token = some account ↔
    ∃ subject, Bearer.claimedSubject? token = some subject ∧
      Identity.IsSubject account.ns account.name subject := by
  unfold target?
  rw [Option.bind_eq_some_iff]
  simp only [Identity.isSubject_iff]

/-- Identities keep their labels. -/
theorem Noted.labels (h : Noted token o o') {ref : ObjectRef} {found : ServiceAccount}
    (hfound : o'.accounts.get? ref = some found) :
    ∃ stored, o.accounts.get? ref = some stored ∧ found.labels = stored.labels := by
  obtain rfl | ⟨account, stored, time, hkey, rfl⟩ := h
  · exact ⟨found, hfound, rfl⟩
  · rw [SortedMap.get?_insert] at hfound
    split at hfound
    · next href =>
      subst href
      rw [← Option.some.inj hfound]
      exact ⟨stored, hkey.there, rfl⟩
    · exact ⟨found, hfound, rfl⟩

theorem union_time (m : SortedMap String String) (time : String) :
    m.union (SortedMap.ofList [(lastUsedKey, time)]) = m.insert lastUsedKey time :=
  SortedMap.union_ofList m _

/-- A time that is noted takes the place of the one before. -/
theorem Noted.again (h : Noted token o o') (hkey : IsKeyOf token o account stored)
    {found : ServiceAccount} (hfound : o'.accounts.get? account = some found) {time : String} :
    Noted token o { o' with accounts := o'.accounts.insert account (usedAt found time) } := by
  obtain rfl | ⟨account', stored', time', hkey', rfl⟩ := h
  · obtain rfl : stored = found := Option.some.inj (hkey.there.symm.trans hfound)
    exact .inr ⟨account, stored, time, hkey, rfl⟩
  · -- There is one identity that the token claims to be for.
    have htarget : target? token = some account := target?_eq_some_iff.mpr hkey.claimed
    have htarget' : target? token = some account' := target?_eq_some_iff.mpr hkey'.claimed
    obtain rfl : account = account' := Option.some.inj (htarget.symm.trans htarget')
    rw [SortedMap.get?_insert_self] at hfound
    obtain rfl : usedAt stored' time' = found := Option.some.inj hfound
    refine .inr ⟨account, stored', time, hkey', ?_⟩
    rw [SortedMap.insert_insert]
    dsimp only [usedAt]
    rw [SortedMap.insert_insert]

/-! ### Calls -/

/-- A call of a note: as the platform, the identity is read, and if it is an access key the time is
written on it. -/
def Asks (token : String) (o : Objects) (who : Client) (call : Call) : Prop :=
  who = .platform ∧ ∃ account, target? token = some account ∧
    (call = .getServiceAccount account ∨ ∃ stored time, IsKeyOf token o account stored ∧
      call = .patchServiceAccountAnnotations account (SortedMap.ofList [(lastUsedKey, time)]))

/-- What an identity that is read tells: its labels. -/
def Tells (o : Objects) : (call : Call) → call.Reply → Prop
  | .getServiceAccount ref, found =>
    ∃ stored, o.accounts.get? ref = some stored ∧ found.labels = stored.labels
  | _, _ => True

/-- Nothing is written unless what was read is an access key. -/
theorem note_follows (htarget : target? token = some account) :
    (note account).Follows (.ofCalls (Asks token o) (Tells o)) fun _ => True := by
  have hread : (Action.cluster .platform (.getServiceAccount account)).Follows
      (.ofCalls (Asks token o) (Tells o)) (Tells o (.getServiceAccount account)) := by
    refine Action.follows_cluster ?_ fun found hfound => hfound found rfl
    exact ⟨rfl, account, htarget, .inl rfl⟩
  unfold note
  refine Action.follows_bind hread fun found hfound => ?_
  obtain ⟨stored, hstored, hlabels⟩ := hfound
  split
  · next hlabel =>
    have hkey : IsKeyOf token o account stored :=
      ⟨target?_eq_some_iff.mp htarget, hstored, hlabels ▸ hlabel⟩
    refine Action.follows_bind (Action.follows_clock trivial) fun now _ => ?_
    have hwrite : (Action.cluster .platform (.patchServiceAccountAnnotations account
        (SortedMap.ofList [(lastUsedKey, now.secondText)]))).Follows
          (.ofCalls (Asks token o) (Tells o)) fun _ => True := by
      refine Action.follows_call ?_
      exact ⟨rfl, account, htarget, .inr ⟨stored, now.secondText, hkey, rfl⟩⟩
    exact hwrite
  · exact Action.follows_done

/-- **Calls of a note.**  Whatever the token is, what is done beside a request keeps to them. -/
theorem program_follows (enabled : Bool) (token : String) (o : Objects) :
    (program enabled token).Follows (.ofCalls (Asks token o) (Tells o)) fun _ => True := by
  unfold program
  split
  · next account htarget =>
    refine Program.follows_bind.mpr ?_
    exact (Action.follows_iff.mp (note_follows htarget)).mono (fun _ => id) (fun _ _ => id)
      fun _ _ => trivial
  · trivial

/-- **A note is contained.**  The calls of a note change nothing but the time of the last use. -/
theorem step_noted {supply : Supply} {now : Timestamp} {s : ClusterState} {who : Client}
    {call : Call} (h : Noted token o s.objects) (hasks : Asks token o who call) :
    Noted token o (s.step supply now who call).2.objects ∧
      ∀ v, (s.step supply now who call).1 = .ok v → Tells o call v := by
  obtain ⟨_, account, htarget, hcall⟩ := hasks
  cases hstep : s.step supply now who call with
  | mk x t =>
    cases x with
    | error e =>
      refine ⟨?_, nofun⟩
      rw [(ClusterState.step_error hstep).1]
      exact h
    | ok v =>
      obtain ⟨_, _, _, _, happly, _⟩ := ClusterState.step_eq_ok hstep
      obtain rfl | ⟨stored, time, hkey, rfl⟩ := hcall
      · obtain ⟨hobjects, hfound⟩ := Objects.apply_getServiceAccount.mp happly
        refine ⟨?_, ?_⟩
        · rw [hobjects]
          exact h
        · rintro _ ⟨⟩
          exact h.labels hfound
      · obtain ⟨found, hfound, hobjects⟩ := Objects.apply_patchServiceAccount.mp happly
        refine ⟨?_, fun _ _ => trivial⟩
        rw [hobjects, union_time]
        exact h.again hkey hfound

end CredentialBroker.Usage
