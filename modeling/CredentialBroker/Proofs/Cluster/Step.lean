import CredentialBroker.Proofs.Cluster.Effect

namespace CredentialBroker.ClusterState

/-!
# Steps of a cluster

A call that fails changes no object, and a call that succeeds was admitted and had its effect.

* `step_error_cases` — what a call that fails touches, and `step_error` — what it leaves alone;
* `step_eq_ok` — a success unfolded: no failure was waiting, the caller was known and allowed;
* `step_of_apply` — an admitted call succeeds when its effect does.
-/

variable {supply : Supply} {now : Timestamp} {who : Client} {call : Call} {s t : ClusterState}

/-- The caller is known and nobody refuses it the call. -/
def Allows (s : ClusterState) (who : Client) (call : Call) : Prop :=
  ∃ user, s.objects.userOf? who = some user ∧ s.refusal? who user call = none

/-- A call that fails touches the log of calls, the failures waiting and the number of versions.  Of
the failures it has used up the one it is answered with, or none. -/
theorem step_error_cases {e : ClusterError} (h : s.step supply now who call = (.error e, t)) :
    t = { s with calls := t.calls, faults := t.faults, versions := t.versions } ∧
      (t.faults = s.faults ∨ takeFault call.operation s.faults = some (e, t.faults)) := by
  -- Every way to fail leaves the state with the call on its log and a fault less at most.
  unfold step at h
  dsimp only at h
  split at h
  · next htaken =>
    cases h
    exact ⟨rfl, .inr htaken⟩
  · split at h
    · cases h; exact ⟨rfl, .inl rfl⟩
    · split at h
      · cases h; exact ⟨rfl, .inl rfl⟩
      · unfold perform at h
        split at h
        · cases h; exact ⟨rfl, .inl rfl⟩
        · cases h

/-- A call that fails leaves the objects, the tokens drawn and the resource as they were. -/
theorem step_error {e : ClusterError} (h : s.step supply now who call = (.error e, t)) :
    t.objects = s.objects ∧ t.minted = s.minted ∧ t.resource = s.resource := by
  rw [(step_error_cases h).1]
  exact ⟨rfl, rfl, rfl⟩

/-- A call that succeeds met no waiting failure, came from a known caller who is allowed to make
it, and had its effect. -/
theorem step_eq_ok {reply : call.Reply} (h : s.step supply now who call = (.ok reply, t)) :
    takeFault call.operation s.faults = none ∧
      ∃ user, s.objects.userOf? who = some user ∧ s.refusal? who user call = none ∧
        s.objects.apply (s.draw supply now) who user call = .ok (t.objects, reply) ∧
        t.minted = s.minted + call.isMinting.toNat ∧ t.faults = s.faults ∧
        t.resource = s.resource := by
  unfold step at h
  dsimp only at h
  split at h
  · cases h
  · next hfault =>
    split at h
    · cases h
    · next user huser =>
      split at h
      · cases h
      · next hrefusal =>
        unfold perform at h
        split at h
        · cases h
        · next objects reply' happly =>
          cases h
          exact ⟨hfault, user, huser, hrefusal, happly, rfl, rfl, rfl⟩

/-- An answer that is good is the reply of an effect. -/
theorem apply_of_step {reply : call.Reply} (h : (s.step supply now who call).1 = .ok reply) :
    ∃ user o', s.objects.apply (s.draw supply now) who user call = .ok (o', reply) := by
  cases hstep : s.step supply now who call with
  | mk x t =>
    rw [hstep] at h
    obtain rfl : x = .ok reply := h
    obtain ⟨_, user, _, _, happly, _⟩ := step_eq_ok hstep
    exact ⟨user, t.objects, happly⟩

/-- An admitted call succeeds when its effect does. -/
theorem step_of_apply {user : String} {objects : Objects} {reply : call.Reply}
    (hfault : takeFault call.operation s.faults = none)
    (huser : s.objects.userOf? who = some user) (hrefusal : s.refusal? who user call = none)
    (happly : s.objects.apply (s.draw supply now) who user call = .ok (objects, reply)) :
    ∃ t, s.step supply now who call = (.ok reply, t) ∧ t.objects = objects ∧
      t.faults = s.faults ∧ t.resource = s.resource ∧
      t.minted = s.minted + call.isMinting.toNat := by
  unfold step
  dsimp only
  -- The call is put on the log first, which none of the checks looks at.
  have hfault' : takeFault call.operation (s.recorded who call).faults = none := hfault
  have huser' : (s.recorded who call).objects.userOf? who = some user := huser
  have hrefusal' : (s.recorded who call).refusal? who user call = none := hrefusal
  have happly' : (s.recorded who call).objects.apply ((s.recorded who call).draw supply now) who
      user call = .ok (objects, reply) := happly
  rw [hfault', huser']
  simp only [hrefusal', perform, happly']
  exact ⟨_, rfl, rfl, rfl, rfl, rfl⟩

/-- An admitted call fails when its effect does. -/
theorem step_of_apply_error {user : String} {e : ClusterError}
    (hfault : takeFault call.operation s.faults = none)
    (huser : s.objects.userOf? who = some user) (hrefusal : s.refusal? who user call = none)
    (happly : s.objects.apply (s.draw supply now) who user call = .error e) :
    ∃ t, s.step supply now who call = (.error e, t) ∧ t.faults = s.faults := by
  unfold step
  dsimp only
  have hfault' : takeFault call.operation (s.recorded who call).faults = none := hfault
  have huser' : (s.recorded who call).objects.userOf? who = some user := huser
  have hrefusal' : (s.recorded who call).refusal? who user call = none := hrefusal
  have happly' : (s.recorded who call).objects.apply ((s.recorded who call).draw supply now) who
      user call = .error e := happly
  rw [hfault', huser']
  simp only [hrefusal', perform, happly']
  exact ⟨_, rfl, rfl⟩

/-- No call lets a failure in. -/
theorem step_faults (hfaults : s.faults = []) : (s.step supply now who call).2.faults = [] := by
  unfold step
  dsimp only
  have hnone : takeFault call.operation (s.recorded who call).faults = none := by
    show takeFault call.operation s.faults = none
    rw [hfaults]
    rfl
  rw [hnone]
  dsimp only
  split
  · exact hfaults
  · split
    · exact hfaults
    · unfold perform
      split <;> exact hfaults

/-- Every call either leaves the objects alone or has an effect. -/
theorem step_effect (supply : Supply) (now : Timestamp) (who : Client) (call : Call)
    (s : ClusterState) :
    let t := (s.step supply now who call).2
    (t.objects = s.objects ∧ t.minted = s.minted) ∨
      (Objects.Effect (s.draw supply now) call s.objects t.objects ∧
        t.minted = s.minted + call.isMinting.toNat) := by
  dsimp only
  cases h : s.step supply now who call with
  | mk x t =>
    cases x with
    | error e => exact .inl ⟨(step_error h).1, (step_error h).2.1⟩
    | ok reply =>
      obtain ⟨_, user, _, _, happly, hminted, _, _⟩ := step_eq_ok h
      exact .inr ⟨Objects.apply_effect happly, hminted⟩

/-- No call changes the custom resource or draws an identifier. -/
theorem step_fixed (supply : Supply) (now : Timestamp) (who : Client) (call : Call)
    (s : ClusterState) :
    (s.step supply now who call).2.resource = s.resource ∧
      (s.step supply now who call).2.named = s.named := by
  unfold step
  dsimp only
  split
  · exact ⟨rfl, rfl⟩
  · split
    · exact ⟨rfl, rfl⟩
    · split
      · exact ⟨rfl, rfl⟩
      · unfold perform
        split <;> exact ⟨rfl, rfl⟩

@[simp] theorem takeFault_nil (op : Operation) : takeFault op [] = none := rfl

/-- Nobody refuses the platform. -/
@[simp] theorem refusal?_platform (user : String) : s.refusal? .platform user call = none := by
  unfold refusal?
  rfl

end CredentialBroker.ClusterState
