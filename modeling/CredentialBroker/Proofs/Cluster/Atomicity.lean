import CredentialBroker.Proofs.Cluster.Faults

namespace CredentialBroker

/-!
# Calls change all they are about or nothing

A call that fails leaves everything stored as it was, and one that succeeds leaves alone whatever
its arguments do not address.  Neither depends on who calls, on what is stored, or on the failures
waiting.

* `Call.object?`, `Call.removes`, `Call.minted?` — what a call writes, removes and mints;
* `Objects.apply_changedAt` — effects change nothing else;
* `ClusterState.step_error_waiting` — the failures that wait after one that struck;
* `ClusterState.step_atomic` — both halves together.
-/

/-- The object that a call writes, by its table and its address.  Questions write none, and neither
do calls that mint a token or remove pods, which have no address. -/
def Call.object? : Call → Option (Table × ObjectRef)
  | .patchSessionAnnotations ref _ => some (.sessions, ref)
  | .updateSession session | .updateSessionStatus session => some (.sessions, session.ref)
  | .createServiceAccount account => some (.accounts, account.ref)
  | .patchServiceAccountAnnotations ref _ => some (.accounts, ref)
  | .createRole role | .updateRole role => some (.roles, role.ref)
  | .createRoleBinding binding | .updateRoleBinding binding => some (.bindings, binding.ref)
  | .createSecret secret | .updateSecret secret => some (.secrets, secret.ref)
  | .deleteJob ref _ => some (.jobs, ref)
  | _ => none

/-- Whether a call removes a pod: one of the namespace and with the labels that it asks for. -/
def Call.removes : Call → Pod → Bool
  | .deletePods ns selector, pod => pod.ref.ns = ns && Objects.fits selector pod.labels
  | _, _ => false

/-- The token that a call is answered with when it mints one, and the machine identity it is for. -/
def Call.minted? : (call : Call) → call.Reply → Option (String × ObjectRef)
  | .createToken account _, minted => some (minted.token, account)
  | _, _ => none

namespace Objects

variable {o o' : Objects} {call : Call} {reply : call.Reply} {d : Draw} {who : Client}
  {user : String}

/-- The objects differ at most where a call writes: at its address, in the pods it removes, and by
the token it is answered with when it mints one. -/
structure ChangedAt (call : Call) (reply : call.Reply) (o o' : Objects) : Prop where
  /-- The sessions at other addresses are the same. -/
  sessions : ∀ ref, call.object? ≠ some (.sessions, ref) →
    o'.sessions.get? ref = o.sessions.get? ref
  /-- So are the machine identities. -/
  accounts : ∀ ref, call.object? ≠ some (.accounts, ref) →
    o'.accounts.get? ref = o.accounts.get? ref
  /-- So are the roles. -/
  roles : ∀ ref, call.object? ≠ some (.roles, ref) → o'.roles.get? ref = o.roles.get? ref
  /-- So are the role bindings. -/
  bindings : ∀ ref, call.object? ≠ some (.bindings, ref) →
    o'.bindings.get? ref = o.bindings.get? ref
  /-- So are the secrets. -/
  secrets : ∀ ref, call.object? ≠ some (.secrets, ref) → o'.secrets.get? ref = o.secrets.get? ref
  /-- So are the jobs. -/
  jobs : ∀ ref, call.object? ≠ some (.jobs, ref) → o'.jobs.get? ref = o.jobs.get? ref
  /-- The pods that are not removed stay, in their order. -/
  pods : o'.pods = o.pods.filter fun pod => !call.removes pod
  /-- The token that is minted is added, and stands for the identity it is for. -/
  tokens : o'.tokens = match call.minted? reply with
    | none => o.tokens
    | some (token, account) => o.tokens.insert token (Identity.user account)
  /-- The rules given by name are the same. -/
  grants : o'.grants = o.grants

/-! ### Tables that effects leave to this module -/

theorem object?_of_sessionWrite {ref : ObjectRef} {stored new : Session}
    (h : SessionWrite call ref stored new) : call.object? = some (.sessions, ref) := by
  cases h <;> rfl

/-- Machine identities are written only at the address that a call names. -/
theorem apply_accounts (h : o.apply d who user call = .ok (o', reply)) :
    o'.accounts = o.accounts ∨ ∃ ref account, call.object? = some (.accounts, ref) ∧
      o'.accounts = o.accounts.insert ref account := by
  by_cases htable : call.table? = some .accounts
  · cases call with
    | createServiceAccount account =>
      obtain ⟨_, _, rfl⟩ := apply_createServiceAccount.mp h
      exact .inr ⟨account.ref, _, rfl, rfl⟩
    | patchServiceAccountAnnotations ref annotations =>
      obtain ⟨_, _, rfl⟩ := apply_patchServiceAccount.mp h
      exact .inr ⟨ref, _, rfl, rfl⟩
    | _ => cases htable
  · exact .inl (apply_agrees htable h)

/-- Jobs are removed only at the address that a call names. -/
theorem apply_jobs (h : o.apply d who user call = .ok (o', reply)) :
    o'.jobs = o.jobs ∨ ∃ ref, call.object? = some (.jobs, ref) ∧ o'.jobs = o.jobs.erase ref := by
  by_cases htable : call.table? = some .jobs
  · cases call with
    | deleteJob ref propagation =>
      obtain ⟨_, rfl⟩ := apply_deleteJob.mp h
      exact .inr ⟨ref, rfl, rfl⟩
    | _ => cases htable
  · exact .inl (apply_agrees htable h)

/-- The pods that stay are those that a call does not remove. -/
theorem apply_pods (h : o.apply d who user call = .ok (o', reply)) :
    o'.pods = o.pods.filter fun pod => !call.removes pod := by
  by_cases htable : call.table? = some .pods
  · cases call with
    | deletePods ns selector =>
      cases h
      rfl
    | _ => cases htable
  · have hnone : ∀ pod, call.removes pod = false := fun pod => by
      cases call with
      | deletePods => exact absurd rfl htable
      | _ => rfl
    have hsame : o'.pods = o.pods := apply_agrees htable h
    rw [hsame]
    exact (List.filter_eq_self.mpr fun pod _ => by rw [hnone]; rfl).symm

/-- The only token that is added is the one in the answer. -/
theorem apply_tokens (h : o.apply d who user call = .ok (o', reply)) :
    o'.tokens = match call.minted? reply with
      | none => o.tokens
      | some (token, account) => o.tokens.insert token (Identity.user account) := by
  by_cases htable : call.table? = some .tokens
  · cases call with
    | createToken account lifetime =>
      obtain ⟨_, rfl, rfl⟩ := apply_createToken.mp h
      rfl
    | _ => cases htable
  · have hnone : call.minted? reply = none := by
      cases call with
      | createToken => exact absurd rfl htable
      | _ => rfl
    rw [hnone]
    exact apply_agrees htable h

/-! ### Effects -/

/-- **Effects stay where they belong.**  Whatever an admitted call does, it does it where its
arguments say. -/
theorem apply_changedAt (h : o.apply d who user call = .ok (o', reply)) :
    ChangedAt call reply o o' where
  sessions ref hother := by
    rcases (apply_effect h).sessions with hsame | ⟨at_, stored, new, hwrite, _, hinsert⟩
    · rw [hsame]
    · rw [hinsert, SortedMap.get?_insert, if_neg]
      rintro rfl
      exact hother (object?_of_sessionWrite hwrite)
  accounts ref hother := by
    rcases apply_accounts h with hsame | ⟨at_, account, hobject, hinsert⟩
    · rw [hsame]
    · rw [hinsert, SortedMap.get?_insert, if_neg]
      rintro rfl
      exact hother hobject
  roles ref hother := by
    rcases (apply_effect h).roles with hsame | ⟨role, hcall, hinsert⟩
    · rw [hsame]
    · rw [hinsert, SortedMap.get?_insert, if_neg]
      rintro rfl
      rcases hcall with rfl | rfl <;> exact hother rfl
  bindings ref hother := by
    rcases (apply_effect h).bindings with hsame | ⟨binding, hcall, hinsert⟩
    · rw [hsame]
    · rw [hinsert, SortedMap.get?_insert, if_neg]
      rintro rfl
      rcases hcall with rfl | rfl <;> exact hother rfl
  secrets ref hother := by
    rcases (apply_effect h).secrets with hsame | ⟨secret, hcall, hinsert⟩
    · rw [hsame]
    · rw [hinsert, SortedMap.get?_insert, if_neg]
      rintro rfl
      rcases hcall with rfl | rfl <;> exact hother rfl
  jobs ref hother := by
    rcases apply_jobs h with hsame | ⟨at_, hobject, herase⟩
    · rw [hsame]
    · rw [herase, SortedMap.get?_erase, if_neg]
      rintro rfl
      exact hother hobject
  pods := apply_pods h
  tokens := apply_tokens h
  grants := (apply_effect h).grants

/-- A token that is not in use yet is added to those in use. -/
theorem ChangedAt.tokens_stay (h : ChangedAt call reply o o') {token held : String}
    {account : ObjectRef} (hminted : call.minted? reply = some (token, account))
    (hfresh : o.tokens.get? token = none) (hheld : o.tokens.get? held = some user) :
    o'.tokens.get? held = some user := by
  rw [h.tokens, hminted]
  dsimp only
  rw [SortedMap.get?_insert, if_neg, hheld]
  rintro rfl
  rw [hfresh] at hheld
  cases hheld

end Objects

namespace ClusterState

variable {supply : Supply} {now : Timestamp} {who : Client} {call : Call} {s t : ClusterState}
  {op other : Operation} {e : ClusterError}

/-! ### Failures -/

/-- The failures waiting for an operation, the next one first. -/
def waiting (s : ClusterState) (op : Operation) : List ClusterError :=
  (s.faults.filter fun f => f.1 = op).map (·.2)

/-- The failure that is taken was the next one for its operation, and no other one is touched. -/
theorem filter_of_takeFault {faults rest : List (Operation × ClusterError)}
    (h : takeFault op faults = some (e, rest)) (other : Operation) :
    faults.filter (fun f => f.1 = other) =
      if other = op then (op, e) :: rest.filter (fun f => f.1 = other)
      else rest.filter fun f => f.1 = other := by
  induction faults generalizing rest with
  | nil => cases h
  | cons f faults ih =>
    rw [takeFault] at h
    by_cases hf : f.1 = op
    · rw [if_pos hf] at h
      cases h
      subst hf
      by_cases hother : other = f.1
      · rw [if_pos hother, hother, List.filter_cons_of_pos (by simp)]
      · rw [if_neg hother, List.filter_cons_of_neg (by simpa using Ne.symm hother)]
    · rw [if_neg hf] at h
      obtain ⟨p, htaken, hp⟩ := Option.map_eq_some_iff.mp h
      cases hp
      rw [List.filter_cons, List.filter_cons, ih htaken]
      by_cases hother : other = op
      · subst hother
        simp [hf]
      · simp only [if_neg hother]

/-- The failures waiting for other operations go on waiting. -/
theorem step_error_waiting (h : s.step supply now who call = (.error e, t))
    (hother : other ≠ call.operation) : t.waiting other = s.waiting other := by
  unfold waiting
  rcases (step_error_cases h).2 with hsame | htaken
  · rw [hsame]
  · rw [filter_of_takeFault htaken other, if_neg hother]

/-- A failure that strikes was the next one waiting for its operation. -/
theorem step_error_waiting_self (h : s.step supply now who call = (.error e, t)) :
    t.waiting call.operation = s.waiting call.operation ∨
      s.waiting call.operation = e :: t.waiting call.operation := by
  unfold waiting
  rcases (step_error_cases h).2 with hsame | htaken
  · exact .inl (by rw [hsame])
  · exact .inr (by rw [filter_of_takeFault htaken, if_pos rfl, List.map_cons])

/-- **Calls are atomic.**  Take any state, with any failures waiting, any caller and any call.  If
the call fails, everything stored is as before: at most the log, the number of versions drawn, and
the failures waiting for this operation differ, by the one the call is answered with.  If it
succeeds, whatever it does not address is as before, and a token that it mints is added to those in
use, unless the one drawn is in use already. -/
theorem step_atomic (supply : Supply) (now : Timestamp) (who : Client) (call : Call)
    (s : ClusterState) :
    (∀ e t, s.step supply now who call = (.error e, t) →
      t.objects = s.objects ∧
      t = { s with calls := t.calls, faults := t.faults, versions := t.versions } ∧
      (∀ other ≠ call.operation, t.waiting other = s.waiting other) ∧
      (t.waiting call.operation = s.waiting call.operation ∨
        s.waiting call.operation = e :: t.waiting call.operation)) ∧
    ∀ reply t, s.step supply now who call = (.ok reply, t) →
      Objects.ChangedAt call reply s.objects t.objects ∧
      (∀ token account, call.minted? reply = some (token, account) →
        s.objects.tokens.get? token = none →
        ∀ held user, s.objects.tokens.get? held = some user →
          t.objects.tokens.get? held = some user) ∧
      t.resource = s.resource ∧ t.faults = s.faults := by
  refine ⟨fun e t h => ?_, fun reply t h => ?_⟩
  · exact ⟨(step_error h).1, (step_error_cases h).1,
      fun other hother => step_error_waiting h hother,
      step_error_waiting_self h⟩
  · obtain ⟨_, user, _, _, happly, _, hfaults, hresource⟩ := step_eq_ok h
    have hchanged : Objects.ChangedAt call reply s.objects t.objects :=
      Objects.apply_changedAt happly
    exact ⟨hchanged, fun token account hminted hfresh held user hheld =>
      hchanged.tokens_stay hminted hfresh hheld, hresource, hfaults⟩

/-- A failure waits for the removal of jobs, and strikes it; a token is minted beside one in use. -/
theorem step_atomic_struck :
    let runner : ObjectRef := ⟨"team", "runner"⟩
    let s : ClusterState := {
      objects := {
        accounts := SortedMap.ofList [(runner, ⟨runner, ∅, ∅, []⟩)]
        jobs := SortedMap.ofList [(runner, ())]
        tokens := SortedMap.ofList [("t", "ada")] }
      faults := [(.getRole, .unauthorized), (.deleteJob, .conflict "Job" "team/runner")] }
    let supply : Supply := ⟨toString, toString⟩
    let removed := s.step supply (.ofSeconds 0) .platform (.deleteJob runner .foreground)
    removed.1 = .error (.conflict "Job" "team/runner") ∧ removed.2.objects = s.objects ∧
      removed.2.waiting .getRole = [.unauthorized] ∧
      s.waiting .deleteJob = [.conflict "Job" "team/runner"] ∧
      ∃ minted t, s.step supply (.ofSeconds 0) .platform (.createToken runner (.ofSeconds 600)) =
          (.ok minted, t) ∧
        s.objects.tokens.get? minted.token = none ∧ t.objects.tokens.get? "t" = some "ada" ∧
        t.objects.jobs.get? runner = some () ∧ t.faults = s.faults := by
  intro runner s supply removed
  have hremoved : removed = (.error (.conflict "Job" "team/runner"), removed.2) := rfl
  have hkept :=
    (step_atomic supply (.ofSeconds 0) .platform (.deleteJob runner .foreground) s).1 _ _
    hremoved
  have haccount : (s.objects.accounts.get? runner).isSome := by decide +kernel
  let draw : Draw := s.draw supply (.ofSeconds 0)
  let minted : MintedToken := ⟨draw.token, draw.now.after (Objects.lifetimeFor (.ofSeconds 600))⟩
  obtain ⟨t, hstep⟩ : ∃ t, s.step supply (.ofSeconds 0) .platform
      (.createToken runner (.ofSeconds 600)) = (.ok minted, t) := by
    obtain ⟨t, hstep, _⟩ := step_of_apply rfl rfl (refusal?_platform _)
      (Objects.apply_createToken.mpr ⟨haccount, rfl, rfl⟩)
    exact ⟨t, hstep⟩
  obtain ⟨hchanged, htokens, _, hfaults⟩ :=
    (step_atomic supply (.ofSeconds 0) .platform (.createToken runner (.ofSeconds 600)) s).2 _ _
      hstep
  refine ⟨rfl, hkept.1, hkept.2.2.1 .getRole (by decide), rfl, minted, t, hstep,
    by decide +kernel, ?_,
    ?_, hfaults⟩
  · exact htokens _ runner rfl (by decide +kernel) "t" "ada" (by decide +kernel)
  · rw [hchanged.jobs runner (by decide)]
    decide +kernel

end ClusterState

end CredentialBroker
