import CredentialBroker.Proofs.Cluster.Faults
import CredentialBroker.Proofs.World.Interference
import CredentialBroker.Proofs.World.Merging
import Mathlib.Data.Fintype.Card

namespace CredentialBroker

/-!
# Writers in contention

Writers that run side by side on one secret make each other's copies old, and each attempt that
comes too late is made again.  But an attempt comes too late only when another writer has written
since the secret was read, and a writer that has written has ended.  So with no more writers than
attempts each of them ends well.

* `ClusterState.Serves` — clients may read and write a secret, and no failure waits for them;
* `contention` — the conduct of writers: who writes has a write less to spare;
* `CredentialStore.send_withstands` — a write that is refused was paid for by another writer;
* `CredentialStore.write_withstands`, `CredentialStore.write_atMost` — one writer among others;
* `CredentialStore.run_writes_prevail` — any number of writers, after any moves.
-/

/-! ### Calls for one secret -/

/-- The operations on secrets. -/
def Operation.onSecrets : List Operation := [.getSecret, .createSecret, .updateSecret]

/-- The call reads, makes or replaces the secret. -/
def Call.OnSecret (ref : ObjectRef) : Call → Prop
  | .getSecret target => target = ref
  | .createSecret secret | .updateSecret secret => secret.ref = ref
  | _ => False

section Calls

variable {ref : ObjectRef} {call : Call}

theorem Call.OnSecret.operation (h : call.OnSecret ref) :
    call.operation ∈ Operation.onSecrets := by
  cases call with
  | getSecret | createSecret | updateSecret => simp [Operation.onSecrets, Call.operation]
  | _ => exact h.elim

theorem Call.OnSecret.keepsRights (h : call.OnSecret ref) : call.KeepsRights := by
  cases call with
  | getSecret | createSecret | updateSecret => exact ⟨nofun, nofun, nofun⟩
  | _ => exact h.elim

end Calls

namespace ClusterState

variable {ι : Type} {who : ι → Client} {ref : ObjectRef} {s : ClusterState} {call : Call}

/-- Each of the clients may read, make and replace the secret, and no failure waits for that. -/
structure Serves (who : ι → Client) (ref : ObjectRef) (s : ClusterState) : Prop where
  /-- Objects are stored at their own addresses. -/
  keyed : s.objects.Keyed
  /-- No failure waits for an operation on secrets. -/
  spares : ∀ op ∈ Operation.onSecrets, s.Spares op
  /-- The calls are allowed. -/
  allows : ∀ i (call : Call), call.OnSecret ref → s.Allows (who i) call

/-- A call for the secret is answered by its effect, and the clients are served as before. -/
theorem Serves.answer (h : s.Serves who ref) (i : ι) (hcall : call.OnSecret ref) (supply : Supply)
    (now : Timestamp) :
    ∃ user t, t.Serves who ref ∧
      ((∃ reply, s.objects.apply (s.draw supply now) (who i) user call = .ok (t.objects, reply) ∧
          s.step supply now (who i) call = (.ok reply, t)) ∨
        ∃ e, s.objects.apply (s.draw supply now) (who i) user call = .error e ∧
          s.step supply now (who i) call = (.error e, t) ∧ t.objects = s.objects) := by
  obtain ⟨user, huser, hrefusal⟩ := h.allows i call hcall
  have hspared : s.Spares call.operation := h.spares _ hcall.operation
  have hserves : (s.step supply now (who i) call).2.Serves who ref :=
    ⟨step_keyed h.keyed, fun op hop => step_spares (h.spares op hop), fun j other hother =>
      (step_sameRights hcall.keepsRights).allows (h.allows j other hother)⟩
  cases happly : s.objects.apply (s.draw supply now) (who i) user call with
  | ok outcome =>
    obtain ⟨t, hstep, hobjects, _⟩ := step_of_apply hspared huser hrefusal happly
    rw [hstep] at hserves
    exact ⟨user, t, hserves, .inl ⟨outcome.2, by rw [happly, hobjects], hstep⟩⟩
  | error e =>
    obtain ⟨t, hstep, _⟩ := step_of_apply_error hspared huser hrefusal happly
    rw [hstep] at hserves
    exact ⟨user, t, hserves, .inr ⟨e, happly, hstep, (step_error hstep).1⟩⟩

/-- A read of the secret tells what is stored, or that nothing is. -/
theorem Serves.step_get (h : s.Serves who ref) (i : ι) (supply : Supply) (now : Timestamp) :
    ∃ t, t.Serves who ref ∧ t.objects = s.objects ∧
      s.step supply now (who i) (.getSecret ref) =
        (Objects.found "Secret" ref (s.objects.secrets.get? ref), t) := by
  have hcall : (Call.getSecret ref).OnSecret ref := rfl
  obtain ⟨user, t, ht, ⟨found, happly, hstep⟩ | ⟨e, happly, hstep, hsame⟩⟩ :=
    h.answer i hcall supply now
  · obtain ⟨hsame, hstored⟩ := Objects.apply_getSecret.mp happly
    exact ⟨t, ht, hsame, by rw [hstep, hstored]; rfl⟩
  · refine ⟨t, ht, hsame, ?_⟩
    cases hstored : s.objects.secrets.get? ref with
    | some found =>
      rw [Objects.apply_getSecret.mpr ⟨rfl, hstored⟩] at happly
      cases happly
    | none =>
      rw [Objects.apply_getSecret_absent hstored] at happly
      cases happly
      exact hstep

end ClusterState

/-! ### The conduct of writers -/

section Conduct

variable {ι : Type} {who : ι → Client} {ref : ObjectRef} {n m rest : Nat} {s t u : ClusterState}

/-- What writers of a secret may make of a cluster: as long as no write is used up the secret stays,
and once there is one there always is. -/
structure Contends (who : ι → Client) (ref : ObjectRef) (n : Nat) (s : ClusterState) (m : Nat)
    (t : ClusterState) : Prop where
  /-- No writes are won. -/
  le : m ≤ n
  /-- The clients are served as before. -/
  serves : s.Serves who ref → t.Serves who ref
  /-- The secret is the same, or a write was used up. -/
  same : m = n → t.objects.secrets.get? ref = s.objects.secrets.get? ref
  /-- The secret does not go away. -/
  there : (s.objects.secrets.get? ref).isSome → (t.objects.secrets.get? ref).isSome

theorem Contends.trans (h : Contends who ref n s m t) (h' : Contends who ref m t rest u) :
    Contends who ref n s rest u where
  le := Nat.le_trans h'.le h.le
  serves hs := h'.serves (h.serves hs)
  same heq := by
    have hle := h.le
    have hle' := h'.le
    exact (h'.same (by omega)).trans (h.same (by omega))
  there hs := h'.there (h.there hs)

/-- As long as no object changes, nothing is used up. -/
theorem Contends.of_same (n : Nat) (ht : t.Serves who ref) (hsame : t.objects = s.objects) :
    Contends who ref n s n t :=
  ⟨Nat.le_refl n, fun _ => ht, fun _ => by rw [hsame], fun h => by rwa [hsame]⟩

theorem Contends.add (rest : Nat) (h : Contends who ref n s m t) :
    Contends who ref (n + rest) s (m + rest) t where
  le := Nat.add_le_add_right h.le rest
  serves := h.serves
  same heq := h.same (Nat.add_right_cancel heq)
  there := h.there

/-- The conduct of writers of a secret. -/
def contention (who : ι → Client) (ref : ObjectRef) : Conduct where
  may := Contends who ref
  refl n _ := ⟨Nat.le_refl n, id, fun _ => rfl, id⟩
  trans h h' := h.trans h'

end Conduct

/-! ### One writer among others -/

/-- What decides a write after the secret was seen: the call succeeds on the secret that was seen,
leaves one behind, and where there is one it fails with an error worth another try. -/
structure Call.Decides (ref : ObjectRef) (seen : Option Secret) (call : Call) : Prop where
  /-- It is for the secret. -/
  onSecret : call.OnSecret ref
  /-- It succeeds on the secret that was seen. -/
  fits : ∀ {o : Objects} d who user, o.secrets.get? ref = seen →
    ∃ o' reply, o.apply d who user call = .ok (o', reply)
  /-- It leaves a secret behind. -/
  leaves : ∀ {o o' : Objects} {d who user reply}, o.apply d who user call = .ok (o', reply) →
    (o'.secrets.get? ref).isSome
  /-- It fails with an error worth another try, unless the secret that was seen is gone. -/
  late : ∀ {o : Objects} {d who user e}, (seen.isSome → (o.secrets.get? ref).isSome) →
    o.apply d who user call = .error e → CredentialStore.isLate e = true

section Calls

variable {c : SecretChange} {ref : ObjectRef} {found : Secret}

/-- A secret that was seen is replaced. -/
theorem Call.decides_update (href : found.ref = ref) :
    Call.Decides ref (some found) (.updateSecret (c.applyTo found)) where
  onSecret := href
  fits d who user hstored :=
    ⟨_, _, Objects.apply_updateSecret.mpr ⟨⟨found, by rwa [SecretChange.ref_applyTo, href],
      .inr rfl⟩, rfl, rfl⟩⟩
  leaves happly := by
    obtain ⟨_, _, hobjects⟩ := Objects.apply_updateSecret.mp happly
    rw [hobjects, SecretChange.ref_applyTo, href, SortedMap.get?_insert_self]
    rfl
  late hthere happly := by
    rw [Objects.apply_updateSecret_error (by rw [SecretChange.ref_applyTo, href]; exact hthere rfl)
      happly]
    rfl

/-- Where none was seen, one is made. -/
theorem Call.decides_create : Call.Decides ref none (.createSecret (c.fresh ref)) where
  onSecret := rfl
  fits d who user habsent := ⟨_, _, Objects.apply_createSecret.mpr ⟨habsent, rfl, rfl⟩⟩
  leaves happly := by
    obtain ⟨_, _, hobjects⟩ := Objects.apply_createSecret.mp happly
    rw [hobjects, SecretChange.ref_fresh, SortedMap.get?_insert_self]
    rfl
  late _ happly := by
    rw [Objects.apply_createSecret_error happly]
    rfl

end Calls

namespace CredentialStore

variable {ι : Type} {who : ι → Client} {ref : ObjectRef} {c : SecretChange} {supply : Supply}
  {st : CredentialStore} {call : Call} {seen : Option Secret} {i : ι} {spare mine theirs : Nat}
  {s : ClusterState}

/-- A writer that has not written, with an attempt to spare for each write of the others. -/
structure Contender (who : ι → Client) (ref : ObjectRef) (spare mine theirs : Nat)
    (s : ClusterState) : Prop where
  /-- Its write is to come. -/
  mine : mine = 1
  /-- There are attempts enough. -/
  bears : theirs ≤ spare
  /-- The clients are served. -/
  serves : s.Serves who ref

/-- How an attempt ends: well, or too late, and then the writer contends with an attempt less. -/
def Tried (who : ι → Client) (ref : ObjectRef) (spare : Nat) : Ending (Except ClusterError Unit) :=
  .either (fun _ _ _ _ => True) fun e mine theirs s =>
    isLate e = true ∧ ∃ fewer, spare = fewer + 1 ∧
      ∀ rest t, (contention who ref).may theirs s rest t → Contender who ref fewer mine rest t

/-- **Refusals are paid for.**  The call that decides an attempt succeeds, unless another writer has
used up a write since the secret was seen. -/
theorem send_withstands (h : s.Serves who ref) (hseen : s.objects.secrets.get? ref = seen)
    (hcall : call.Decides ref seen) (hbears : theirs ≤ spare) :
    (discard (Action.cluster (who i) call)).Withstands (contention who ref) supply
      (Tried who ref spare) 1 theirs s := by
  refine Action.withstands_discard (Action.withstands_cluster fun left t hmay now => ?_)
  have ht : t.Serves who ref := hmay.serves h
  obtain ⟨user, u, hu, ⟨reply, happly, hstep⟩ | ⟨e, happly, hstep, hsame⟩⟩ :=
    ht.answer i hcall.onSecret supply now
  · rw [hstep]
    exact ⟨0, ⟨Nat.zero_le 1, fun _ => hu, nofun, fun _ => hcall.leaves happly⟩, trivial⟩
  · -- The secret is not the one that was seen any more.
    have hless : left < theirs := by
      refine Nat.lt_of_le_of_ne hmay.le fun heq => ?_
      obtain ⟨_, _, hfits⟩ := hcall.fits (t.draw supply now) (who i) user
        ((hmay.same heq).trans hseen)
      rw [hfits] at happly
      cases happly
    have hlate : isLate e = true :=
      hcall.late (fun hsome => hmay.there (by rwa [hseen])) happly
    rw [hstep]
    refine ⟨1, .of_same 1 hu hsame, hlate, spare - 1, by omega, fun rest v hrest =>
      ⟨rfl, ?_, hrest.serves hu⟩⟩
    have hle : rest ≤ left := hrest.le
    omega

/-- An attempt reads the secret, and what it saw decides what it sends. -/
theorem tryWrite_withstands (hwho : st.client = who i) (h : Contender who ref spare mine theirs s) :
    (st.tryWrite ref c).Withstands (contention who ref) supply (Tried who ref spare) mine theirs
      s := by
  obtain ⟨rfl, hbears, hserves⟩ := h
  unfold tryWrite
  rw [hwho]
  refine Action.withstands_bind (Action.withstands_outcome
    (Action.withstands_cluster fun left t hmay now => ?_))
  obtain ⟨u, hu, hsame, hstep⟩ := (hmay.serves hserves).step_get i supply now
  have hbears : left ≤ spare := Nat.le_trans hmay.le hbears
  rw [hstep]
  refine ⟨1, .of_same 1 hu hsame, ?_⟩
  cases hstored : t.objects.secrets.get? ref with
  | none => exact send_withstands hu (by rw [hsame, hstored]) Call.decides_create hbears
  | some found =>
    have href : found.ref = ref := hu.keyed.secrets ref found (by rw [hsame, hstored])
    exact send_withstands hu (by rw [hsame, hstored]) (Call.decides_update href) hbears

/-- **A writer withstands others.**  Each attempt that comes too late takes a write of another
writer, and there are not as many of these as attempts. -/
theorem write_withstands (hwho : st.client = who i) (hserves : s.Serves who ref)
    (hbears : theirs < st.policy.maxAttempts) :
    (st.write ref c).Withstands (contention who ref) supply (.well fun _ _ _ _ => True) 1 theirs
      s := by
  refine Action.withstands_mapError (Action.withstands_retried
    (I := fun spare _ mine theirs s => Contender who ref spare mine theirs s)
    (fun hcontender => ?_) ⟨rfl, by omega, hserves⟩)
  exact Program.Withstands.mono (tryWrite_withstands hwho hcontender) fun {x} _ _ _ hx => by
    cases x with
    | ok v => exact hx
    | error e => exact hx

/-- A write asks no more than three requests for each attempt: a pause, a read and a write. -/
theorem write_atMost : (st.write ref c).AtMost (3 * st.policy.maxAttempts) := by
  have hattempt : (st.tryWrite ref c).AtMost (1 + 1) := by
    unfold tryWrite
    refine Action.atMost_bind (Action.atMost_outcome Action.atMost_cluster) fun reply => ?_
    cases reply with
    | ok found => exact Action.atMost_discard Action.atMost_cluster
    | error e =>
      dsimp only
      split
      · exact Action.atMost_discard Action.atMost_cluster
      · exact Action.atMost_throw
  have hpositive := st.policy.attempts_pos
  exact (Action.atMost_mapError (Action.atMost_retried hattempt fun _ => hattempt)).mono (by omega)

end CredentialStore

/-! ### Any number of writers -/

section Happenings

variable {ι : Type} {who : ι → Client} {ref : ObjectRef} {supply : Supply} {now : Timestamp}
  {s : ClusterState} {e : Happening}

/-- Something that happens leaves the writers of a secret be. -/
structure Happening.LeavesBe (supply : Supply) (who : ι → Client) (ref : ObjectRef)
    (e : Happening) : Prop where
  /-- It is no write of the secret. -/
  secret : e.Spares ref
  /-- It makes no call for a secret fail. -/
  failure : ∀ op ∈ Operation.onSecrets, ∀ err, e ≠ .failNext op err
  /-- It takes no right to read or write the secret from the writers. -/
  rights : ∀ now s i (call : Call), call.OnSecret ref → s.Allows (who i) call →
    (e.run supply now s).Allows (who i) call

/-- The platform keeps its rights. -/
theorem Happening.leavesBe_platform (hsecret : e.Spares ref)
    (hfailure : ∀ op ∈ Operation.onSecrets, ∀ err, e ≠ .failNext op err) :
    e.LeavesBe supply (fun _ : ι => .platform) ref :=
  ⟨hsecret, hfailure, fun _ _ _ _ _ _ => ClusterState.allows_platform⟩

/-- An operation is spared as long as no failure is made to wait for it. -/
theorem Happening.run_spares {op : Operation} (h : ∀ err, e ≠ .failNext op err)
    (hs : s.Spares op) : (e.run supply now s).Spares op := by
  cases e with
  | call who call => exact ClusterState.step_spares hs
  | failNext other err =>
    refine takeFault_eq_none_iff.mpr fun f hf => ?_
    rcases List.mem_append.mp hf with hf | hf
    · exact takeFault_eq_none_iff.mp hs f hf
    · rw [List.mem_singleton.mp hf]
      rintro rfl
      exact h err rfl
  | putSession | removeSession | putServiceAccount | putRole | putJob | addPod | registerToken
  | grant => exact hs

/-- To the writers it is as if nothing had happened. -/
theorem Happening.LeavesBe.may (h : e.LeavesBe supply who ref) (n : Nat) :
    (contention who ref).may n s n (e.run supply now s) where
  le := Nat.le_refl n
  serves hs := ⟨e.run_keyed hs.keyed,
    fun op hop => run_spares (h.failure op hop) (hs.spares op hop),
    fun i call hcall => h.rights now s i call hcall (hs.allows i call hcall)⟩
  same _ := h.secret.get?_secrets
  there hs := by rwa [h.secret.get?_secrets]

end Happenings

namespace CredentialStore

variable {ι : Type} [DecidableEq ι] [Fintype ι] {supply : Supply}

/-- **Contention is bounded.**  Take writers of one secret on a cluster in any state that it can
reach, no more of them than each has attempts, all allowed to read and write the secret, and no
failure waiting for that; the platform always is allowed to.  Whatever the order of their requests
is and whatever else happens that leaves them be, a writer that has ended has ended well; and it has
ended after as many turns as it can ask requests. -/
theorem run_writes_prevail (stores : ι → CredentialStore) (changes : ι → SecretChange)
    {ref : ObjectRef} {world : Simulation} (hreachable : world.cluster.Reachable supply)
    (hattempts : ∀ i, Fintype.card ι ≤ (stores i).policy.maxAttempts)
    (hfaults : ∀ op ∈ Operation.onSecrets, world.cluster.Spares op)
    (hrights : ∀ i (call : Call), call.OnSecret ref →
      world.cluster.Allows (stores i).client call) (moves : List (Move ι))
    (hothers : ∀ e, .other e ∈ moves → e.LeavesBe supply (fun i => (stores i).client) ref) :
    let c := (Interleaving.start (writers ref stores changes) world).run supply moves
    (∀ i x, (c.threads i).value? = some x → x = .ok ()) ∧
      ∀ i, 3 * (stores i).policy.maxAttempts ≤ moves.countP (Move.isTurn i) →
        (c.threads i).value? = some (.ok ()) := by
  intro c
  let k : Conduct := contention (fun i => (stores i).client) ref
  let ends : Ending (Except CredentialError Unit) := .well fun _ _ _ _ => True
  have hserves : world.cluster.Serves (fun i => (stores i).client) ref :=
    ⟨hreachable.keyed, hfaults, hrights⟩
  -- Each writer has one write to make, so the others have fewer than it has attempts.
  have hstart : (Interleaving.start (writers ref stores changes) world).WithstandTogether k supply
      (fun _ => ends) fun _ => 1 := by
    intro i
    refine write_withstands rfl hserves ?_
    have hcount : Interleaving.others (fun _ : ι => 1) i = Fintype.card ι - 1 := by
      simp [Interleaving.others]
    have hpositive := (stores i).policy.attempts_pos
    have hle := hattempts i
    omega
  have hkeeps : k.Keeps ends := by
    intro x mine theirs s left t hx _
    cases x with
    | ok v => exact hx
    | error e => exact hx.elim
  obtain ⟨budget, hwithstands⟩ := Interleaving.run_withstandTogether hstart
    (Interleaving.joint_of_add fun rest h => h.add rest) (fun _ => hkeeps)
    fun e he now n s => (hothers e he).may n
  have hwell : ∀ i x, (c.threads i).left = .done x → x = .ok () := by
    intro i x hx
    have hended := hwithstands i
    rw [hx] at hended
    cases x with
    | ok v => rfl
    | error e => exact hended.elim
  constructor
  · exact fun i x hx => hwell i x (Thread.value?_eq_some.mp hx)
  · intro i hturns
    have hlength : (writers ref stores changes i).AtMost (3 * (stores i).policy.maxAttempts) :=
      write_atMost
    obtain ⟨x, hx⟩ : ∃ x, (c.threads i).left = .done x := Interleaving.run_ended hlength hturns
    rw [Thread.value?_eq_some, hx, hwell i x hx]

/-- Three writers find no secret, and two of them are refused when they make one.  The second time
the third one is refused again, as the second one writes under its hands; its last attempt is
accepted. -/
theorem run_writes_prevail_racing :
    let ref : ObjectRef := ⟨"team", "shared"⟩
    let supply : Supply := ⟨toString, toString⟩
    let changes : Fin 3 → SecretChange := fun i =>
      ⟨SortedMap.ofList [(toString i, Text.utf8 "token")], ∅,
        ⟨"v1", "Session", toString i, "", none⟩⟩
    let stores : Fin 3 → CredentialStore := fun _ => ⟨.platform, .usual⟩
    let world : Simulation := ⟨.ofSeconds 0, {}⟩
    let fault : Happening := .failNext .getSession (.conflict "AgenticSession" "team/alpha")
    let turn (i : Fin 3) : Move (Fin 3) := .turn i fun _ => .error .timedOut
    let moves := [turn 0, turn 1, turn 2, turn 0, turn 1, turn 2, .other fault, turn 1, turn 2,
      turn 1, turn 2, turn 1, turn 2] ++
        [0, 1, 2].flatMap fun i => List.replicate 9 (turn i)
    let c := (Interleaving.start (writers ref stores changes) world).run supply moves
    (∀ i, Fintype.card (Fin 3) ≤ (stores i).policy.maxAttempts) ∧
      (c.threads 2).past.length = 8 ∧ ∀ i, (c.threads i).value? = some (.ok ()) := by
  intro ref supply changes stores world fault turn moves c
  have hattempts : ∀ i, Fintype.card (Fin 3) ≤ (stores i).policy.maxAttempts := by
    intro i
    rw [Fintype.card_fin]
    decide
  have hreachable : world.cluster.Reachable supply := .fresh {}
  have hfaults : ∀ op ∈ Operation.onSecrets, world.cluster.Spares op := fun _ _ => rfl
  have hothers : ∀ e, .other e ∈ moves → e.LeavesBe supply (fun i => (stores i).client) ref := by
    intro e he
    obtain rfl : e = fault := by simpa [moves, turn] using he
    refine Happening.leavesBe_platform trivial fun op hop err heq => ?_
    obtain ⟨rfl, -⟩ := Happening.failNext.inj heq
    simp [Operation.onSecrets] at hop
  have hturns : ∀ i, 9 ≤ moves.countP (Move.isTurn i) := by decide +kernel
  have hasked : (c.threads 2).past.length = 8 := by decide +kernel
  clear_value moves
  obtain ⟨-, hended⟩ := run_writes_prevail stores changes hreachable hattempts hfaults
    (fun _ _ _ => ClusterState.allows_platform) moves hothers
  exact ⟨hattempts, hasked, fun i => hended i (hturns i)⟩

end CredentialStore

end CredentialBroker
