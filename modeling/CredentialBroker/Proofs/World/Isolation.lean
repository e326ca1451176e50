import CredentialBroker.Proofs.World.Event

namespace CredentialBroker

/-!
# Sessions are kept apart

No session ever has the identity of another one on record, so a token proves nothing but the session
it was minted for.

* `Session.NamesOwnIdentity` — what is said of the identity of a session, on its record;
* `Objects.OwnIdentities` — the invariant: so it is with every session stored;
* `Deployment.run_verifyRunner_isolated` — the property of whole runs that follows.
-/

namespace Session

/-- The session has no identity on record but the one named after it. -/
def NamesOwnIdentity (s : Session) : Prop :=
  ∀ id, s.metadata.annotations.get? identityKey = some id → id = identityName s.metadata.name

theorem NamesOwnIdentity.withInteractive {s : Session} (h : s.NamesOwnIdentity)
    (interactive : Bool) : (s.withInteractive interactive).NamesOwnIdentity := h

/-- Another annotation changes nothing in the record of the identity. -/
theorem NamesOwnIdentity.withParent {s : Session} (h : s.NamesOwnIdentity) (parent : String) :
    (s.withParent parent).NamesOwnIdentity := by
  intro id hid
  change (s.metadata.annotations.insert parentKey parent).get? identityKey = some id at hid
  rw [SortedMap.get?_insert, if_neg (by decide)] at hid
  exact h id hid

theorem NamesOwnIdentity.continued {s : Session} (h : s.NamesOwnIdentity) (parent : String) :
    (Transition.continued parent s).NamesOwnIdentity := by
  unfold Transition.continued
  dsimp only
  split
  · exact h.withParent parent
  · exact (h.withParent parent).withInteractive true

end Session

namespace Objects

/-- Every session is stored at its own address, and names no identity but its own. -/
def OwnIdentities (o : Objects) : Prop :=
  ∀ ref s, o.sessions.get? ref = some s → s.ref = ref ∧ s.NamesOwnIdentity

end Objects

/-- What can be relied on when a session is read. -/
def ownReads : (call : Call) → call.Reply → Prop
  | .getSession ref, s => Session.ref s = ref ∧ Session.NamesOwnIdentity s
  | _, _ => True

/-- What a call must be like so that sessions go on naming their own identities. -/
def Call.KeepsIdentities : Call → Prop
  | .updateSession s => s.NamesOwnIdentity
  | .patchSessionAnnotations ref annotations =>
    ∀ id, annotations.get? Session.identityKey = some id → id = identityName ref.name
  | _ => True

/-! ### Steps -/

section Steps

variable {d : Draw} {call : Call} {o o' : Objects} {ref : ObjectRef} {stored new : Session}

theorem Objects.SessionWrite.namesOwnIdentity (h : SessionWrite call ref stored new)
    (hcall : call.KeepsIdentities) (href : stored.ref = ref) (hstored : stored.NamesOwnIdentity) :
    new.NamesOwnIdentity := by
  cases h with
  | update session => exact hcall
  | status session => exact hstored
  | patch _ annotations =>
    -- An identity that is merged in takes the place of the one on record.
    intro id hid
    change (stored.metadata.annotations.union annotations).get? Session.identityKey = some id at hid
    rw [SortedMap.get?_union] at hid
    cases hann : annotations.get? Session.identityKey with
    | none =>
      rw [hann, Option.none_or] at hid
      exact hstored id hid
    | some id' =>
      rw [hann] at hid
      cases hid
      rw [hcall id hann, ← href]
      rfl

theorem Objects.Effect.ownIdentities (h : Effect d call o o') (hcall : call.KeepsIdentities)
    (ho : o.OwnIdentities) : o'.OwnIdentities := by
  unfold OwnIdentities
  rcases h.sessions with hsame | ⟨ref, stored, new, hwrite, hstored, hinsert⟩
  · rw [hsame]
    exact ho
  · -- A session that is written had its own identity before, and the call gives it no other.
    obtain ⟨hown, hnames⟩ := ho ref stored hstored
    have hnew : (versioned new d.version).ref = ref ∧
        (versioned new d.version).NamesOwnIdentity :=
      ⟨hwrite.ref_eq hown, hwrite.namesOwnIdentity hcall hown hnames⟩
    rw [hinsert]
    exact SortedMap.forall_insert ho hnew

theorem ClusterState.step_ownIdentities {supply : Supply} {now : Timestamp} {who : Client}
    {s : ClusterState} (hcall : call.KeepsIdentities) (hs : s.objects.OwnIdentities) :
    (s.step supply now who call).2.objects.OwnIdentities ∧
      ∀ v, (s.step supply now who call).1 = .ok v → ownReads call v := by
  refine ⟨step_keeps hs fun _ h => h.ownIdentities hcall hs, fun v hv => ?_⟩
  cases call with
  | getSession ref =>
    obtain ⟨_, _, happly⟩ := apply_of_step hv
    exact hs ref v (Objects.apply_getSession.mp happly).2
  | _ => trivial

/-- No task asks for a call that would give a session the identity of another one. -/
theorem Task.Asks.keepsIdentities {d : Deployment} {task : Task} {who : Client}
    (h : task.Asks d ownReads who call) : call.KeepsIdentities := by
  rcases h.origin with ⟨i, ref, _, hissue⟩ | ⟨ref, htransition⟩ | hflow
  · cases hissue with
    | prepare h => cases h <;> trivial
    | token => trivial
    | store _ _ h => cases h <;> trivial
    | record =>
      -- The identity put on record is the one of the session that is patched.
      intro id hid
      rw [Issuer.get?_record] at hid
      exact (Option.some.inj hid).symm
  · cases htransition with
    | continued s hs => exact hs.2.continued ref.name
    | interactive s hs => exact hs.2.withInteractive true
    | read | status | deleteJob | deletePods => trivial
  · cases hflow with
    | read => trivial
    | store _ _ h => cases h <;> trivial

end Steps

/-! ### Runs -/

variable {d : Deployment} {s : Simulation} {events : List Event}

theorem Event.run_ownIdentities {e : Event}
    (hput : ∀ session, e = .putSession session → session.NamesOwnIdentity)
    (h : s.cluster.objects.OwnIdentities) : (e.run d s).cluster.objects.OwnIdentities := by
  cases e with
  | putSession session => exact SortedMap.forall_insert h ⟨rfl, hput session rfl⟩
  | removeSession gone => exact SortedMap.forall_erase h
  | registerToken | grant | failNext | wait => exact h
  | perform task exchange =>
    exact perform_keeps (I := fun t => t.objects.OwnIdentities)
      (fun _ _ _ _ ht hasks => ClusterState.step_ownIdentities hasks.keepsIdentities ht) h

theorem Deployment.run_ownIdentities
    (hput : ∀ session, .putSession session ∈ events → session.NamesOwnIdentity)
    (h : s.cluster.objects.OwnIdentities) : (d.run events s).cluster.objects.OwnIdentities :=
  run_invariant (I := fun t => t.cluster.objects.OwnIdentities)
    (fun _ he _ ht => Event.run_ownIdentities (fun session heq => hput session (heq ▸ he)) ht) h

/-! ### Tokens -/

section Tokens

variable {env : Surroundings} {token user : String} {ref other : ObjectRef} {r : VerifiedRunner}

theorem Objects.review_of_token {o : Objects} (h : o.tokens.get? token = some user) :
    o.review token = ⟨true, some user, none⟩ := by
  unfold review
  rw [h]

/-- A token that stands for the identity of a session is accepted for no other session. -/
theorem verified_for_own_session (htrim : Text.trim token = token)
    (htoken : s.cluster.objects.tokens.get? token = some (Identity.user (accountOf ref)))
    (hown : s.cluster.objects.OwnIdentities)
    (h : (Simulation.run env (verifyRunner token other) s).1 = .ok r) : other = ref := by
  obtain ⟨hvouch, stored, hstored, huser⟩ := run_verifyRunner_eq_ok h
  rw [htrim, Objects.review_of_token htoken] at hvouch
  -- The subject can be read as one account only, whatever the colons in the session's names.
  have haccount : (⟨other.ns, r.identity⟩ : ObjectRef) = accountOf ref :=
    Identity.user_subject hvouch.subject?
  obtain ⟨hrecord, _⟩ := (sessionUser_iff hvouch.ne_empty).mp huser
  obtain ⟨href, hnames⟩ := hown other stored hstored
  have hid : r.identity = identityName stored.metadata.name := hnames _ hrecord
  have hname : stored.metadata.name = other.name := congrArg ObjectRef.name href
  refine accountOf_injective ?_
  rw [← haccount, hid, hname]
  rfl

/-- The token of an issue that ended well is accepted for its session. -/
theorem verified_after_issue {k : Nat} {session : Session}
    (hissued : Issuer.Issued env.supply ref k s.cluster)
    (htrim : Text.trim (env.supply.token k) = env.supply.token k)
    (hne : env.supply.token k ≠ "") (hfaults : s.cluster.faults = []) (hns : ref.ns ≠ "")
    (hcolons : ':' ∉ ref.ns.toList ∧ ':' ∉ ref.name.toList)
    (hsession : s.cluster.objects.sessions.get? ref = some session)
    (huser : session.userId? = some user) :
    (Simulation.run env (verifyRunner (env.supply.token k) ref) s).1 =
      .ok ⟨ref, identityName ref.name, user⟩ := by
  obtain ⟨recorded, hrecorded, hid⟩ := hissued.recorded
  rw [hsession] at hrecorded
  cases hrecorded
  -- The name of an identity begins with a text of its own, so it is not empty; and a colon in it
  -- would be one of the session's name.
  have hidentity : identityName ref.name ≠ "" ∧ ':' ∉ (identityName ref.name).toList := by
    unfold identityName
    constructor
    · intro h
      have := congrArg (·.toList.length) h
      simp [String.toList_append] at this
    · rw [String.toList_append, List.mem_append, not_or]
      exact ⟨by decide, hcolons.2⟩
  refine run_verifyRunner_of_ready hfaults (by rwa [htrim]) ?_ hsession ?_
  · rw [htrim, Objects.review_of_token hissued.holds.2]
    exact ⟨rfl, rfl, _, rfl, rfl, hns, hidentity.1, hcolons.1, hidentity.2⟩
  · rw [sessionUser_eq_ok, identityName?_eq_some_iff]
    exact ⟨⟨hid, hidentity.1⟩, huser⟩

end Tokens

/-- **Isolation of sessions.**  Start from an empty cluster and let anything happen to it, as long
as sessions are stored without an identity on record or with their own, and tokens that are drawn
are fresh and have no blanks around them.
Then a token minted for a session is accepted for no other session; and right after a credential was
issued for a session with a user, the token in the secret that it names is accepted for it. -/
theorem Deployment.run_verifyRunner_isolated (d : Deployment) (resource : SessionResource)
    (now : Timestamp) (events : List Event) (hfresh : d.Fresh events)
    (htrim : ∀ k, Text.trim (d.supply.token k) = d.supply.token k)
    (hput : ∀ session, .putSession session ∈ events → session.NamesOwnIdentity) :
    let start : Simulation := ⟨now, { resource := resource }⟩
    (∀ ref k other env r, d.MintedFor start events ref k →
      (Simulation.run env (verifyRunner (d.supply.token k) other) (d.run events start)).1 = .ok r →
      other = ref) ∧
    ∀ who ref exchange issued s', Simulation.run (d.surroundings exchange)
        ((d.issuerAs who).issue ref) (d.run events start) = (.ok issued, s') →
      s'.cluster.faults = [] → ref.ns ≠ "" → ':' ∉ ref.ns.toList → ':' ∉ ref.name.toList →
      ∀ session user, s'.cluster.objects.sessions.get? ref = some session →
        session.userId? = some user →
        ∃ secret token, s'.cluster.objects.secrets.get? issued.secret = some secret ∧
          secret.data.get? "k8s-token" = some (Text.utf8 token) ∧
          (Simulation.run (d.surroundings exchange) (verifyRunner token ref) s').1 =
            .ok ⟨ref, identityName ref.name, user⟩ := by
  intro start
  constructor
  · intro ref k other env r hminted hverified
    have hown : (d.run events start).cluster.objects.OwnIdentities :=
      run_ownIdentities hput fun ref s hs => by cases hs
    exact verified_for_own_session (htrim k) (run_mintedFor hfresh hminted).2 hown hverified
  · intro who ref exchange issued s' hrun hfaults hns hcolon hcolon' session user hsession huser
    have hkeyed : (d.run events start).cluster.objects.Keyed :=
      run_keyed events ⟨fun _ _ h => (by cases h), fun _ _ h => (by cases h)⟩
    obtain ⟨_, hsecret, hne, hissued⟩ := Issuer.run_issue_eq_ok hfresh.injective hkeyed hrun
    obtain ⟨secret, hstored, htoken⟩ := hissued.stored
    refine ⟨secret, _, hsecret ▸ hstored, htoken, ?_⟩
    exact verified_after_issue hissued (htrim _) hne hfaults hns ⟨hcolon, hcolon'⟩ hsession huser

/-- Two sessions of one namespace: the token of one is accepted for it and not for the other. -/
theorem Deployment.run_verifyRunner_isolated_neighbours :
    let alpha : ObjectRef := ⟨"team", "alpha"⟩
    let beta : ObjectRef := ⟨"team", "beta"⟩
    let stored : List Event :=
      [.putSession (.ofUser alpha " ada " ∅), .putSession (.ofUser beta "bob" ∅)]
    let silent := fun _ : Http.Request => Except.error Http.Fault.timedOut
    let start : Simulation := ⟨.ofSeconds 0, {}⟩
    let s' := (Simulation.run (plain.surroundings silent) ((plain.issuerAs .platform).issue alpha)
      (plain.run stored start)).2
    (∀ env r, (Simulation.run env (verifyRunner "m" beta)
      (plain.run (stored ++ [.perform (.provision .platform alpha) silent]) start)).1 ≠ .ok r) ∧
    ∃ token, (Simulation.run (plain.surroundings silent) (verifyRunner token alpha) s').1 =
      .ok ⟨alpha, "ambient-session-alpha", "ada"⟩ := by
  intro alpha beta stored silent start s'
  have hclean : ∀ ref user, (Session.ofUser ref user ∅).NamesOwnIdentity := by
    intro ref user id hid
    cases hid
  have hput : ∀ events, events = stored ∨
      events = stored ++ [.perform (.provision .platform alpha) silent] →
      ∀ session, .putSession session ∈ events → session.NamesOwnIdentity := by
    rintro events (rfl | rfl) session hsession <;>
    · simp only [stored, List.cons_append, List.nil_append, List.mem_cons, Event.putSession.injEq,
        List.not_mem_nil, or_false, reduceCtorEq] at hsession
      rcases hsession with rfl | rfl
      · exact hclean _ _
      · exact hclean _ _
  constructor
  · intro env r hverified
    have hisolated := run_verifyRunner_isolated plain {} (.ofSeconds 0)
      (stored ++ [.perform (.provision .platform alpha) silent])
      (plain_fresh fun token user => by simp [stored]) Supply.trim_counting (hput _ (.inr rfl))
    have hsame : beta = alpha := hisolated.1 alpha 0 beta env r
      ⟨stored, .provision .platform alpha, silent, [], rfl, rfl, by decide +kernel,
        by decide +kernel⟩ hverified
    exact absurd hsame (by decide)
  · have hisolated := run_verifyRunner_isolated plain {} (.ofSeconds 0) stored
      (plain_fresh fun token user => by simp [stored]) Supply.trim_counting (hput _ (.inl rfl))
    obtain ⟨issued, hrun⟩ := Simulation.run_of_isOk (plain.surroundings silent)
      (a := (plain.issuerAs .platform).issue alpha) (s := plain.run stored start)
      (by decide +kernel)
    have huser : (s'.cluster.objects.sessions.get? alpha).bind Session.userId? = some "ada" := by
      decide +kernel
    obtain ⟨session, hsession, huser⟩ := Option.bind_eq_some_iff.mp huser
    obtain ⟨_, token, _, _, haccepted⟩ := hisolated.2 .platform alpha silent _ s' hrun
      (by decide +kernel) (by decide) (by decide) (by decide) session "ada" hsession huser
    exact ⟨token, haccepted⟩

end CredentialBroker
