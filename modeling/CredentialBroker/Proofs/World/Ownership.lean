import CredentialBroker.Proofs.Credential.Convergence
import CredentialBroker.Proofs.World.Event

namespace CredentialBroker

/-!
# Who owns the objects of a session

An object that is made for a session names the session as its owner; an object that is there keeps
the owner it has.  So where sessions come and go under one name, the objects belong to the first of
them for which a credential was issued.

* `Objects.holdings` — what there is under the names of a session's objects;
* `Deployment.founder?` — the first session of a name for which a credential was issued;
* `Issuer.Settles.founded`, `Event.run_founded`, `Deployment.run_founded` — the holdings belong to
  the founder, after an issue, after an event and after a run;
* `Deployment.run_issue_owners` — whose they are right after an issue;
* `Deployment.run_issue_outlived` — a session that took the name of one that is gone owns nothing of
  what is issued for it.
-/

/-! ### Holdings -/

/-- Account, role, role binding and secret of a session. -/
structure Holdings where
  /-- The account. -/
  account : Option ServiceAccount
  /-- The role. -/
  role : Option Role
  /-- The role binding. -/
  binding : Option RoleBinding
  /-- The secret with the token. -/
  secret : Option Secret

/-- What there is under the names of a session's objects. -/
def Objects.holdings (o : Objects) (ref : ObjectRef) : Holdings where
  account := o.accounts.get? (accountOf ref)
  role := o.roles.get? (roleOf ref)
  binding := o.bindings.get? (bindingOf ref)
  secret := o.secrets.get? (Issuer.tokenSecret ref)

namespace Holdings

variable {i : Issuer} {ref : ObjectRef} {session : Session} {token : String} {o o' : Objects}
  {founder? : Option Session} {h : Holdings}

/-- Everything is there, and its owners are as said. -/
structure Owned (h : Holdings) (P : List OwnerReference → Prop) : Prop where
  /-- The account is. -/
  account : ∃ account, h.account = some account ∧ P account.owners
  /-- The role is. -/
  role : ∃ role, h.role = some role ∧ P role.owners
  /-- The role binding is. -/
  binding : ∃ binding, h.binding = some binding ∧ P binding.owners
  /-- The secret is. -/
  secret : ∃ secret, h.secret = some secret ∧ P secret.owners

theorem Owned.mono {P Q : List OwnerReference → Prop} (howned : h.Owned P)
    (hPQ : ∀ owners, P owners → Q owners) : h.Owned Q where
  account := howned.account.imp fun _ h => h.imp_right (hPQ _)
  role := howned.role.imp fun _ h => h.imp_right (hPQ _)
  binding := howned.binding.imp fun _ h => h.imp_right (hPQ _)
  secret := howned.secret.imp fun _ h => h.imp_right (hPQ _)

/-- Nothing is there before a session founded it, and then it belongs to that session. -/
def Founded (ref : ObjectRef) (h : Holdings) : Option Session → Prop
  | none => h = ⟨none, none, none, none⟩
  | some founder => h.Owned (· = [founder.ownerReference]) ∧
      ∀ b, h.binding = some b →
        b.subjects = [⟨"ServiceAccount", identityName ref.name, some ref.ns⟩]

/-- What is there was founded, and belongs to its founder. -/
theorem Founded.exists_owner {first? : Option Session} (hf : h.Founded ref first?)
    (hthere : h.account.isSome) :
    ∃ founder, first? = some founder ∧ h.Owned (· = [founder.ownerReference]) := by
  cases first? with
  | none =>
    rw [show h = ⟨none, none, none, none⟩ from hf] at hthere
    cases hthere
  | some founder => exact ⟨founder, rfl, hf.1⟩

/-- What belongs to one session belongs to those with the same identifier. -/
theorem Owned.uid_iff {founder : Session} (howned : h.Owned (· = [founder.ownerReference]))
    {uid : String} :
    h.Owned (fun owners => ∃ owner ∈ owners, owner.uid = uid) ↔ founder.metadata.uid = uid := by
  constructor
  · intro hclaimed
    obtain ⟨account, haccount, howners⟩ := howned.account
    obtain ⟨account', haccount', owner, hmem, huid⟩ := hclaimed.account
    obtain rfl : account = account' := Option.some.inj (haccount.symm.trans haccount')
    rw [howners, List.mem_singleton] at hmem
    rw [← huid, hmem]
    rfl
  · rintro rfl
    refine howned.mono ?_
    rintro _ rfl
    exact ⟨_, List.mem_singleton_self _, rfl⟩

end Holdings

namespace Issuer

variable {i : Issuer} {ref other : ObjectRef} {session : Session} {token : String} {o o' : Objects}

/-- The holdings of a session after an issue for it. -/
theorem Settles.holdings_eq (h : i.Settles ref session token o o') :
    ∃ v w x, o'.holdings ref =
      ⟨some (settledAccount ref session.ownerReference (o.holdings ref).account),
        some (i.settledRole ref session.ownerReference v (o.holdings ref).role),
        some (settledBinding ref session.ownerReference w (o.holdings ref).binding),
        some ((tokenChange token session.ownerReference).written (tokenSecret ref) x
          (o.holdings ref).secret)⟩ := by
  obtain ⟨v, hroles⟩ := h.roles
  obtain ⟨w, hbindings⟩ := h.bindings
  obtain ⟨x, hsecrets⟩ := h.secrets
  refine ⟨v, w, x, ?_⟩
  unfold Objects.holdings
  rw [h.accounts, hroles, hbindings, hsecrets]
  simp only [SortedMap.get?_insert_self]

/-- The holdings of the other sessions stay as they are. -/
theorem Settles.holdings_other (h : i.Settles ref session token o o') (hne : other ≠ ref) :
    o'.holdings other = o.holdings other := by
  unfold Objects.holdings
  rw [h.provided.accounts _ (hne ∘ accountOf_injective),
    h.provided.roles _ (hne ∘ roleOf_injective), h.provided.bindings _ (hne ∘ bindingOf_injective),
    h.provided.secrets _ (hne ∘ tokenSecret_injective)]

/-- An issue founds what is not there, and leaves to its founder what is. -/
theorem Settles.founded {founder? : Option Session} (h : i.Settles ref session token o o')
    (hf : (o.holdings ref).Founded ref founder?) :
    (o'.holdings ref).Founded ref (founder?.or (some session)) := by
  have hsubjects : ∀ b, (o'.holdings ref).binding = some b →
      b.subjects = [⟨"ServiceAccount", identityName ref.name, some ref.ns⟩] := by
    obtain ⟨b, hb, hsubjects⟩ := h.provided.binding
    intro b' hb'
    rwa [← Option.some.inj (hb.symm.trans hb')]
  obtain ⟨v, w, x, heq⟩ := h.holdings_eq
  cases founder? with
  | none =>
    refine ⟨?_, hsubjects⟩
    rw [heq, hf]
    exact ⟨⟨_, rfl, rfl⟩, ⟨_, rfl, rfl⟩, ⟨_, rfl, rfl⟩, ⟨_, rfl, rfl⟩⟩
  | some founder =>
    refine ⟨?_, hsubjects⟩
    obtain ⟨⟨⟨account, haccount, hfirst⟩, ⟨role, hrole, hsecond⟩, ⟨b, hbinding, hthird⟩,
      ⟨secret, hsecret, hfourth⟩⟩, hbound⟩ := hf
    -- Owners that are there are kept, by the role binding because it is not touched at all.
    have howned : ∀ {owners : List OwnerReference}, owners = [founder.ownerReference] →
        owners ≠ [] := fun heq => heq ▸ List.cons_ne_nil _ _
    rw [heq, haccount, hrole, hbinding, hsecret, settledBinding_of_settled (hbound b hbinding)]
    refine ⟨⟨_, rfl, hfirst⟩, ⟨_, rfl, ?_⟩, ⟨_, rfl, hthird⟩, ⟨_, rfl, ?_⟩⟩
    · rw [owners_settledRole (howned hsecond), hsecond]
    · rw [SecretChange.owners_written (howned hfourth), hfourth]

end Issuer

/-! ### Events -/

/-- Sessions come and go, time passes, and the platform issues credentials for the sessions. -/
inductive Event.OfSessions : Event → Prop where
  /-- A session is stored. -/
  | put (session : Session) : OfSessions (.putSession session)
  /-- A session is removed. -/
  | remove (ref : ObjectRef) : OfSessions (.removeSession ref)
  /-- Time passes. -/
  | wait (length : Span) : OfSessions (.wait length)
  /-- The platform issues a credential. -/
  | issue (ref : ObjectRef) (exchange : Http.Request → Except Http.Fault Http.Response) :
    OfSessions (.perform (.provision .platform ref) exchange)

/-- The session of a name for which an event issues a credential. -/
def Event.founds? (ref : ObjectRef) (s : Simulation) : Event → Option Session
  | .perform (.provision _ issued) _ =>
    if issued = ref then s.cluster.objects.sessions.get? ref else none
  | _ => none

/-- The first session of a name for which a credential is issued in a run. -/
def Deployment.founder? (d : Deployment) (ref : ObjectRef) :
    List Event → Simulation → Option Session
  | [], _ => none
  | e :: events, s => (e.founds? ref s).or (d.founder? ref events (e.run d s))

section Runs

variable {d : Deployment} {s : Simulation} {e : Event} {events : List Event} {ref : ObjectRef}
  {first? : Option Session}

/-- No failure is waiting, and the holdings of a session belong to its founder. -/
structure Simulation.Founded (s : Simulation) (ref : ObjectRef) (first? : Option Session) :
    Prop where
  /-- No failure is waiting. -/
  ready : s.cluster.faults = []
  /-- Objects are found at their addresses. -/
  keyed : s.cluster.objects.Keyed
  /-- The holdings belong to the founder. -/
  founded : (s.cluster.objects.holdings ref).Founded ref first?

/-- Issuing is the one thing that such a task does. -/
theorem Event.run_provision {who : Client}
    (exchange : Http.Request → Except Http.Fault Http.Response) :
    (perform (.provision who ref) exchange).run d s =
      (Simulation.run (d.surroundings exchange) ((d.issuerAs who).issue ref) s).2 :=
  congrArg Prod.snd (Simulation.run_discard _)

/-- The session that an event issues for founds the holdings, unless they were founded before. -/
theorem Event.run_founded (he : e.OfSessions) (htokens : ∀ k, d.supply.token k ≠ "")
    (h : s.Founded ref first?) : (e.run d s).Founded ref (first?.or (e.founds? ref s)) := by
  have hkeyed : (e.run d s).cluster.objects.Keyed := e.run_keyed h.keyed
  -- An event that issues nothing for the session leaves it to its founder.
  have hkept : first?.or none = first? := Option.or_none
  cases he with
  | put | remove | wait =>
    refine ⟨h.ready, hkeyed, ?_⟩
    show (s.cluster.objects.holdings ref).Founded ref (first?.or none)
    rw [hkept]
    exact h.founded
  | issue issued exchange =>
    rw [run_provision] at hkeyed ⊢
    rw [founds?]
    cases hsession : s.cluster.objects.sessions.get? issued with
    | none =>
      obtain ⟨error, t, hrun, hobjects, ht⟩ := Issuer.run_issue_of_absent issued
        (d.surroundings exchange) (i := d.issuerAs .platform) rfl h.ready hsession
      have hnone : (if issued = ref then s.cluster.objects.sessions.get? ref else none) = none := by
        split
        · next heq => rw [← heq, hsession]
        · rfl
      rw [hrun] at hkeyed ⊢
      rw [hnone, hkept]
      exact ⟨ht, hkeyed, hobjects ▸ h.founded⟩
    | some session =>
      obtain ⟨t, hrun, hsettles, ht⟩ := Issuer.run_issue_of_ready issued
        (d.surroundings exchange) (i := d.issuerAs .platform) rfl h.ready h.keyed (htokens _)
        hsession
      rw [hrun] at hkeyed ⊢
      refine ⟨ht, hkeyed, ?_⟩
      by_cases heq : issued = ref
      · subst heq
        rw [if_pos rfl, hsession]
        exact hsettles.founded h.founded
      · rw [if_neg heq, hkept, hsettles.holdings_other (Ne.symm heq)]
        exact h.founded

/-- The holdings of a session belong to the first session they were issued for in a run. -/
theorem Deployment.run_founded (hevents : ∀ e ∈ events, e.OfSessions)
    (htokens : ∀ k, d.supply.token k ≠ "") (h : s.Founded ref first?) :
    (d.run events s).Founded ref (first?.or (d.founder? ref events s)) := by
  induction events generalizing s first? with
  | nil =>
    rw [founder?, Option.or_none]
    exact h
  | cons e events ih =>
    have hstep := Event.run_founded (hevents e List.mem_cons_self) htokens h
    rw [run_cons, founder?, ← Option.or_assoc]
    exact ih (fun e' he' => hevents e' (List.mem_cons_of_mem _ he')) hstep

/-- **Owners after an issue.**  Let sessions come and go on a new cluster while time passes and the
platform issues credentials for them.  Right after an issue that ends well, account, role, role
binding and secret of the session belong to the first session of that name for which a credential
was issued; so they belong to the session that is there exactly when that one has the same
identifier. -/
theorem Deployment.run_issue_owners (d : Deployment) (now : Timestamp) (resource : SessionResource)
    (events : List Event) (hevents : ∀ e ∈ events, e.OfSessions)
    (htokens : ∀ k, d.supply.token k ≠ "") :
    let start : Simulation := ⟨now, { resource := resource }⟩
    ∀ ref exchange issued s', Simulation.run (d.surroundings exchange)
        ((d.issuerAs .platform).issue ref) (d.run events start) = (.ok issued, s') →
      ∃ founder session,
        d.founder? ref (events ++ [.perform (.provision .platform ref) exchange]) start =
          some founder ∧
        s'.cluster.objects.sessions.get? ref = some session ∧
        (s'.cluster.objects.holdings ref).Owned (· = [founder.ownerReference]) ∧
        ((s'.cluster.objects.holdings ref).Owned
            (fun owners => ∃ owner ∈ owners, owner.uid = session.metadata.uid) ↔
          founder.metadata.uid = session.metadata.uid) := by
  intro start ref exchange issued s' hrun
  have hstart : start.Founded ref none :=
    ⟨rfl, (ClusterState.Reachable.fresh resource : ClusterState.Reachable d.supply _).keyed, rfl⟩
  -- The issue is the last event of a run.
  have hlast : d.run (events ++ [.perform (.provision .platform ref) exchange]) start = s' := by
    rw [run_append, run_cons, run_nil, Event.run_provision, hrun]
  have hfounded : s'.Founded ref
      (d.founder? ref (events ++ [.perform (.provision .platform ref) exchange]) start) := by
    rw [← hlast]
    refine run_founded (fun e he => ?_) htokens hstart
    rcases List.mem_append.mp he with he | he
    · exact hevents e he
    · rw [List.mem_singleton.mp he]
      exact .issue ref exchange
  -- It ended well, so its session was there, and is.
  have hs : (d.run events start).Founded ref (d.founder? ref events start) :=
    run_founded hevents htokens hstart
  cases hsession : (d.run events start).cluster.objects.sessions.get? ref with
  | none =>
    obtain ⟨error, t, hfailed, _⟩ := Issuer.run_issue_of_absent ref (d.surroundings exchange)
      (i := d.issuerAs .platform) rfl hs.ready hsession
    cases hrun.symm.trans hfailed
  | some stored =>
    obtain ⟨t, hsettled, hsettles, _⟩ := Issuer.run_issue_of_ready ref (d.surroundings exchange)
      (i := d.issuerAs .platform) rfl hs.ready hs.keyed (htokens _) hsession
    obtain ⟨_, rfl⟩ := Prod.mk.inj (hrun.symm.trans hsettled)
    obtain ⟨version, hthere⟩ := hsettles.provided.session
    obtain ⟨founder, hfounder, howned⟩ := hfounded.founded.exists_owner hsettles.provided.account
    exact ⟨founder, _, hfounder, hthere, howned, howned.uid_iff⟩

/-- The session that is there took the name of another one, which the objects belong to. -/
theorem Deployment.run_issue_owners_renamed :
    let alpha : ObjectRef := ⟨"team", "alpha"⟩
    let stored := fun uid : String => Event.putSession
      ⟨"", "", ⟨"alpha", "team", uid, none, ∅, ∅, ∅⟩, ⟨none, none, ∅⟩,
        ⟨none, none, none, none, none, ∅⟩⟩
    let silent := fun _ : Http.Request => Except.error Http.Fault.timedOut
    let events := [stored "1", .perform (.provision .platform alpha) silent, .removeSession alpha,
      stored "2"]
    ∃ issued s', Simulation.run (plain.surroundings silent)
        ((plain.issuerAs .platform).issue alpha) (plain.run events ⟨.ofSeconds 0, {}⟩) =
          (.ok issued, s') ∧
      ∃ founder : Session, founder.metadata.uid = "1" ∧
        (s'.cluster.objects.holdings alpha).Owned (· = [founder.ownerReference]) := by
  intro alpha stored silent events
  obtain ⟨issued, hrun⟩ := Simulation.run_of_isOk (plain.surroundings silent)
    (s := plain.run events ⟨.ofSeconds 0, {}⟩) (a := (plain.issuerAs .platform).issue alpha)
    (by decide +kernel)
  obtain ⟨founder, session, hfounder, _, howned, _⟩ := run_issue_owners plain (.ofSeconds 0) {}
    events (fun e he => by
      simp only [events, List.mem_cons, List.not_mem_nil, or_false] at he
      rcases he with rfl | rfl | rfl | rfl
      exacts [.put _, .issue _ _, .remove _, .put _])
    (fun k h => by simp [plain, Supply.counting] at h) alpha silent issued _ hrun
  have hfirst : (plain.founder? alpha (events ++ [.perform (.provision .platform alpha) silent])
      ⟨.ofSeconds 0, {}⟩).map (·.metadata.uid) = some "1" := by decide +kernel
  rw [hfounder, Option.map_some, Option.some.injEq] at hfirst
  exact ⟨issued, _, hrun, founder, hfirst, howned⟩

/-- **Outlived.**  A session that takes the name of one that is gone is issued a credential, and
account, role, role binding and secret name the one that is gone as their owner. -/
theorem Deployment.run_issue_outlived :
    let alpha : ObjectRef := ⟨"team", "alpha"⟩
    let stored := fun uid : String => Event.putSession
      ⟨"", "", ⟨"alpha", "team", uid, none, ∅, ∅, ∅⟩, ⟨none, none, ∅⟩,
        ⟨none, none, none, none, none, ∅⟩⟩
    let silent := fun _ : Http.Request => Except.error Http.Fault.timedOut
    let outcome := Simulation.run (plain.surroundings silent)
      ((plain.issuerAs .platform).issue alpha)
      (plain.run [stored "1", .perform (.provision .platform alpha) silent, .removeSession alpha,
        stored "2"] ⟨.ofSeconds 0, {}⟩)
    let o := outcome.2.cluster.objects
    outcome.1.isOk ∧ (o.sessions.get? alpha).map (·.metadata.uid) = some "2" ∧
      (o.accounts.get? (accountOf alpha)).map (·.owners.map (·.uid)) = some ["1"] ∧
      (o.roles.get? (roleOf alpha)).map (·.owners.map (·.uid)) = some ["1"] ∧
      (o.bindings.get? (bindingOf alpha)).map (·.owners.map (·.uid)) = some ["1"] ∧
      (o.secrets.get? (Issuer.tokenSecret alpha)).map (·.owners.map (·.uid)) = some ["1"] := by
  decide +kernel

end Runs

end CredentialBroker
