import CredentialBroker.Credential.Runner
import CredentialBroker.Proofs.Cluster.Identity
import CredentialBroker.Proofs.Cluster.Run
import CredentialBroker.Proofs.Effect.Answered

namespace CredentialBroker

/-!
# When a job is believed

The checks of `verifyRunner`, one by one and then together.

* `reviewedIdentity_eq_ok` and `sessionUser_eq_ok` — what a review and a session have to say;
* `verifyRunner_answered` — for every answer of the cluster, which token is accepted, which refusal
  a subject meets that is not the one recorded, and what is asked;
* `run_verifyRunner_eq_ok` and `run_verifyRunner_of_ready` — the same on a cluster held in memory.
-/

namespace Identity

/-- A name of the form that the cluster gives to machine identities, neither part empty or with a
colon in it. -/
def IsSubject (ns id name : String) : Prop :=
  name = "system:serviceaccount:" ++ ns ++ ":" ++ id ∧ ns ≠ "" ∧ id ≠ "" ∧ ':' ∉ ns.toList ∧
    ':' ∉ id.toList

theorem isSubject_iff {ns id name : String} :
    IsSubject ns id name ↔ subject? name = some ⟨ns, id⟩ := by
  unfold IsSubject
  rw [subject?_eq_some_iff, user, userStart]

end Identity

/-- The review found the token valid for the machine identity `id` of the namespace `ns`. -/
def TokenReview.VouchesFor (review : TokenReview) (ns id : String) : Prop :=
  review.authenticated = true ∧ review.error = none ∧
    ∃ name, review.username = some name ∧ Identity.IsSubject ns id name

/-! ### Single checks -/

section Checks

variable {session : ObjectRef} {review : TokenReview} {stored : Session} {ns id user : String}

theorem TokenReview.VouchesFor.subject? (h : review.VouchesFor ns id) :
    Identity.subject? (review.username.getD "") = some ⟨ns, id⟩ := by
  obtain ⟨_, _, name, hname, hsubject⟩ := h
  rw [hname]
  exact Identity.isSubject_iff.mp hsubject

theorem TokenReview.VouchesFor.ne_empty (h : review.VouchesFor ns id) : id ≠ "" := by
  obtain ⟨_, _, _, _, _, _, hne, _⟩ := h
  exact hne

/-- The empty user name is nobody's, so a review without a name vouches for nobody. -/
theorem TokenReview.vouchesFor_of_subject? (hauth : review.authenticated = true)
    (herror : review.error = none)
    (h : Identity.subject? (review.username.getD "") = some ⟨ns, id⟩) :
    review.VouchesFor ns id := by
  refine ⟨hauth, herror, ?_⟩
  cases hname : review.username with
  | some name =>
    rw [hname] at h
    exact ⟨name, rfl, Identity.isSubject_iff.mpr h⟩
  | none =>
    rw [hname] at h
    cases h

/-- A review is good for the identity it vouches for in the namespace of the session. -/
theorem reviewedIdentity_eq_ok :
    reviewedIdentity session review = .ok id ↔ review.VouchesFor session.ns id := by
  unfold reviewedIdentity
  constructor
  · intro h
    split at h
    · cases h
    · next hvalid =>
      simp only [not_or, Bool.not_eq_false, Option.not_isSome_iff_eq_none] at hvalid
      split at h
      · cases h
      · next account hsubject =>
        split at h
        · cases h
        · next hns =>
          cases h
          rw [Decidable.not_not] at hns
          exact TokenReview.vouchesFor_of_subject? hvalid.1 hvalid.2 (hns ▸ hsubject)
  · intro h
    rw [if_neg (by simp [h.1, h.2.1]), h.subject?]
    simp

/-- An authenticated review that does not vouch for an identity of the namespace is forbidden. -/
theorem reviewedIdentity_forbidden (hauth : review.authenticated = true)
    (herror : review.error = none) (h : ∀ id, ¬ review.VouchesFor session.ns id) :
    ∃ detail, reviewedIdentity session review = .error (.forbidden detail) := by
  unfold reviewedIdentity
  rw [if_neg (by simp [hauth, herror])]
  cases hsubject : Identity.subject? (review.username.getD "") with
  | none => exact ⟨_, rfl⟩
  | some account =>
    by_cases hns : account.ns = session.ns
    · have hvouch : review.VouchesFor session.ns account.name :=
        TokenReview.vouchesFor_of_subject? hauth herror (hns ▸ hsubject)
      exact absurd hvouch (h account.name)
    · exact ⟨_, if_pos hns⟩

/-- The identity on record is compared character for character, and an empty one is none. -/
theorem identityName?_eq_some_iff :
    stored.identityName? = some id ↔
      stored.metadata.annotations.get? Session.identityKey = some id ∧ id ≠ "" := by
  unfold Session.identityName? Session.annotation?
  rw [Option.filter_eq_some_iff]
  simp

/-- The user of a session is the identifier given, without the blanks around it. -/
theorem userId?_eq_some_iff :
    stored.userId? = some user ↔
      ∃ context given, stored.spec.userContext = some context ∧ context.userId = some given ∧
        user = Text.trim given ∧ user ≠ "" := by
  unfold Session.userId?
  rw [Option.filter_eq_some_iff, Option.map_eq_some_iff]
  simp only [Option.bind_eq_some_iff, decide_eq_true_eq]
  constructor
  · rintro ⟨⟨given, ⟨context, hcontext, hgiven⟩, rfl⟩, hne⟩
    exact ⟨context, given, hcontext, hgiven, rfl, hne⟩
  · rintro ⟨context, given, hcontext, hgiven, rfl, hne⟩
    exact ⟨⟨given, ⟨context, hcontext, hgiven⟩, rfl⟩, hne⟩

theorem sessionUser_eq_ok :
    sessionUser id stored = .ok user ↔
      stored.identityName? = some id ∧ stored.userId? = some user := by
  unfold sessionUser
  cases hid : stored.identityName? with
  | none => simp
  | some expected =>
    by_cases hne : expected = id
    · subst hne
      cases stored.userId? <;> simp
    · simp [hne]

/-- The record of a session decides for the identity it names, and for the user it has. -/
theorem sessionUser_iff (hid : id ≠ "") :
    sessionUser id stored = .ok user ↔
      stored.metadata.annotations.get? Session.identityKey = some id ∧
        ∃ context given, stored.spec.userContext = some context ∧ context.userId = some given ∧
          user = Text.trim given ∧ user ≠ "" := by
  rw [sessionUser_eq_ok, identityName?_eq_some_iff, userId?_eq_some_iff]
  simp only [hid, ne_eq, not_false_eq_true, and_true]

/-- A session with another identity on record, or none, is forbidden. -/
theorem sessionUser_forbidden (h : stored.identityName? ≠ some id) :
    ∃ detail, sessionUser id stored = .error (.forbidden detail) := by
  unfold sessionUser
  cases hid : stored.identityName? with
  | none => exact ⟨_, rfl⟩
  | some expected =>
    have hne : expected ≠ id := fun he => h (he ▸ hid)
    exact ⟨_, if_pos hne⟩

end Checks

/-! ### The whole check -/

section Answers

variable (answer : (d : Demand) → d.Reply) (token : String) (session : ObjectRef)

/-- The request for the review of a token. -/
def reviewDemand (token : String) : Demand := .cluster .platform (.reviewToken (Text.trim token))

/-- The request for a session. -/
def sessionDemand (session : ObjectRef) : Demand := .cluster .platform (.getSession session)

@[simp] theorem answered_askPlatform (call : Call) :
    Action.answered answer (askPlatform call) =
      ((answer (.cluster .platform call)).mapError ClusterError.toCredential,
        [.cluster .platform call]) := by
  unfold askPlatform
  rw [Action.answered_mapError, Action.answered_cluster]

/-- A blank token is refused and nothing is asked. -/
theorem verifyRunner_blank (h : Text.trim token = "") :
    Action.answered answer (verifyRunner token session) =
      (.error (.unauthenticated "missing bearer token"), []) := by
  unfold verifyRunner
  rw [if_pos h]
  rfl

/-- The check as a sequence of its parts. -/
theorem verifyRunner_eq (h : Text.trim token ≠ "") :
    verifyRunner token session = (do
      let review ← askPlatform (.reviewToken (Text.trim token))
      let id ← Action.ofExcept (reviewedIdentity session review)
      let stored ← askPlatform (.getSession session)
      let user ← Action.ofExcept (sessionUser id stored)
      pure ⟨session, id, user⟩) := by
  unfold verifyRunner
  rw [if_neg h]

variable {answer token session}

/-- When the review fails, its error is the outcome. -/
theorem verifyRunner_unreviewed {e : ClusterError} (h : Text.trim token ≠ "")
    (hreview : answer (reviewDemand token) = .error e) :
    Action.answered answer (verifyRunner token session) =
      (.error e.toCredential, [reviewDemand token]) := by
  unfold reviewDemand at hreview
  rw [verifyRunner_eq token session h, Action.answered_bind, answered_askPlatform, hreview]
  rfl

/-- A review that is not good for the namespace of the session is all that is asked for. -/
theorem verifyRunner_refused {review : TokenReview} {e : CredentialError} (h : Text.trim token ≠ "")
    (hreview : answer (reviewDemand token) = .ok review)
    (hid : reviewedIdentity session review = .error e) :
    Action.answered answer (verifyRunner token session) = (.error e, [reviewDemand token]) := by
  unfold reviewDemand at hreview
  rw [verifyRunner_eq token session h, Action.answered_bind, answered_askPlatform, hreview]
  simp only [Outcome.ok_mapError, Action.answered_bind, Action.answered_ofExcept, hid,
    List.append_nil, reviewDemand]

/-- The second half of the check: the session is asked for, and its record decides. -/
theorem answered_record (id : String) :
    Action.answered answer (do
        let stored ← askPlatform (.getSession session)
        let user ← Action.ofExcept (sessionUser id stored)
        pure (⟨session, id, user⟩ : VerifiedRunner)) =
      ((do
        let stored ← (answer (sessionDemand session)).mapError ClusterError.toCredential
        let user ← sessionUser id stored
        pure ⟨session, id, user⟩),
        [sessionDemand session]) := by
  unfold sessionDemand
  rw [Action.answered_bind, answered_askPlatform]
  cases answer (.cluster .platform (.getSession session)) with
  | error e => rfl
  | ok stored =>
    simp only [Outcome.ok_mapError, Action.answered_bind, Action.answered_ofExcept]
    cases hused : sessionUser id stored with
    | error e => simp only [Outcome.ok_bind, Outcome.error_bind, hused, List.append_nil]
    | ok user =>
      simp only [Outcome.ok_bind, hused]
      rfl

/-- With a good review the session is asked for too. -/
theorem verifyRunner_reviewed {review : TokenReview} {id : String} (h : Text.trim token ≠ "")
    (hreview : answer (reviewDemand token) = .ok review)
    (hid : reviewedIdentity session review = .ok id) :
    Action.answered answer (verifyRunner token session) =
      ((do
        let stored ← (answer (sessionDemand session)).mapError ClusterError.toCredential
        let user ← sessionUser id stored
        pure ⟨session, id, user⟩),
        [reviewDemand token, sessionDemand session]) := by
  unfold reviewDemand at hreview
  rw [verifyRunner_eq token session h, Action.answered_bind, answered_askPlatform, hreview]
  simp only [Outcome.ok_mapError]
  rw [Action.answered_bind, Action.answered_ofExcept, hid]
  dsimp only
  rw [answered_record]
  rfl

/-- A job is accepted when both checks pass on what the cluster answers. -/
theorem verifyRunner_eq_ok {r : VerifiedRunner} :
    (Action.answered answer (verifyRunner token session)).1 = .ok r ↔
      Text.trim token ≠ "" ∧ ∃ review stored,
        answer (reviewDemand token) = .ok review ∧
        reviewedIdentity session review = .ok r.identity ∧
        answer (sessionDemand session) = .ok stored ∧
        sessionUser r.identity stored = .ok r.userId ∧ r.session = session := by
  constructor
  · intro h
    -- Each check that fails ends in an error, so all of them passed.
    by_cases hblank : Text.trim token = ""
    · rw [verifyRunner_blank answer token session hblank] at h
      cases h
    refine ⟨hblank, ?_⟩
    cases hreview : answer (reviewDemand token) with
    | error e =>
      rw [verifyRunner_unreviewed hblank hreview] at h
      cases h
    | ok review =>
      cases hid : reviewedIdentity session review with
      | error e =>
        rw [verifyRunner_refused hblank hreview hid] at h
        cases h
      | ok id =>
        rw [verifyRunner_reviewed hblank hreview hid] at h
        cases hstored : answer (sessionDemand session) with
        | error e =>
          rw [hstored] at h
          cases h
        | ok stored =>
          cases huser : sessionUser id stored with
          | error e =>
            simp only [hstored, Outcome.ok_mapError, Outcome.ok_bind, Outcome.error_bind,
              huser] at h
            cases h
          | ok user =>
            simp only [hstored, Outcome.ok_mapError, Outcome.ok_bind, huser] at h
            cases h
            exact ⟨review, stored, rfl, hid, rfl, huser, rfl⟩
  · rintro ⟨hblank, review, stored, hreview, hid, hstored, huser, rfl⟩
    rw [verifyRunner_reviewed hblank hreview hid, hstored]
    simp only [Outcome.ok_mapError, Outcome.ok_bind, huser]
    rfl

/-- A review that is no good is the outcome, and so is a record that is no good. -/
theorem verifyRunner_eq_error {review : TokenReview} {e : CredentialError}
    (hblank : Text.trim token ≠ "") (hreview : answer (reviewDemand token) = .ok review)
    (h : reviewedIdentity session review = .error e ∨
      ∃ id stored, reviewedIdentity session review = .ok id ∧
        answer (sessionDemand session) = .ok stored ∧ sessionUser id stored = .error e) :
    (Action.answered answer (verifyRunner token session)).1 = .error e := by
  rcases h with hid | ⟨id, stored, hid, hstored, huser⟩
  · rw [verifyRunner_refused hblank hreview hid]
  · rw [verifyRunner_reviewed hblank hreview hid, hstored]
    simp only [Outcome.ok_mapError, Outcome.ok_bind, Outcome.error_bind, huser]

/-- The session is asked for only after a review that is good for its namespace. -/
theorem verifyRunner_asks {d : Demand}
    (h : d ∈ (Action.answered answer (verifyRunner token session)).2) :
    d = reviewDemand token ∨
      d = sessionDemand session ∧ ∃ review id, answer (reviewDemand token) = .ok review ∧
        reviewedIdentity session review = .ok id := by
  by_cases hblank : Text.trim token = ""
  · rw [verifyRunner_blank answer token session hblank] at h
    cases h
  cases hreview : answer (reviewDemand token) with
  | error e =>
    rw [verifyRunner_unreviewed hblank hreview] at h
    exact .inl (List.mem_singleton.mp h)
  | ok review =>
    cases hid : reviewedIdentity session review with
    | error e =>
      rw [verifyRunner_refused hblank hreview hid] at h
      exact .inl (List.mem_singleton.mp h)
    | ok id =>
      rw [verifyRunner_reviewed hblank hreview hid] at h
      rcases List.mem_cons.mp h with h | h
      · exact .inl h
      · exact .inr ⟨List.mem_singleton.mp h, review, id, rfl, hid⟩

end Answers

/-- **When a job is believed.**  Whatever the cluster answers, a token is accepted exactly when it
is not blank, its review vouches for an identity in the namespace of the session, the session has
that very identity on record, and it has a user.  An authenticated subject that is none of the
namespace, or another one than is on record, is forbidden; and the session is asked for only when
the namespace is right. -/
theorem verifyRunner_answered (answer : (d : Demand) → d.Reply) (token : String)
    (session : ObjectRef) :
    let verdict := Action.answered answer (verifyRunner token session)
    let review := answer (reviewDemand token)
    let stored := answer (sessionDemand session)
    (∀ r, verdict.1 = .ok r ↔
      Text.trim token ≠ "" ∧ r.session = session ∧
        (∃ v, review = .ok v ∧ v.VouchesFor session.ns r.identity) ∧
        ∃ s context given, stored = .ok s ∧
          s.metadata.annotations.get? "ambient-code.io/runner-sa" = some r.identity ∧
          s.spec.userContext = some context ∧ context.userId = some given ∧
          r.userId = Text.trim given ∧ r.userId ≠ "") ∧
    (∀ v, Text.trim token ≠ "" → review = .ok v → v.authenticated = true → v.error = none →
      ((∀ id, ¬ v.VouchesFor session.ns id) ∨
        ∃ id s, v.VouchesFor session.ns id ∧ stored = .ok s ∧
          s.metadata.annotations.get? "ambient-code.io/runner-sa" ≠ some id) →
      ∃ detail, verdict.1 = .error (.forbidden detail)) ∧
    ∀ d ∈ verdict.2, d = reviewDemand token ∨
      d = sessionDemand session ∧ ∃ v id, review = .ok v ∧ v.VouchesFor session.ns id := by
  intro verdict review stored
  refine ⟨fun r => ?_, ?_, ?_⟩
  · rw [verifyRunner_eq_ok]
    constructor
    · rintro ⟨hblank, v, s, hreview, hid, hstored, huser, hsession⟩
      have hvouch := reviewedIdentity_eq_ok.mp hid
      obtain ⟨hrecord, context, given, huser⟩ := (sessionUser_iff hvouch.ne_empty).mp huser
      exact ⟨hblank, hsession, ⟨v, hreview, hvouch⟩, s, context, given, hstored, hrecord, huser⟩
    · rintro ⟨hblank, hsession, ⟨v, hreview, hvouch⟩, s, context, given, hstored, hrecord, huser⟩
      exact ⟨hblank, v, s, hreview, reviewedIdentity_eq_ok.mpr hvouch, hstored,
        (sessionUser_iff hvouch.ne_empty).mpr ⟨hrecord, context, given, huser⟩, hsession⟩
  · rintro v hblank hreview hauth herror (hnone | ⟨id, s, hvouch, hstored, hrecord⟩)
    · obtain ⟨detail, hid⟩ := reviewedIdentity_forbidden hauth herror hnone
      exact ⟨detail, verifyRunner_eq_error hblank hreview (.inl hid)⟩
    · have hname : s.identityName? ≠ some id :=
        fun h => hrecord (identityName?_eq_some_iff.mp h).1
      obtain ⟨detail, huser⟩ := sessionUser_forbidden hname
      exact ⟨detail, verifyRunner_eq_error hblank hreview
        (.inr ⟨id, s, reviewedIdentity_eq_ok.mpr hvouch, hstored, huser⟩)⟩
  · intro d hd
    rcases verifyRunner_asks hd with hd | ⟨hd, v, id, hreview, hid⟩
    · exact .inl hd
    · exact .inr ⟨hd, v, id, hreview, reviewedIdentity_eq_ok.mp hid⟩

/-- A session of a user with the given annotations and nothing else. -/
def Session.ofUser (ref : ObjectRef) (user : String) (annotations : SortedMap String String) :
    Session where
  apiVersion := ""
  kind := ""
  metadata := ⟨ref.name, ref.ns, "", none, ∅, annotations, ∅⟩
  spec := ⟨none, some ⟨some user, ∅⟩, ∅⟩
  status := default

/-- The answers of a cluster that has one thing to say of every token, and one session. -/
def answersOf (review : TokenReview) (stored : Session) : (d : Demand) → d.Reply
  | .cluster _ (.reviewToken _) => .ok review
  | .cluster _ (.getSession _) => .ok stored
  | .cluster _ _ => .error .unauthorized
  | .exchange .. => .error .timedOut
  | .clock => .ofSeconds 0
  | .pause _ => ()

/-- The identity on record is accepted, and that of a neighbour forbidden. -/
theorem verifyRunner_answered_neighbours :
    let session : ObjectRef := ⟨"team", "alpha"⟩
    let stored := Session.ofUser session " ada " (SortedMap.ofList
      [("ambient-code.io/runner-sa", "ambient-session-alpha")])
    let reviewOf := fun id => TokenReview.mk true (some ("system:serviceaccount:team:" ++ id)) none
    (Action.answered (answersOf (reviewOf "ambient-session-alpha") stored)
      (verifyRunner " token " session)).1 = .ok ⟨session, "ambient-session-alpha", "ada"⟩ ∧
    ∃ detail, (Action.answered (answersOf (reviewOf "ambient-session-beta") stored)
      (verifyRunner " token " session)).1 = .error (.forbidden detail) := by
  intro session stored reviewOf
  have hvouch : ∀ id, id ≠ "" → ':' ∉ id.toList → (reviewOf id).VouchesFor "team" id :=
    fun id hne hfree => ⟨rfl, rfl, _, rfl, rfl, by decide, hne, by decide, hfree⟩
  refine ⟨((verifyRunner_answered _ _ _).1 _).mpr ⟨by decide, rfl,
    ⟨_, rfl, hvouch _ (by decide) (by decide)⟩, stored, _, _, rfl, by decide, rfl, rfl, by decide,
    by decide⟩, ?_⟩
  exact (verifyRunner_answered _ _ _).2.1 (reviewOf "ambient-session-beta") (by decide) rfl rfl rfl
    (.inr ⟨_, stored, hvouch _ (by decide) (by decide), rfl, by decide⟩)

/-! ### On a cluster held in memory -/

section Simulations

variable {env : Surroundings} {s s' : Simulation} {token : String} {session : ObjectRef}

theorem run_askPlatform_eq_ok {call : Call} {v : call.Reply}
    (h : Simulation.run env (askPlatform call) s = (.ok v, s')) :
    ∃ user, s.cluster.objects.apply (s.cluster.draw env.supply s.now) .platform user call =
      .ok (s'.cluster.objects, v) := by
  obtain ⟨user, _, _, happly, _⟩ := Simulation.run_call_eq_ok (Simulation.run_mapError_eq_ok.mp h)
  exact ⟨user, happly⟩

/-- A job that is accepted is vouched for by the tokens of the cluster, and is on record there. -/
theorem run_verifyRunner_eq_ok {r : VerifiedRunner}
    (h : (Simulation.run env (verifyRunner token session) s).1 = .ok r) :
    (s.cluster.objects.review (Text.trim token)).VouchesFor session.ns r.identity ∧
      ∃ stored, s.cluster.objects.sessions.get? session = some stored ∧
        sessionUser r.identity stored = .ok r.userId := by
  by_cases hblank : Text.trim token = ""
  · unfold verifyRunner at h
    rw [if_pos hblank] at h
    cases h
  rw [verifyRunner_eq token session hblank] at h
  -- A review, a check of what it says, a session, and a check of what that one says.
  obtain ⟨s', hrun⟩ := Simulation.fst_run_eq_ok.mp h
  obtain ⟨review, t₁, hreview, hrun⟩ := Simulation.run_bind_eq_ok.mp hrun
  obtain ⟨id, t₂, hid, hrun⟩ := Simulation.run_bind_eq_ok.mp hrun
  obtain ⟨stored, t₃, hstored, hrun⟩ := Simulation.run_bind_eq_ok.mp hrun
  obtain ⟨user, t₄, huser, hrun⟩ := Simulation.run_bind_eq_ok.mp hrun
  cases hrun
  rw [Simulation.run_ofExcept, Prod.mk.injEq] at hid huser
  obtain ⟨hid, rfl⟩ := hid
  obtain ⟨_, happly⟩ := run_askPlatform_eq_ok hreview
  obtain ⟨hobjects, rfl⟩ := Objects.apply_reviewToken happly
  obtain ⟨_, happly⟩ := run_askPlatform_eq_ok hstored
  obtain ⟨_, hstored⟩ := Objects.apply_getSession.mp happly
  rw [hobjects] at hstored
  exact ⟨reviewedIdentity_eq_ok.mp hid, stored, hstored, huser.1⟩

/-- Without failures waiting, a job that is vouched for and on record is accepted. -/
theorem run_verifyRunner_of_ready {stored : Session} {id user : String}
    (hfaults : s.cluster.faults = []) (hblank : Text.trim token ≠ "")
    (hvouch : (s.cluster.objects.review (Text.trim token)).VouchesFor session.ns id)
    (hstored : s.cluster.objects.sessions.get? session = some stored)
    (huser : sessionUser id stored = .ok user) :
    (Simulation.run env (verifyRunner token session) s).1 = .ok ⟨session, id, user⟩ := by
  obtain ⟨t, hreview, hobjects, ht, _⟩ := Simulation.run_platform_of_apply env (s := s)
    (c := .reviewToken (Text.trim token)) hfaults rfl
  obtain ⟨t', hread, _⟩ := Simulation.run_platform_of_apply env (s := t)
    (c := .getSession session) ht (Objects.apply_getSession.mpr ⟨rfl, hobjects ▸ hstored⟩)
  rw [verifyRunner_eq token session hblank]
  refine Simulation.fst_run_eq_ok.mpr ⟨t', ?_⟩
  refine Simulation.run_bind_eq_ok.mpr ⟨_, t, Simulation.run_mapError_eq_ok.mpr hreview, ?_⟩
  refine Simulation.run_bind_eq_ok.mpr ⟨id, t, ?_, ?_⟩
  · rw [Simulation.run_ofExcept, reviewedIdentity_eq_ok.mpr hvouch]
  refine Simulation.run_bind_eq_ok.mpr ⟨stored, t', Simulation.run_mapError_eq_ok.mpr hread, ?_⟩
  refine Simulation.run_bind_eq_ok.mpr ⟨user, t', ?_, rfl⟩
  rw [Simulation.run_ofExcept, huser]

end Simulations

end CredentialBroker
