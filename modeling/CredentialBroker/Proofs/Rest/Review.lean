import CredentialBroker.Credential.Access
import CredentialBroker.Proofs.Credential.Runner
import CredentialBroker.Proofs.Rest.Scoped
import CredentialBroker.Proofs.Session.Document

namespace CredentialBroker

/-!
# Reviews over a network

The broker believes a job, or lets a caller act, after the answers of a review.  Behind a network
these are responses of any status with any body, and what is missing in a document has a value all
the same.  No such value opens the gate: what is granted stands in the document of a response of
success.

* `Rest.subject_of_review`, `Rest.allowed_of_decision` — what the document of a review has to say;
* `RestClient.relay_closed` — a job that is believed, and a caller who may act;
* `RestClient.relay_ensure_list` — a document may also be a list, with the fields in their order.
-/

/-! ### Documents of reviews -/

namespace Rest

variable {j : Json} {review : TokenReview} {decision : AccessDecision} {ns id : String}

/-- The fields of the status of a token review, in order. -/
def reviewFields : List String := ["authenticated", "user", "error"]

/-- Where a field of the status of a token review is. -/
def reviewPath (name : String) : List (List String × String) :=
  [(["status"], "status"), (reviewFields, name)]

/-- Where the user name in a token review is. -/
def usernamePath : List (List String × String) := reviewPath "user" ++ [(["username"], "username")]

/-- Where a field of the status of an access review is. -/
def decisionPath (name : String) : List (List String × String) :=
  [(["status"], "status"), (["allowed", "reason"], name)]

/-- The document of a token review says that the token is valid, without an error, and whose it
is. -/
structure SaysUser (j : Json) (name : String) : Prop where
  /-- The token is valid. -/
  authenticated : j.valuesAt (reviewPath "authenticated") = [.bool true]
  /-- An error is absent, null or empty. -/
  error : ∀ v ∈ j.valuesAt (reviewPath "error"), v = .null ∨ v = .str ""
  /-- The name of the user. -/
  username : j.valuesAt usernamePath = [.str name]

theorem username_of_user {name : String} (h : userOfJson? j = some (some name)) :
    j.valuesOf ["username"] "username" = [.str name] := by
  obtain ⟨values, hfields, h⟩ := Option.bind_eq_some_iff.mp h
  have hvalues := Json.valuesOf_of_fields? (by decide) hfields
  split at h
  case h_2 => cases h
  case h_1 username =>
    obtain ⟨habsent, _⟩ | ⟨v, text, hv, _, htext, heq⟩ := Json.optional_cases h
    · cases habsent
    · cases heq
      rw [Json.text?_eq_some htext] at hv
      exact (List.cons.inj hvalues).1.trans hv

/-- What is read from the status of a token review. -/
theorem reviewOfStatus?_eq_some (h : reviewOfStatus? j = some review) :
    ∃ authenticated user error told,
      j.valuesOf reviewFields "authenticated" = authenticated.toList ∧
      j.valuesOf reviewFields "user" = user.toList ∧
      j.valuesOf reviewFields "error" = error.toList ∧
      Json.defaulted false Json.flag? authenticated = some review.authenticated ∧
      Json.defaulted none userOfJson? user = some review.username ∧
      Json.optional Json.text? error = some told ∧ review.error = told.filter (· ≠ "") := by
  obtain ⟨values, hfields, h⟩ := Option.bind_eq_some_iff.mp h
  have hvalues := Json.valuesOf_of_fields? (by decide) hfields
  split at h
  case h_2 => cases h
  case h_1 authenticated user error =>
    simp only [List.map_cons, List.map_nil, List.cons.injEq, and_true] at hvalues
    simp only [Option.bind_eq_bind, Option.bind_eq_some_iff] at h
    obtain ⟨_, hauthenticated, _, huser, told, herror, h⟩ := h
    cases h
    exact ⟨_, _, _, told, hvalues.1, hvalues.2.1, hvalues.2.2, hauthenticated, huser, herror, rfl⟩

/-- **Token reviews.**  A review that vouches for an identity was read from a document that says so:
nothing of it is a default. -/
theorem subject_of_review (h : reviewOfJson? j = some review) (hvouch : review.VouchesFor ns id) :
    ∃ name, SaysUser j name ∧ Identity.IsSubject ns id name := by
  obtain ⟨hauth, herror, name, hname, hsubject⟩ := hvouch
  obtain ⟨values, hfields, h⟩ := Option.bind_eq_some_iff.mp h
  have hvalues := Json.valuesOf_of_fields? (by decide) hfields
  split at h
  case h_2 => cases h
  case h_1 field =>
    obtain ⟨_, rfl⟩ | ⟨status, rfl, hstatus⟩ := Json.defaulted_cases h
    · cases hauth
    obtain ⟨authenticated, user, error, told, hauthAt, huserAt, herrorAt, hauthenticated, huser,
      htold, hreview⟩ := reviewOfStatus?_eq_some hstatus
    have hstatusAt : j.valuesOf ["status"] "status" = [status] := (List.cons.inj hvalues).1
    have hpath : ∀ name, j.valuesAt (reviewPath name) = status.valuesOf reviewFields name :=
      fun name => by
        rw [reviewPath, Json.valuesAt_cons_of_valuesOf hstatusAt, Json.valuesAt_singleton]
    refine ⟨name, ⟨?_, fun v hv => ?_, ?_⟩, hsubject⟩
    · rw [hpath, hauthAt]
      exact Json.flag_of_defaulted (hauth ▸ hauthenticated)
    · rw [hpath, herrorAt] at hv
      obtain ⟨_, hnull⟩ | ⟨d, text, hd, _, htext, rfl⟩ := Json.optional_cases htold
      · exact .inl (hnull v hv)
      · -- An error with a text in it would have been told.
        rw [hd, List.mem_singleton] at hv
        rw [herror, eq_comm, Option.filter_eq_none_iff] at hreview
        have hempty : text = "" := by simpa using hreview text rfl
        exact .inr (hv.trans ((Json.text?_eq_some htext).trans (congrArg Json.str hempty)))
    · rw [hname] at huser
      obtain ⟨_, hdefault⟩ | ⟨v, rfl, hv⟩ := Json.defaulted_cases huser
      · cases hdefault
      · rw [usernamePath, Json.valuesAt_append, hpath, huserAt, Option.toList_some,
          List.flatMap_singleton, Json.valuesAt_singleton]
        exact username_of_user hv

/-- **Access reviews.**  What is allowed, the document of the review allows. -/
theorem allowed_of_decision (h : decisionOfJson? j = some decision)
    (hallowed : decision.allowed = true) : j.valuesAt (decisionPath "allowed") = [.bool true] := by
  obtain ⟨values, hfields, h⟩ := Option.bind_eq_some_iff.mp h
  have hvalues := Json.valuesOf_of_fields? (by decide) hfields
  split at h
  case h_2 => cases h
  case h_1 field =>
    obtain ⟨_, rfl⟩ | ⟨status, rfl, hstatus⟩ := Json.defaulted_cases h
    · cases hallowed
    obtain ⟨values, hfields, hstatus⟩ := Option.bind_eq_some_iff.mp hstatus
    have hstatusValues := Json.valuesOf_of_fields? (by decide) hfields
    split at hstatus
    case h_2 => cases hstatus
    case h_1 allowed reason =>
      simp only [Option.bind_eq_bind, Option.bind_eq_some_iff] at hstatus
      obtain ⟨_, hflag, _, _, hstatus⟩ := hstatus
      cases hstatus
      rw [decisionPath, Json.valuesAt_cons_of_valuesOf (List.cons.inj hvalues).1,
        Json.valuesAt_singleton]
      exact (List.cons.inj hstatusValues).1.trans (Json.flag_of_defaulted (hallowed ▸ hflag))

/-! ### Responses -/

/-- A response of success whose body is the text of a document. -/
structure Holds (r : Http.Response) (j : Json) : Prop where
  /-- The status says that all went well. -/
  success : 200 ≤ r.status ∧ r.status < 300
  /-- The body is read as the document. -/
  document : Json.read? r.body = some j

theorem readAnswer_eq_ok {call : Call} {r : Http.Response} {reply : call.Reply} :
    readAnswer call r = .ok reply ↔
      (200 ≤ r.status ∧ r.status < 300) ∧ readReply r call = .ok reply := by
  unfold readAnswer
  split
  · next h =>
    rw [Http.Response.isSuccess, Bool.and_eq_true, decide_eq_true_eq, decide_eq_true_eq] at h
    exact (and_iff_right h).symm
  · next h =>
    rw [Http.Response.isSuccess, Bool.and_eq_true, decide_eq_true_eq, decide_eq_true_eq] at h
    exact ⟨nofun, fun hok => absurd hok.1 h⟩

theorem readDocument_eq_ok {α : Type} {w : Wording} {read : Json → Option α} {r : Http.Response}
    {a : α} :
    readDocument w read r = .ok a ↔ ∃ j, Json.read? r.body = some j ∧ read j = some a := by
  unfold readDocument
  rw [← Option.bind_eq_some_iff]
  cases (Json.read? r.body).bind read <;> simp

/-- What is read from the document of a response of success. -/
theorem holds_of_readDocument {α : Type} {call : Call} {w : Wording} {read : Json → Option α}
    {r : Http.Response} {reply : call.Reply} {a : α} (h : readAnswer call r = .ok reply)
    (hread : readReply r call = .ok reply → readDocument w read r = .ok a) :
    ∃ j, Holds r j ∧ read j = some a := by
  obtain ⟨hsuccess, hreply⟩ := readAnswer_eq_ok.mp h
  obtain ⟨j, hj, ha⟩ := readDocument_eq_ok.mp (hread hreply)
  exact ⟨j, ⟨hsuccess, hj⟩, ha⟩

end Rest

/-! ### What the broker asks -/

section Courses

variable {past : List (Answer demands)} {token : String} {session : ObjectRef} {r : VerifiedRunner}

theorem ends_askPlatform {call : Call} {reply : call.Reply} :
    (askPlatform call).Ends past (.ok reply) ↔ past = [⟨.cluster .platform call, .ok reply⟩] := by
  unfold askPlatform
  rw [Action.ends_mapError_ok, Action.ends_cluster]

/-- A job is believed when it passes both checks. -/
theorem verifyRunner_ends_ok :
    (verifyRunner token session).Ends past (.ok r) ↔ Text.trim token ≠ "" ∧ ∃ review stored,
      past = [⟨reviewDemand token, .ok review⟩, ⟨sessionDemand session, .ok stored⟩] ∧
      reviewedIdentity session review = .ok r.identity ∧
      sessionUser r.identity stored = .ok r.userId ∧ r.session = session := by
  constructor
  · intro h
    by_cases hblank : Text.trim token = ""
    · unfold verifyRunner at h
      rw [if_pos hblank] at h
      cases (Action.ends_done.mp h).2
    rw [verifyRunner_eq token session hblank] at h
    obtain ⟨review, _, _, rfl, hreview, hrest⟩ := Action.ends_bind_ok.mp h
    obtain ⟨id, _, _, rfl, hcheck, hrest⟩ := Action.ends_bind_ok.mp hrest
    obtain ⟨stored, _, _, rfl, hstored, hrest⟩ := Action.ends_bind_ok.mp hrest
    obtain ⟨user, _, _, rfl, hrecord, hend⟩ := Action.ends_bind_ok.mp hrest
    obtain rfl := ends_askPlatform.mp hreview
    obtain ⟨rfl, hid⟩ := Action.ends_ofExcept.mp hcheck
    obtain rfl := ends_askPlatform.mp hstored
    obtain ⟨rfl, huser⟩ := Action.ends_ofExcept.mp hrecord
    obtain ⟨rfl, heq⟩ := Action.ends_pure.mp hend
    cases heq
    exact ⟨hblank, review, stored, rfl, hid.symm, huser.symm, rfl⟩
  · rintro ⟨hblank, review, stored, rfl, hid, huser, rfl⟩
    have hcheck : (Action.ofExcept (reviewedIdentity r.session review)).Ends [] (.ok r.identity) :=
      Action.ends_ofExcept.mpr ⟨rfl, hid.symm⟩
    have hrecord : (Action.ofExcept (sessionUser r.identity stored)).Ends [] (.ok r.userId) :=
      Action.ends_ofExcept.mpr ⟨rfl, huser.symm⟩
    rw [verifyRunner_eq token r.session hblank]
    refine Action.ends_bind_ok.mpr ⟨review, _, _, rfl, ends_askPlatform.mpr rfl, ?_⟩
    refine Action.ends_bind_ok.mpr ⟨r.identity, [], _, rfl, hcheck, ?_⟩
    refine Action.ends_bind_ok.mpr ⟨stored, _, _, rfl, ends_askPlatform.mpr rfl, ?_⟩
    refine Action.ends_bind_ok.mpr ⟨r.userId, [], [], rfl, hrecord, ?_⟩
    exact Action.ends_pure.mpr ⟨rfl, rfl⟩

/-- A client may do what is asked for when it is told so. -/
theorem ensure_ends_ok {check : AccessCheck} {who : Client} :
    (check.ensure who).Ends past (.ok ()) ↔ ∃ decision,
      past = [⟨.cluster who (.checkAccess check), .ok decision⟩] ∧ decision.allowed = true := by
  unfold AccessCheck.ensure
  rw [Action.ends_bind_ok]
  constructor
  · rintro ⟨decision, _, _, rfl, hask, hverdict⟩
    rw [Action.ends_mapError_ok, AccessCheck.ask, Action.ends_cluster] at hask
    subst hask
    split at hverdict
    · next hallowed =>
      obtain ⟨rfl, _⟩ := Action.ends_pure.mp hverdict
      exact ⟨decision, rfl, hallowed⟩
    · cases (Action.ends_done.mp hverdict).2
  · rintro ⟨decision, rfl, hallowed⟩
    refine ⟨decision, _, [], (List.append_nil _).symm, ?_, ?_⟩
    · rw [Action.ends_mapError_ok, AccessCheck.ask, Action.ends_cluster]
    · rw [if_pos hallowed]
      exact Action.ends_pure.mpr ⟨rfl, rfl⟩

end Courses

/-! ### Over a network -/

namespace RestClient

open Rest

/-- **Closed gates.**  Whatever responses there are, a job is believed only after two requests.  The
response to the first is one of success, and its document says that the token is that of an identity
in the namespace of the session; the response to the second is one of success, and its document is
that of the session with this identity on record.  A client may act only after one request, and the
response to it is one of success whose document allows it. -/
theorem relay_closed (c : RestClient) (others : Program.Handler demands (Program wire)) :
    (∀ token session past r,
      Program.Ends ((verifyRunner token session).run.run (c.relay others)) past (.ok r) →
        r.session = session ∧ ∃ reviewed stored,
          c.Exchanged past
            [(.reviewToken (Text.trim token), reviewed), (.getSession session, stored)] ∧
          (∃ j name, Holds reviewed j ∧ SaysUser j name ∧
            Identity.IsSubject session.ns r.identity name) ∧
          ∃ j d, Holds stored j ∧ j.valuesAt Session.annotationsPath = [d] ∧
            d.lastMember? Session.identityKey = some (.str r.identity)) ∧
    ∀ (check : AccessCheck) who past,
      Program.Ends ((check.ensure who).run.run (c.relay others)) past (.ok ()) →
        ∃ r j, (c.actingAs who).Exchanged past [(.checkAccess check, r)] ∧ Holds r j ∧
          j.valuesAt (decisionPath "allowed") = [.bool true] := by
  refine ⟨fun token session past r h => ?_, fun check who past h => ?_⟩
  · obtain ⟨asked, hends, hrelayed⟩ := Program.ends_run.mp h
    obtain ⟨_, review, record, rfl, hid, huser, hsession⟩ := verifyRunner_ends_ok.mp hends
    obtain ⟨_, _, rfl, hreview, hrest⟩ := Program.relayed_cons.mp hrelayed
    obtain ⟨reviewed, hasked, hanswer⟩ := exchanged_of_relay hreview
    obtain ⟨stored, hfetched, hanswer'⟩ := exchanged_of_relay (Program.relayed_single.mp hrest)
    obtain ⟨j, hj, hread⟩ := holds_of_readDocument hanswer id
    obtain ⟨j', hj', hread'⟩ := holds_of_readDocument hanswer' id
    obtain ⟨name, hsays, hsubject⟩ := subject_of_review hread (reviewedIdentity_eq_ok.mp hid)
    have hname := (identityName?_eq_some_iff.mp (sessionUser_eq_ok.mp huser).1).1
    obtain ⟨d, hat, hmember⟩ := Session.annotated_of_ofJson? hread' hname
    exact ⟨hsession, reviewed, stored, hasked.append hfetched, ⟨j, name, hj, hsays, hsubject⟩,
      j', d, hj', hat, hmember⟩
  · obtain ⟨asked, hends, hrelayed⟩ := Program.ends_run.mp h
    obtain ⟨decision, rfl, hallowed⟩ := ensure_ends_ok.mp hends
    obtain ⟨r, hexchanged, hanswer⟩ := exchanged_of_relay (Program.relayed_single.mp hrelayed)
    obtain ⟨j, hj, hread⟩ := holds_of_readDocument hanswer id
    exact ⟨r, j, hexchanged, hj, allowed_of_decision hread hallowed⟩

/-! ### Gates that open -/

/-- What answers when nothing but the cluster can be asked. -/
def offline : Program.Handler demands (Program wire)
  | .cluster .. => .done (.error .unauthorized)
  | .exchange .. => .done (.error .timedOut)
  | .clock => .done (.ofSeconds 0)
  | .pause _ => .done ()

/-- A response of success with a body that is read as what it has to be for a call. -/
theorem readAnswer_of_document {call : Call} {reply : call.Reply} {body : Bytes}
    (h : readReply ⟨200, body⟩ call = .ok reply) : readAnswer call ⟨200, body⟩ = .ok reply := by
  have hstatus : 200 ≤ 200 ∧ 200 < 300 := by decide
  exact readAnswer_eq_ok.mpr ⟨hstatus, h⟩

/-- A call made as someone with a bearer token is answered by a response that says so. -/
theorem relay_answered {who : Client} {call : Call} {token : String} {reply : call.Reply}
    {body : Bytes} (hwho : rootClient.serve who call = rootClient.serve (.bearer token) call)
    (htoken : Http.isHeaderValue token = true) (h : readReply ⟨200, body⟩ call = .ok reply) :
    ∃ request, (rootClient.relay offline (.cluster who call)).Ends
      [⟨.send request rootClient.timeout, .ok ⟨200, body⟩⟩] (.ok reply) := by
  rw [relay, hwho]
  exact rootClient_serves.answered htoken (readAnswer_of_document h)

/-- A client may act when the document of a response allows it. -/
theorem ensure_of_decision {j : Json} {body : Bytes} {decision : AccessDecision}
    (check : AccessCheck) (hbody : Json.read? body = some j)
    (hread : decisionOfJson? j = some decision) (hallowed : decision.allowed = true) :
    ∃ request, Program.Ends ((check.ensure (.bearer "t")).run.run (rootClient.relay offline))
      [⟨.send request rootClient.timeout, .ok ⟨200, body⟩⟩] (.ok ()) := by
  have htoken : Http.isHeaderValue "t" = true := by decide +kernel
  have hreply : readReply ⟨200, body⟩ (.checkAccess check) = .ok decision :=
    readDocument_eq_ok.mpr ⟨j, hbody, hread⟩
  obtain ⟨request, hanswered⟩ := relay_answered rfl htoken hreply
  have hends : (check.ensure (.bearer "t")).Ends
      [⟨.cluster (.bearer "t") (.checkAccess check), .ok decision⟩] (.ok ()) :=
    ensure_ends_ok.mpr ⟨decision, rfl, hallowed⟩
  exact ⟨request, Program.ends_run.mpr ⟨_, hends, Program.relayed_single.mpr hanswered⟩⟩

/-- A job is believed when the documents of two responses say so. -/
theorem verifyRunner_of_documents {asked fetched : Bytes} {review record : Json}
    {verdict : TokenReview} {stored : Session} {token : String} {session : ObjectRef}
    {id user : String} (htoken : Text.trim token ≠ "") (hasked : Json.read? asked = some review)
    (hreview : reviewOfJson? review = some verdict) (hfetched : Json.read? fetched = some record)
    (hrecord : Session.ofJson? record = some stored)
    (hid : reviewedIdentity session verdict = .ok id) (huser : sessionUser id stored = .ok user) :
    ∃ past, Program.Ends ((verifyRunner token session).run.run (rootClient.relay offline)) past
      (.ok ⟨session, id, user⟩) := by
  have hheader : Http.isHeaderValue "platform-token" = true := by decide +kernel
  have hverdict : readReply ⟨200, asked⟩ (.reviewToken (Text.trim token)) = .ok verdict :=
    readDocument_eq_ok.mpr ⟨review, hasked, hreview⟩
  have hstored : readReply ⟨200, fetched⟩ (.getSession session) = .ok stored :=
    readDocument_eq_ok.mpr ⟨record, hfetched, hrecord⟩
  obtain ⟨asking, hanswered⟩ := relay_answered (serve_platform rfl _) hheader hverdict
  obtain ⟨fetching, hanswered'⟩ := relay_answered (serve_platform rfl _) hheader hstored
  have hends : (verifyRunner token session).Ends
      [⟨reviewDemand token, .ok verdict⟩, ⟨sessionDemand session, .ok stored⟩]
      (.ok ⟨session, id, user⟩) :=
    verifyRunner_ends_ok.mpr ⟨htoken, verdict, stored, rfl, hid, huser, rfl⟩
  exact ⟨_, Program.ends_run.mpr
    ⟨_, hends, .cons hanswered (Program.relayed_single.mpr hanswered')⟩⟩

/-- A session with an identity on record. -/
def storedSession : Session :=
  .ofUser ⟨"proj-a", "s1"⟩ "alice" (.ofList [(Session.identityKey, "ambient-session-s1")])

/-- The document of a review that vouches for this identity. -/
def vouchingReview : Json :=
  .obj [("kind", .str "TokenReview"), ("status", .obj [("authenticated", .bool true),
    ("error", .str ""),
    ("user", .obj [("username", .str "system:serviceaccount:proj-a:ambient-session-s1")])])]

/-- The document of a review that allows what is asked for. -/
def allowingReview : Json :=
  .obj [("status", .obj [("allowed", .bool true), ("evaluationError", .null)])]

theorem storedSession_keeps : storedSession.Keeps where
  metadata := Json.kept_empty _ _
  spec := Json.kept_empty _ _
  userContext := fun _ hu => Option.some.inj hu ▸ Json.kept_empty _ _
  status := Json.kept_empty _ _

/-- The job of the session is believed. -/
theorem verifyRunner_granted :
    ∃ past, Program.Ends ((verifyRunner " t " ⟨"proj-a", "s1"⟩).run.run (rootClient.relay offline))
      past (.ok ⟨⟨"proj-a", "s1"⟩, "ambient-session-s1", "alice"⟩) := by
  have htoken : Text.trim " t " ≠ "" := by decide +kernel
  have hbody : Json.read? (Text.utf8 (Json.compact vouchingReview)) = some vouchingReview :=
    Json.read?_compact (by simp +decide [vouchingReview])
  have hreview : reviewOfJson? vouchingReview =
      some ⟨true, "system:serviceaccount:proj-a:ambient-session-s1", none⟩ := by decide +kernel
  have hid : reviewedIdentity ⟨"proj-a", "s1"⟩
      ⟨true, "system:serviceaccount:proj-a:ambient-session-s1", none⟩ =
        .ok "ambient-session-s1" := by decide +kernel
  have huser : sessionUser "ambient-session-s1" storedSession = .ok "alice" := by decide +kernel
  exact verifyRunner_of_documents htoken hbody hreview (Session.read?_toJson storedSession_keeps)
    (Session.ofJson?_toJson storedSession_keeps) hid huser

/-- A job that is believed, and a caller who may act. -/
theorem relay_closed_granted :
    let session : ObjectRef := ⟨"proj-a", "s1"⟩
    let check : AccessCheck := .secrets "proj-a" "get"
    (∃ past, Program.Ends ((verifyRunner " t " session).run.run (rootClient.relay offline)) past
        (.ok ⟨session, "ambient-session-s1", "alice"⟩) ∧
      ∃ reviewed stored,
        rootClient.Exchanged past
          [(.reviewToken (Text.trim " t "), reviewed), (.getSession session, stored)] ∧
        (∃ j name, Holds reviewed j ∧ SaysUser j name ∧
          Identity.IsSubject "proj-a" "ambient-session-s1" name) ∧
        ∃ j d, Holds stored j ∧ j.valuesAt Session.annotationsPath = [d] ∧
          d.lastMember? Session.identityKey = some (.str "ambient-session-s1")) ∧
    ∃ past, Program.Ends ((check.ensure (.bearer "t")).run.run (rootClient.relay offline)) past
        (.ok ()) ∧
      ∃ r j, (rootClient.actingAs (.bearer "t")).Exchanged past [(.checkAccess check, r)] ∧
        Holds r j ∧ j.valuesAt (decisionPath "allowed") = [.bool true] := by
  intro session check
  have hbody : Json.read? (Text.utf8 (Json.compact allowingReview)) = some allowingReview :=
    Json.read?_compact (by simp +decide [allowingReview])
  have hread : decisionOfJson? allowingReview = some ⟨true, ""⟩ := by decide +kernel
  obtain ⟨past, hbelieved⟩ := verifyRunner_granted
  obtain ⟨request, hallowed⟩ := ensure_of_decision check hbody hread rfl
  obtain ⟨hrunner, hensure⟩ := relay_closed rootClient offline
  exact ⟨⟨past, hbelieved, (hrunner _ _ past _ hbelieved).2⟩, _, hallowed,
    hensure check _ _ hallowed⟩

/-- A client may act when the document of a response is a list that holds a list that holds
`true`. -/
theorem relay_ensure_list :
    let check : AccessCheck := .secrets "proj-a" "get"
    (∃ request, Program.Ends ((check.ensure (.bearer "t")).run.run (rootClient.relay offline))
      [⟨.send request rootClient.timeout, .ok ⟨200, Text.utf8 "[[true]]"⟩⟩] (.ok ())) ∧
    ∀ j, Json.read? (Text.utf8 "[[true]]") = some j → j.lastMember? "status" = none := by
  intro check
  have hbody : Json.read? (Text.utf8 "[[true]]") = some (.arr [.arr [.bool true]]) :=
    Json.read?_compact (j := .arr [.arr [.bool true]]) (by simp +decide)
  refine ⟨ensure_of_decision check hbody rfl rfl, fun j hj => ?_⟩
  rw [hbody] at hj
  cases hj
  rfl

end RestClient

end CredentialBroker
