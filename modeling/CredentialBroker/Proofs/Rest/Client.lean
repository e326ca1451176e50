import CredentialBroker.Proofs.Effect.Relay
import CredentialBroker.Rest.Client
import Mathlib.Data.List.Forall2

namespace CredentialBroker

/-!
# Calls over a network

A call gets the header that proves who calls, sends at most one request, and reads the answer to it.

* `RestClient.perform_run` — a call as these parts;
* `RestClient.request?_eq_some_iff` — what its request is made of;
* `RestClient.exchanged_of_perform` — a call that succeeds has sent its request and nothing else,
  and its reply is what the response to it says;
* `RestClient.relay` — the broker whose calls to the cluster go over a network.
-/

namespace Rest

/-! ### Headers -/

theorem content_cases (resource : SessionResource) (call : Call) :
    (endpoint resource call).content = none ∨ ∃ document,
      (endpoint resource call).content = some (jsonType, document) ∨
        (endpoint resource call).content = some (mergeType, document) := by
  cases call <;> first
    | exact .inl rfl
    | exact .inr ⟨_, .inl rfl⟩
    | exact .inr ⟨_, .inr rfl⟩

end Rest

namespace RestClient

open Rest

variable {c : RestClient} {call : Call} {past : List (Answer wire)}

/-- The headers of a request are legal when the one that proves who calls is. -/
theorem legal_headers (resource : SessionResource) (call : Call) (auth : String × String) :
    (headers auth (endpoint resource call)).all (fun h => Http.isHeaderValue h.2) =
      Http.isHeaderValue auth.2 := by
  have haccept : Http.isHeaderValue "application/json" = true := by decide +kernel
  have hjson : Http.isHeaderValue jsonType = true := by decide +kernel
  have hmerge : Http.isHeaderValue mergeType = true := by decide +kernel
  rcases content_cases resource call with hnone | ⟨document, hcontent | hcontent⟩
  · simp [headers, hnone, haccept]
  · simp [headers, hcontent, haccept, hjson]
  · simp [headers, hcontent, haccept, hmerge]

/-! ### Requests -/

/-- The URL of a call, if its address is one of the web. -/
def Targets (c : RestClient) (call : Call) (u : Url) : Prop :=
  Url.read? (c.baseUrl ++ (endpoint c.resource call).path) = some u ∧
    (u.scheme = "http" ∨ u.scheme = "https")

/-- **Requests.**  The request of a call goes to its URL, with a header for the user information
that stands there and the one that proves who calls. -/
theorem request?_eq_some_iff {auth : String × String} {request : Http.Request} :
    c.request? auth call = some request ↔ Http.isHeaderValue auth.2 = true ∧ ∃ u,
      c.Targets call u ∧
        request = ⟨(endpoint c.resource call).method,
          (Http.withoutUser u).appendPairs (endpoint c.resource call).query,
          Http.userHeader u ++ headers auth (endpoint c.resource call),
          body (endpoint c.resource call)⟩ := by
  unfold request? Http.Request.make? Targets
  simp only [legal_headers, Option.bind_eq_bind, Option.bind_eq_some_iff]
  constructor
  · rintro ⟨r, ⟨u, hu, hr⟩, hrequest⟩
    split at hr
    · next hlegal =>
      cases hr
      cases hrequest
      exact ⟨hlegal.2, u, ⟨hu, hlegal.1⟩, rfl⟩
    · cases hr
  · rintro ⟨hauth, u, ⟨hu, hweb⟩, rfl⟩
    exact ⟨_, ⟨u, hu, if_pos ⟨hweb, hauth⟩⟩, rfl⟩

/-- What has a URL can be sent, if the header that proves who calls is legal. -/
theorem Targets.request? {u : Url} (hu : c.Targets call u) {value : String}
    (hvalue : Http.isHeaderValue value = true) (name : String) :
    ∃ request, c.request? (name, value) call = some request :=
  ⟨_, request?_eq_some_iff.mpr ⟨hvalue, u, hu, rfl⟩⟩

/-! ### Calls -/

/-- What a client makes of what a request met with. -/
def outcome (c : RestClient) (call : Call) :
    Except Http.Fault Http.Response → Except ClusterError call.Reply
  | .ok response => readAnswer call response
  | .error .timedOut => .error (.timeout (wording call).operation c.timeout)
  | .error (.failed detail) => .error (.transport (.request detail))

/-- A call once the header that proves who calls is there. -/
def attempt (c : RestClient) (call : Call) (auth : String × String) :
    Program wire (Except ClusterError call.Reply) :=
  match c.request? auth call with
  | none => .done (.error (.transport (.request "builder error")))
  | some request => .ask (.send request c.timeout) fun reply => .done (c.outcome call reply)

theorem perform_run (c : RestClient) (call : Call) :
    (c.perform call).run = c.authorization.run >>= fun
      | .ok auth => c.attempt call auth
      | .error e => .done (.error e) := by
  unfold perform
  rw [ExceptT.run_bind]
  refine congrArg _ (funext fun x => ?_)
  cases x with
  | error e => rfl
  | ok auth =>
    unfold attempt
    dsimp only
    cases c.request? auth call with
    | none => rfl
    | some request =>
      refine congrArg (Program.ask (σ := wire) (.send request c.timeout)) (funext fun reply => ?_)
      cases reply with
      | ok response => rfl
      | error fault => cases fault <;> rfl

/-! ### What is sent -/

/-- Whether a request is one that is sent. -/
def isSent (x : Answer wire) : Bool :=
  match x.request with
  | .send .. => true
  | _ => false

/-- The contract of what is done before anything is sent. -/
def preparing : Contract wire where
  asks d := ∀ request timeout, d ≠ .send request timeout
  gets _ _ := True

theorem follows_seq {α β : Type} {k : Contract wire} {a : WireAction β} {f : β → WireAction α}
    (ha : Program.Follows k (fun _ => True) a.run)
    (hf : ∀ b, Program.Follows k (fun _ => True) (f b).run) :
    Program.Follows k (fun _ => True) (a >>= f).run := by
  rw [ExceptT.run_bind, Program.follows_bind]
  refine ha.mono (fun _ h => h) (fun _ _ h => h) fun x _ => ?_
  cases x with
  | ok b => exact hf b
  | error e => trivial

/-- To prove who calls, nothing is sent. -/
theorem authorization_follows (c : RestClient) :
    Program.Follows preparing (fun _ => True) c.authorization.run := by
  have hoctets : ∀ path, Program.Follows preparing (fun _ => True) (fileOctets path).run :=
    fun path => follows_seq ⟨nofun, fun _ _ => trivial⟩ fun reply => by cases reply <;> trivial
  have hfile : ∀ path, Program.Follows preparing (fun _ => True) (fileToken path).run :=
    fun path => follows_seq (hoctets path) fun octets => by split <;> trivial
  have hhelper : ∀ command args,
      Program.Follows preparing (fun _ => True) (helperToken command args c.timeout).run := by
    refine fun command args => follows_seq ⟨nofun, fun _ _ => trivial⟩ fun outcome => ?_
    cases outcome with
    | ended status output =>
      dsimp only
      split
      · trivial
      · split <;> trivial
    | notStarted | timedOut | killed => trivial
  unfold authorization
  cases c.auth with
  | bearer | provider | basic => trivial
  | tokenFile path =>
    dsimp only
    rw [map_eq_pure_bind]
    exact follows_seq (hfile path) fun _ => trivial
  | helper command args =>
    dsimp only
    rw [map_eq_pure_bind]
    exact follows_seq (hhelper command args) fun _ => trivial

/-- What was sent are the requests of calls, in their order, and each of them got its response. -/
def Exchanged (c : RestClient) (past : List (Answer wire)) (es : List (Call × Http.Response)) :
    Prop :=
  List.Forall₂ (fun x e => ∃ auth request, c.request? auth e.1 = some request ∧
    x = ⟨.send request c.timeout, .ok e.2⟩) (past.filter isSent) es

theorem Exchanged.append {past' : List (Answer wire)} {es es' : List (Call × Http.Response)}
    (h : c.Exchanged past es) (h' : c.Exchanged past' es') :
    c.Exchanged (past ++ past') (es ++ es') := by
  unfold Exchanged
  rw [List.filter_append]
  exact List.rel_append h h'

/-- **Answers.**  A call that succeeds has sent its request and nothing else, it got a response, and
its reply is what this response says. -/
theorem exchanged_of_perform {reply : call.Reply}
    (h : Program.Ends (c.perform call).run past (.ok reply)) :
    ∃ r, c.Exchanged past [(call, r)] ∧ readAnswer call r = .ok reply := by
  rw [perform_run, Program.ends_bind] at h
  obtain ⟨x, before, after, rfl, hbefore, h⟩ := h
  have hprepared : c.Exchanged before [] := by
    have hasks := (c.authorization_follows.course hbefore fun _ _ => trivial).1
    have hnone : before.filter isSent = [] := by
      refine List.filter_eq_nil_iff.mpr fun x hx => ?_
      have hother := hasks x hx
      unfold isSent
      split
      · next request timeout hsend => exact absurd hsend (hother request timeout)
      · exact Bool.false_ne_true
    rw [Exchanged, hnone]
    exact .nil
  cases x with
  | error e => cases (Program.course_done.mp h).2
  | ok auth =>
    dsimp only at h
    unfold attempt at h
    split at h
    · cases (Program.course_done.mp h).2
    · next request hrequest =>
      rcases Program.course_ask.mp h with ⟨_, heq⟩ | ⟨reply', rest, rfl, hrest⟩
      · cases heq
      obtain ⟨rfl, heq⟩ := Program.course_done.mp hrest
      have houtcome : c.outcome call reply' = .ok reply := (Program.done.inj heq).symm
      cases reply' with
      | ok r =>
        have hsent : c.Exchanged [⟨.send request c.timeout, .ok r⟩] [(call, r)] :=
          List.Forall₂.cons ⟨auth, request, hrequest, rfl⟩ .nil
        exact ⟨r, hprepared.append hsent, houtcome⟩
      | error fault => cases fault <;> cases houtcome

/-! ### The broker behind a network -/

/-- What answers the broker when its calls to the cluster are made by a client; `others` answers
what else it asks. -/
def relay (c : RestClient) (others : Program.Handler demands (Program wire)) :
    Program.Handler demands (Program wire)
  | .cluster who call => c.serve who call
  | d => others d

/-- A reply of the cluster to the broker is what the response to the call says. -/
theorem exchanged_of_relay {others : Program.Handler demands (Program wire)} {who : Client}
    {reply : call.Reply}
    (h : (c.relay others (.cluster who call)).Ends past (.ok reply)) :
    ∃ r, (c.actingAs who).Exchanged past [(call, r)] ∧ readAnswer call r = .ok reply :=
  exchanged_of_perform h

end RestClient

end CredentialBroker
