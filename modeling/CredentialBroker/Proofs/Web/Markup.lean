import CredentialBroker.Proofs.Codec.Form
import CredentialBroker.Proofs.OAuth.Refusals
import CredentialBroker.Proofs.Text.Letters
import CredentialBroker.Proofs.World.Authorization
import CredentialBroker.Web.Service

namespace CredentialBroker.Web

/-!
# What markup pages have

The page after a redirect is a template with a title and a sentence in it, both put in as they are.
The titles are the program's own; a sentence may hold a text from outside, and then the page has the
markup of that text beside its own.

* `markup_page_eq_iff` — a page has the markup of the template exactly when its title and its
  sentence have none;
* `Sentence` — what pages say of how a flow ends, and the text from outside that is in it;
* `Service.page_markup` — the page after a redirect has the markup of that text and no other.
-/

/-! ### Markup -/

/-- A character that begins or ends a tag, or begins an escape. -/
def isMarkup (c : Char) : Bool := c = '<' || c = '>' || c = '&'

/-- The characters of a text that are markup, in order. -/
def markup (s : String) : List Char := s.toList.filter isMarkup

@[simp] theorem markup_append (s t : String) : markup (s ++ t) = markup s ++ markup t := by
  rw [markup, String.toList_append, List.filter_append]
  rfl

theorem eq_of_isMarkup {c : Char} (h : isMarkup c = true) : c = '<' ∨ c = '>' ∨ c = '&' := by
  simpa [isMarkup, or_assoc] using h

theorem markup_trim (s : String) : markup (Text.trim s) = markup s := by
  rw [markup, Text.toList_trim]
  refine Text.filter_trimChars (fun c hc => ?_) _
  obtain rfl | rfl | rfl := eq_of_isMarkup hc <;> decide

theorem markup_lowercase (s : String) : markup (Text.lowercase s) = markup s := by
  rw [markup, Text.lowercase, String.toList_ofList]
  refine Text.filter_map_toLower (fun c hc => ?_) _
  obtain rfl | rfl | rfl := eq_of_isMarkup hc <;> decide

/-! ### Pages -/

/-- The markup of the texts of the template, with that of what is put in between them. -/
theorem markup_page (title body : String) :
    markup (page title body) = markup "<!doctype html><html><head><title>" ++ markup title ++
      markup "</title></head><body><h1>" ++ markup title ++ markup "</h1><p>" ++ markup body ++
      markup "</p><p>You can close this window.</p></body></html>" := by
  unfold page
  simp only [markup_append]

/-- What is put in adds its own markup to that of the template. -/
theorem markup_page_eq_iff {title body : String} :
    markup (page title body) = markup (page "" "") ↔ markup title = [] ∧ markup body = [] := by
  have hempty : markup "" = [] := rfl
  rw [markup_page, markup_page, hempty]
  constructor
  · intro h
    have hlength := congrArg List.length h
    simp only [List.length_append, List.length_nil] at hlength
    exact ⟨List.eq_nil_of_length_eq_zero (by omega), List.eq_nil_of_length_eq_zero (by omega)⟩
  · rintro ⟨htitle, hbody⟩
    rw [htitle, hbody]

/-! ### Sentences -/

/-- What the page after a redirect says of how its flow ends, and the text from outside that is in
it. -/
inductive Sentence (f : OAuthFlow) (env : Surroundings) (params : CallbackParams) (s : Simulation) :
    String → String → Prop where
  /-- The account is connected. -/
  | connected {session secret : ObjectRef} {kind : ProviderKind}
      (h : (Simulation.run env (f.complete params) s).1 = .ok (.stored session kind secret)) :
    Sentence f env params s ""
      ("Your " ++ kind.text ++ " account is connected to the session.")
  /-- The provider has refused. -/
  | denied {error : String} {description : Option String}
      (h : (Simulation.run env (f.complete params) s).1 = .ok (.providerDenied error description)) :
    Sentence f env params s "" "The provider did not grant access."
  /-- The flow has failed. -/
  | refused {given : String} {e : CredentialError}
      (h : (Simulation.run env (f.complete params) s).1 = .error e)
      (hrefused : f.Refused params s given e) :
    Sentence f env params s given e.publicMessage

variable {f : OAuthFlow} {env : Surroundings} {params : CallbackParams} {s : Simulation}
  {given sentence : String}

/-- What is told of a failure has the markup of the text from outside in it. -/
theorem markup_refused {e : CredentialError} (h : f.Refused params s given e) :
    markup e.publicMessage = markup given := by
  cases h with
  | fixed h =>
    have hnone : ∀ message ∈ CredentialError.fixedMessages, markup message = [] := by decide
    exact hnone _ h
  | provider h hunknown =>
    show markup ("Unsupported OAuth provider: " ++ _) = _
    rw [markup_append, markup_lowercase, markup_trim]
    rfl
  | session h habsent =>
    show markup ("AgenticSession " ++ _ ++ " not found") = _
    rw [markup_append, markup_append]
    show [] ++ _ ++ [] = _
    rw [List.nil_append, List.append_nil]
  | failure hop h =>
    show markup (_ ++ " not found") = _
    rw [markup_append]
    exact List.append_nil _

theorem Sentence.markup_eq (h : Sentence f env params s given sentence) :
    markup sentence = markup given := by
  cases h with
  | @connected _ _ kind h => cases kind <;> decide
  | denied => decide
  | refused _ hrefused => exact markup_refused hrefused

/-- The names in a payload are free of markup. -/
structure Unmarked (payload : StatePayload) : Prop where
  /-- The name of the provider is. -/
  provider : markup payload.provider = []
  /-- The namespace of the session is. -/
  project : markup payload.project = []
  /-- The name of the session is. -/
  session : markup payload.session = []

theorem markup_ref (payload : StatePayload) :
    markup payload.ref.text = markup payload.project ++ markup payload.session := by
  show markup (payload.project ++ "/" ++ payload.session) = _
  rw [markup_append, markup_append]
  show markup payload.project ++ [] ++ markup payload.session = _
  rw [List.append_nil]

/-- Where neither a verified token nor a failure that waits has markup in it, no page says any. -/
theorem Sentence.markup_eq_nil (h : Sentence f env params s given sentence)
    (hpayload : ∀ payload, f.Vouched params s.now payload → Unmarked payload)
    (hfaults : ∀ op kind name, (op, .notFound kind name) ∈ s.cluster.faults →
      markup kind = [] ∧ markup name = []) : markup given = [] := by
  cases h with
  | connected | denied => rfl
  | refused _ hrefused =>
    cases hrefused with
    | fixed => rfl
    | provider h => exact (hpayload _ h).provider
    | session h =>
      rw [markup_ref, (hpayload _ h).project, (hpayload _ h).session]
      rfl
    | failure hop h =>
      obtain ⟨hkind, hname⟩ := hfaults _ _ _ h
      rw [markup_append, markup_append, hkind, hname]
      rfl

/-! ### Redirects -/

namespace Service

variable {service : Service} {world : Simulation} {r : Request}

/-- A redirect whose parameters can be read is answered by how its flow ends. -/
theorem run_respond_callback (hroute : Route.ofPath? r.path = some .callback)
    (hmethod : r.method = "GET") (hparams : callbackParams r.parameters = .ok params) :
    ((service.respond r).run (Simulation.handler env) world).1 =
      callbackResponse (Simulation.run env (service.flow.complete params) world).1 := by
  have hrespond : service.respond r =
      (service.flow.complete params).run >>= fun outcome => pure (callbackResponse outcome) := by
    unfold respond respondOn callback
    rw [hroute, hparams, hmethod]
    -- a reading method is allowed, and only the other one is answered without the page
    exact Program.bind_done _
  rw [hrespond, Simulation.run_seq, ← Simulation.run_eq]
  rfl

/-- What the page after a redirect says. -/
theorem exists_sentence (service : Service) (env : Surroundings) (hk : world.cluster.objects.Keyed)
    (hroute : Route.ofPath? r.path = some .callback) (hmethod : r.method = "GET")
    (hparams : callbackParams r.parameters = .ok params) :
    ∃ status title sentence given,
      ((service.respond r).run (Simulation.handler env) world).1 =
        .html status (page title sentence) ∧
      markup title = [] ∧ Sentence service.flow env params world given sentence := by
  rw [run_respond_callback hroute hmethod hparams]
  have hcomplete : markup completeTitle = [] := by decide
  have hfailed : markup failedTitle = [] := by decide
  cases hrun : Simulation.run env (service.flow.complete params) world with
  | mk outcome after =>
    have houtcome : (Simulation.run env (service.flow.complete params) world).1 = outcome :=
      congrArg Prod.fst hrun
    cases outcome with
    | error e =>
      obtain ⟨given, hrefused⟩ := OAuthFlow.run_complete_error hk hrun
      exact ⟨_, _, _, given, rfl, hfailed, .refused houtcome hrefused⟩
    | ok outcome =>
      cases outcome with
      | stored session kind secret => exact ⟨_, _, _, "", rfl, hcomplete, .connected houtcome⟩
      | providerDenied error description => exact ⟨_, _, _, "", rfl, hfailed, .denied houtcome⟩

/-- The redirect of a provider with a code and a token. -/
def callbackRequest (code state : String) : Request :=
  ⟨"GET", "/oauth2callback", Form.encode [("code", code), ("state", state)], []⟩

theorem route_callbackRequest (code state : String) :
    Route.ofPath? (callbackRequest code state).path = some .callback := by
  show Route.ofPath? "/oauth2callback" = _
  decide +kernel

theorem callbackParams_callbackRequest (code state : String) :
    callbackParams (callbackRequest code state).parameters =
      .ok ⟨some code, some state, none, none⟩ := by
  rw [Request.parameters, callbackRequest, Form.decode_encode]
  rfl

/-- The page after a redirect with a good token for a session that is not there says where it would
be, as it stands in the token. -/
theorem respond_callback_absent {code token : String} {signer : StateSigner}
    {payload : StatePayload}
    {p : Provider} (hcode : code ≠ "") (hsigner : service.flow.signer = some signer)
    (htoken : token ≠ "") (hverify : signer.verify token world.now.seconds = .ok payload)
    (hproject : payload.project ≠ "") (hsession : payload.session ≠ "")
    (hprovider : service.flow.provider payload.provider = .ok p)
    (hfaults : world.cluster.faults = [])
    (habsent : world.cluster.objects.sessions.get? payload.ref = none) :
    ((service.respond (callbackRequest code token)).run (Simulation.handler env) world).1 =
      .html 404 (page failedTitle ("AgenticSession " ++ payload.ref.text ++ " not found")) := by
  have hadmitted : service.flow.admitted ⟨some code, some token, none, none⟩ world.now =
      .ok (code, payload, p) :=
    OAuthFlow.admitted_eq_ok.mpr ⟨OAuthFlow.nonEmpty_eq_some.mpr ⟨rfl, hcode⟩, token, signer,
      OAuthFlow.nonEmpty_eq_some.mpr ⟨rfl, htoken⟩, hsigner, hverify, hproject, hsession, hprovider⟩
  obtain ⟨after, hread, _⟩ := Simulation.run_platform_of_apply_error env
    (c := .getSession payload.ref) hfaults (Objects.apply_getSession_absent habsent)
  rw [run_respond_callback (route_callbackRequest code token) rfl
      (callbackParams_callbackRequest code token),
    OAuthFlow.run_complete_of_admitted rfl hadmitted, OAuthFlow.store_eq, Simulation.run_bind,
    Simulation.run_mapError, hread]
  rfl

/-- What the broker that offers Google answers requests with. -/
def offering : Service := { issuer := Deployment.offering.issuer, flow := Deployment.offering.flow }

/-- So it is with that broker on an empty cluster, for every token made at its time. -/
theorem respond_offering {payload : StatePayload} (hprovider : payload.provider = "google")
    (hnow : payload.timestamp = 0) (hproject : payload.project ≠ "")
    (hsession : payload.session ≠ "") :
    ((offering.respond (callbackRequest "c" ((StateSigner.ofSecret "key").sign payload))).run
      (Simulation.handler env) Deployment.bare).1 =
      .html 404 (page failedTitle ("AgenticSession " ++ payload.ref.text ++ " not found")) := by
  have hrange : payload.InRange := by
    rw [StatePayload.InRange, hnow]
    decide +kernel
  have hverify : (StateSigner.ofSecret "key").verify ((StateSigner.ofSecret "key").sign payload)
      Deployment.bare.now.seconds = .ok payload := by
    refine (StateSigner.verify_sign hrange).mpr ⟨rfl, ?_⟩
    rw [hnow]
    decide +kernel
  have hgoogle : offering.flow.provider payload.provider = .ok Deployment.localGoogle := by
    rw [hprovider]
    exact OAuthFlow.provider_eq_ok.mpr ⟨by decide +kernel, rfl⟩
  exact respond_callback_absent (by decide) rfl StateSigner.sign_ne_empty hverify hproject hsession
    hgoogle rfl rfl

/-- **Markup of pages.**  From any state that the cluster can reach, with any failures waiting and
whatever token endpoints answer: a redirect whose parameters can be read is answered with a page,
which says in one of the sentences how the flow has ended.  Its markup is that of the template with
the text from outside put in as it is; so it is that of the template exactly when this text has
none, and it has none when neither a verified token nor a failure that waits has any. -/
theorem page_markup (service : Service) (env : Surroundings) (world : Simulation) {r : Request}
    {params : CallbackParams} (hreachable : world.cluster.Reachable env.supply)
    (hroute : Route.ofPath? r.path = some .callback) (hmethod : r.method = "GET")
    (hparams : callbackParams r.parameters = .ok params) :
    ∃ status title sentence given,
      ((service.respond r).run (Simulation.handler env) world).1 =
        .html status (page title sentence) ∧
      Sentence service.flow env params world given sentence ∧
      markup (page title sentence) = markup (page "" given) ∧
      (markup (page title sentence) = markup (page "" "") ↔ markup given = []) ∧
      ((∀ payload, service.flow.Vouched params world.now payload → Unmarked payload) →
        (∀ op kind name, (op, .notFound kind name) ∈ world.cluster.faults →
          markup kind = [] ∧ markup name = []) →
        markup (page title sentence) = markup (page "" "")) := by
  obtain ⟨status, title, sentence, given, hresponse, htitle, hsentence⟩ :=
    exists_sentence service env hreachable.keyed hroute hmethod hparams
  have hmarkup : markup sentence = markup given := hsentence.markup_eq
  have hiff : markup (page title sentence) = markup (page "" "") ↔ markup given = [] := by
    rw [markup_page_eq_iff, hmarkup]
    exact and_iff_right htitle
  refine ⟨status, title, sentence, given, hresponse, hsentence, ?_, hiff,
    fun hpayload hfaults => ?_⟩
  · rw [markup_page, markup_page, htitle, hmarkup]
    rfl
  · exact hiff.mpr (hsentence.markup_eq_nil hpayload hfaults)

/-- A token for a session that is not there: the page says where it would be, and has the markup of
the template. -/
theorem page_markup_alpha :
    let env := Deployment.offering.surroundings Deployment.granting
    let signed : StatePayload := ⟨"google", "team", "alpha", 0⟩
    let token := (StateSigner.ofSecret "key").sign signed
    let response := ((offering.respond (callbackRequest "c" token)).run (Simulation.handler env)
      Deployment.bare).1
    response = .html 404 (page failedTitle "AgenticSession team/alpha not found") ∧
      markup response.body = markup (page "" "") := by
  intro env signed token response
  have hresponse : response =
      .html 404 (page failedTitle ("AgenticSession " ++ signed.ref.text ++ " not found")) :=
    respond_offering rfl rfl (by decide) (by decide)
  have htext : "AgenticSession " ++ signed.ref.text ++ " not found" =
      "AgenticSession team/alpha not found" := by decide
  -- The token vouches for what was signed and nothing else.
  have hpayload : ∀ payload, offering.flow.Vouched ⟨some "c", some token, none, none⟩
      Deployment.bare.now payload → Unmarked payload := by
    intro payload hvouched
    rw [OAuthFlow.eq_of_vouched rfl rfl ⟨by decide +kernel, by decide +kernel⟩ hvouched]
    exact ⟨by decide, by decide, by decide⟩
  obtain ⟨status, title, sentence, given, hpage, -, -, -, hunmarked⟩ :=
    offering.page_markup env Deployment.bare (.fresh {}) (route_callbackRequest "c" token) rfl
      (callbackParams_callbackRequest "c" token)
  refine ⟨htext ▸ hresponse, ?_⟩
  have hpage : response = .html status (page title sentence) := hpage
  rw [hpage]
  exact hunmarked hpayload fun _ _ _ hfault => absurd hfault List.not_mem_nil

/-- A token for a session of another name that is not there either: the page has the tags of the
name. -/
theorem page_markup_injected :
    let env := Deployment.offering.surroundings Deployment.granting
    let signed : StatePayload := ⟨"google", "proj-a", "<b>s1</b>", 0⟩
    let token := (StateSigner.ofSecret "key").sign signed
    let response := ((offering.respond (callbackRequest "c" token)).run (Simulation.handler env)
      Deployment.bare).1
    Deployment.bare.cluster.Reachable env.supply ∧
      response = .html 404 (page failedTitle "AgenticSession proj-a/<b>s1</b> not found") ∧
      markup response.body ≠ markup (page "" "") := by
  intro env signed token response
  have htext : "AgenticSession " ++ signed.ref.text ++ " not found" =
      "AgenticSession proj-a/<b>s1</b> not found" := by decide
  have hresponse : response =
      .html 404 (page failedTitle "AgenticSession proj-a/<b>s1</b> not found") := by
    rw [← htext]
    exact respond_offering rfl rfl (by decide) (by decide)
  refine ⟨.fresh {}, hresponse, ?_⟩
  rw [hresponse]
  intro h
  have hnone : markup "AgenticSession proj-a/<b>s1</b> not found" = [] :=
    (markup_page_eq_iff.mp h).2
  exact absurd hnone (by decide)

end Service

end CredentialBroker.Web
