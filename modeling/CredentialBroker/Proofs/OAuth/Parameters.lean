import CredentialBroker.Proofs.Codec.Form
import CredentialBroker.Proofs.OAuth.Containment

namespace CredentialBroker

/-!
# What providers are told

A provider reads the query of the URL a user is sent to, and the form that asks for tokens.  What it
reads is what this program put in, whatever characters the values hold, so no value can pass for
another parameter.

* `Url.queryPairs_appendPairs` — pairs added to a query are read behind those it had;
* `ProviderRegistry.parameters_read` — the URL a user is sent to and the form.
-/

/-! ### Queries -/

namespace Url

variable (u : Url) (ps : List (String × String))

/-- Pairs added to a query are read behind those it had. -/
theorem queryPairs_appendPairs : (u.appendPairs ps).queryPairs = u.queryPairs ++ ps := by
  unfold appendPairs
  split
  · next hempty => rw [List.isEmpty_iff.mp hempty, List.append_nil]
  · unfold queryPairs
    dsimp only
    rw [Option.getD_some]
    split
    · next hquery =>
      rw [hquery, Form.decode_encode]
      rfl
    · next hquery =>
      rw [hquery, Form.decode_encode]
      rfl
    · next q _ hquery =>
      rw [hquery, Option.getD_some, Form.decode, Text.utf8_append, Text.utf8_append,
        List.append_assoc]
      exact (Form.decodeOctets_append _ _).trans (congrArg _ (Form.decode_encode ps))

/-- Only the query changes. -/
theorem appendPairs_with_query : { u.appendPairs ps with query := u.query } = u := by
  unfold appendPairs
  split <;> rfl

end Url

/-! ### Exchanges -/

namespace Provider

variable {p : Provider} {redirectUri code : String} {request : Http.Request}

/-- There is a request for tokens exactly when the token endpoint is a URL of the web. -/
theorem exchangeRequest_eq_ok_iff : p.exchangeRequest redirectUri code = .ok request ↔
    ∃ url, Url.read? p.tokenUrl = some url ∧ (url.scheme = "http" ∨ url.scheme = "https") ∧
      request = ⟨"POST", Http.withoutUser url,
        Http.userHeader url ++ [("accept", "application/json"),
          ("content-type", "application/x-www-form-urlencoded")],
        Text.utf8 (Form.encode (p.exchangePairs redirectUri code))⟩ := by
  have hlegal : [("accept", "application/json"),
      ("content-type", "application/x-www-form-urlencoded")].all
        (fun h => Http.isHeaderValue h.2) = true := by decide
  unfold exchangeRequest Http.Request.make?
  dsimp only
  cases hread : Url.read? p.tokenUrl with
  | none => simp
  | some url =>
    rw [Option.bind_eq_bind, Option.bind_some, hlegal]
    by_cases hweb : url.scheme = "http" ∨ url.scheme = "https"
    · rw [if_pos ⟨hweb, rfl⟩]
      constructor
      · rintro ⟨⟩
        exact ⟨url, rfl, hweb, rfl⟩
      · rintro ⟨_, ⟨⟩, _, rfl⟩
        rfl
    · rw [if_neg fun h => hweb h.1]
      constructor
      · rintro ⟨⟩
      · rintro ⟨_, ⟨⟩, hweb', _⟩
        exact absurd hweb' hweb

/-- The form is read as the pairs it was written from. -/
theorem body_of_exchangeRequest (h : p.exchangeRequest redirectUri code = .ok request) :
    Form.decodeOctets request.body = p.exchangePairs redirectUri code := by
  obtain ⟨_, _, _, rfl⟩ := exchangeRequest_eq_ok_iff.mp h
  exact Form.decode_encode _

end Provider

/-! ### What providers read -/

/-- The query of the URL a user is sent to is read as the pairs that the authorization endpoint had,
then the five of this program, then those of the provider; nothing else of the endpoint is changed.
The form that asks for tokens is read as its five pairs, in every request that leaves a run, and one
leaves it if the token endpoint is a URL of the web. -/
theorem ProviderRegistry.parameters_read (r : ProviderRegistry) (p : Provider) :
    (∀ base, Url.read? p.authorizeUrl = some base → ∀ state, ∃ url,
      p.authorizationUrl r.redirectUri state = .ok url ∧
      url.queryPairs = base.queryPairs ++
        [("client_id", p.credentials.clientId), ("redirect_uri", r.redirectUri),
         ("response_type", "code"), ("scope", " ".intercalate p.scopes), ("state", state)] ++
        p.authorizeParams ∧
      { url with query := base.query } = base) ∧
    ∀ code env s,
      (∀ request ∈ Simulation.exchanges env (r.exchange p code) s,
        Form.decodeOctets request.body =
          [("grant_type", "authorization_code"), ("code", code),
           ("client_id", p.credentials.clientId), ("client_secret", p.credentials.clientSecret),
           ("redirect_uri", r.redirectUri)]) ∧
      ∀ url, Url.read? p.tokenUrl = some url → url.scheme = "http" ∨ url.scheme = "https" →
        ∃ request, Simulation.exchanges env (r.exchange p code) s = [request] := by
  refine ⟨fun base hbase state => ?_, fun code env s => ⟨fun request hrequest => ?_,
    fun url hread hweb => ?_⟩⟩
  · refine ⟨base.appendPairs (p.authorizationPairs r.redirectUri state), ?_, ?_,
      base.appendPairs_with_query _⟩
    · rw [Provider.authorizationUrl, hbase]
    · rw [Url.queryPairs_appendPairs, List.append_assoc]
      rfl
  · rw [OAuthFlow.exchanges_exchange, Option.mem_toList] at hrequest
    cases h : p.exchangeRequest r.redirectUri code with
    | error e =>
      rw [h] at hrequest
      cases hrequest
    | ok sent =>
      rw [h] at hrequest
      obtain rfl : sent = request := Option.some.inj hrequest
      exact Provider.body_of_exchangeRequest h
  · have hsent : ∃ request, p.exchangeRequest r.redirectUri code = .ok request :=
      ⟨_, Provider.exchangeRequest_eq_ok_iff.mpr ⟨url, hread, hweb, rfl⟩⟩
    obtain ⟨request, hsent⟩ := hsent
    refine ⟨request, ?_⟩
    rw [OAuthFlow.exchanges_exchange, hsent]
    rfl

/-- A provider whose authorization endpoint has a query and a fragment, and whose values hold what
means something in a query. -/
def Provider.delimiting : Provider :=
  { Provider.github ⟨"a&b=c", "secret"⟩ with
    authorizeUrl := "https://idp.test/auth?x=1&&y#top"
    authorizeParams := [("more&", "100%")] }

/-- Values with every character that means something in a query. -/
theorem ProviderRegistry.parameters_read_delimiters :
    ∃ url, Provider.delimiting.authorizationUrl "https://app.test/cb?a=b&c" "s+t #é" = .ok url ∧
      url.queryPairs =
        [("x", "1"), ("y", ""), ("client_id", "a&b=c"),
         ("redirect_uri", "https://app.test/cb?a=b&c"), ("response_type", "code"),
         ("scope", "repo user"), ("state", "s+t #é"), ("more&", "100%")] ∧
      url.host = some "idp.test" ∧ url.fragment = some "top" := by
  have hread : Url.read? Provider.delimiting.authorizeUrl =
      some ⟨"https", "", "", some "idp.test", none, .segments ["auth"], some "x=1&&y",
        some "top"⟩ := by decide +kernel
  obtain ⟨hauthorize, _⟩ := ProviderRegistry.parameters_read
    (ProviderRegistry.empty "https://app.test/cb?a=b&c" (.ofSeconds 10)) Provider.delimiting
  obtain ⟨url, hurl, hpairs, hrest⟩ := hauthorize _ hread "s+t #é"
  refine ⟨url, hurl, ?_, ?_, ?_⟩
  · rw [hpairs]
    decide +kernel
  · exact congrArg Url.host hrest
  · exact congrArg Url.fragment hrest

end CredentialBroker
