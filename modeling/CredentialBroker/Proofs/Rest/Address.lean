import CredentialBroker.Proofs.Rest.Client
import CredentialBroker.Proofs.Url.Plain

namespace CredentialBroker

/-!
# Where sessions are fetched

The path of a session holds its namespace and its name as they are.  So a session is fetched from
its own address when these are plain segments, and never otherwise: a name with slashes and dots
leads to the address of another session.

* `Url.IsPlain.of_name` — names are plain;
* `RestClient.request?_getSession` — which references are fetched from their own address, and that
  no two of them are fetched from one address;
* `RestClient.request?_getSession_neighbour` — a name that leads to a session of another namespace.
-/

namespace Url

/-- A character of a name. -/
def isNameChar (c : Char) : Bool := c.isAlphanum || c = '-' || c = '.' || c = '_'

/-- A text of characters of names, other than `.` and `..`, is a plain segment. -/
theorem IsPlain.of_name {seg : List Char} (h : seg.all isNameChar = true)
    (hlevel : isDots seg = false) : IsPlain seg where
  clean := by
    intro c hc hdelimiter
    have hnone : (delimiters.any isNameChar) = false := by decide
    exact Bool.eq_false_iff.mp hnone
      (List.any_eq_true.mpr ⟨c, hdelimiter, List.all_eq_true.mp h c hc⟩)
  level := hlevel
  unescaped := by
    -- All of it is ASCII, and none of it is a percent sign.
    have hone : ∀ c : Char, isNameChar c = true → c.toNat < 0x80 ∧ c.toNat ≠ 0x25 := by
      intro c hc
      have hval : c.toNat = c.val.toNat := rfl
      have hcapitals : ('A').val.toNat = 65 ∧ ('Z').val.toNat = 90 := by decide
      have hletters : ('a').val.toNat = 97 ∧ ('z').val.toNat = 122 := by decide
      have hdigits : ('0').val.toNat = 48 ∧ ('9').val.toNat = 57 := by decide
      simp only [isNameChar, Char.isAlphanum, Char.isAlpha, Char.isUpper, Char.isLower,
        Char.isDigit, Bool.or_eq_true, Bool.and_eq_true, decide_eq_true_eq, ge_iff_le,
        UInt32.le_iff_toNat_le] at hc
      obtain (((hletter | hdigit) | rfl) | rfl) | rfl := hc
      · omega
      · omega
      · decide
      · decide
      · decide
    refine Percent.decodeOctets_eq_self fun hpercent => ?_
    obtain ⟨c, hc, hmem⟩ := List.mem_flatMap.mp hpercent
    obtain ⟨hascii, hne⟩ := hone c (List.all_eq_true.mp h c hc)
    rw [Text.encode_ascii hascii, List.mem_singleton] at hmem
    have hvalue : (0x25 : UInt8).toNat = (UInt8.ofNat c.toNat).toNat := congrArg _ hmem
    rw [UInt8.toNat_ofNat_of_lt' (Nat.lt_trans hascii (by decide))] at hvalue
    exact hne hvalue.symm

end Url

/-- A reference whose parts are plain segments of a path, of which the last ends visibly. -/
structure ObjectRef.IsPlain (ref : ObjectRef) : Prop where
  /-- The namespace. -/
  ns : Url.IsPlain ref.ns.toList
  /-- The name. -/
  name : Url.IsPlain ref.name.toList
  /-- The name stands at the end of the path. -/
  ends : Url.EndsVisibly ref.name.toList

/-- A custom resource whose parts are plain segments of a path. -/
structure SessionResource.IsPlain (resource : SessionResource) : Prop where
  /-- The group. -/
  group : Url.IsPlain resource.group.toList
  /-- The version. -/
  version : Url.IsPlain resource.version.toList
  /-- The name for many. -/
  plural : Url.IsPlain resource.plural.toList

namespace Rest

variable {resource : SessionResource} {ref ref' : ObjectRef}

/-- The segments below the interface of a cluster under which a session is. -/
def sessionSegments (resource : SessionResource) (ref : ObjectRef) : List String :=
  ["apis", resource.group, resource.version, "namespaces", ref.ns, resource.plural, ref.name]

theorem sessionSegments_injective
    (h : sessionSegments resource ref = sessionSegments resource ref') : ref = ref' := by
  obtain ⟨ns, name⟩ := ref
  obtain ⟨ns', name'⟩ := ref'
  simp only [sessionSegments, List.cons.injEq, true_and, and_true] at h
  rw [h.1, h.2]

/-- The path of a session is its segments, each behind a slash. -/
theorem sessionPath_eq (resource : SessionResource) (ref : ObjectRef) :
    ∃ rest : String, sessionPath resource ref = "/" ++ rest ∧ rest.toList =
      Url.joined "apis".toList ([resource.group, resource.version, "namespaces", ref.ns,
        resource.plural, ref.name].map String.toList) := by
  refine ⟨"apis/" ++ resource.group ++ "/" ++ resource.version ++ "/namespaces/" ++ ref.ns ++ "/" ++
    resource.plural ++ "/" ++ ref.name, ?_, ?_⟩
  · apply String.toList_inj.mp
    simp only [sessionPath, sessionsPath, String.toList_append, List.append_assoc]
    rfl
  · simp only [Url.joined, List.map_cons, List.map_nil, List.flatMap_cons, List.flatMap_nil,
      List.cons_append, List.append_nil, String.toList_append, List.append_assoc]
    rfl

end Rest

/-- A URL is the address of a session below the URL of a cluster's interface. -/
structure Url.Addresses (b : Url) (resource : SessionResource) (ref : ObjectRef) (u : Url) :
    Prop where
  /-- It has no query. -/
  query : u.query = none
  /-- Its segments are those of the interface and of the session. -/
  segments : u.decodedSegments =
    b.decodedSegments.dropLast ++ (Rest.sessionSegments resource ref).map Text.utf8

theorem Url.Addresses.ref_eq {b u : Url} {resource : SessionResource} {ref ref' : ObjectRef}
    (h : b.Addresses resource ref u) (h' : b.Addresses resource ref' u) : ref = ref' := by
  have hsegments := List.append_cancel_left (h.segments.symm.trans h'.segments)
  exact Rest.sessionSegments_injective
    ((List.map_inj_right fun _ _ => Text.utf8_injective).mp hsegments)

namespace RestClient

open Rest

variable {c : RestClient} {b : Url} {ref ref' : ObjectRef}

/-- A client whose base URL is a URL of the web with neither query nor fragment. -/
structure Serves (c : RestClient) (b : Url) : Prop where
  /-- The base URL, with the slash that every path begins with. -/
  base : Url.read? (c.baseUrl ++ "/") = some b
  /-- It is a URL of the web. -/
  web : b.scheme = "http" ∨ b.scheme = "https"
  /-- It has no query. -/
  query : b.query = none
  /-- It has no fragment. -/
  fragment : b.fragment = none

/-- The URL of a session, which every reference has. -/
theorem Serves.sessionUrl (h : c.Serves b) (hresource : c.resource.IsPlain) (ref : ObjectRef) :
    ∃ u, Url.read? (c.baseUrl ++ sessionPath c.resource ref) = some u ∧ u.scheme = b.scheme ∧
      (b.Addresses c.resource ref u ↔ ref.IsPlain) := by
  obtain ⟨above, habove, hbelow⟩ := Url.read?_below h.base h.web h.query h.fragment
  obtain ⟨rest, hpath, hrest⟩ := sessionPath_eq c.resource ref
  have hread := hbelow rest
  rw [String.append_assoc, ← hpath, hrest] at hread
  have hoctets : (sessionSegments c.resource ref).map Text.utf8 =
      ((sessionSegments c.resource ref).map String.toList).map Text.octetsOf := by
    rw [List.map_map]
    exact List.map_congr_left fun s _ => (Text.octetsOf_toList s).symm
  refine ⟨_, hread, rfl, fun haddress => ?_, fun hplain => ?_⟩
  · have hsegments := haddress.segments
    rw [habove, hoctets] at hsegments
    obtain ⟨hplain, hends⟩ := Url.of_below_joined hsegments
    simp only [List.map_cons, List.map_nil, List.forall_mem_cons] at hplain
    exact ⟨hplain.2.2.2.2.1, hplain.2.2.2.2.2.2.1, hends⟩
  · have hapis : Url.IsPlain "apis".toList := .of_name (by decide) (by decide)
    have hnamespaces : Url.IsPlain "namespaces".toList := .of_name (by decide) (by decide)
    have hparts : ∀ part ∈ (sessionSegments c.resource ref).map String.toList,
        Url.IsPlain part := by
      simp only [sessionSegments, List.map_cons, List.map_nil, List.forall_mem_cons]
      exact ⟨hapis, hresource.group, hresource.version, hnamespaces, hplain.ns, hresource.plural,
        hplain.name, List.forall_mem_nil _⟩
    obtain ⟨hquery, hsegments⟩ := Url.below_joined hparts hplain.ends
    refine ⟨hquery, ?_⟩
    rw [habove, hoctets]
    exact hsegments

/-- The request for a session goes to its URL, if the header that proves who calls is legal. -/
theorem request?_eq (auth : String × String) {u : Url}
    (hread : Url.read? (c.baseUrl ++ sessionPath c.resource ref) = some u)
    (hweb : u.scheme = "http" ∨ u.scheme = "https") :
    c.request? auth (.getSession ref) = if Http.isHeaderValue auth.2 then
      some ⟨"GET", Http.withoutUser u,
        Http.userHeader u ++ [("accept", "application/json"), auth], []⟩ else none := by
  split
  · next hauth => exact request?_eq_some_iff.mpr ⟨hauth, u, ⟨hread, hweb⟩, rfl⟩
  · next hauth =>
    exact Option.eq_none_iff_forall_ne_some.mpr fun r hr => hauth (request?_eq_some_iff.mp hr).1

/-- **Addresses of sessions.**  Every reference is fetched from some URL, and from its own address
exactly when it is plain.  No two plain references are fetched from one URL, whoever asks. -/
theorem request?_getSession (hbase : c.Serves b) (hresource : c.resource.IsPlain) :
    (∀ auth ref, Http.isHeaderValue auth.2 = true →
      ∃ r, c.request? auth (.getSession ref) = some r ∧
        (b.Addresses c.resource ref r.url ↔ ref.IsPlain)) ∧
    (∀ auth auth' ref ref' r r', ref.IsPlain → ref'.IsPlain →
      c.request? auth (.getSession ref) = some r → c.request? auth' (.getSession ref') = some r' →
        r.url = r'.url → ref = ref') := by
  have haddress : ∀ auth ref r, c.request? auth (.getSession ref) = some r →
      (b.Addresses c.resource ref r.url ↔ ref.IsPlain) := by
    intro auth ref r hr
    obtain ⟨u, hread, hscheme, haddress⟩ := hbase.sessionUrl hresource ref
    rw [request?_eq auth hread (hscheme ▸ hbase.web)] at hr
    split at hr
    · cases hr
      exact ⟨fun h => haddress.mp ⟨h.query, h.segments⟩, fun h =>
        ⟨(haddress.mpr h).query, (haddress.mpr h).segments⟩⟩
    · cases hr
  refine ⟨fun auth ref hauth => ?_, fun auth auth' ref ref' r r' hplain hplain' hr hr' hurl => ?_⟩
  · obtain ⟨u, hread, hscheme, _⟩ := hbase.sessionUrl hresource ref
    have hrequest := request?_eq auth hread (hscheme ▸ hbase.web)
    rw [if_pos hauth] at hrequest
    exact ⟨_, hrequest, haddress auth ref _ hrequest⟩
  · have hown := (haddress auth ref r hr).mpr hplain
    have hother := (haddress auth' ref' r' hr').mpr hplain'
    exact hown.ref_eq (hurl ▸ hother)

/-! ### A client and two references -/

/-- A client of a cluster whose interface is at the root of its server. -/
def rootClient : RestClient := .of "http://api.test/" (.bearer "platform-token") ⟨5, by decide⟩ {}

/-- The URL of that interface. -/
def rootUrl : Url := ⟨"http", "", "", some "api.test", none, .segments [""], none, none⟩

theorem rootClient_serves : rootClient.Serves rootUrl where
  base := by decide +kernel
  web := .inl rfl
  query := rfl
  fragment := rfl

theorem rootClient_plain : rootClient.resource.IsPlain where
  group := .of_name (by decide) (by decide)
  version := .of_name (by decide) (by decide)
  plural := .of_name (by decide) (by decide)

/-- A name with dots, blanks, a percent sign and other scripts is fetched from its own address. -/
theorem request?_getSession_scripts :
    let ref : ObjectRef := ⟨"proj-a", "..s 1.%zz-セッション"⟩
    ref.IsPlain ∧ ∃ r,
      rootClient.request? ("authorization", "Bearer t") (.getSession ref) = some r ∧
      rootUrl.Addresses rootClient.resource ref r.url := by
  intro ref
  have hlast : ref.name.toList.getLast? = some 'ン' := by decide +kernel
  have hclean : ref.name.toList.any Url.delimiters.contains = false := by decide +kernel
  have hplain : ref.IsPlain := {
    ns := .of_name (by decide) (by decide)
    name := ⟨fun c hc hdelimiter => Bool.eq_false_iff.mp hclean
      (List.any_eq_true.mpr ⟨c, hc, List.contains_iff_mem.mpr hdelimiter⟩), by decide,
      by decide +kernel⟩
    ends := fun c hc => by
      rw [hlast] at hc
      cases hc
      decide }
  obtain ⟨r, hr, haddress⟩ := (request?_getSession rootClient_serves rootClient_plain).1
    ("authorization", "Bearer t") ref (by decide +kernel)
  exact ⟨hplain, r, hr, haddress.mpr hplain⟩

/-- A name with slashes and dots is fetched from the address of a session of another namespace. -/
theorem request?_getSession_neighbour :
    ∃ r, rootClient.request? ("authorization", "Bearer platform-token")
        (.getSession ⟨"proj-a", "../../proj-b/agenticsessions/s2"⟩) = some r ∧
      rootUrl.Addresses rootClient.resource ⟨"proj-b", "s2"⟩ r.url ∧
      ¬ rootUrl.Addresses rootClient.resource ⟨"proj-a", "../../proj-b/agenticsessions/s2"⟩
        r.url := by
  obtain ⟨above, habove, hbelow⟩ := Url.read?_below rootClient_serves.base rootClient_serves.web
    rootClient_serves.query rootClient_serves.fragment
  have hroot : above.reverse = [] := List.map_eq_nil_iff.mp habove.symm
  obtain rfl : above = [] := List.reverse_eq_nil_iff.mp hroot
  obtain ⟨rest, hpath, hrest⟩ := sessionPath_eq rootClient.resource
    ⟨"proj-a", "../../proj-b/agenticsessions/s2"⟩
  have hread := hbelow rest
  rw [String.append_assoc, ← hpath, hrest] at hread
  have hrequest := request?_eq ("authorization", "Bearer platform-token") hread (.inl rfl)
  rw [if_pos (by decide +kernel)] at hrequest
  have hother : ∀ u, rootUrl.Addresses rootClient.resource ⟨"proj-b", "s2"⟩ u →
      ¬ rootUrl.Addresses rootClient.resource ⟨"proj-a", "../../proj-b/agenticsessions/s2"⟩ u :=
    fun u h hown => absurd (hown.ref_eq h) (by decide)
  exact ⟨_, hrequest, ⟨by decide +kernel, by decide +kernel⟩,
    hother _ ⟨by decide +kernel, by decide +kernel⟩⟩

end RestClient

end CredentialBroker
