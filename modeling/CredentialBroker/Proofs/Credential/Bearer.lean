import CredentialBroker.Cluster.Objects
import CredentialBroker.Credential.Access
import CredentialBroker.Proofs.Text.Letters
import CredentialBroker.Rest.Client

namespace CredentialBroker

/-!
# The two readers of bearer tokens

A job's header must name the scheme; a user's may, and a text that does not is the token itself.
Where the scheme is named the two read one and the same token, so no header stands for one caller
to the job's route and for another to the user's.

* `Bearer.ofHeader?_eq_some_iff` — which headers name a token, and that it is the one of
  `Bearer.normalize`;
* `Client.ofCaller?_eq_none_iff`, `Client.knownBy_bearer` — which requests have no client, and what
  a client is known by;
* `Bearer.readers_agree` — both, and what a token is to a cluster and on a wire.
-/

namespace Bearer

variable {value token : String} {name rest : List Char}

/-! ### The two readings -/

/-- Without the blanks around it, the value begins with the scheme and a space, in letters of any
case. -/
def NamesScheme (value : String) : Prop :=
  ∃ start rest, (Text.trim value).toList = start ++ rest ∧
    Text.sameLetters start "bearer ".toList = true

theorem space_not_mem (hname : Text.sameLetters name scheme = true) : ' ' ∉ name := by
  intro hmem
  have hmap : name.map Char.toLower = scheme.map Char.toLower := eq_of_beq hname
  have hspace : ' ' ∈ scheme.map Char.toLower := hmap ▸ List.mem_map_of_mem hmem
  exact absurd hspace (by decide)

/-- The beginning is the name of the scheme and one space. -/
theorem namesScheme_iff : NamesScheme value ↔
    ∃ name rest, (Text.trim value).toList = name ++ ' ' :: rest ∧
      Text.sameLetters name scheme = true := by
  constructor
  · rintro ⟨start, rest, hvalue, hstart⟩
    have hmap : start.map Char.toLower = scheme.map Char.toLower ++ [' '.toLower] :=
      (eq_of_beq hstart).trans (by decide)
    obtain ⟨name, last, rfl, hname, hlast⟩ := List.map_eq_append_iff.mp hmap
    obtain ⟨c, rfl, hc⟩ := List.map_eq_singleton_iff.mp hlast
    obtain rfl : c = ' ' := Text.eq_of_toLower (by decide) hc
    refine ⟨name, rest, ?_, beq_iff_eq.mpr hname⟩
    rw [hvalue, List.append_assoc, List.singleton_append]
  · rintro ⟨name, rest, hvalue, hname⟩
    refine ⟨name ++ [' '], rest, ?_, ?_⟩
    · rw [hvalue, List.append_assoc, List.singleton_append]
    · have hmap : name.map Char.toLower = scheme.map Char.toLower := eq_of_beq hname
      refine beq_iff_eq.mpr ?_
      rw [List.map_append, hmap]
      decide

/-- There is something left after the scheme: the last character of a trimmed value is not blank. -/
theorem trimChars_rest_ne_nil (hvalue : (Text.trim value).toList = name ++ ' ' :: rest) :
    Text.trimChars rest ≠ [] := by
  rw [Text.toList_trim] at hvalue
  have hlast : ∀ c, (name ++ ' ' :: rest).getLast? = some c → Text.isBlank c = false := by
    intro c hc
    exact Text.getLast?_trimChars (hvalue ▸ hc)
  cases hrest : rest.getLast? with
  | none =>
    -- a value that ended with the space would end with a blank
    rw [List.getLast?_eq_none_iff] at hrest
    have hspace : Text.isBlank ' ' = false := hlast ' ' (by simp [hrest])
    cases hspace
  | some c =>
    have hlast? : (name ++ ' ' :: rest).getLast? = some c := by
      rw [List.getLast?_append, List.getLast?_cons, hrest]
      rfl
    have hc : Text.isBlank c = false := hlast c hlast?
    exact List.ne_nil_of_mem (Text.mem_trimChars (List.mem_of_getLast? hrest) hc)

/-- What is read of a header that names the scheme. -/
theorem ofHeader?_of_names (hvalue : (Text.trim value).toList = name ++ ' ' :: rest)
    (hname : Text.sameLetters name scheme = true) :
    ofHeader? value = some (String.ofList (Text.trimChars rest)) := by
  have hcut : Text.cut? ' ' (Text.trim value) = some (String.ofList name, String.ofList rest) := by
    unfold Text.cut?
    rw [Text.cutChars_eq_some_iff.mpr ⟨space_not_mem hname, hvalue⟩]
    rfl
  have hne : String.ofList (Text.trimChars rest) ≠ "" := by
    intro hempty
    exact trimChars_rest_ne_nil hvalue (by simpa using congrArg String.toList hempty)
  unfold ofHeader?
  rw [hcut, Option.bind_eq_bind, Option.bind_some]
  dsimp only
  rw [String.toList_ofList, if_pos hname, Text.trim, String.toList_ofList, Option.filter_some,
    if_pos (decide_eq_true hne)]

/-- What is made of a text that names the scheme. -/
theorem normalize_of_names (hvalue : (Text.trim value).toList = name ++ ' ' :: rest)
    (hname : Text.sameLetters name scheme = true) :
    normalize value = String.ofList (Text.trimChars rest) := by
  have hlength : name.length = 6 := Text.length_eq_of_sameLetters hname
  have hwhole : ¬ Text.sameLetters (name ++ ' ' :: rest) scheme = true := by
    intro hsame
    have hlong : (name ++ ' ' :: rest).length = 6 := Text.length_eq_of_sameLetters hsame
    rw [List.length_append, List.length_cons, hlength] at hlong
    omega
  have hstart : Text.sameLetters (name ++ [' ']) (scheme ++ [' ']) = true := by
    have hmap : name.map Char.toLower = scheme.map Char.toLower := eq_of_beq hname
    refine beq_iff_eq.mpr ?_
    rw [List.map_append, List.map_append, hmap]
  have htake : (name ++ ' ' :: rest).take 7 = name ++ [' '] := by
    rw [List.take_append, List.take_of_length_le (by omega), hlength]
    rfl
  have hdrop : (name ++ ' ' :: rest).drop 7 = rest := by
    rw [List.drop_append, List.drop_of_length_le (by omega), hlength]
    rfl
  unfold normalize
  dsimp only
  rw [hvalue, if_neg hwhole, htake, if_pos hstart, hdrop]

/-- A header names a token exactly when it names the scheme, and the token is what is made of the
text as a user's. -/
theorem ofHeader?_eq_some_iff :
    ofHeader? value = some token ↔ NamesScheme value ∧ token = normalize value := by
  constructor
  · intro h
    unfold ofHeader? at h
    obtain ⟨⟨start, rest⟩, hcut, h⟩ := Option.bind_eq_some_iff.mp h
    obtain ⟨⟨name, rest⟩, hchars, heq⟩ := Option.map_eq_some_iff.mp hcut
    obtain ⟨rfl, rfl⟩ := Prod.mk.inj heq
    obtain ⟨_, hvalue⟩ := Text.cutChars_eq_some_iff.mp hchars
    dsimp only at h
    split at h
    · next hname =>
      rw [String.toList_ofList] at hname
      refine ⟨namesScheme_iff.mpr ⟨name, rest, hvalue, hname⟩, ?_⟩
      obtain ⟨htoken, _⟩ := Option.filter_eq_some_iff.mp h
      rw [normalize_of_names hvalue hname, ← Option.some.inj htoken, Text.trim,
        String.toList_ofList]
    · cases h
  · rintro ⟨hnames, htoken⟩
    obtain ⟨name, rest, hvalue, hname⟩ := namesScheme_iff.mp hnames
    rw [htoken, ofHeader?_of_names hvalue hname, normalize_of_names hvalue hname]

/-- What is made of a text has no blanks around it. -/
theorem trim_normalize (value : String) : Text.trim (normalize value) = normalize value := by
  unfold normalize
  dsimp only
  split
  · rfl
  · split
    · rw [Text.trim, String.toList_ofList, Text.trimChars_trimChars]
    · rw [String.ofList_toList, Text.trim_trim]

/-- The token of a text that names the scheme is not empty. -/
theorem normalize_ne_empty (h : NamesScheme value) : normalize value ≠ "" := by
  obtain ⟨name, rest, hvalue, hname⟩ := namesScheme_iff.mp h
  rw [normalize_of_names hvalue hname]
  intro hempty
  exact trimChars_rest_ne_nil hvalue (by simpa using congrArg String.toList hempty)

end Bearer

/-! ### The client of a request -/

namespace Client

open Bearer

variable {authorization forwarded : Option String} {text : String}

/-- A client is known by a token.  To a cluster held in memory it is the user the token stands for;
over a network the token is what the client presents, whatever the platform's own client does. -/
structure KnownBy (who : Client) (token : String) : Prop where
  inMemory : ∀ o : Objects, o.userOf? who = o.tokens.get? token
  onWire : ∀ c : RestClient, (c.actingAs who).auth = .bearer token ∧
    (c.actingAs who).authorization = pure ("authorization", "Bearer " ++ token)

theorem knownBy_bearer (token : String) : (Client.bearer token).KnownBy token :=
  ⟨fun _ => rfl, fun _ => ⟨rfl, rfl⟩⟩

/-- The token of the authorization header comes first. -/
theorem ofCaller?_of_authorization (htext : text ∈ authorization) (hne : normalize text ≠ "") :
    Bearer.ofCaller? authorization forwarded = some (normalize text) := by
  rw [Option.mem_def] at htext
  subst htext
  rw [Bearer.ofCaller?, Option.map_some, Option.filter_some, if_pos (decide_eq_true hne),
    Option.some_or]

/-- An authorization header without a token is as good as none. -/
theorem ofCaller?_of_empty (hempty : ∀ text ∈ authorization, normalize text = "") :
    Bearer.ofCaller? authorization forwarded = (forwarded.map Text.trim).filter (· ≠ "") := by
  cases authorization with
  | none => rfl
  | some text =>
    have htext : normalize text = "" := hempty text rfl
    rw [Bearer.ofCaller?, Option.map_some, htext]
    rfl

theorem ofCaller?_of_forwarded (hempty : ∀ text ∈ authorization, normalize text = "")
    (htext : text ∈ forwarded) (hne : Text.trim text ≠ "") :
    Bearer.ofCaller? authorization forwarded = some (Text.trim text) := by
  rw [Option.mem_def] at htext
  rw [ofCaller?_of_empty hempty, htext, Option.map_some, Option.filter_some,
    if_pos (decide_eq_true hne)]

/-- There is no client exactly when neither header holds a token. -/
theorem ofCaller?_eq_none_iff : Client.ofCaller? authorization forwarded = none ↔
    (∀ text ∈ authorization, normalize text = "") ∧ ∀ text ∈ forwarded, Text.trim text = "" := by
  unfold Client.ofCaller?
  rw [Option.map_eq_none_iff]
  constructor
  · intro hnone
    have hfirst : ∀ text ∈ authorization, normalize text = "" := by
      intro text htext
      refine Decidable.byContradiction fun hne => ?_
      rw [ofCaller?_of_authorization htext hne] at hnone
      cases hnone
    refine ⟨hfirst, fun text htext => ?_⟩
    refine Decidable.byContradiction fun hne => ?_
    rw [ofCaller?_of_forwarded hfirst htext hne] at hnone
    cases hnone
  · rintro ⟨hfirst, hsecond⟩
    rw [ofCaller?_of_empty hfirst]
    cases forwarded with
    | none => rfl
    | some text =>
      have htext : Text.trim text = "" := hsecond text rfl
      rw [Option.map_some, htext]
      rfl

end Client

/-! ### Both readings -/

/-- A header names a token exactly when, without the blanks around it, it begins with the scheme
and a space in letters of any case; the token is then what a user's route makes of the same text, it
is not empty and has no blanks around it, and it is the token of the caller there, too.  A request
has no client exactly when its authorization header and its forwarded token are both absent or
empty; otherwise its client is known by the one of the authorization header, or if that is empty by
the forwarded one. -/
theorem Bearer.readers_agree :
    (∀ value token, ofHeader? value = some token ↔ NamesScheme value ∧ token = normalize value) ∧
    (∀ value token, ofHeader? value = some token →
      token ≠ "" ∧ Text.trim token = token ∧
        ∀ forwarded, ofCaller? (some value) forwarded = some token) ∧
    ∀ authorization forwarded : Option String,
      (Client.ofCaller? authorization forwarded = none ↔
        (∀ text ∈ authorization, normalize text = "") ∧
          ∀ text ∈ forwarded, Text.trim text = "") ∧
      (∀ text ∈ authorization, normalize text ≠ "" →
        ∃ who, Client.ofCaller? authorization forwarded = some who ∧
          who.KnownBy (normalize text)) ∧
      ((∀ text ∈ authorization, normalize text = "") →
        ∀ text ∈ forwarded, Text.trim text ≠ "" →
          ∃ who, Client.ofCaller? authorization forwarded = some who ∧
            who.KnownBy (Text.trim text)) := by
  refine ⟨fun value token => ofHeader?_eq_some_iff, fun value token htoken => ?_,
    fun authorization forwarded => ⟨Client.ofCaller?_eq_none_iff, fun text htext hne => ?_,
      fun hempty text htext hne => ?_⟩⟩
  · obtain ⟨hnames, heq⟩ := ofHeader?_eq_some_iff.mp htoken
    have hne : normalize value ≠ "" := normalize_ne_empty hnames
    rw [heq]
    exact ⟨hne, trim_normalize value, fun _ => Client.ofCaller?_of_authorization rfl hne⟩
  · refine ⟨_, ?_, Client.knownBy_bearer _⟩
    rw [Client.ofCaller?, Client.ofCaller?_of_authorization htext hne, Option.map_some]
  · refine ⟨_, ?_, Client.knownBy_bearer _⟩
    rw [Client.ofCaller?, Client.ofCaller?_of_forwarded hempty htext hne, Option.map_some]

/-- The scheme in mixed letters, and a bare scheme beside a forwarded token. -/
theorem Bearer.readers_agree_forwarded :
    ofCaller? (some " bEaReR  tok ") none = some "tok" ∧
      ∃ who, Client.ofCaller? (some "Bearer ") (some " tok ") = some who ∧ who.KnownBy "tok" := by
  have hclient := Bearer.readers_agree.2.2 (some "Bearer ") (some " tok ")
  have hempty : ∀ text ∈ some "Bearer ", normalize text = "" := by
    intro text htext
    rw [← Option.mem_some.mp htext]
    decide
  refine ⟨(Bearer.readers_agree.2.1 " bEaReR  tok " "tok" (by decide)).2.2 none, ?_⟩
  exact hclient.2.2 hempty " tok " rfl (by decide)

end CredentialBroker
