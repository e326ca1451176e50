import CredentialBroker.OAuth.StateToken
import CredentialBroker.Proofs.Codec.Base64
import CredentialBroker.Proofs.Effect.Outcome
import CredentialBroker.Proofs.Json.RoundTrip

namespace CredentialBroker

/-!
# What state tokens say

A token says what was put into it and nothing else: of a token that was made for a payload, the
octets under its signature are those of the payload (`StateSigner.authentic_sign`), and they hold
that payload (`StateSigner.readPayload_octets`).

* `StateSigner.verify_eq_ok` — an accepted token has a signature, a payload, and the right age;
* `StateSigner.verify_sign` — a token that was made is accepted for five minutes, with its payload;
* `StateSigner.verify_ne_notConfigured` — one that is refused is refused for what it is.
-/

namespace StatePayload

variable {p : StatePayload}

/-- The time of the payload is a number of 64 bits with sign. -/
def InRange (p : StatePayload) : Prop :=
  -(Word.values 63 : Int) ≤ p.timestamp ∧ p.timestamp < Word.values 63

/-- The document of a payload is one that can be read back. -/
theorem fits_toJson (h : p.InRange) : Json.Fits 0 p.toJson := by
  have hbound : p.timestamp < Word.values 64 := by
    have hlt := h.2
    rw [Word.values_63] at hlt
    rw [Word.values_64]
    omega
  refine .obj (by decide) fun m hm => ?_
  simp only [List.mem_cons, List.not_mem_nil, or_false] at hm
  rcases hm with rfl | rfl | rfl | rfl
  · exact .str _
  · exact .str _
  · exact .str _
  · exact .int h.1 hbound

theorem ofJson?_toJson (h : p.InRange) : ofJson? p.toJson = some p := by
  have hfields : p.toJson.fields? fieldNames = some [some (.str p.provider), some (.str p.project),
      some (.str p.session), some (.int p.timestamp)] := rfl
  have htimestamp : Json.required Json.int64? (some (.int p.timestamp)) = some p.timestamp :=
    if_pos h.2
  unfold ofJson?
  rw [hfields]
  simp only [Option.bind_eq_bind, Option.bind_some, htimestamp]
  rfl

theorem octets_ne_nil (p : StatePayload) : p.octets ≠ [] := by
  -- The document of a payload begins with a brace.
  have hopen : ∃ cs, Json.compactChars p.toJson = '{' :: cs :=
    ⟨_, by rw [toJson, Json.compactChars]⟩
  obtain ⟨cs, hcs⟩ := hopen
  rw [octets, Json.compact, Text.utf8_ofList, hcs]
  exact List.cons_ne_nil _ _

end StatePayload

namespace StateSigner

variable {s : StateSigner} {p q : StatePayload} {octets signed : Bytes} {token : String} {now : Int}

/-! ### The payload -/

/-- The octets of a payload hold that payload. -/
theorem readPayload_octets (h : p.InRange) : readPayload p.octets = .ok p := by
  rw [readPayload, StatePayload.octets, Json.read?_compact (StatePayload.fits_toJson h),
    Option.bind_some, StatePayload.ofJson?_toJson h]

/-- A payload is accepted when it is not of the future and not too old. -/
theorem checkAge_eq_ok :
    checkAge p now = .ok q ↔ q = p ∧ 0 ≤ now - p.timestamp ∧ now - p.timestamp ≤ maxAge := by
  unfold checkAge
  dsimp only
  rw [Outcome.check_eq_ok, Outcome.check_eq_ok, Int.not_lt, Int.not_lt, Except.ok.injEq]
  constructor
  · rintro ⟨hpast, hfresh, rfl⟩
    exact ⟨rfl, hpast, hfresh⟩
  · rintro ⟨rfl, hpast, hfresh⟩
    exact ⟨hpast, hfresh, rfl⟩

/-! ### The parts -/

theorem dot_notMem_encode (bs : Bytes) : '.' ∉ (Base64.encode Base64.urlSafe bs).toList :=
  Base64.notMem_encode (by decide)

/-- A token is cut at its dot, as base64 has none. -/
theorem cut?_signOctets :
    Text.cut? '.' (s.signOctets octets) = some (Base64.encode Base64.urlSafe octets,
      Base64.encode Base64.urlSafe (s.code octets)) := by
  have hchars : (s.signOctets octets).toList = (Base64.encode Base64.urlSafe octets).toList ++
      '.' :: (Base64.encode Base64.urlSafe (s.code octets)).toList := by
    rw [signOctets, String.toList_append, String.toList_append, List.append_assoc]
    rfl
  have hcut : Text.cutChars '.' (s.signOctets octets).toList = some
      ((Base64.encode Base64.urlSafe octets).toList,
        (Base64.encode Base64.urlSafe (s.code octets)).toList) :=
    Text.cutChars_eq_some_iff.mpr ⟨dot_notMem_encode octets, hchars⟩
  rw [Text.cut?, hcut, Option.map_some, String.ofList_toList, String.ofList_toList]

/-- The parts of a token are those it was made of, and none of them is empty. -/
theorem parts_signOctets {payload signature : String} :
    parts (s.signOctets octets) = .ok (payload, signature) ↔
      payload = Base64.encode Base64.urlSafe octets ∧
        signature = Base64.encode Base64.urlSafe (s.code octets) ∧
        payload ≠ "" ∧ signature ≠ "" := by
  -- There is no second dot, so there are no more parts than two.
  have hdot : (Base64.encode Base64.urlSafe (s.code octets)).toList.contains '.' = false := by
    rw [← Bool.not_eq_true, List.contains_iff_mem]
    exact dot_notMem_encode _
  rw [parts, cut?_signOctets]
  simp only [hdot, Bool.false_eq_true, or_false, Outcome.check_eq_ok, not_or, Except.ok.injEq,
    Prod.mk.injEq]
  constructor
  · rintro ⟨⟨hpayload, hsignature⟩, rfl, rfl⟩
    exact ⟨rfl, rfl, hpayload, hsignature⟩
  · rintro ⟨rfl, rfl, hpayload, hsignature⟩
    exact ⟨⟨hpayload, hsignature⟩, rfl, rfl⟩

theorem decodePart_encode (name : String) (bs : Bytes) :
    decodePart name (Base64.encode Base64.urlSafe bs) = .ok bs := by
  rw [decodePart, Base64.decode?_encode Base64.urlSafe_isReadable]

/-- The octets that a token vouches for, from its parts. -/
theorem authentic_eq_ok :
    s.authentic token = .ok octets ↔ ∃ payload signature, parts token = .ok (payload, signature) ∧
      decodePart "payload" payload = .ok octets ∧
        decodePart "signature" signature = .ok (s.code octets) := by
  simp only [authentic, Outcome.bind_eq_ok, Prod.exists]
  constructor
  · rintro ⟨payload, signature, hparts, octets', hpayload, code, hsignature, h⟩
    split at h
    · next hcode =>
      cases h
      exact ⟨payload, signature, hparts, hpayload, hcode ▸ hsignature⟩
    · cases h
  · rintro ⟨payload, signature, hparts, hpayload, hsignature⟩
    exact ⟨payload, signature, hparts, octets, hpayload, _, hsignature, if_pos rfl⟩

/-- The octets under the signature of a token are those it was made for. -/
theorem authentic_signOctets (h : s.authentic (s.signOctets octets) = .ok signed) :
    signed = octets := by
  obtain ⟨payload, signature, hparts, hpayload, _⟩ := authentic_eq_ok.mp h
  obtain ⟨rfl, _⟩ := parts_signOctets.mp hparts
  rw [decodePart_encode] at hpayload
  exact (Except.ok.inj hpayload).symm

/-- A token that was made is vouched for by its signature. -/
theorem authentic_sign : s.authentic (s.sign p) = .ok p.octets :=
  authentic_eq_ok.mpr ⟨_, _, parts_signOctets.mpr ⟨rfl, rfl,
    Base64.encode_ne_empty p.octets_ne_nil, Base64.encode_ne_empty (s.code_ne_nil _)⟩,
    decodePart_encode _ _, decodePart_encode _ _⟩

/-! ### Tokens -/

theorem sign_ne_empty : s.sign p ≠ "" := by
  intro hempty
  -- The empty text has no parts, but a token is vouched for.
  have hsigned : s.authentic (s.sign p) = .ok p.octets := authentic_sign
  rw [hempty] at hsigned
  cases hsigned

/-- A token is accepted with what its signature vouches for, at the right age. -/
theorem verify_eq_ok :
    s.verify token now = .ok p ↔ ∃ octets, s.authentic token = .ok octets ∧
      readPayload octets = .ok p ∧ 0 ≤ now - p.timestamp ∧ now - p.timestamp ≤ maxAge := by
  simp only [verify, Outcome.bind_eq_ok, checkAge_eq_ok]
  constructor
  · rintro ⟨octets, hauthentic, payload, hpayload, rfl, hpast, hfresh⟩
    exact ⟨octets, hauthentic, hpayload, hpast, hfresh⟩
  · rintro ⟨octets, hauthentic, hpayload, hpast, hfresh⟩
    exact ⟨octets, hauthentic, p, hpayload, rfl, hpast, hfresh⟩

/-- **State tokens.**  For five minutes a token is accepted with the payload it was made for. -/
theorem verify_sign (h : p.InRange) :
    s.verify (s.sign p) now = .ok q ↔
      q = p ∧ 0 ≤ now - p.timestamp ∧ now - p.timestamp ≤ maxAge := by
  simp only [verify, authentic_sign, readPayload_octets h, Outcome.ok_bind, checkAge_eq_ok]

/-! ### Refusals -/

section Refusals

variable {e : StateError}

theorem parts_eq_error (h : parts token = .error e) : e = .malformed := by
  unfold parts at h
  split at h
  · cases h
    rfl
  · split at h
    · cases h
      rfl
    · cases h

theorem decodePart_eq_error {name text : String} (h : decodePart name text = .error e) :
    e = .encoding name := by
  unfold decodePart at h
  split at h
  · cases h
  · cases h
    rfl

theorem authentic_ne_notConfigured (h : s.authentic token = .error e) : e ≠ .notConfigured := by
  unfold authentic at h
  rcases Outcome.bind_eq_error.mp h with h | ⟨⟨payload, signature⟩, _, h⟩
  · rw [parts_eq_error h]
    nofun
  · rcases Outcome.bind_eq_error.mp h with h | ⟨octets, _, h⟩
    · rw [decodePart_eq_error h]
      nofun
    · rcases Outcome.bind_eq_error.mp h with h | ⟨code, _, h⟩
      · rw [decodePart_eq_error h]
        nofun
      · split at h
        · cases h
        · cases h
          nofun

/-- A token is refused for what it is, never for want of a signer. -/
theorem verify_ne_notConfigured (h : s.verify token now = .error e) : e ≠ .notConfigured := by
  unfold verify at h
  rcases Outcome.bind_eq_error.mp h with h | ⟨octets, _, h⟩
  · exact authentic_ne_notConfigured h
  · rcases Outcome.bind_eq_error.mp h with h | ⟨payload, _, h⟩
    · unfold readPayload at h
      split at h
      · cases h
      · cases h
        nofun
    · unfold checkAge at h
      dsimp only at h
      split at h
      · cases h
        nofun
      · split at h
        · cases h
          nofun
        · cases h

end Refusals

end StateSigner

end CredentialBroker
