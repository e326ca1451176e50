import CredentialBroker.Proofs.OAuth.StateToken

namespace CredentialBroker.StateSigner

/-!
# Which texts are accepted as state tokens

A token that was made is accepted, or refused for its age, and nothing else is accepted but what was
made, up to padding signs.

* `verify_sign_by_age` — a token that was made is good for five minutes, and what is said of it
  before and after;
* `authentic_eq_ok_iff` — the texts that a signature vouches for;
* `verify_accepts` — the texts that are accepted, and that none is one place away from another.
-/

open Base64

variable {s : StateSigner} {p q : StatePayload} {octets signed : Bytes} {token : String} {now : Int}

/-- **Round trip.**  A token that was made is accepted with its payload for three hundred seconds;
after that it is too old, by its age, and before it is of the future. -/
theorem verify_sign_by_age (h : p.InRange) :
    (s.verify (s.sign p) now = .ok p ↔ 0 ≤ now - p.timestamp ∧ now - p.timestamp ≤ 300) ∧
    (300 < now - p.timestamp →
      s.verify (s.sign p) now = .error (.expired (now - p.timestamp))) ∧
    (now - p.timestamp < 0 → s.verify (s.sign p) now = .error .futureTimestamp) := by
  have hverify : s.verify (s.sign p) now = checkAge p now := by
    rw [verify, authentic_sign, Outcome.ok_bind, readPayload_octets h, Outcome.ok_bind]
  refine ⟨?_, fun hold => ?_, fun hfuture => ?_⟩
  · rw [hverify, checkAge_eq_ok]
    exact and_iff_right rfl
  · have hpast : ¬ now - p.timestamp < 0 := by omega
    rw [hverify]
    exact (if_neg hpast).trans (if_pos hold)
  · rw [hverify]
    exact if_pos hfuture

/-- A payload of quotes, control characters, dots and other scripts, signed long before 1970. -/
theorem verify_sign_by_age_ancient :
    let s := StateSigner.ofSecret "a key\n"
    let p : StatePayload := ⟨"goo\"gle\x00", "..a.b\\", "naïve\n会議 🔑", -9223372036854775807⟩
    p.InRange ∧ s.verify (s.sign p) (-9223372036854775507) = .ok p ∧
      s.verify (s.sign p) (-9223372036854775506) = .error (.expired 301) ∧
      s.verify (s.sign p) (-9223372036854775808) = .error .futureTimestamp := by
  intro s p
  have hrange : p.InRange := ⟨by decide, by decide⟩
  exact ⟨hrange, (verify_sign_by_age hrange).1.mpr (by decide),
    (verify_sign_by_age hrange).2.1 (by decide), (verify_sign_by_age hrange).2.2 (by decide)⟩

/-! ### The texts that a signature vouches for -/

/-- The token of octets with padding signs behind its payload and behind its signature. -/
def padToken (s : StateSigner) (octets : Bytes) (pads signaturePads : Nat) : String :=
  padded urlSafe octets pads ++ "." ++ padded urlSafe (s.code octets) signaturePads

theorem dot_notMem_padded (bs : Bytes) (pads : Nat) :
    '.' ∉ (padded urlSafe bs pads).toList := by
  rw [padded, String.toList_append, List.mem_append, not_or, String.toList_ofList]
  refine ⟨dot_notMem_encode bs, fun h => ?_⟩
  exact absurd (List.eq_of_mem_replicate h) (by decide)

/-- A token has two parts when it is them with the only dot between them. -/
theorem parts_eq_ok {payload signature : String} :
    parts token = .ok (payload, signature) ↔ token = payload ++ "." ++ signature ∧
      '.' ∉ payload.toList ∧ '.' ∉ signature.toList ∧ payload ≠ "" ∧ signature ≠ "" := by
  have hdot : (".").toList = ['.'] := rfl
  have hcut : Text.cut? '.' token = some (payload, signature) ↔
      '.' ∉ payload.toList ∧ token = payload ++ "." ++ signature := by
    rw [Text.cut?, Option.map_eq_some_iff, ← String.toList_inj]
    simp only [String.toList_append, hdot, List.append_assoc, List.singleton_append, Prod.exists,
      Text.cutChars_eq_some_iff, Prod.mk.injEq]
    constructor
    · rintro ⟨a, b, ⟨ha, htoken⟩, rfl, rfl⟩
      rw [String.toList_ofList, String.toList_ofList]
      exact ⟨ha, htoken⟩
    · rintro ⟨hpayload, htoken⟩
      exact ⟨payload.toList, signature.toList, ⟨hpayload, htoken⟩, String.ofList_toList,
        String.ofList_toList⟩
  unfold parts
  constructor
  · intro h
    split at h
    · cases h
    · next a b hab =>
      obtain ⟨hclean, h⟩ := Outcome.check_eq_ok.mp h
      cases h
      rw [not_or, not_or, List.contains_iff_mem] at hclean
      obtain ⟨hpayload, htoken⟩ := hcut.mp hab
      exact ⟨htoken, hpayload, hclean.2.2, hclean.1, hclean.2.1⟩
  · rintro ⟨htoken, hpayload, hsignature, hempty, hempty'⟩
    rw [hcut.mpr ⟨hpayload, htoken⟩]
    refine Outcome.check_eq_ok.mpr ⟨?_, rfl⟩
    rw [not_or, not_or, List.contains_iff_mem]
    exact ⟨hempty, hempty', hsignature⟩

/-- A part of a token is read as some octets when it is what is written for them, with padding signs
up to the canonical number. -/
theorem decodePart_eq_ok {name text : String} :
    decodePart name text = .ok octets ↔
      ∃ pads ≤ canonicalPads urlSafe octets, text = padded urlSafe octets pads := by
  rw [← decode?_eq_some_iff urlSafe_isReadable, decodePart]
  cases decode? urlSafe .upToCanonical text with
  | none =>
    constructor
    · intro h
      cases h
    · intro h
      cases h
  | some bs => rw [Except.ok.injEq, Option.some.injEq]

theorem padded_ne_empty (h : octets ≠ []) (pads : Nat) : padded urlSafe octets pads ≠ "" := by
  rw [padded, ne_eq, String.append_eq_empty_iff, not_and]
  exact fun hempty => absurd hempty (encode_ne_empty h)

/-- A signature vouches for octets exactly in their own token, up to padding signs. -/
theorem authentic_eq_ok_iff :
    s.authentic token = .ok octets ↔ octets ≠ [] ∧ ∃ pads signaturePads,
      pads ≤ canonicalPads urlSafe octets ∧
        signaturePads ≤ canonicalPads urlSafe (s.code octets) ∧
          token = s.padToken octets pads signaturePads := by
  rw [authentic_eq_ok]
  constructor
  · rintro ⟨payload, signature, hparts, hpayload, hsignature⟩
    obtain ⟨pads, hpads, rfl⟩ := decodePart_eq_ok.mp hpayload
    obtain ⟨signaturePads, hsignaturePads, rfl⟩ := decodePart_eq_ok.mp hsignature
    obtain ⟨htoken, _, _, hempty, _⟩ := parts_eq_ok.mp hparts
    refine ⟨?_, pads, signaturePads, hpads, hsignaturePads, htoken⟩
    -- No padding sign may stand behind nothing, so nothing would be an empty part.
    rintro rfl
    obtain rfl : pads = 0 := Nat.le_zero.mp hpads
    exact hempty rfl
  · rintro ⟨hne, pads, signaturePads, hpads, hsignaturePads, rfl⟩
    refine ⟨_, _, parts_eq_ok.mpr ⟨rfl, dot_notMem_padded _ _, dot_notMem_padded _ _,
      padded_ne_empty hne _, padded_ne_empty (s.code_ne_nil octets) _⟩, ?_, ?_⟩
    · exact decodePart_eq_ok.mpr ⟨pads, hpads, rfl⟩
    · exact decodePart_eq_ok.mpr ⟨signaturePads, hsignaturePads, rfl⟩

/-! ### Accepted texts -/

theorem readPayload_nil : readPayload [] ≠ .ok p := nofun

/-- The signature of thirty-two octets takes at most one padding sign. -/
theorem canonicalPads_code (hcode : ∀ octets, (s.code octets).length = 32) (octets : Bytes) :
    canonicalPads urlSafe (s.code octets) = 1 := by
  rw [canonicalPads, length_encodeChars, hcode]
  rfl

/-- The characters of a token that are not padding signs. -/
def unpadded (token : String) : List Char := token.toList.filter (· ≠ '=')

theorem unpadded_padded (bs : Bytes) (pads : Nat) :
    unpadded (padded urlSafe bs pads) = encodeChars urlSafe bs := by
  have hsymbols : (encodeChars urlSafe bs).filter (· ≠ '=') = encodeChars urlSafe bs :=
    List.filter_eq_self.mpr fun c hc => by simpa using ne_of_mem_encodeChars urlSafe_isReadable hc
  have hpads : (List.replicate pads '=').filter (· ≠ '=') = [] :=
    List.filter_eq_nil_iff.mpr fun c hc => by simpa using List.eq_of_mem_replicate hc
  rw [unpadded, toList_padded, List.filter_append, hsymbols, hpads, List.append_nil]

/-- Padding signs apart, there is one token for octets. -/
theorem unpadded_padToken (pads signaturePads : Nat) :
    unpadded (s.padToken octets pads signaturePads) =
      encodeChars urlSafe octets ++ '.' :: encodeChars urlSafe (s.code octets) := by
  have hdot : (".").toList.filter (· ≠ '=') = ['.'] := rfl
  rw [padToken, unpadded, String.toList_append, String.toList_append, List.filter_append,
    List.filter_append, hdot, List.append_assoc, List.singleton_append]
  exact congrArg₂ (fun a b => a ++ '.' :: b) (unpadded_padded octets pads)
    (unpadded_padded (s.code octets) signaturePads)

/-- One character, other than a padding sign, was changed, inserted or deleted. -/
inductive Altered : List Char → List Char → Prop where
  /-- Another character stands in the place of one. -/
  | changed (front back : List Char) {c d : Char} (hc : c ≠ '=') (hd : d ≠ c) :
    Altered (front ++ c :: back) (front ++ d :: back)
  /-- There is a character more. -/
  | inserted (front back : List Char) {d : Char} (hd : d ≠ '=') :
    Altered (front ++ back) (front ++ d :: back)
  /-- There is a character less. -/
  | deleted (front back : List Char) {c : Char} (hc : c ≠ '=') :
    Altered (front ++ c :: back) (front ++ back)

/-- Padding signs do not make up for an alteration. -/
theorem Altered.filter_ne {cs ds : List Char} (h : Altered cs ds) :
    cs.filter (· ≠ '=') ≠ ds.filter (· ≠ '=') := by
  intro heq
  cases h with
  | changed front back hc hd =>
    rw [List.filter_append, List.filter_append, List.append_cancel_left_eq,
      List.filter_cons_of_pos (by simpa using hc), List.filter_cons] at heq
    split at heq
    · exact hd (List.cons.inj heq).1.symm
    · exact List.cons_ne_self _ _ heq
  | inserted front back hd =>
    rw [List.filter_append, List.filter_append, List.append_cancel_left_eq,
      List.filter_cons_of_pos (by simpa using hd)] at heq
    exact List.cons_ne_self _ _ heq.symm
  | deleted front back hc =>
    rw [List.filter_append, List.filter_append, List.append_cancel_left_eq,
      List.filter_cons_of_pos (by simpa using hc)] at heq
    exact List.cons_ne_self _ _ heq

/-- A token for octets is vouched for under its own signature only. -/
theorem signature_of_authentic {signature : String}
    (h : s.authentic (encode urlSafe octets ++ "." ++ signature) = .ok signed) :
    unpadded signature = encodeChars urlSafe (s.code octets) := by
  obtain ⟨payload, signature', hparts, hpayload, hsignature⟩ := authentic_eq_ok.mp h
  have hcut := parts_eq_ok.mp hparts
  -- No dot comes before the first one, so the text is cut where it was put together.
  have hfirst : Text.cutChars '.' (encode urlSafe octets ++ "." ++ signature).toList =
      some ((encode urlSafe octets).toList, signature.toList) := by
    rw [Text.cutChars_eq_some_iff, String.toList_append, String.toList_append, List.append_assoc]
    exact ⟨dot_notMem_encode octets, rfl⟩
  have hsame : Text.cutChars '.' (encode urlSafe octets ++ "." ++ signature).toList =
      some (payload.toList, signature'.toList) := by
    rw [hcut.1, Text.cutChars_eq_some_iff, String.toList_append, String.toList_append,
      List.append_assoc]
    exact ⟨hcut.2.1, rfl⟩
  rw [hfirst, Option.some.injEq, Prod.mk.injEq, String.toList_inj, String.toList_inj] at hsame
  obtain ⟨rfl, rfl⟩ := hsame
  rw [decodePart_encode] at hpayload
  cases hpayload
  obtain ⟨pads, _, rfl⟩ := decodePart_eq_ok.mp hsignature
  exact unpadded_padded _ _

/-- **Acceptance.**  A text is accepted exactly when it is the token of octets that hold a payload
of the right age, up to padding signs.  So padding signs apart there is one accepted token for
octets, and a token that was made is refused when a character of its signature is changed, inserted
or deleted. -/
theorem verify_accepts (hcode : ∀ octets, (s.code octets).length = 32) :
    (∀ token now p, s.verify token now = .ok p ↔ ∃ octets pads signaturePads,
      pads ≤ canonicalPads urlSafe octets ∧ signaturePads ≤ 1 ∧
        token = s.padToken octets pads signaturePads ∧ readPayload octets = .ok p ∧
          0 ≤ now - p.timestamp ∧ now - p.timestamp ≤ 300) ∧
    (∀ token token' now now' p p', s.verify token now = .ok p → s.verify token' now' = .ok p' →
      s.authentic token = s.authentic token' → unpadded token = unpadded token') ∧
    (∀ octets signature, Altered (encode urlSafe (s.code octets)).toList signature.toList →
      ∀ now p, s.verify (encode urlSafe octets ++ "." ++ signature) now ≠ .ok p) := by
  refine ⟨fun token now p => ?_, fun token token' now now' p p' h h' hoctets => ?_,
    fun octets signature haltered now p h => ?_⟩
  · rw [verify_eq_ok]
    constructor
    · rintro ⟨octets, hauthentic, hpayload, hage⟩
      obtain ⟨_, pads, signaturePads, hpads, hsignaturePads, htoken⟩ :=
        authentic_eq_ok_iff.mp hauthentic
      rw [canonicalPads_code hcode] at hsignaturePads
      exact ⟨octets, pads, signaturePads, hpads, hsignaturePads, htoken, hpayload, hage⟩
    · rintro ⟨octets, pads, signaturePads, hpads, hsignaturePads, htoken, hpayload, hage⟩
      have hne : octets ≠ [] := by
        rintro rfl
        exact readPayload_nil hpayload
      rw [← canonicalPads_code hcode octets] at hsignaturePads
      exact ⟨octets, authentic_eq_ok_iff.mpr ⟨hne, pads, signaturePads, hpads, hsignaturePads,
        htoken⟩, hpayload, hage⟩
  · obtain ⟨octets, hauthentic, _⟩ := verify_eq_ok.mp h
    obtain ⟨_, pads, signaturePads, _, _, rfl⟩ := authentic_eq_ok_iff.mp hauthentic
    obtain ⟨_, pads', signaturePads', _, _, rfl⟩ :=
      authentic_eq_ok_iff.mp (hoctets.symm.trans hauthentic)
    rw [unpadded_padToken, unpadded_padToken]
  · obtain ⟨signed, hauthentic, _⟩ := verify_eq_ok.mp h
    have hsignature := signature_of_authentic hauthentic
    have hencode : unpadded (encode urlSafe (s.code octets)) =
        encodeChars urlSafe (s.code octets) := by
      have hpadded := unpadded_padded (s.code octets) 0
      rwa [padded, List.replicate_zero, String.ofList_nil, String.append_empty] at hpadded
    exact haltered.filter_ne (hencode.trans hsignature.symm)

/-- A token with both of its paddings is accepted at the end of its time, the one without them is
the same text but for them, and a character put before the signature spoils it. -/
theorem verify_accepts_padded :
    let s := StateSigner.ofSecret "state secret"
    let p : StatePayload := ⟨"google", "team", "fox", 1700000000⟩
    let token := s.padToken p.octets 2 1
    s.verify token 1700000300 = .ok p ∧ unpadded token = unpadded (s.sign p) ∧
      ∀ now q, s.verify (encode urlSafe p.octets ++ "." ++
        ("A" ++ encode urlSafe (s.code p.octets))) now ≠ .ok q := by
  intro s p token
  have hcode : ∀ octets, (s.code octets).length = 32 := fun octets => Hmac.length_sign _ _
  have hrange : p.InRange := ⟨by decide, by decide⟩
  have hpads : 2 ≤ canonicalPads urlSafe p.octets := by decide +kernel
  have hpayload : readPayload p.octets = .ok p := readPayload_octets hrange
  have haccepted : s.verify token 1700000300 = .ok p :=
    ((verify_accepts hcode).1 _ _ _).mpr ⟨p.octets, 2, 1, hpads, le_rfl, rfl, hpayload,
      by decide, by decide⟩
  have hmade : s.verify (s.sign p) 1700000000 = .ok p :=
    verify_sign hrange |>.mpr ⟨rfl, by decide, by decide⟩
  have hauthentic : s.authentic token = .ok p.octets :=
    authentic_eq_ok_iff.mpr ⟨p.octets_ne_nil, 2, 1, hpads,
      by rw [canonicalPads_code hcode], rfl⟩
  refine ⟨haccepted, (verify_accepts hcode).2.1 _ _ _ _ _ _ haccepted hmade
    (hauthentic.trans authentic_sign.symm), fun now q => ?_⟩
  have haltered : ∀ cs : List Char, Altered cs ("A".toList ++ cs) := fun cs =>
    .inserted [] cs (by decide)
  refine (verify_accepts hcode).2.2 _ _ ?_ now q
  rw [String.toList_append]
  exact haltered _

end CredentialBroker.StateSigner
