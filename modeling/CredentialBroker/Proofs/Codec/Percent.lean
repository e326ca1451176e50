import CredentialBroker.Codec.Percent
import CredentialBroker.Proofs.Text.Octets

namespace CredentialBroker.Percent

/-!
# What escaped texts stand for

Escaping a text does not change what it stands for, as long as the escaped octets are neither `%`
nor a digit: what it stands for is what its own escapes leave.

* `decode_encode` — an escaped text stands for what the text itself stands for;
* `length_decodeOctets_le` — replacing escapes makes nothing longer;
* `decodeOctets_eq_self` — a text without `%` stands for itself.
-/

variable {escaped : UInt8 → Bool}

/-! ### Replacing escapes -/

/-- Whether a hexadecimal digit comes first. -/
def startsWithDigit (bs : Bytes) : Bool := bs.head?.any fun b => (hexValue? b).isSome

/-- Whether two hexadecimal digits come first. -/
def startsWithDigits (bs : Bytes) : Bool := startsWithDigit bs && startsWithDigit bs.tail

theorem decodeOctets_cons_of_ne {b : UInt8} (h : b ≠ 0x25) (bs : Bytes) :
    decodeOctets (b :: bs) = b :: decodeOctets bs := by
  conv => lhs; unfold decodeOctets
  exact if_neg h

theorem decodeOctets_escape {x y : UInt8} {h l : Nat} (hx : hexValue? x = some h)
    (hy : hexValue? y = some l) (bs : Bytes) :
    decodeOctets (0x25 :: x :: y :: bs) = UInt8.ofNat (h * 16 + l) :: decodeOctets bs := by
  conv => lhs; unfold decodeOctets
  simp only [if_true, hx, hy]

/-- A `%` without two digits behind it stays. -/
theorem decodeOctets_percent {bs : Bytes} (h : startsWithDigits bs = false) :
    decodeOctets (0x25 :: bs) = 0x25 :: decodeOctets bs := by
  conv => lhs; unfold decodeOctets
  rw [if_pos rfl]
  match bs with
  | [] => rfl
  | [x] =>
    by_cases hx : x = 0x25
    · subst hx
      rfl
    · rw [decodeOctets_cons_of_ne hx]
      rfl
  | x :: y :: rest =>
    dsimp only
    split
    · next hx hy =>
      have hdigits : startsWithDigits (x :: y :: rest) =
          ((hexValue? x).isSome && (hexValue? y).isSome) := rfl
      rw [hdigits, hx, hy] at h
      cases h
    · rfl

/-- Octets without `%` stand for themselves. -/
theorem decodeOctets_eq_self {bs : Bytes} (h : 0x25 ∉ bs) : decodeOctets bs = bs := by
  induction bs with
  | nil => rfl
  | cons b rest ih =>
    rw [List.mem_cons, not_or] at h
    rw [decodeOctets_cons_of_ne (Ne.symm h.1), ih h.2]

theorem length_decodeOctets_le (bs : Bytes) : (decodeOctets bs).length ≤ bs.length := by
  fun_induction decodeOctets bs <;> grind

/-- An octet that begins no escape stays. -/
theorem decodeOctets_cons {b : UInt8} {rest : Bytes}
    (h : b ≠ 0x25 ∨ startsWithDigits rest = false) :
    decodeOctets (b :: rest) = b :: decodeOctets rest := by
  by_cases hb : b = 0x25
  · subst hb
    exact decodeOctets_percent (h.resolve_left fun hne => hne rfl)
  · exact decodeOctets_cons_of_ne hb rest

theorem stays_or_escape (b : UInt8) (rest : Bytes) :
    (b ≠ 0x25 ∨ startsWithDigits rest = false) ∨
      ∃ x y rest' high low, b = 0x25 ∧ rest = x :: y :: rest' ∧ hexValue? x = some high ∧
        hexValue? y = some low := by
  by_cases hb : b = 0x25
  · subst hb
    cases hdigits : startsWithDigits rest with
    | false => exact .inl (.inr rfl)
    | true =>
      rw [startsWithDigits, Bool.and_eq_true] at hdigits
      match rest, hdigits with
      | [_], hdigits => exact absurd hdigits.2 Bool.false_ne_true
      | x :: y :: rest', hdigits =>
        obtain ⟨high, hx⟩ := Option.isSome_iff_exists.mp hdigits.1
        obtain ⟨low, hy⟩ := Option.isSome_iff_exists.mp hdigits.2
        exact .inr ⟨x, y, rest', high, low, rfl, rfl, hx, hy⟩
  · exact .inl (.inl hb)

/-- Octets stand for no fewer only when there are no escapes among them. -/
theorem decodeOctets_eq_of_length_le {bs : Bytes} (h : bs.length ≤ (decodeOctets bs).length) :
    decodeOctets bs = bs := by
  induction bs with
  | nil => rfl
  | cons b rest ih =>
    obtain hstays | ⟨x, y, rest', high, low, rfl, rfl, hx, hy⟩ := stays_or_escape b rest
    · rw [decodeOctets_cons hstays, List.length_cons, List.length_cons] at h
      rw [decodeOctets_cons hstays, ih (Nat.le_of_succ_le_succ h)]
    · have hshort := length_decodeOctets_le rest'
      rw [decodeOctets_escape hx hy] at h
      simp only [List.length_cons] at h
      omega

/-- Something stands for something. -/
theorem decodeOctets_ne_nil {bs : Bytes} (h : bs ≠ []) : decodeOctets bs ≠ [] := by
  fun_cases decodeOctets bs with
  | case1 => exact absurd rfl h
  | _ => exact List.cons_ne_nil _ _

/-! ### Texts with escapes -/

/-- A set whose octets can be told from escapes: it holds what is not ASCII, but neither `%` nor a
digit. -/
structure IsLegible (escaped : UInt8 → Bool) : Prop where
  /-- Octets outside the set are ASCII. -/
  ascii : ∀ b, escaped b = false → b.toNat < 0x80
  /-- A `%` stays as it is. -/
  percent : escaped 0x25 = false
  /-- A digit stays as it is. -/
  digit : ∀ b, (hexValue? b).isSome → escaped b = false

theorem forall_octet {p : UInt8 → Prop} (h : ∀ n < 256, p (UInt8.ofNat n)) (b : UInt8) : p b := by
  have hb := h b.toNat b.toNat_lt
  rwa [UInt8.ofNat_toNat] at hb

theorem pathSet_isLegible : IsLegible pathSet where
  ascii := forall_octet (by decide +kernel)
  percent := by decide
  digit := forall_octet (by decide +kernel)

theorem hexChar_ascii : ∀ n < 16, (hexChar n).toNat < 0x80 := by decide

theorem hexValue?_hexChar : ∀ n < 16, hexValue? (UInt8.ofNat (hexChar n).toNat) = some n := by
  decide

theorem toNat_ofNat_ascii : ∀ n < 0x80, (Char.ofNat n).toNat = n := by decide

/-- The octets of a text in which the octets of a set are escaped. -/
def escapedOctets (escaped : UInt8 → Bool) (bs : Bytes) : Bytes :=
  Text.octetsOf (encodeOctets escaped bs)

/-- An octet of the set is written as an escape that stands for it. -/
theorem escapedOctets_cons_of_escaped {b : UInt8} (h : escaped b = true) (bs : Bytes) :
    ∃ x y, escapedOctets escaped (b :: bs) = 0x25 :: x :: y :: escapedOctets escaped bs ∧
      hexValue? x = some (b.toNat / 16) ∧ hexValue? y = some (b.toNat % 16) := by
  have hlt : b.toNat < 256 := b.toNat_lt
  have hhigh : b.toNat / 16 < 16 := by omega
  have hlow : b.toNat % 16 < 16 := by omega
  have hpercent : ('%').toNat < 0x80 := by decide
  refine ⟨_, _, ?_, hexValue?_hexChar _ hhigh, hexValue?_hexChar _ hlow⟩
  rw [escapedOctets, encodeOctets, List.flatMap_cons, if_pos h, escape, List.cons_append,
    List.cons_append, List.cons_append, List.nil_append, Text.octetsOf_cons, Text.octetsOf_cons,
    Text.octetsOf_cons, Text.encode_ascii hpercent, Text.encode_ascii (hexChar_ascii _ hhigh),
    Text.encode_ascii (hexChar_ascii _ hlow)]
  rfl

theorem escapedOctets_cons_of_kept (hset : IsLegible escaped) {b : UInt8} (h : escaped b = false)
    (bs : Bytes) : escapedOctets escaped (b :: bs) = b :: escapedOctets escaped bs := by
  have hascii : b.toNat < 0x80 := hset.ascii b h
  have hchar : (Char.ofNat b.toNat).toNat = b.toNat := toNat_ofNat_ascii _ hascii
  have hkept : ¬ escaped b = true := by rw [h]; decide
  rw [escapedOctets, encodeOctets, List.flatMap_cons, if_neg hkept, List.singleton_append,
    Text.octetsOf_cons, Text.encode_ascii (by rw [hchar]; exact hascii), hchar,
    UInt8.ofNat_toNat]
  rfl

/-- An escape begins with no digit, and an octet that is escaped is none. -/
theorem startsWithDigit_escapedOctets (hset : IsLegible escaped) (bs : Bytes) :
    startsWithDigit (escapedOctets escaped bs) = startsWithDigit bs := by
  cases bs with
  | nil => rfl
  | cons b rest =>
    cases h : escaped b with
    | true =>
      obtain ⟨x, y, hescape, _⟩ := escapedOctets_cons_of_escaped h rest
      have hb : (hexValue? b).isSome = false := Bool.eq_false_iff.mpr fun hdigit =>
        Bool.eq_false_iff.mp (hset.digit b hdigit) h
      rw [hescape]
      exact hb.symm
    | false =>
      rw [escapedOctets_cons_of_kept hset h]
      rfl

theorem startsWithDigits_escapedOctets (hset : IsLegible escaped) (bs : Bytes) :
    startsWithDigits (escapedOctets escaped bs) = startsWithDigits bs := by
  cases bs with
  | nil => rfl
  | cons b rest =>
    have hfirst := startsWithDigit_escapedOctets hset (b :: rest)
    cases hb : startsWithDigit (b :: rest) with
    | true =>
      rw [startsWithDigits, startsWithDigits, hfirst, escapedOctets_cons_of_kept hset
        (hset.digit b hb), List.tail_cons, List.tail_cons, startsWithDigit_escapedOctets hset]
    | false => rw [startsWithDigits, startsWithDigits, hfirst, hb, Bool.false_and, Bool.false_and]

/-- **Escapes in between.**  A text with escapes stands for what the text without them stands
for. -/
theorem decodeOctets_escapedOctets (hset : IsLegible escaped) (bs : Bytes) :
    decodeOctets (escapedOctets escaped bs) = decodeOctets bs := by
  match bs with
  | [] => rfl
  | b :: rest =>
    cases h : escaped b with
    | true =>
      obtain ⟨x, y, hescape, hx, hy⟩ := escapedOctets_cons_of_escaped h rest
      have hb : b ≠ 0x25 := by
        rintro rfl
        rw [hset.percent] at h
        cases h
      have hvalue : b.toNat / 16 * 16 + b.toNat % 16 = b.toNat := by omega
      rw [hescape, decodeOctets_escape hx hy, hvalue, UInt8.ofNat_toNat,
        decodeOctets_cons_of_ne hb, decodeOctets_escapedOctets hset rest]
    | false =>
      rw [escapedOctets_cons_of_kept hset h]
      obtain hstays | ⟨x, y, rest', high, low, rfl, rfl, hx, hy⟩ := stays_or_escape b rest
      · have hstays' : b ≠ 0x25 ∨ startsWithDigits (escapedOctets escaped rest) = false := by
          rwa [startsWithDigits_escapedOctets hset]
        rw [decodeOctets_cons hstays, decodeOctets_cons hstays',
          decodeOctets_escapedOctets hset rest]
      · rw [escapedOctets_cons_of_kept hset (hset.digit x (Option.isSome_of_eq_some hx)),
          escapedOctets_cons_of_kept hset (hset.digit y (Option.isSome_of_eq_some hy)),
          decodeOctets_escape hx hy, decodeOctets_escape hx hy,
          decodeOctets_escapedOctets hset rest']
termination_by bs.length

theorem decode_encode (hset : IsLegible escaped) (s : String) :
    decode (encode escaped s) = decode s := by
  rw [decode, encode, ← Text.octetsOf_toList, String.toList_ofList]
  exact decodeOctets_escapedOctets hset (Text.utf8 s)

end CredentialBroker.Percent
