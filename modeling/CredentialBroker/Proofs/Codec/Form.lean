import CredentialBroker.Codec.Form
import CredentialBroker.Proofs.Codec.Percent

namespace CredentialBroker.Form

/-!
# What forms stand for

Reading a form gives back the pairs it was written from, whatever characters they hold: what joins
the pairs and what joins their parts is written as an escape everywhere else.

* `decode_encode` — the pairs of a written form;
* `decodeOctets_append` — a form of two parts holds the pairs of both.
-/

variable {b : UInt8}

/-! ### Octets -/

/-- How an octet of a name or value is written: as a plus, as itself, or as an escape. -/
theorem octetsOf_encodeOctet (b : UInt8) :
    (b = 0x20 ∧ Text.octetsOf (encodeOctet b) = [0x2B]) ∨
      (plain b = true ∧ Text.octetsOf (encodeOctet b) = [b]) ∨
      ∃ x y, Text.octetsOf (encodeOctet b) = [0x25, x, y] ∧
        Percent.hexValue? x = some (b.toNat / 16) ∧ Percent.hexValue? y = some (b.toNat % 16) := by
  unfold encodeOctet
  split
  · next hblank => exact .inl ⟨hblank, rfl⟩
  · split
    · next hplain =>
      refine .inr (.inl ⟨hplain, ?_⟩)
      have hascii : ∀ b, plain b = true → b.toNat < 0x80 :=
        Percent.forall_octet (by decide +kernel)
      have hchar : (Char.ofNat b.toNat).toNat = b.toNat :=
        Percent.toNat_ofNat_ascii _ (hascii b hplain)
      rw [Text.octetsOf_cons, Text.encode_ascii (by rw [hchar]; exact hascii b hplain), hchar,
        UInt8.ofNat_toNat]
      rfl
    · obtain ⟨x, y, hwritten, hx, hy⟩ :=
        @Percent.escapedOctets_cons_of_escaped (fun _ => true) b rfl []
      refine .inr (.inr ⟨x, y, ?_, hx, hy⟩)
      simpa [Percent.escapedOctets, Percent.encodeOctets] using hwritten

/-- What is read for an octet before escapes are replaced. -/
def unplus (b : UInt8) : UInt8 := if b = 0x2B then 0x20 else b

theorem unplus_of_ne (h : b ≠ 0x2B) : unplus b = b := if_neg h

/-- The octets that join pairs and the parts of pairs. -/
def IsJoint (b : UInt8) : Prop := b = 0x26 ∨ b = 0x3D

instance : DecidablePred IsJoint := fun b => inferInstanceAs (Decidable (b = 0x26 ∨ b = 0x3D))

/-- An octet that stands for itself neither joins nor means something else. -/
theorem ne_of_plain : ∀ b, plain b = true → b ≠ 0x2B ∧ b ≠ 0x25 ∧ ¬ IsJoint b :=
  Percent.forall_octet (by decide +kernel)

theorem ne_of_digit : ∀ b, (Percent.hexValue? b).isSome → b ≠ 0x2B ∧ ¬ IsJoint b :=
  Percent.forall_octet (by decide +kernel)

/-- A written octet is read as itself, whatever follows. -/
theorem read_encodeOctet (b : UInt8) (bs : Bytes) :
    Percent.decodeOctets ((Text.octetsOf (encodeOctet b) ++ bs).map unplus) =
      b :: Percent.decodeOctets (bs.map unplus) := by
  rw [List.map_append]
  obtain ⟨rfl, hwritten⟩ | ⟨hplain, hwritten⟩ | ⟨x, y, hwritten, hx, hy⟩ :=
    octetsOf_encodeOctet b
  · rw [hwritten]
    exact Percent.decodeOctets_cons_of_ne (by decide) _
  · obtain ⟨hplus, hpercent, _⟩ := ne_of_plain b hplain
    rw [hwritten, List.map_singleton, unplus_of_ne hplus, List.singleton_append,
      Percent.decodeOctets_cons_of_ne hpercent]
  · have hplus : ∀ {z n}, Percent.hexValue? z = some n → unplus z = z := by
      intro z n hz
      exact unplus_of_ne (ne_of_digit z (Option.isSome_of_eq_some hz)).1
    have hvalue : b.toNat / 16 * 16 + b.toNat % 16 = b.toNat := by omega
    rw [hwritten, List.map_cons, List.map_cons, List.map_singleton, hplus hx, hplus hy]
    show Percent.decodeOctets (0x25 :: x :: y :: bs.map unplus) = _
    rw [Percent.decodeOctets_escape hx hy, hvalue, UInt8.ofNat_toNat]

/-- What is written for an octet joins nothing. -/
theorem not_isJoint_of_mem_encodeOctet {c : UInt8}
    (h : c ∈ Text.octetsOf (encodeOctet b)) : ¬ IsJoint c := by
  obtain ⟨_, hwritten⟩ | ⟨hplain, hwritten⟩ | ⟨x, y, hwritten, hx, hy⟩ := octetsOf_encodeOctet b
  · rw [hwritten, List.mem_singleton] at h
    subst h
    decide
  · rw [hwritten, List.mem_singleton] at h
    exact h ▸ (ne_of_plain b hplain).2.2
  · rw [hwritten] at h
    simp only [List.mem_cons, List.not_mem_nil, or_false] at h
    obtain rfl | rfl | rfl := h
    · decide
    · exact (ne_of_digit c (Option.isSome_of_eq_some hx)).2
    · exact (ne_of_digit c (Option.isSome_of_eq_some hy)).2

/-! ### Names and values -/

theorem octetsOf_flatMap_encodeOctet (bs : Bytes) :
    Text.octetsOf (bs.flatMap encodeOctet) = bs.flatMap fun b => Text.octetsOf (encodeOctet b) :=
  List.flatMap_assoc

/-- A written name or value is read as itself. -/
theorem decodeText_encodeText (s : String) : decodeText (Text.octetsOf (encodeText s)) = s := by
  have hread : ∀ bs : Bytes,
      Percent.decodeOctets ((Text.octetsOf (bs.flatMap encodeOctet)).map unplus) = bs := by
    intro bs
    induction bs with
    | nil => rfl
    | cons b bs ih =>
      rw [List.flatMap_cons, Text.octetsOf_append, read_encodeOctet, ih]
  show Text.ofUtf8Lossy (Percent.decodeOctets ((Text.octetsOf (encodeText s)).map unplus)) = s
  rw [encodeText, hread, Text.ofUtf8Lossy_utf8]

theorem not_isJoint_of_mem_encodeText {s : String} (h : b ∈ Text.octetsOf (encodeText s)) :
    ¬ IsJoint b := by
  rw [encodeText, octetsOf_flatMap_encodeOctet] at h
  obtain ⟨_, _, hmem⟩ := List.mem_flatMap.mp h
  exact not_isJoint_of_mem_encodeOctet hmem

/-! ### Pairs -/

theorem octetsOf_encodePair (p : String × String) :
    Text.octetsOf (encodePair p) =
      Text.octetsOf (encodeText p.1) ++ 0x3D :: Text.octetsOf (encodeText p.2) := by
  rw [encodePair, Text.octetsOf_append, Text.octetsOf_cons]
  rfl

/-- The name ends where the value is joined to it, and nowhere before. -/
theorem decodePair_encodePair (p : String × String) :
    decodePair (Text.octetsOf (encodePair p)) = p := by
  have hname : ∀ b ∈ Text.octetsOf (encodeText p.1), decide (b ≠ 0x3D) = true := by
    intro b hb
    exact decide_eq_true fun heq => not_isJoint_of_mem_encodeText hb (.inr heq)
  rw [octetsOf_encodePair, decodePair, List.takeWhile_append_of_pos hname,
    List.dropWhile_append_of_pos hname]
  show (decodeText (Text.octetsOf (encodeText p.1) ++ []),
    decodeText (Text.octetsOf (encodeText p.2))) = p
  rw [List.append_nil, decodeText_encodeText, decodeText_encodeText]

/-- Nothing in a written pair ends it. -/
theorem ne_of_mem_encodePair {p : String × String} (h : b ∈ Text.octetsOf (encodePair p)) :
    b ≠ 0x26 := by
  rw [octetsOf_encodePair, List.mem_append, List.mem_cons] at h
  obtain hname | rfl | hvalue := h
  · exact fun heq => not_isJoint_of_mem_encodeText hname (.inl heq)
  · decide
  · exact fun heq => not_isJoint_of_mem_encodeText hvalue (.inl heq)

/-! ### Forms -/

theorem splitOctets_eq_splitOn (sep : UInt8) (bs : Bytes) :
    splitOctets sep bs = bs.splitOn sep := by
  induction bs with
  | nil => rfl
  | cons b bs ih =>
    show _ = (b :: bs).splitOnP (· == sep)
    rw [splitOctets, ih, List.splitOn, List.splitOnP_cons_eq_if_modifyHead]
    by_cases h : b = sep
    · rw [if_pos h, if_pos (beq_iff_eq.mpr h)]
    · rw [if_neg h, if_neg fun heq => h (beq_iff_eq.mp heq)]
      split
      · next hnil => exact absurd hnil (List.splitOnP_ne_nil _ _)
      · next p ps hcons => rw [hcons, List.modifyHead_cons]

/-- A form of two parts holds the pairs of both. -/
theorem decodeOctets_append (bs cs : Bytes) :
    decodeOctets (bs ++ 0x26 :: cs) = decodeOctets bs ++ decodeOctets cs := by
  unfold decodeOctets
  rw [splitOctets_eq_splitOn, splitOctets_eq_splitOn, splitOctets_eq_splitOn, List.splitOn,
    List.splitOnP_append_cons _ _ rfl, List.filter_append, List.map_append]
  rfl

theorem decodeOctets_encodePair (p : String × String) :
    decodeOctets (Text.octetsOf (encodePair p)) = [p] := by
  have hsplit : (Text.octetsOf (encodePair p)).splitOn 0x26 = [Text.octetsOf (encodePair p)] :=
    List.splitOnP_eq_singleton fun b hb => beq_eq_false_iff_ne.mpr (ne_of_mem_encodePair hb)
  have hne : (!(Text.octetsOf (encodePair p)).isEmpty) = true := by
    rw [octetsOf_encodePair, Bool.not_eq_true', List.isEmpty_eq_false_iff]
    exact List.append_ne_nil_of_right_ne_nil _ (List.cons_ne_nil _ _)
  have hkept : [Text.octetsOf (encodePair p)].filter (fun q => !q.isEmpty) =
      [Text.octetsOf (encodePair p)] := List.filter_cons_of_pos hne
  unfold decodeOctets
  rw [splitOctets_eq_splitOn, hsplit, hkept, List.map_singleton, decodePair_encodePair]

/-- A written form is read as the pairs it was written from. -/
theorem decodeOctets_encodePairs (ps : List (String × String)) :
    decodeOctets (Text.octetsOf (encodePairs ps)) = ps := by
  match ps with
  | [] => rfl
  | [p] => exact decodeOctets_encodePair p
  | p :: q :: ps =>
    have hjoin : Text.octetsOf (encodePairs (p :: q :: ps)) =
        Text.octetsOf (encodePair p) ++ 0x26 :: Text.octetsOf (encodePairs (q :: ps)) := by
      rw [encodePairs, Text.octetsOf_append, Text.octetsOf_cons]
      · rfl
      · exact fun h => List.cons_ne_nil _ _ h
    rw [hjoin, decodeOctets_append, decodeOctets_encodePair, decodeOctets_encodePairs (q :: ps),
      List.singleton_append]

theorem utf8_encode (ps : List (String × String)) :
    Text.utf8 (encode ps) = Text.octetsOf (encodePairs ps) :=
  Text.utf8_ofList (encodePairs ps)

@[simp] theorem decode_encode (ps : List (String × String)) : decode (encode ps) = ps := by
  rw [decode, utf8_encode, decodeOctets_encodePairs]

end CredentialBroker.Form
