import CredentialBroker.Codec.Base64
import Mathlib.Data.List.TakeWhile

namespace CredentialBroker.Base64

/-!
# What is written in base64 is read back

The text of a sequence of octets is the list of their `values`, six bits each, symbol by symbol.
Both steps can be undone: a symbol names its value (`Alphabet.IsReadable`), and the values give the
octets (`decodeValues_values`).

* `decode?_encode`, `decode?_encodePadded` — reading what was written gives the octets back, without
  padding and with it;
* `notMem_encode` — no other character than a symbol is written;
* `decode?_eq_some_iff` — nothing else is read, padding signs up to the canonical number apart.
-/

/-- Every value below 64 has a symbol that is read as it and that is no padding sign. -/
structure Alphabet.IsReadable (al : Alphabet) : Prop where
  /-- The symbol of a value is read as that value. -/
  value?_symbol : ∀ n < 64, al.value? (al.symbol n) = some n
  /-- No symbol is the padding sign. -/
  symbol_ne : ∀ n < 64, al.symbol n ≠ '='

theorem urlSafe_isReadable : urlSafe.IsReadable := ⟨by decide, by decide⟩

theorem standard_isReadable : standard.IsReadable := ⟨by decide, by decide⟩

/-- The six bits of each symbol that is written for a sequence of octets. -/
def values : Bytes → List Nat
  | [] => []
  | [a] => [a.toNat / 4, a.toNat % 4 * 16]
  | [a, b] => [a.toNat / 4, a.toNat % 4 * 16 + b.toNat / 16, b.toNat % 16 * 4]
  | a :: b :: c :: rest =>
    a.toNat / 4 :: (a.toNat % 4 * 16 + b.toNat / 16) :: (b.toNat % 16 * 4 + c.toNat / 64) ::
      c.toNat % 64 :: values rest

variable {al : Alphabet} {bs : Bytes}

theorem encodeChars_eq_map (al : Alphabet) (bs : Bytes) :
    encodeChars al bs = (values bs).map al.symbol := by
  fun_induction values bs with
  | case1 => rfl
  | case2 a => rfl
  | case3 a b => rfl
  | case4 a b c rest ih => simp only [encodeChars, List.map_cons, ih]

/-- A symbol stands for six bits. -/
theorem values_lt {n : Nat} (h : n ∈ values bs) : n < 64 := by
  fun_induction values bs with
  | case1 => cases h
  | case2 a =>
    have ha := a.toNat_lt
    simp only [List.mem_cons, List.not_mem_nil, or_false] at h
    omega
  | case3 a b =>
    have ha := a.toNat_lt
    have hb := b.toNat_lt
    simp only [List.mem_cons, List.not_mem_nil, or_false] at h
    omega
  | case4 a b c rest ih =>
    have ha := a.toNat_lt
    have hb := b.toNat_lt
    have hc := c.toNat_lt
    simp only [List.mem_cons] at h
    rcases h with h | h | h | h | h
    · omega
    · omega
    · omega
    · omega
    · exact ih h

theorem octet_eq {n : Nat} {a : UInt8} (h : n = a.toNat) : octet n = a := by
  rw [h]
  exact UInt8.ofNat_toNat

/-- The values of a sequence of octets give the octets back. -/
theorem decodeValues_values (bs : Bytes) : decodeValues (values bs) = some bs := by
  fun_induction values bs with
  | case1 => rfl
  | case2 a =>
    -- The last symbol has four bits to spare, and the reader demands that they are zero.
    have ha : octet (a.toNat / 4 * 4 + a.toNat % 4 * 16 / 16) = a := octet_eq (by omega)
    rw [decodeValues, if_pos (by omega), ha]
  | case3 a b =>
    -- Here it has two.
    have hb8 := b.toNat_lt
    have ha : octet (a.toNat / 4 * 4 + (a.toNat % 4 * 16 + b.toNat / 16) / 16) = a :=
      octet_eq (by omega)
    have hb : octet ((a.toNat % 4 * 16 + b.toNat / 16) % 16 * 16 + b.toNat % 16 * 4 / 4) = b :=
      octet_eq (by omega)
    rw [decodeValues, if_pos (by omega), ha, hb]
  | case4 a b c rest ih =>
    have hb8 := b.toNat_lt
    have hc8 := c.toNat_lt
    have ha : octet (a.toNat / 4 * 4 + (a.toNat % 4 * 16 + b.toNat / 16) / 16) = a :=
      octet_eq (by omega)
    have hb : octet ((a.toNat % 4 * 16 + b.toNat / 16) % 16 * 16 +
        (b.toNat % 16 * 4 + c.toNat / 64) / 4) = b := octet_eq (by omega)
    have hc : octet ((b.toNat % 16 * 4 + c.toNat / 64) % 4 * 64 + c.toNat % 64) = c :=
      octet_eq (by omega)
    rw [decodeValues, ih, Option.map_some, ha, hb, hc]

/-- Symbols are read as the values they were written for. -/
theorem mapM_value?_map (hal : al.IsReadable) {ns : List Nat} (h : ∀ n ∈ ns, n < 64) :
    (ns.map al.symbol).mapM al.value? = some ns := by
  induction ns with
  | nil => rfl
  | cons n ns ih =>
    have hn := hal.value?_symbol n (h n List.mem_cons_self)
    have hns := ih fun m hm => h m (List.mem_cons_of_mem _ hm)
    rw [List.map_cons, List.mapM_cons, hn, hns]
    rfl

/-- Nothing that is written is a padding sign. -/
theorem ne_of_mem_encodeChars (hal : al.IsReadable) {c : Char} (h : c ∈ encodeChars al bs) :
    c ≠ '=' := by
  rw [encodeChars_eq_map, List.mem_map] at h
  obtain ⟨n, hn, rfl⟩ := h
  exact hal.symbol_ne n (values_lt hn)

/-- **Base64.**  Reading what was written gives the octets back. -/
theorem decode?_encode (hal : al.IsReadable) (bs : Bytes) :
    decode? al .upToCanonical (encode al bs) = some bs := by
  have hclean : ∀ c ∈ encodeChars al bs, (c ≠ '=' : Bool) := fun c hc => by
    simpa using ne_of_mem_encodeChars hal hc
  have hread : ((encodeChars al bs).mapM al.value?).bind decodeValues = some bs := by
    rw [encodeChars_eq_map, mapM_value?_map hal fun _ => values_lt]
    exact decodeValues_values bs
  rw [decode?, encode, String.toList_ofList, decodeChars]
  -- Nothing is left for padding signs, and no sign at all is admitted.
  rw [List.takeWhile_eq_self_iff.mpr hclean, List.dropWhile_eq_nil_iff.mpr hclean, hread]
  rfl

theorem notMem_encode {c : Char} (h : ∀ n < 64, al.symbol n ≠ c) : c ∉ (encode al bs).toList := by
  rw [encode, String.toList_ofList, encodeChars_eq_map, List.mem_map]
  rintro ⟨n, hn, heq⟩
  exact h n (values_lt hn) heq

theorem encode_ne_empty (h : bs ≠ []) : encode al bs ≠ "" := by
  intro hempty
  have hchars : encodeChars al bs = [] := by
    simpa [encode] using congrArg String.toList hempty
  rw [encodeChars_eq_map, List.map_eq_nil_iff] at hchars
  -- The octets are read back from nothing, so there were none.
  have hread := decodeValues_values bs
  rw [hchars] at hread
  exact h (Option.some.inj hread).symm

/-! ### One written form -/

/-- Four symbols are written for three octets, and a group that is not full takes no more than it
needs. -/
theorem length_encodeChars (al : Alphabet) (bs : Bytes) :
    (encodeChars al bs).length = (bs.length * 4 + 2) / 3 := by
  fun_induction encodeChars al bs with
  | case1 => rfl
  | case2 a => simp only [List.length_cons, List.length_nil]
  | case3 a b => simp only [List.length_cons, List.length_nil]
  | case4 a b c rest ih =>
    simp only [List.length_cons, ih]
    omega

/-- A character that is read as a value is the symbol of that value. -/
theorem Alphabet.symbol_of_value? {c : Char} {n : Nat} (h : al.value? c = some n) :
    n < 64 ∧ al.symbol n = c := by
  -- Each range of characters is a range of values, so the symbol is found in the same range.
  have hofNat : ∀ {m k : Nat}, k ≤ c.toNat → m = c.toNat - k → Char.ofNat (m + k) = c := by
    rintro m k hk rfl
    rw [Nat.sub_add_cancel hk, Char.ofNat_toNat]
  have hle : ∀ {a b : Char}, a ≤ b → a.toNat ≤ b.toNat := fun hab => UInt32.le_iff_toNat_le.mp hab
  unfold Alphabet.value? at h
  split at h
  · next hrange =>
    have hlow : 65 ≤ c.toNat := hle hrange.1
    have hhigh : c.toNat ≤ 90 := hle hrange.2
    have hn : c.toNat - 65 = n := Option.some.inj h
    rw [Alphabet.symbol, if_pos (by omega)]
    exact ⟨by omega, hofNat hlow hn.symm⟩
  · split at h
    · next hrange =>
      have hlow : 97 ≤ c.toNat := hle hrange.1
      have hhigh : c.toNat ≤ 122 := hle hrange.2
      have hn : c.toNat - 97 + 26 = n := Option.some.inj h
      have hoffset : n - 26 = c.toNat - 97 := by omega
      rw [Alphabet.symbol, if_neg (by omega), if_pos (by omega)]
      exact ⟨by omega, hofNat hlow hoffset⟩
    · split at h
      · next hrange =>
        have hlow : 48 ≤ c.toNat := hle hrange.1
        have hhigh : c.toNat ≤ 57 := hle hrange.2
        have hn : c.toNat - 48 + 52 = n := Option.some.inj h
        have hoffset : n - 52 = c.toNat - 48 := by omega
        rw [Alphabet.symbol, if_neg (by omega), if_neg (by omega), if_pos (by omega)]
        exact ⟨by omega, hofNat hlow hoffset⟩
      · split at h
        · next heq =>
          cases h
          exact ⟨by decide, heq.symm⟩
        · split at h
          · next heq =>
            cases h
            exact ⟨by decide, heq.symm⟩
          · cases h

/-- Characters that are read as values are the symbols of those values. -/
theorem eq_map_symbol_of_mapM {cs : List Char} {ns : List Nat} (h : cs.mapM al.value? = some ns) :
    cs = ns.map al.symbol ∧ ∀ n ∈ ns, n < 64 := by
  induction cs generalizing ns with
  | nil =>
    cases h
    exact ⟨rfl, List.forall_mem_nil _⟩
  | cons c cs ih =>
    rw [List.mapM_cons] at h
    obtain ⟨n, hn, h⟩ := Option.bind_eq_some_iff.mp h
    obtain ⟨ns', hns, h⟩ := Option.bind_eq_some_iff.mp h
    cases h
    obtain ⟨rfl, hbound⟩ := ih hns
    obtain ⟨hlt, hsymbol⟩ := Alphabet.symbol_of_value? hn
    refine ⟨?_, List.forall_mem_cons.mpr ⟨hlt, hbound⟩⟩
    rw [List.map_cons, hsymbol]

theorem toNat_octet {n : Nat} (h : n < 256) : (octet n).toNat = n := by
  rw [octet, UInt8.toNat_ofNat', Nat.mod_eq_of_lt h]

/-- Values that give octets are the values of those octets. -/
theorem values_of_decodeValues {ns : List Nat} (hns : ∀ n ∈ ns, n < 64)
    (h : decodeValues ns = some bs) : values bs = ns := by
  fun_induction decodeValues ns generalizing bs with
  | case1 =>
    cases h
    rfl
  | case2 => cases h
  | case3 x y hzero =>
    -- The bits to spare were found zero, so nothing of the last value is lost.
    cases h
    simp only [List.forall_mem_cons] at hns
    have ha : (octet (x * 4 + y / 16)).toNat = x * 4 + y / 16 := toNat_octet (by omega)
    simp only [values, ha, List.cons.injEq, and_true]
    omega
  | case4 => cases h
  | case5 x y z hzero =>
    cases h
    simp only [List.forall_mem_cons] at hns
    have ha : (octet (x * 4 + y / 16)).toNat = x * 4 + y / 16 := toNat_octet (by omega)
    have hb : (octet (y % 16 * 16 + z / 4)).toNat = y % 16 * 16 + z / 4 := toNat_octet (by omega)
    simp only [values, ha, hb, List.cons.injEq, and_true]
    omega
  | case6 => cases h
  | case7 x y z w rest ih =>
    obtain ⟨cs, hcs, rfl⟩ := Option.map_eq_some_iff.mp h
    simp only [List.forall_mem_cons] at hns
    obtain ⟨hx, hy, hz, hw, hrest⟩ := hns
    have ha : (octet (x * 4 + y / 16)).toNat = x * 4 + y / 16 := toNat_octet (by omega)
    have hb : (octet (y % 16 * 16 + z / 4)).toNat = y % 16 * 16 + z / 4 := toNat_octet (by omega)
    have hc : (octet (z % 4 * 64 + w)).toNat = z % 4 * 64 + w := toNat_octet (by omega)
    simp only [values, ha, hb, hc, ih hrest hcs, List.cons.injEq, and_true]
    omega

/-- The most padding signs that may stand behind the text of a sequence of octets. -/
def canonicalPads (al : Alphabet) (bs : Bytes) : Nat := fill (encodeChars al bs).length

/-- The text of a sequence of octets with padding signs behind it. -/
def padded (al : Alphabet) (bs : Bytes) (pads : Nat) : String :=
  encode al bs ++ String.ofList (List.replicate pads '=')

theorem toList_padded (al : Alphabet) (bs : Bytes) (pads : Nat) :
    (padded al bs pads).toList = encodeChars al bs ++ List.replicate pads '=' := by
  rw [padded, String.toList_append, encode, String.toList_ofList, String.toList_ofList]

/-- What stands before the first padding sign are the symbols of the octets. -/
theorem takeWhile_padded (hal : al.IsReadable) (bs : Bytes) (pads : Nat) :
    (padded al bs pads).toList.takeWhile (· ≠ '=') = encodeChars al bs := by
  have hclean : ∀ c ∈ encodeChars al bs, (c ≠ '=' : Bool) := fun c hc => by
    simpa using ne_of_mem_encodeChars hal hc
  rw [toList_padded, List.takeWhile_append_of_pos hclean]
  cases pads with
  | zero => rw [List.replicate_zero, List.takeWhile_nil, List.append_nil]
  | succ n => rw [List.replicate_succ, List.takeWhile_cons_of_neg (by decide), List.append_nil]

/-- A text with padding signs behind it is read, where so many of them are admitted. -/
theorem decode?_padded (hal : al.IsReadable) (bs : Bytes) {pads : Nat} {p : Padding}
    (h : p.admits (encodeChars al bs).length pads = true) :
    decode? al p (padded al bs pads) = some bs := by
  have hread : ((encodeChars al bs).mapM al.value?).bind decodeValues = some bs := by
    rw [encodeChars_eq_map, mapM_value?_map hal fun _ => values_lt]
    exact decodeValues_values bs
  have htake := takeWhile_padded hal bs pads
  have hdrop : (padded al bs pads).toList.dropWhile (· ≠ '=') = List.replicate pads '=' := by
    have hsplit := List.takeWhile_append_dropWhile (p := fun c => (c ≠ '=' : Bool))
      (l := (padded al bs pads).toList)
    rw [htake] at hsplit
    exact List.append_cancel_left (hsplit.trans (toList_padded al bs pads))
  rw [decode?, decodeChars, htake, hdrop, hread, List.length_replicate]
  exact if_pos (by simpa using h)

/-- Reading what was written with padding gives the octets back. -/
theorem decode?_encodePadded (hal : al.IsReadable) (bs : Bytes) :
    decode? al .canonical (encodePadded al bs) = some bs := by
  have hpadded : encodePadded al bs = padded al bs (canonicalPads al bs) := by
    apply String.toList_inj.mp
    rw [toList_padded, encodePadded, String.toList_ofList, canonicalPads]
  rw [hpadded]
  exact decode?_padded hal bs (decide_eq_true rfl)

/-- **Base64 has one written form.**  A text is read as some octets exactly when it is what is
written for them, with padding signs up to the canonical number. -/
theorem decode?_eq_some_iff (hal : al.IsReadable) {text : String} :
    decode? al .upToCanonical text = some bs ↔
      ∃ pads ≤ canonicalPads al bs, text = padded al bs pads := by
  constructor
  · intro h
    rw [decode?, decodeChars] at h
    split at h
    · next hpads =>
      rw [Bool.and_eq_true] at hpads
      obtain ⟨hall, hadmits⟩ := hpads
      obtain ⟨ns, hns, hvalues⟩ := Option.bind_eq_some_iff.mp h
      obtain ⟨hsymbols, hbound⟩ := eq_map_symbol_of_mapM hns
      -- The symbols before the first padding sign are those of the octets.
      have hencode : encodeChars al bs = text.toList.takeWhile (· ≠ '=') := by
        rw [encodeChars_eq_map, values_of_decodeValues hbound hvalues, hsymbols]
      have hreplicate : text.toList.dropWhile (· ≠ '=') =
          List.replicate (text.toList.dropWhile (· ≠ '=')).length '=' :=
        List.eq_replicate_iff.mpr ⟨rfl, fun c hc => by simpa using List.all_eq_true.mp hall c hc⟩
      refine ⟨(text.toList.dropWhile (· ≠ '=')).length, ?_, ?_⟩
      · rw [canonicalPads, hencode]
        exact of_decide_eq_true hadmits
      · apply String.toList_inj.mp
        rw [toList_padded, hencode, ← hreplicate, List.takeWhile_append_dropWhile]
    · cases h
  · rintro ⟨pads, hpads, rfl⟩
    exact decode?_padded hal bs (decide_eq_true hpads)

end CredentialBroker.Base64
