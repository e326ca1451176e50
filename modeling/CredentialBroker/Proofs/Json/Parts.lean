import CredentialBroker.Json.Reader
import CredentialBroker.Json.Writer
import CredentialBroker.Proofs.Text.Octets

namespace CredentialBroker.Json

/-!
# How the reader takes the parts that are written

The writer makes characters and the reader takes octets.  What the machine does over the octets of
a text in quotes (`run_text`, `run_name`) and over those of the digits of a number (`run_digits`).
-/

open Text

variable {c : Char} {cs : List Char} {m : Machine} {stack : List Frame}

/-! ### Characters of ASCII -/

theorem run_append_of_eq {as bs : Bytes} {m' : Machine} (h : run m as = some m') :
    run m (as ++ bs) = run m' bs := by
  rw [run_append, h]
  rfl

/-- A character of ASCII is one step. -/
theorem run_ascii (h : c.toNat < 0x80) :
    run m (octetsOf (c :: cs)) =
      (step m (UInt8.ofNat c.toNat)).bind fun m' => run m' (octetsOf cs) := by
  rw [octetsOf_cons, encode_ascii h]
  rfl

/-! ### Texts in quotes -/

/-- A string of which these octets have been read. -/
def scanned (bs : Bytes) : StringScan := ⟨bs.reverse, true, none⟩

theorem push_scanned (as bs : Bytes) : (scanned as).push bs = scanned (as ++ bs) := by
  simp [scanned, StringScan.push]

theorem text?_scanned (s : String) : (scanned (octetsOf s.toList)).text? = some s := by
  simp [scanned, StringScan.text?, octetsOf_toList]

/-- An octet that stands for itself within quotes. -/
def IsPlain (b : UInt8) : Prop := 0x20 ≤ b.toNat ∧ b.toNat ≠ 0x22 ∧ b.toNat ≠ 0x5C

variable {isName : Bool}

theorem step_plain {b : UInt8} {s : StringScan} (h : IsPlain b) :
    step (.string isName s, stack) b = some (.string isName (s.push [b]), stack) := by
  -- The machine compares characters, so the octet is first seen as one.
  have hlt : b.toNat < 256 := b.toNat_lt
  have hvalid : b.toNat.isValidChar := .inl (by omega)
  have hval : (Char.ofNat b.toNat).toNat = b.toNat := by
    rw [Char.ofNat, dif_pos hvalid]
    rfl
  have hquote : Char.ofNat b.toNat ≠ '"' := fun heq => h.2.1 (by rw [← hval, heq]; rfl)
  have hslash : Char.ofNat b.toNat ≠ '\\' := fun heq => h.2.2 (by rw [← hval, heq]; rfl)
  have hcontrol : ¬ b < 0x20 := Nat.not_lt_of_le h.1
  simp only [step, if_neg hquote, if_neg hslash, if_neg hcontrol]

/-- Octets that stand for themselves are collected. -/
theorem run_plain {as bs : Bytes} (h : ∀ b ∈ bs, IsPlain b) :
    run (.string isName (scanned as), stack) bs =
      some (.string isName (scanned (as ++ bs)), stack) := by
  -- What has been read grows with each octet, so it has to vary.
  induction bs generalizing as with
  | nil => rw [List.append_nil, run]
  | cons b bs ih =>
    rw [run, step_plain (h b List.mem_cons_self), Option.bind_some, push_scanned,
      ih fun b' hb' => h b' (List.mem_cons_of_mem _ hb'), List.append_assoc, List.singleton_append]

/-- The octets of a character that is written as it is stand for themselves. -/
theorem isPlain_of_mem (hcontrol : 0x20 ≤ c.toNat) (hquote : c ≠ '"') (hslash : c ≠ '\\')
    {b : UInt8} (h : b ∈ String.utf8EncodeChar c) : IsPlain b := by
  unfold String.utf8EncodeChar at h
  dsimp only at h
  have hval : c.val.toNat = c.toNat := rfl
  split at h
  · -- One octet: the character itself.
    next hle =>
    rw [List.mem_singleton] at h
    have hb : b.toNat = c.toNat := by
      rw [h, hval]
      exact UInt8.toNat_ofNat_of_lt' (Nat.lt_of_le_of_lt hle (by decide))
    refine ⟨by omega, fun heq => hquote ?_, fun heq => hslash ?_⟩
    · exact Char.toNat_inj.mp (hb.symm.trans heq)
    · exact Char.toNat_inj.mp (hb.symm.trans heq)
  · -- Several octets: each of them is at least 128.
    suffices hlarge : 0x80 ≤ b.toNat from ⟨by omega, by omega, by omega⟩
    split at h
    · simp only [List.mem_cons, List.not_mem_nil, or_false] at h
      rcases h with rfl | rfl <;> rw [UInt8.toNat_ofNat'] <;> omega
    · split at h
      · simp only [List.mem_cons, List.not_mem_nil, or_false] at h
        rcases h with rfl | rfl | rfl <;> rw [UInt8.toNat_ofNat'] <;> omega
      · simp only [List.mem_cons, List.not_mem_nil, or_false] at h
        rcases h with rfl | rfl | rfl | rfl <;> rw [UInt8.toNat_ofNat'] <;> omega

/-- A hexadecimal digit is read as its value. -/
theorem hexDigit?_hexChar : ∀ n < 16, StringScan.hexDigit? (hexChar n) = some n := by decide

theorem hexChar_ascii : ∀ n < 16, (hexChar n).toNat < 0x80 := by decide

theorem run_hexChar {s : StringScan} {left value n : Nat} (hn : n < 16) :
    run (.unit isName s left value, stack) (octetsOf (hexChar n :: cs)) =
      run (if left ≤ 1 then (.string isName (s.pushUnit (value * 16 + n)), stack)
        else (.unit isName s (left - 1) (value * 16 + n), stack)) (octetsOf cs) := by
  rw [run_ascii (hexChar_ascii n hn)]
  simp only [step, ofNat_octet (hexChar_ascii n hn), hexDigit?_hexChar n hn, Option.map_some,
    Option.bind_some]

/-- A control character is read from its escape by code unit. -/
theorem run_unit {as : Bytes} (h : c.toNat < 0x20) :
    run (.string isName (scanned as), stack)
        (octetsOf ['\\', 'u', '0', '0', hexChar (c.toNat / 16), hexChar (c.toNat % 16)]) =
      some (.string isName (scanned (as ++ String.utf8EncodeChar c)), stack) := by
  -- After the two zeros, two digits are left to be read.
  have hstart : ∀ cs : List Char,
      run (.string isName (scanned as), stack) (octetsOf ('\\' :: 'u' :: '0' :: '0' :: cs)) =
        run (.unit isName (scanned as) 2 0, stack) (octetsOf cs) := fun _ => rfl
  have hvalue : (0 * 16 + c.toNat / 16) * 16 + c.toNat % 16 = c.toNat := by omega
  -- A control character is no half of a pair, so its unit is the character.
  have hunit : (scanned as).pushUnit c.toNat = scanned (as ++ String.utf8EncodeChar c) := by
    have hhigh : ¬ (0xD800 ≤ c.toNat ∧ c.toNat ≤ 0xDBFF) := by omega
    have hlow : ¬ (0xDC00 ≤ c.toNat ∧ c.toNat ≤ 0xDFFF) := by omega
    rw [← push_scanned, ← Char.ofNat_toNat c]
    simp only [StringScan.pushUnit, scanned, if_neg hhigh, if_neg hlow, Char.ofNat_toNat]
  rw [hstart, run_hexChar (by omega), if_neg (by decide), run_hexChar (by omega),
    if_pos (by decide), hvalue, hunit]
  rfl

/-- A character is read from what is written for it within quotes. -/
theorem run_escapeChar {as : Bytes} (c : Char) :
    run (.string isName (scanned as), stack) (octetsOf (escapeChar c)) =
      some (.string isName (scanned (as ++ String.utf8EncodeChar c)), stack) := by
  rw [← push_scanned]
  unfold escapeChar
  split
  -- A short escape is two steps of the machine.
  case h_1 | h_2 | h_3 | h_4 | h_5 | h_6 | h_7 => rfl
  case h_8 c hquote hslash _ _ _ _ _ =>
    rw [push_scanned]
    split
    · next hcontrol => exact run_unit hcontrol
    · next hcontrol =>
      rw [octetsOf_cons, octetsOf_nil, List.append_nil]
      exact run_plain fun b hb => isPlain_of_mem (Nat.le_of_not_lt hcontrol) hquote hslash hb

/-- The characters of a text are read from what is written for them within quotes. -/
theorem run_escaped {as : Bytes} (cs : List Char) :
    run (.string isName (scanned as), stack) (octetsOf (cs.flatMap escapeChar)) =
      some (.string isName (scanned (as ++ octetsOf cs)), stack) := by
  induction cs generalizing as with
  | nil => rw [List.flatMap_nil, octetsOf_nil, List.append_nil, run]
  | cons c cs ih =>
    rw [List.flatMap_cons, octetsOf_append, run_append_of_eq (run_escapeChar c), ih,
      List.append_assoc, ← octetsOf_cons]

/-- After the opening quote, the machine takes the content of a text and its closing quote. -/
theorem run_quoted (isName : Bool) {s : String} {m : Machine}
    (h : run m [0x22] = some (.string isName (scanned []), stack)) :
    run m (octetsOf (quoted s)) =
      stepStringEnd isName (scanned (octetsOf s.toList)) stack := by
  have hopen : octetsOf (quoted s) =
      [0x22] ++ (octetsOf (s.toList.flatMap escapeChar) ++ [0x22]) := by
    rw [quoted, octetsOf_cons, octetsOf_append]
    rfl
  -- Nothing between the quotes ends the string, as every character is escaped.
  have hcontent : run (.string isName (scanned []), stack)
      (octetsOf (s.toList.flatMap escapeChar)) =
        some (.string isName (scanned (octetsOf s.toList)), stack) := run_escaped s.toList
  rw [hopen, run_append_of_eq h, run_append_of_eq hcontent, run]
  exact Option.bind_fun_some _

/-- A text in quotes is read as that text. -/
theorem run_text {mayClose : Bool} (s : String) :
    run (.value mayClose, stack) (octetsOf (quoted s)) = some (.after (.str s), stack) := by
  rw [run_quoted false rfl]
  simp only [stepStringEnd, text?_scanned]
  rfl

/-- A name in quotes is read as that name. -/
theorem run_name {mayClose : Bool} {before : Option (List (String × Json))} (k : String) :
    run (.name mayClose, .members before :: stack) (octetsOf (quoted k)) =
      some (.colon, .named before (some k) :: stack) := by
  rw [run_quoted true rfl]
  simp only [stepStringEnd, text?_scanned]
  rfl

/-! ### Digits -/

/-- A number of which the digits of `n` have been read, after a sign or not. -/
def counted (negative : Bool) (n : Nat) : NumberScan :=
  ⟨if n = 0 then .zero else .whole, negative, n, false, 0, false, 0⟩

variable {negative : Bool} {n : Nat}

theorem digit?_digitChar : ∀ d < 10, NumberScan.digit? (Nat.digitChar d) = some d := by decide

theorem digitChar_ascii : ∀ d < 10, (Nat.digitChar d).toNat < 0x80 := by decide

theorem next?_start {d : Nat} (h : d < 10) :
    (NumberScan.start negative).next? (Nat.digitChar d) = some (counted negative d) := by
  simp only [NumberScan.next?, NumberScan.start, digit?_digitChar d h, counted]

/-- One more digit of a number that fits a word of 64 bits is kept. -/
theorem next?_counted {d : Nat} (hn : 0 < n) (hd : d < 10) (h : n * 10 + d < Word.values 64) :
    (counted negative n).next? (Nat.digitChar d) = some (counted negative (n * 10 + d)) := by
  have hzero : n ≠ 0 := Nat.ne_of_gt hn
  have hmore : n * 10 + d ≠ 0 := by omega
  have hfits : ¬ Word.values 64 ≤ n * 10 + d := Nat.not_le_of_lt h
  simp only [NumberScan.next?, counted, if_neg hzero, if_neg hmore, digit?_digitChar d hd,
    NumberScan.push, Bool.false_or, decide_eq_true_eq, if_neg hfits, Int.add_zero]

theorem run_next {s s' : NumberScan} (hascii : c.toNat < 0x80) (h : s.next? c = some s') :
    run (.number s, stack) (octetsOf [c]) = some (.number s', stack) := by
  rw [run_ascii hascii]
  simp only [step, ofNat_octet hascii, h, Option.bind_some]
  rfl

/-- The digits of a number that fits a word of 64 bits are read as that number. -/
theorem run_digits (h : n < Word.values 64) :
    run (.number (.start negative), stack) (octetsOf (Nat.toDigits 10 n)) =
      some (.number (counted negative n), stack) := by
  induction n using Nat.strongRecOn with
  | ind n ih =>
    by_cases hsmall : n < 10
    · rw [Nat.toDigits_of_lt_base hsmall]
      exact run_next (digitChar_ascii n hsmall) (next?_start hsmall)
    · -- The digits before the last one make a smaller number, which is not zero.
      have hlarge : 10 ≤ n := Nat.le_of_not_lt hsmall
      have hlast : n % 10 < 10 := Nat.mod_lt n (by decide)
      have hwhole : n / 10 * 10 + n % 10 = n := by omega
      rw [Nat.toDigits_of_base_le (by decide) hlarge, octetsOf_append,
        run_append_of_eq (ih (n / 10) (by omega) (by omega)),
        run_next (digitChar_ascii _ hlast)
          (next?_counted (by omega) hlast (by rw [hwhole]; exact h)), hwhole]

/-- Where a value may start, a digit starts a number. -/
theorem stepValue_digit {mayClose : Bool} (h : c.isDigit) :
    stepValue mayClose stack c =
      ((NumberScan.start false).next? c).map fun n => (.number n, stack) := by
  -- A digit is no blank, and no other character that starts a value.
  have hspace : isSpace c = false := by
    cases hs : isSpace c with
    | false => rfl
    | true =>
      simp only [isSpace, Bool.or_eq_true, decide_eq_true_eq] at hs
      rcases hs with ((rfl | rfl) | rfl) | rfl <;> cases h
  unfold stepValue
  simp only [hspace, Bool.false_eq_true, if_false]
  split
  case h_9 => rfl
  all_goals cases h

/-- The first digit of a number starts it, and is read as one more digit of nothing. -/
theorem run_firstDigit {mayClose : Bool} (h : c.isDigit) :
    run (.value mayClose, stack) (octetsOf (c :: cs)) =
      run (.number (.start false), stack) (octetsOf (c :: cs)) := by
  obtain ⟨hlow, hhigh⟩ := Char.isDigit_iff_toNat.mp h
  have hascii : c.toNat < 0x80 := by
    have hnine : '9'.toNat = 57 := rfl
    omega
  have hdigit : NumberScan.digit? c = some (c.toNat - '0'.toNat) := if_pos h
  rw [run_ascii hascii, run_ascii hascii]
  simp only [step, ofNat_octet hascii, stepValue_digit h, NumberScan.next?, NumberScan.start,
    hdigit, Option.map_some]

/-- The digits of a number are read where a value may start. -/
theorem run_natural {mayClose : Bool} (h : n < Word.values 64) :
    run (.value mayClose, stack) (octetsOf (Nat.toDigits 10 n)) =
      some (.number (counted false n), stack) := by
  cases hdigits : Nat.toDigits 10 n with
  | nil => exact absurd hdigits Nat.toDigits_ne_nil
  | cons d ds =>
    have hd : d.isDigit :=
      Nat.isDigit_of_mem_toDigits (by decide) (by decide) (hdigits ▸ List.mem_cons_self)
    rw [run_firstDigit hd, ← hdigits, run_digits h]

/-- The digits of a number are read after a minus sign. -/
theorem run_negative {mayClose : Bool} (h : n < Word.values 64) :
    run (.value mayClose, stack) (octetsOf ('-' :: Nat.toDigits 10 n)) =
      some (.number (counted true n), stack) :=
  run_digits h

end CredentialBroker.Json
