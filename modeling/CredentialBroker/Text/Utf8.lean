namespace CredentialBroker

/-- A sequence of octets. -/
abbrev Bytes := List UInt8

namespace Text

/-!
# Texts as octets

`utf8` writes a text as its UTF-8 octets and `ofUtf8?` reads them back, refusing every sequence
that is not UTF-8; the two are inverse to each other (`ofUtf8?_eq_some_iff`).  `ofUtf8Lossy` reads
any sequence, with one replacement character for each maximal run of octets that begins a
character without completing it.
-/

/-- The UTF-8 octets of a text. -/
def utf8 (s : String) : Bytes :=
  s.toByteArray.data.toList

/-- The text with the given UTF-8 octets, or nothing when they are not UTF-8. -/
def ofUtf8? (bs : Bytes) : Option String :=
  String.fromUTF8? ⟨bs.toArray⟩

/-- The number of UTF-8 octets of a text. -/
def octetCount (s : String) : Nat :=
  (utf8 s).length

/-- Reading octets succeeds exactly on what writing produces. -/
theorem ofUtf8?_eq_some_iff {bs : Bytes} {s : String} : ofUtf8? bs = some s ↔ utf8 s = bs := by
  unfold ofUtf8? utf8 String.fromUTF8?
  split
  · next h =>
    simp only [Option.some.injEq]
    constructor
    · rintro rfl; simp [String.fromUTF8]
    · rintro rfl; cases s; simp [String.fromUTF8]
  · next h =>
    simp only [reduceCtorEq, false_iff]
    rintro rfl
    exact h (by cases s; simpa using ‹_›)

@[simp] theorem ofUtf8?_utf8 (s : String) : ofUtf8? (utf8 s) = some s :=
  ofUtf8?_eq_some_iff.mpr rfl

theorem utf8_injective {s t : String} (h : utf8 s = utf8 t) : s = t := by
  simpa using (congrArg ofUtf8? h)

@[simp] theorem utf8_append (s t : String) : utf8 (s ++ t) = utf8 s ++ utf8 t := by
  simp [utf8]

/-- The octets of a text are the octets of its characters, one after the other. -/
theorem utf8_ofList (cs : List Char) :
    utf8 (String.ofList cs) = cs.flatMap String.utf8EncodeChar := by
  simp [utf8, List.utf8Encode]

theorem utf8_eq_flatMap (s : String) : utf8 s = s.toList.flatMap String.utf8EncodeChar := by
  rw [← utf8_ofList, String.ofList_toList]

/-! ### Reading every sequence -/

/-- An octet that may only continue a character. -/
def isTail (b : UInt8) : Bool :=
  0x80 ≤ b && b ≤ 0xBF

/-- The inclusive range of the second octet of a character of three octets. -/
def secondOfThree (lead : UInt8) : UInt8 × UInt8 :=
  if lead = 0xE0 then (0xA0, 0xBF) else if lead = 0xED then (0x80, 0x9F) else (0x80, 0xBF)

/-- The inclusive range of the second octet of a character of four octets. -/
def secondOfFour (lead : UInt8) : UInt8 × UInt8 :=
  if lead = 0xF0 then (0x90, 0xBF) else if lead = 0xF4 then (0x80, 0x8F) else (0x80, 0xBF)

/-- The character that stands for octets which are no character. -/
def replacement : Char := '\uFFFD'

/-- The character whose octets have the payload bits `lead`, then six from each of `tails`. -/
def assemble (lead : Nat) (tails : List UInt8) : Char :=
  Char.ofNat (tails.foldl (fun n b => n * 64 + b.toNat % 64) lead)

/-- The characters of a sequence of octets.  A lead octet with the tails it can have up to the
first that does not fit is one `replacement`, and so is every octet that leads nothing. -/
def lossyChars : Bytes → List Char
  | [] => []
  | a :: rest =>
    if a < 0x80 then Char.ofNat a.toNat :: lossyChars rest
    else if 0xC2 ≤ a ∧ a ≤ 0xDF then
      match rest with
      | [] => [replacement]
      | b :: r =>
        if isTail b then assemble (a.toNat % 32) [b] :: lossyChars r
        else replacement :: lossyChars (b :: r)
    else if 0xE0 ≤ a ∧ a ≤ 0xEF then
      match rest with
      | [] => [replacement]
      | b :: r =>
        if (secondOfThree a).1 ≤ b ∧ b ≤ (secondOfThree a).2 then
          match r with
          | [] => [replacement]
          | c :: r' =>
            if isTail c then assemble (a.toNat % 16) [b, c] :: lossyChars r'
            else replacement :: lossyChars (c :: r')
        else replacement :: lossyChars (b :: r)
    else if 0xF0 ≤ a ∧ a ≤ 0xF4 then
      match rest with
      | [] => [replacement]
      | b :: r =>
        if (secondOfFour a).1 ≤ b ∧ b ≤ (secondOfFour a).2 then
          match r with
          | [] => [replacement]
          | c :: r' =>
            if isTail c then
              match r' with
              | [] => [replacement]
              | d :: r'' =>
                if isTail d then assemble (a.toNat % 8) [b, c, d] :: lossyChars r''
                else replacement :: lossyChars (d :: r'')
            else replacement :: lossyChars (c :: r')
        else replacement :: lossyChars (b :: r)
    else replacement :: lossyChars rest

/-- The text of a sequence of octets, whatever they are. -/
def ofUtf8Lossy (bs : Bytes) : String :=
  match ofUtf8? bs with
  | some s => s
  | none => String.ofList (lossyChars bs)

@[simp] theorem ofUtf8Lossy_utf8 (s : String) : ofUtf8Lossy (utf8 s) = s := by
  simp [ofUtf8Lossy]

end Text

end CredentialBroker
