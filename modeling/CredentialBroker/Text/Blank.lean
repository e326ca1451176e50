namespace CredentialBroker.Text

/-!
# Blank characters and trimming

A character is blank when it has the Unicode property White_Space.  Trimming removes the blanks
at both ends of a text and nothing else; everything in this library that ignores surrounding
blanks (headers, tokens, settings, user names) uses this one rule.

Main statements: a trimmed text neither starts nor ends with a blank (`head?_trimChars`,
`getLast?_trimChars`), and a text without blanks at its ends is left alone (`trimChars_eq_self`).
-/

/-- The code points with the property White_Space, as inclusive ranges in increasing order. -/
def blankRanges : List (Nat × Nat) :=
  [(0x09, 0x0D), (0x20, 0x20), (0x85, 0x85), (0xA0, 0xA0), (0x1680, 0x1680), (0x2000, 0x200A),
   (0x2028, 0x2029), (0x202F, 0x202F), (0x205F, 0x205F), (0x3000, 0x3000)]

/-- A character is blank when its code point lies in one of `blankRanges`. -/
def isBlank (c : Char) : Bool :=
  blankRanges.any fun r => r.1 ≤ c.toNat && c.toNat ≤ r.2

/-- The characters left after the blanks at the start. -/
def trimStartChars (cs : List Char) : List Char :=
  cs.dropWhile isBlank

/-- The characters left before the blanks at the end. -/
def trimEndChars (cs : List Char) : List Char :=
  (cs.reverse.dropWhile isBlank).reverse

/-- The characters left when the blanks at both ends are removed. -/
def trimChars (cs : List Char) : List Char :=
  trimEndChars (trimStartChars cs)

/-- The text without the blanks at its ends. -/
def trim (s : String) : String :=
  String.ofList (trimChars s.toList)

@[simp] theorem toList_trim (s : String) : (trim s).toList = trimChars s.toList := by
  simp [trim]

@[simp] theorem trimChars_nil : trimChars [] = [] := rfl

/-! ### What trimming leaves -/

theorem getLast?_trimEndChars {cs : List Char} {c : Char}
    (h : (trimEndChars cs).getLast? = some c) : isBlank c = false := by
  rw [trimEndChars, List.getLast?_reverse] at h
  have := List.head?_dropWhile_not isBlank cs.reverse
  simpa [h] using this

/-- What `trimEndChars` keeps is a beginning of the list. -/
theorem trimEndChars_isPrefixOf (cs : List Char) : trimEndChars cs <+: cs := by
  have h := List.dropWhile_suffix (l := cs.reverse) isBlank
  simpa [trimEndChars] using List.reverse_prefix.mpr h

theorem trimEndChars_of_getLast? {cs : List Char} {c : Char} (h : cs.getLast? = some c)
    (hc : isBlank c = false) : trimEndChars cs = cs := by
  have : cs.reverse.head? = some c := by simpa using h
  cases hr : cs.reverse with
  | nil => simp [hr] at this
  | cons d ds =>
    simp only [hr, List.head?_cons, Option.some.injEq] at this
    subst this
    have : cs = (d :: ds).reverse := by rw [← hr, List.reverse_reverse]
    simp [trimEndChars, hc, this]

theorem head?_trimChars {cs : List Char} {c : Char}
    (h : (trimChars cs).head? = some c) : isBlank c = false := by
  obtain ⟨t, ht⟩ := trimEndChars_isPrefixOf (trimStartChars cs)
  have hstart : (trimStartChars cs).head? = some c := by
    rw [← ht]
    cases hx : trimEndChars (trimStartChars cs) with
    | nil => simp [trimChars, hx] at h
    | cons d ds => simpa [trimChars, hx] using h
  have := List.head?_dropWhile_not isBlank cs
  rw [trimStartChars] at hstart
  simpa [hstart] using this

theorem getLast?_trimChars {cs : List Char} {c : Char}
    (h : (trimChars cs).getLast? = some c) : isBlank c = false :=
  getLast?_trimEndChars h

/-- A text that starts and ends with characters that are not blank is its own trimmed form. -/
theorem trimChars_eq_self {cs : List Char} (hhead : ∀ c, cs.head? = some c → isBlank c = false)
    (hlast : ∀ c, cs.getLast? = some c → isBlank c = false) : trimChars cs = cs := by
  cases cs with
  | nil => rfl
  | cons d ds =>
    have hd : isBlank d = false := hhead d rfl
    have hstart : trimStartChars (d :: ds) = d :: ds := by
      simp [trimStartChars, hd]
    rw [trimChars, hstart]
    obtain ⟨c, hc⟩ : ∃ c, (d :: ds).getLast? = some c :=
      ⟨_, List.getLast?_eq_some_getLast (List.cons_ne_nil d ds)⟩
    exact trimEndChars_of_getLast? hc (hlast c hc)

@[simp] theorem trimChars_trimChars (cs : List Char) : trimChars (trimChars cs) = trimChars cs :=
  trimChars_eq_self (fun _ => head?_trimChars) (fun _ => getLast?_trimChars)

@[simp] theorem trim_trim (s : String) : trim (trim s) = trim s :=
  String.ext (by simp)

end CredentialBroker.Text
