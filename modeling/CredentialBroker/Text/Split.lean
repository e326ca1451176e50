namespace CredentialBroker.Text

/-!
# Cutting texts

Cutting at the first occurrence of a character, dropping a fixed beginning, and comparing texts
up to the case of ASCII letters.  Each cut is stated on lists of characters with the equation
that ties the pieces to the whole.
-/

/-- The characters before and after the first `sep`, if there is one. -/
def cutChars (sep : Char) : List Char → Option (List Char × List Char)
  | [] => none
  | c :: cs =>
    if c = sep then some ([], cs)
    else (cutChars sep cs).map fun p => (c :: p.1, p.2)

/-- The texts before and after the first `sep`, if there is one. -/
def cut? (sep : Char) (s : String) : Option (String × String) :=
  (cutChars sep s.toList).map fun p => (String.ofList p.1, String.ofList p.2)

/-- A cut is exactly a first part free of the separator, the separator, and the rest. -/
theorem cutChars_eq_some_iff {sep : Char} {cs a b : List Char} :
    cutChars sep cs = some (a, b) ↔ sep ∉ a ∧ cs = a ++ sep :: b := by
  induction cs generalizing a with
  | nil => simp [cutChars]
  | cons c cs ih =>
    by_cases h : c = sep
    · subst h
      simp only [cutChars, if_true, Option.some.injEq, Prod.mk.injEq]
      constructor
      · rintro ⟨rfl, rfl⟩; simp
      · rintro ⟨hn, he⟩
        cases a with
        | nil => simpa using he
        | cons x xs =>
          simp only [List.cons_append, List.cons.injEq] at he
          exact absurd (he.1 ▸ List.mem_cons_self) hn
    · simp only [cutChars, if_neg h, Option.map_eq_some_iff, Prod.mk.injEq, Prod.exists]
      constructor
      · rintro ⟨x, y, hxy, rfl, rfl⟩
        obtain ⟨hn, rfl⟩ := ih.mp hxy
        exact ⟨by simp [hn, Ne.symm h], by simp⟩
      · rintro ⟨hn, he⟩
        cases a with
        | nil => simp only [List.nil_append, List.cons.injEq] at he; exact absurd he.1 h
        | cons x xs =>
          simp only [List.cons_append, List.cons.injEq] at he
          obtain ⟨rfl, rfl⟩ := he
          exact ⟨xs, b, ih.mpr ⟨fun hm => hn (List.mem_cons_of_mem _ hm), rfl⟩, rfl, rfl⟩

/-- There is no cut exactly when the separator does not occur. -/
theorem cutChars_eq_none_iff {sep : Char} {cs : List Char} : cutChars sep cs = none ↔ sep ∉ cs := by
  induction cs with
  | nil => simp [cutChars]
  | cons c cs ih =>
    by_cases h : c = sep
    · simp [cutChars, h]
    · simp [cutChars, h, ih, Ne.symm h]

/-- The pieces between the separators; a text without separator is one piece. -/
def piecesChars (sep : Char) : List Char → List (List Char)
  | [] => [[]]
  | c :: cs =>
    if c = sep then [] :: piecesChars sep cs
    else match piecesChars sep cs with
      | [] => [[c]]
      | p :: ps => (c :: p) :: ps

/-- The pieces of a text between the separators. -/
def pieces (sep : Char) (s : String) : List String :=
  (piecesChars sep s.toList).map String.ofList

/-- What follows `start` at the beginning of the list, if it begins so. -/
def dropPrefixChars : List Char → List Char → Option (List Char)
  | [], cs => some cs
  | _ :: _, [] => none
  | p :: ps, c :: cs => if p = c then dropPrefixChars ps cs else none

/-- What follows `start` in a text that begins with it. -/
def dropPrefix? (start s : String) : Option String :=
  (dropPrefixChars start.toList s.toList).map String.ofList

theorem dropPrefixChars_eq_some_iff {p cs r : List Char} :
    dropPrefixChars p cs = some r ↔ cs = p ++ r := by
  induction p generalizing cs with
  | nil => simp [dropPrefixChars]
  | cons x xs ih =>
    cases cs with
    | nil => simp [dropPrefixChars]
    | cons c cs =>
      by_cases h : x = c
      · subst h; simp [dropPrefixChars, ih]
      · simp [dropPrefixChars, h, Ne.symm h]

/-- The text without the occurrences of `c` at its end. -/
def trimEndOf (c : Char) (s : String) : String :=
  String.ofList (s.toList.reverse.dropWhile (· == c)).reverse

/-- Texts that differ at most in the case of ASCII letters. -/
def sameLetters (a b : List Char) : Bool :=
  a.map Char.toLower == b.map Char.toLower

/-- The text with its ASCII capitals made small. -/
def lowercase (s : String) : String :=
  String.ofList (s.toList.map Char.toLower)

end CredentialBroker.Text
