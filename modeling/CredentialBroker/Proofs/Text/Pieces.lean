import CredentialBroker.Text.Split

namespace CredentialBroker.Text

/-!
# Pieces of texts

What cutting a text at every separator gives: what the library's cut of lists does.

* `piecesChars_eq_splitOn` — the two are one;
* `piecesChars_flatMap` — a text of several parts is cut part by part;
* `piecesChars_eq_self`, `pieces_eq_self` — a text without separator is one piece.
-/

variable {sep : Char} {cs : List Char}

theorem piecesChars_eq_splitOn (sep : Char) (cs : List Char) :
    piecesChars sep cs = cs.splitOn sep := by
  induction cs with
  | nil => rfl
  | cons c cs ih =>
    show _ = (c :: cs).splitOnP (· == sep)
    rw [piecesChars, ih, List.splitOn, List.splitOnP_cons_eq_if_modifyHead]
    by_cases h : c = sep
    · rw [if_pos h, if_pos (beq_iff_eq.mpr h)]
    · rw [if_neg h, if_neg fun heq => h (beq_iff_eq.mp heq)]
      split
      · next hnil => exact absurd hnil (List.splitOnP_ne_nil _ _)
      · next p ps hcons => rw [hcons, List.modifyHead_cons]

theorem piecesChars_ne_nil (sep : Char) (cs : List Char) : piecesChars sep cs ≠ [] := by
  rw [piecesChars_eq_splitOn]
  exact List.splitOnP_ne_nil _ _

/-- A text is cut at each separator apart from what is around it. -/
theorem piecesChars_append_cons (sep : Char) (cs ds : List Char) :
    piecesChars sep (cs ++ sep :: ds) = piecesChars sep cs ++ piecesChars sep ds := by
  rw [piecesChars_eq_splitOn, piecesChars_eq_splitOn, piecesChars_eq_splitOn]
  exact List.splitOnP_append_cons cs ds (beq_self_eq_true sep)

/-- A text of several parts is cut part by part. -/
theorem piecesChars_flatMap (sep : Char) (cs : List Char) (parts : List (List Char)) :
    piecesChars sep (cs ++ parts.flatMap (sep :: ·)) =
      piecesChars sep cs ++ parts.flatMap (piecesChars sep) := by
  induction parts generalizing cs with
  | nil => simp only [List.flatMap_nil, List.append_nil]
  | cons p parts ih =>
    rw [List.flatMap_cons, List.cons_append, piecesChars_append_cons, ih, List.flatMap_cons]

theorem length_piecesChars (sep : Char) (cs : List Char) :
    (piecesChars sep cs).length = cs.count sep + 1 := by
  induction cs with
  | nil => rfl
  | cons c cs ih =>
    rw [piecesChars]
    split
    · next h => rw [List.length_cons, ih, h, List.count_cons_self]
    · next h =>
      rw [List.count_cons_of_ne h, ← ih]
      split
      · next hnil => exact absurd hnil (piecesChars_ne_nil sep cs)
      · next p ps hcons => rw [hcons, List.length_cons, List.length_cons]

/-- A text without separator is one piece. -/
theorem piecesChars_eq_self (h : sep ∉ cs) : piecesChars sep cs = [cs] := by
  rw [piecesChars_eq_splitOn]
  refine List.splitOnP_eq_singleton fun c hc => beq_eq_false_iff_ne.mpr ?_
  exact ne_of_mem_of_not_mem hc h

theorem pieces_eq_self {s : String} (h : sep ∉ s.toList) : pieces sep s = [s] := by
  unfold pieces
  rw [piecesChars_eq_self h, List.map_singleton, String.ofList_toList]

end CredentialBroker.Text
