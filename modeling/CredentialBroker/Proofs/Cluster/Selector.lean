import CredentialBroker.Cluster.Objects
import CredentialBroker.Proofs.Text.Pieces

namespace CredentialBroker.Objects

/-!
# Selectors of one term

A selector of a key and a value picks exactly the labels with that value under that key, as long as
its parts can be read back: no comma and no blanks around them, and no equals sign in the key.

* `fits_pair` — which labels such a selector picks.
-/

/-- A value can be read back from a selector. -/
structure IsValue (value : String) : Prop where
  /-- It has no comma. -/
  noComma : ',' ∉ value.toList
  /-- There are no blanks around it. -/
  trimmed : Text.trim value = value

/-- A key can be. -/
structure IsKey (key : String) : Prop extends IsValue key where
  /-- It has no equals sign. -/
  noEquals : '=' ∉ key.toList

variable {key value : String} {labels : SortedMap String String}

theorem toList_pair : (key ++ "=" ++ value).toList = key.toList ++ '=' :: value.toList := by
  simp

theorem cut?_pair (h : '=' ∉ key.toList) :
    Text.cut? '=' (key ++ "=" ++ value) = some (key, value) := by
  have hcut : Text.cutChars '=' (key ++ "=" ++ value).toList = some (key.toList, value.toList) :=
    Text.cutChars_eq_some_iff.mpr ⟨h, toList_pair⟩
  unfold Text.cut?
  rw [hcut, Option.map_some, String.ofList_toList, String.ofList_toList]

theorem pieces_pair (hkey : IsKey key) (hvalue : IsValue value) :
    Text.pieces ',' (key ++ "=" ++ value) = [key ++ "=" ++ value] := by
  refine Text.pieces_eq_self ?_
  rw [toList_pair, List.mem_append, List.mem_cons, not_or, not_or]
  exact ⟨hkey.noComma, by decide, hvalue.noComma⟩

/-- **Selectors of one term.**  A key and a value pick the labels that have that value. -/
theorem fits_pair (hkey : IsKey key) (hvalue : IsValue value) :
    fits (key ++ "=" ++ value) labels = true ↔ labels.get? key = some value := by
  have hterms : (Text.pieces ',' (key ++ "=" ++ value)).filter (· ≠ "") =
      [key ++ "=" ++ value] := by
    rw [pieces_pair hkey hvalue]
    exact List.filter_cons_of_pos (by simp)
  unfold fits
  rw [hterms, List.all_cons, List.all_nil, Bool.and_true]
  unfold fitsTerm
  rw [cut?_pair hkey.noEquals]
  dsimp only
  rw [hkey.trimmed, hvalue.trimmed, decide_eq_true_iff]

end CredentialBroker.Objects
