import CredentialBroker.Text.Blank
import CredentialBroker.Text.Split

namespace CredentialBroker.Text

/-!
# Blanks, and the case of letters

Trimming takes blanks away and nothing else, and making letters small changes capitals and nothing
else.  So of the characters that are neither blank nor letters all stay, in order.

* `filter_trimChars`, `mem_trimChars` — trimming;
* `eq_of_toLower`, `filter_map_toLower` — the case of letters.
-/

variable {p : Char → Bool} {a b : List Char} {c d : Char}

/-! ### Blanks -/

theorem filter_dropWhile_isBlank (hp : ∀ c, p c = true → isBlank c = false) (cs : List Char) :
    (cs.dropWhile isBlank).filter p = cs.filter p := by
  have hblank : (cs.takeWhile isBlank).filter p = [] := by
    rw [List.filter_eq_nil_iff]
    intro c hc hpc
    have hc' : isBlank c = true := List.all_eq_true.mp List.all_takeWhile c hc
    rw [hp c hpc] at hc'
    cases hc'
  conv => rhs; rw [← List.takeWhile_append_dropWhile (p := isBlank) (l := cs)]
  rw [List.filter_append, hblank, List.nil_append]

/-- Characters that are not blank stay, in order. -/
theorem filter_trimChars (hp : ∀ c, p c = true → isBlank c = false) (cs : List Char) :
    (trimChars cs).filter p = cs.filter p := by
  rw [trimChars, trimEndChars, List.filter_reverse, filter_dropWhile_isBlank hp,
    List.filter_reverse, List.reverse_reverse, trimStartChars, filter_dropWhile_isBlank hp]

theorem mem_trimChars (h : c ∈ a) (hc : isBlank c = false) : c ∈ trimChars a := by
  have hfilter : (trimChars a).filter (fun d => !isBlank d) = a.filter fun d => !isBlank d :=
    filter_trimChars (fun _ hd => (Bool.not_eq_true' _).mp hd) a
  have hmem : c ∈ a.filter fun d => !isBlank d :=
    List.mem_filter.mpr ⟨h, (Bool.not_eq_true' _).mpr hc⟩
  rw [← hfilter] at hmem
  exact (List.mem_filter.mp hmem).1

/-! ### Letters -/

theorem length_eq_of_sameLetters (h : sameLetters a b = true) : a.length = b.length := by
  have hmap : a.map Char.toLower = b.map Char.toLower := eq_of_beq h
  simpa using congrArg List.length hmap

/-- What capitals become comes after all that is no small letter, so it is made of nothing else. -/
theorem eq_of_toLower (hd : d.toNat < 97) (h : c.toLower = d) : c = d := by
  unfold Char.toLower at h
  split at h
  · next hcapital =>
    have hvalue := congrArg UInt32.toNat (congrArg Char.val h)
    have hlow := UInt32.le_iff_toNat_le.mp hcapital.1
    have hhigh := UInt32.le_iff_toNat_le.mp hcapital.2
    have hsmall : d.val.toNat < 97 := hd
    simp at hvalue hlow hhigh
    omega
  · exact h

theorem toLower_of_lt (hc : c.toNat < 65) : c.toLower = c := by
  unfold Char.toLower
  split
  · next hcapital =>
    have hlow := UInt32.le_iff_toNat_le.mp hcapital.1
    have hsmall : c.val.toNat < 65 := hc
    simp at hlow
    omega
  · rfl

/-- Characters before the letters stay, in order. -/
theorem filter_map_toLower (hp : ∀ c, p c = true → c.toNat < 65) (cs : List Char) :
    (cs.map Char.toLower).filter p = cs.filter p := by
  have hsame : ∀ c : Char, p c.toLower = p c := by
    intro c
    cases hc : p c.toLower with
    | true =>
      have hlow : c.toLower.toNat < 97 := Nat.lt_trans (hp _ hc) (by decide)
      rw [eq_of_toLower hlow rfl, hc]
    | false =>
      cases hpc : p c with
      | true =>
        rw [toLower_of_lt (hp c hpc), hpc] at hc
        cases hc
      | false => rfl
  induction cs with
  | nil => rfl
  | cons c cs ih =>
    rw [List.map_cons, List.filter_cons, List.filter_cons, hsame, ih]
    split
    · next hc => rw [toLower_of_lt (hp c hc)]
    · rfl

end CredentialBroker.Text
