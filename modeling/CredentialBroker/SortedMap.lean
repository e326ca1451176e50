namespace CredentialBroker

/-!
# Maps with sorted keys

A map is the list of its entries, keys strictly increasing, and carries the proof of that order.
So a map is determined by its lookups (`SortedMap.ext`), equal maps are equal values, and reading
the entries out gives them in the order of the keys.

Main statements: `get?_insert`, `get?_erase` and `get?_union` say what each operation does to the
lookups, and `ofList_entries` that a map is rebuilt from its entries.
-/

/-- A strict linear order, as keys need it. -/
class LinearKey (κ : Type) [LT κ] : Prop where
  /-- No key comes before itself. -/
  irrefl : ∀ a : κ, ¬ a < a
  /-- The order is transitive. -/
  trans : ∀ {a b c : κ}, a < b → b < c → a < c
  /-- Two keys are equal or one comes before the other. -/
  total : ∀ a b : κ, a < b ∨ a = b ∨ b < a

instance : LinearKey String where
  irrefl := String.lt_irrefl
  trans := String.lt_trans
  total a b := by grind

theorem LinearKey.ne_of_lt {κ : Type} [LT κ] [LinearKey κ] {a b : κ} (h : a < b) : a ≠ b :=
  fun h' => LinearKey.irrefl b (h' ▸ h)

/-- A finite map: its entries in the order of their keys, each key once. -/
structure SortedMap (κ α : Type) [LT κ] where
  /-- The keys with their values. -/
  entries : List (κ × α)
  /-- The keys increase strictly. -/
  sorted : entries.Pairwise (fun a b => a.1 < b.1)
deriving DecidableEq

namespace SortedMap

/-! ### Entry lists -/

section Entries

variable {κ α : Type} [DecidableEq κ]

/-- The value of the first entry with the given key. -/
def find? (k : κ) : List (κ × α) → Option α
  | [] => none
  | (k', v) :: es => if k = k' then some v else find? k es

theorem find?_eq_none_of_forall {k : κ} {es : List (κ × α)} (h : ∀ e ∈ es, k ≠ e.1) :
    find? k es = none := by
  induction es with
  | nil => rfl
  | cons e es ih =>
    obtain ⟨k', v⟩ := e
    have hk : k ≠ k' := h (k', v) List.mem_cons_self
    simp [find?, hk, ih fun e he => h e (List.mem_cons_of_mem _ he)]

theorem find?_map {β : Type} (k : κ) (f : α → β) (es : List (κ × α)) :
    find? k (es.map fun e => (e.1, f e.2)) = (find? k es).map f := by
  induction es with
  | nil => rfl
  | cons e es ih =>
    rw [List.map_cons, find?, find?, ih]
    split <;> rfl

theorem find?_filter_ne (k j : κ) (es : List (κ × α)) :
    find? j (es.filter fun e => e.1 ≠ k) = if j = k then none else find? j es := by
  induction es with
  | nil => simp [find?]
  | cons e es ih =>
    obtain ⟨k', v⟩ := e
    by_cases hk : k' = k
    · subst hk
      by_cases hj : j = k' <;> simp_all [find?]
    · by_cases hj : j = k' <;> by_cases hjk : j = k <;> simp_all [find?]

variable [LT κ] [DecidableLT κ]

/-- The entries with `k` bound to `v`, at the place of `k` in the order. -/
def insertEntry (k : κ) (v : α) : List (κ × α) → List (κ × α)
  | [] => [(k, v)]
  | (k', v') :: es =>
    if k < k' then (k, v) :: (k', v') :: es
    else if k = k' then (k, v) :: es
    else (k', v') :: insertEntry k v es

theorem mem_insertEntry {k : κ} {v : α} {e : κ × α} {es : List (κ × α)}
    (h : e ∈ insertEntry k v es) : e = (k, v) ∨ e ∈ es := by
  induction es with
  | nil => simpa [insertEntry] using h
  | cons e' es ih =>
    obtain ⟨k', v'⟩ := e'
    simp only [insertEntry] at h
    split at h
    · simpa using h
    · split at h
      · simp only [List.mem_cons] at h ⊢
        exact h.imp id .inr
      · simp only [List.mem_cons] at h ⊢
        rcases h with h | h
        · exact .inr (.inl h)
        · exact (ih h).imp id .inr

/-- An entry with a key of its own is added without loss. -/
theorem insertEntry_perm {k : κ} {v : α} {es : List (κ × α)} (h : ∀ e ∈ es, k ≠ e.1) :
    (insertEntry k v es).Perm ((k, v) :: es) := by
  induction es with
  | nil => exact List.Perm.refl _
  | cons e es ih =>
    obtain ⟨k', v'⟩ := e
    have hne : k ≠ k' := h (k', v') List.mem_cons_self
    simp only [insertEntry, if_neg hne]
    split
    · exact List.Perm.refl _
    · exact ((ih fun e he => h e (List.mem_cons_of_mem _ he)).cons _).trans (List.Perm.swap _ _ _)

theorem find?_insertEntry (k j : κ) (v : α) (es : List (κ × α)) :
    find? j (insertEntry k v es) = if j = k then some v else find? j es := by
  induction es with
  | nil => simp [insertEntry, find?]
  | cons e es ih =>
    obtain ⟨k', v'⟩ := e
    simp only [insertEntry]
    split
    · simp [find?]
    · split
      · next h => subst h; by_cases hj : j = k <;> simp [find?, hj]
      · next h => by_cases hj : j = k' <;> simp_all [find?, Ne.symm h]

variable [LinearKey κ]

theorem insertEntry_sorted (k : κ) (v : α) {es : List (κ × α)}
    (h : es.Pairwise (fun a b => a.1 < b.1)) :
    (insertEntry k v es).Pairwise (fun a b => a.1 < b.1) := by
  induction es with
  | nil => simp [insertEntry]
  | cons e es ih =>
    obtain ⟨k', v'⟩ := e
    obtain ⟨hlt, hs⟩ := List.pairwise_cons.mp h
    simp only [insertEntry]
    split
    · next hk =>
      refine List.pairwise_cons.mpr ⟨fun a ha => ?_, h⟩
      rcases List.mem_cons.mp ha with rfl | ha
      · exact hk
      · exact LinearKey.trans hk (hlt a ha)
    · split
      · next hk => subst hk; exact List.pairwise_cons.mpr ⟨hlt, hs⟩
      · next hk hne =>
        refine List.pairwise_cons.mpr ⟨fun a ha => ?_, ih hs⟩
        rcases mem_insertEntry ha with rfl | ha
        · exact (LinearKey.total k' k).resolve_right fun h' =>
            h'.elim (fun e => hne e.symm) hk
        · exact hlt a ha

/-- An entry that comes before all others is put in front. -/
theorem insertEntry_eq_append {k : κ} {v : α} {es : List (κ × α)} (h : ∀ e ∈ es, e.1 < k) :
    insertEntry k v es = es ++ [(k, v)] := by
  induction es with
  | nil => rfl
  | cons e es ih =>
    obtain ⟨k', v'⟩ := e
    have hk : k' < k := h (k', v') List.mem_cons_self
    have h1 : ¬ k < k' := fun h' => LinearKey.irrefl k (LinearKey.trans h' hk)
    have h2 : k ≠ k' := fun h' => LinearKey.irrefl k (h' ▸ hk)
    simp [insertEntry, h1, h2, ih fun e he => h e (List.mem_cons_of_mem _ he)]

omit [DecidableLT κ] in
theorem find?_ext {es fs : List (κ × α)} (hes : es.Pairwise (fun a b => a.1 < b.1))
    (hfs : fs.Pairwise (fun a b => a.1 < b.1)) (h : ∀ k, find? k es = find? k fs) : es = fs := by
  have none_of_lt {k : κ} {es : List (κ × α)} (h : ∀ e ∈ es, k < e.1) : find? k es = none :=
    find?_eq_none_of_forall fun e he => LinearKey.ne_of_lt (h e he)
  induction es generalizing fs with
  | nil =>
    cases fs with
    | nil => rfl
    | cons f fs => exact absurd (h f.1) (by obtain ⟨l, w⟩ := f; simp [find?])
  | cons e es ih =>
    obtain ⟨k, v⟩ := e
    obtain ⟨hlt, hs⟩ := List.pairwise_cons.mp hes
    cases fs with
    | nil => exact absurd (h k) (by simp [find?])
    | cons f fs =>
      obtain ⟨l, w⟩ := f
      obtain ⟨hlt', hs'⟩ := List.pairwise_cons.mp hfs
      rcases LinearKey.total k l with hkl | rfl | hkl
      · have hno : find? k ((l, w) :: fs) = none := none_of_lt fun e he => by
          rcases List.mem_cons.mp he with rfl | he
          · exact hkl
          · exact LinearKey.trans hkl (hlt' e he)
        have := h k
        rw [hno] at this
        simp [find?] at this
      · have hv : v = w := by simpa [find?] using h k
        subst hv
        rw [ih hs hs' fun j => ?_]
        by_cases hj : j = k
        · subst hj; rw [none_of_lt hlt, none_of_lt hlt']
        · simpa [find?, hj] using h j
      · have hno : find? l ((k, v) :: es) = none := none_of_lt fun e he => by
          rcases List.mem_cons.mp he with rfl | he
          · exact hkl
          · exact LinearKey.trans hkl (hlt e he)
        have := h l
        rw [hno] at this
        simp [find?] at this

end Entries

/-! ### Maps -/

section Views

variable {κ α β : Type} [LT κ]

/-- The map without entries. -/
def empty : SortedMap κ α := ⟨[], List.Pairwise.nil⟩

instance : EmptyCollection (SortedMap κ α) := ⟨empty⟩

instance : Inhabited (SortedMap κ α) := ⟨empty⟩

/-- The keys, in order. -/
def keys (m : SortedMap κ α) : List κ := m.entries.map (·.1)

/-- The values, in the order of their keys. -/
def values (m : SortedMap κ α) : List α := m.entries.map (·.2)

/-- Whether the map has no entry. -/
def isEmpty (m : SortedMap κ α) : Bool := m.entries.isEmpty

/-- The number of entries. -/
def size (m : SortedMap κ α) : Nat := m.entries.length

/-- The map with `f` applied to every value. -/
def mapValues (f : α → β) (m : SortedMap κ α) : SortedMap κ β :=
  ⟨m.entries.map fun e => (e.1, f e.2), m.sorted.map _ fun _ _ h => h⟩

end Views

section Operations

variable {κ α : Type} [LT κ] [DecidableEq κ]

/-- The value at a key. -/
def get? (m : SortedMap κ α) (k : κ) : Option α := find? k m.entries

/-- Whether a key has a value. -/
def contains (m : SortedMap κ α) (k : κ) : Bool := (m.get? k).isSome

/-- The map without an entry at `k`. -/
def erase (m : SortedMap κ α) (k : κ) : SortedMap κ α :=
  ⟨m.entries.filter fun e => e.1 ≠ k, m.sorted.filter _⟩

@[simp] theorem get?_empty (k : κ) : (empty : SortedMap κ α).get? k = none := rfl

@[simp] theorem get?_emptyCollection (k : κ) : (∅ : SortedMap κ α).get? k = none := rfl

theorem get?_erase (m : SortedMap κ α) (k j : κ) :
    (m.erase k).get? j = if j = k then none else m.get? j :=
  find?_filter_ne k j m.entries

/-- What is left was there. -/
theorem of_get?_erase {m : SortedMap κ α} {k j : κ} {v : α} (h : (m.erase k).get? j = some v) :
    m.get? j = some v := by
  rw [get?_erase] at h
  split at h
  · cases h
  · exact h

/-- What holds of all entries holds of those that are left. -/
theorem forall_erase {P : κ → α → Prop} {m : SortedMap κ α} {k : κ}
    (h : ∀ j v, m.get? j = some v → P j v) : ∀ j v, (m.erase k).get? j = some v → P j v :=
  fun j v hv => h j v (of_get?_erase hv)

variable [DecidableLT κ] [LinearKey κ]

/-- The map with `k` bound to `v`. -/
def insert (m : SortedMap κ α) (k : κ) (v : α) : SortedMap κ α :=
  ⟨insertEntry k v m.entries, insertEntry_sorted k v m.sorted⟩

/-- The map with the given entries added one after the other, a later one replacing an earlier. -/
def insertMany (m : SortedMap κ α) (es : List (κ × α)) : SortedMap κ α :=
  es.foldl (fun m e => m.insert e.1 e.2) m

/-- The entries of both maps; where both have a key, the value is the one of `n`. -/
def union (m n : SortedMap κ α) : SortedMap κ α := m.insertMany n.entries

/-- The map of the given entries, a later one replacing an earlier. -/
def ofList (es : List (κ × α)) : SortedMap κ α := empty.insertMany es

omit [DecidableLT κ] in
theorem ext {m n : SortedMap κ α} (h : ∀ k, m.get? k = n.get? k) : m = n := by
  obtain ⟨es, hs⟩ := m
  obtain ⟨fs, ht⟩ := n
  obtain rfl := find?_ext hs ht h
  rfl

theorem get?_insert (m : SortedMap κ α) (k j : κ) (v : α) :
    (m.insert k v).get? j = if j = k then some v else m.get? j :=
  find?_insertEntry k j v m.entries

@[simp] theorem get?_insert_self (m : SortedMap κ α) (k : κ) (v : α) :
    (m.insert k v).get? k = some v := by
  simp [get?_insert]

/-- A key bound to the value it has already. -/
theorem insert_eq_self {m : SortedMap κ α} {k : κ} {v : α} (h : m.get? k = some v) :
    m.insert k v = m := by
  refine ext fun j => ?_
  rw [get?_insert]
  split
  · next hj => rw [hj, h]
  · rfl

/-- Of two values for a key the later one counts. -/
theorem insert_insert (m : SortedMap κ α) (k : κ) (v w : α) :
    (m.insert k v).insert k w = m.insert k w := by
  refine ext fun j => ?_
  rw [get?_insert, get?_insert, get?_insert]
  split <;> rfl

omit [DecidableLT κ] in
/-- A key that is not there cannot be taken away. -/
theorem erase_eq_self {m : SortedMap κ α} {k : κ} (h : m.get? k = none) : m.erase k = m := by
  refine ext fun j => ?_
  rw [get?_erase]
  split
  · next hj => rw [hj, h]
  · rfl

/-- A key that is taken away takes with it whatever it was bound to. -/
theorem erase_insert_self (m : SortedMap κ α) (k : κ) (v : α) :
    (m.insert k v).erase k = m.erase k := by
  refine ext fun j => ?_
  rw [get?_erase, get?_erase, get?_insert]
  split <;> rfl

/-- What holds of all entries and of the one that is added holds of all entries afterwards. -/
theorem forall_insert {P : κ → α → Prop} {m : SortedMap κ α} {k : κ} {v : α}
    (h : ∀ j w, m.get? j = some w → P j w) (hnew : P k v) :
    ∀ j w, (m.insert k v).get? j = some w → P j w := by
  intro j w hw
  rw [get?_insert] at hw
  by_cases hj : j = k
  · rw [if_pos hj] at hw
    cases hw
    rw [hj]
    exact hnew
  · rw [if_neg hj] at hw
    exact h j w hw

/-- A value found after one is added is that one or was found before. -/
theorem exists_get?_insert {m : SortedMap κ α} {k : κ} {v w : α}
    (h : ∃ j, (m.insert k v).get? j = some w) : w = v ∨ ∃ j, m.get? j = some w := by
  obtain ⟨j, hj⟩ := h
  exact forall_insert (P := fun _ w => w = v ∨ ∃ j, m.get? j = some w)
    (fun j _ hw => .inr ⟨j, hw⟩) (.inl rfl) j w hj

/-- A key that has a value keeps one. -/
theorem isSome_get?_insert {m : SortedMap κ α} {k j : κ} {v : α} (h : (m.get? j).isSome) :
    ((m.insert k v).get? j).isSome := by
  rw [get?_insert]
  split
  · rfl
  · exact h

theorem get?_insertMany (m : SortedMap κ α) (es : List (κ × α)) (k : κ) :
    (m.insertMany es).get? k = (find? k es.reverse).or (m.get? k) := by
  induction es generalizing m with
  | nil => rfl
  | cons e es ih =>
    obtain ⟨k', v⟩ := e
    have happ (l : List (κ × α)) (b : Option α) :
        (find? k (l ++ [(k', v)])).or b = (find? k l).or (if k = k' then some v else b) := by
      induction l with
      | nil => by_cases h : k = k' <;> simp [find?, h]
      | cons x xs ihx =>
        obtain ⟨y, z⟩ := x
        by_cases h : k = y <;> simp [find?, h, ihx]
    rw [insertMany, List.foldl_cons, ← insertMany, ih, List.reverse_cons, happ, get?_insert]

/-- Entries in the order of their keys are added as they stand. -/
theorem insertMany_entries (m : SortedMap κ α) {es : List (κ × α)}
    (h : (m.entries ++ es).Pairwise (fun a b => a.1 < b.1)) :
    (m.insertMany es).entries = m.entries ++ es := by
  induction es generalizing m with
  | nil => simp [insertMany]
  | cons e es ih =>
    obtain ⟨k, v⟩ := e
    have hm : (m.insert k v).entries = m.entries ++ [(k, v)] :=
      insertEntry_eq_append fun e he => (List.pairwise_append.mp h).2.2 e he (k, v) (by simp)
    rw [insertMany, List.foldl_cons, ← insertMany,
      ih (m.insert k v) (by rw [hm]; simpa using h), hm]
    simp

/-- Entries with keys of their own are added without loss. -/
theorem insertMany_perm (m : SortedMap κ α) {es : List (κ × α)}
    (h : ((m.entries ++ es).map (·.1)).Nodup) :
    (m.insertMany es).entries.Perm (m.entries ++ es) := by
  induction es generalizing m with
  | nil => rw [List.append_nil]; exact List.Perm.refl _
  | cons e es ih =>
    obtain ⟨k, v⟩ := e
    have hmiddle : (m.entries ++ (k, v) :: es).Perm ((k, v) :: (m.entries ++ es)) :=
      List.perm_middle
    have hkeys : (((k, v) :: (m.entries ++ es)).map (·.1)).Nodup := (hmiddle.map _).nodup h
    have hnew : (m.insert k v).entries.Perm ((k, v) :: m.entries) :=
      insertEntry_perm fun e he heq => (List.nodup_cons.mp hkeys).1
        (List.mem_map.mpr ⟨e, List.mem_append_left _ he, heq.symm⟩)
    have hstep : ((m.insert k v).entries ++ es).Perm ((k, v) :: (m.entries ++ es)) :=
      hnew.append_right es
    rw [insertMany, List.foldl_cons, ← insertMany]
    exact (ih _ ((hstep.map _).symm.nodup hkeys)).trans (hstep.trans hmiddle.symm)

/-- Entries with keys of their own are listed without loss. -/
theorem ofList_perm {es : List (κ × α)} (h : (es.map (·.1)).Nodup) :
    (ofList es).entries.Perm es :=
  insertMany_perm empty h

/-- A key that is not listed is not bound. -/
theorem get?_ofList_of_forall_ne {k : κ} {es : List (κ × α)} (h : ∀ e ∈ es, k ≠ e.1) :
    (ofList es).get? k = none := by
  rw [ofList, get?_insertMany, get?_empty, Option.or_none]
  exact find?_eq_none_of_forall fun e he => h e (List.mem_reverse.mp he)

/-- Nothing but the listed entries is in a map. -/
theorem mem_ofList {es : List (κ × α)} {e : κ × α} (h : e ∈ (ofList es).entries) : e ∈ es := by
  have hall : ∀ m : SortedMap κ α, e ∈ (m.insertMany es).entries → e ∈ m.entries ∨ e ∈ es := by
    clear h
    induction es with
    | nil => exact fun m he => .inl he
    | cons f es ih =>
      intro m he
      rw [insertMany, List.foldl_cons, ← insertMany] at he
      rcases ih _ he with he | he
      · rcases mem_insertEntry he with rfl | he
        · exact .inr List.mem_cons_self
        · exact .inl he
      · exact .inr (List.mem_cons_of_mem _ he)
  exact (hall empty h).resolve_left List.not_mem_nil

/-- A map is rebuilt from its entries. -/
@[simp] theorem ofList_entries (m : SortedMap κ α) : ofList m.entries = m := by
  obtain ⟨es, hs⟩ := m
  have h : (ofList es).entries = es := by
    have := insertMany_entries (empty : SortedMap κ α) (by simpa [empty] using hs)
    simpa [ofList, empty] using this
  cases hm : ofList es with
  | mk fs ht => rw [hm] at h; subst h; rfl

theorem find?_reverse_of_sorted {es : List (κ × α)} (h : es.Pairwise (fun a b => a.1 < b.1))
    (k : κ) : find? k es.reverse = find? k es := by
  have h1 := get?_insertMany (empty : SortedMap κ α) es k
  have h2 := congrArg (fun m => m.get? k) (ofList_entries ⟨es, h⟩)
  simp only [ofList, get?_empty, Option.or_none] at h1 h2
  rw [← h1, h2]; rfl

omit [DecidableLT κ] in
/-- The entry at a key is the one that is looked up. -/
theorem filter_entries (m : SortedMap κ α) (k : κ) :
    (m.entries.filter fun e => e.1 = k).map (·.2) = (m.get? k).toList := by
  obtain ⟨es, hs⟩ := m
  show (es.filter fun e => e.1 = k).map (·.2) = (find? k es).toList
  induction es with
  | nil => rfl
  | cons e es ih =>
    obtain ⟨k', v⟩ := e
    obtain ⟨hlt, hs'⟩ := List.pairwise_cons.mp hs
    by_cases hk : k' = k
    · have hrest : es.filter (fun e => e.1 = k) = [] :=
        List.filter_eq_nil_iff.mpr fun e he heq =>
          LinearKey.ne_of_lt (hlt e he) (hk.trans (of_decide_eq_true heq).symm)
      simp [find?, hk, hrest]
    · simp [find?, hk, Ne.symm hk, ih hs']

omit [DecidableLT κ] in
/-- The values are what the keys lead to. -/
theorem mem_values {m : SortedMap κ α} {v : α} : v ∈ m.values ↔ ∃ k, m.get? k = some v := by
  obtain ⟨es, hs⟩ := m
  show v ∈ es.map (·.2) ↔ ∃ k, find? k es = some v
  induction es with
  | nil => simp [find?]
  | cons e es ih =>
    obtain ⟨k', w⟩ := e
    obtain ⟨hlt, hs'⟩ := List.pairwise_cons.mp hs
    rw [List.map_cons, List.mem_cons, ih hs']
    constructor
    · rintro (rfl | ⟨k, hk⟩)
      · exact ⟨k', by simp [find?]⟩
      · refine ⟨k, ?_⟩
        have hne : k ≠ k' := by
          rintro rfl
          rw [find?_eq_none_of_forall fun e he => LinearKey.ne_of_lt (hlt e he)] at hk
          cases hk
        simpa [find?, hne] using hk
    · rintro ⟨k, hk⟩
      by_cases hkk : k = k'
      · subst hkk
        simp only [find?, if_true, Option.some.injEq] at hk
        exact .inl hk.symm
      · simp only [find?, hkk, if_false] at hk
        exact .inr ⟨k, hk⟩

theorem get?_union (m n : SortedMap κ α) (k : κ) :
    (m.union n).get? k = (n.get? k).or (m.get? k) := by
  rw [union, get?_insertMany, find?_reverse_of_sorted n.sorted]; rfl

@[simp] theorem union_empty (m : SortedMap κ α) : m.union empty = m := rfl

@[simp] theorem empty_union (m : SortedMap κ α) : empty.union m = m := ofList_entries m

/-- What was added is there already. -/
@[simp] theorem union_union_self (m n : SortedMap κ α) : (m.union n).union n = m.union n := by
  refine ext fun k => ?_
  rw [get?_union, get?_union]
  cases n.get? k <;> rfl

/-- Entries that are listed are added one after the other. -/
theorem union_ofList (m : SortedMap κ α) (es : List (κ × α)) :
    m.union (ofList es) = m.insertMany es := by
  refine ext fun k => ?_
  rw [get?_union, ofList, get?_insertMany, get?_insertMany, get?_empty, Option.or_none]

end Operations

end SortedMap

end CredentialBroker
