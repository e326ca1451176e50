import CredentialBroker.Json.Record
import CredentialBroker.Proofs.Json.RoundTrip
import Mathlib.Data.List.Forall2

namespace CredentialBroker.Json

/-!
# Records

What a document has for a field of a record (`valuesOf`), and what the readers make of it: a record
is read from a document with at most one value for each field, and the values are the ones it has.
A record is written as an object (`written`), and its fields are found in it again.

* `valuesOf_of_fields?`, `valuesOf_of_openFields?` — the values that are read are those it has;
* `fields?_written`, `openFields?_written` — what is written for a record is read as its fields;
* `fits_written` — and it can be put into a text.
-/

variable {α : Type} {j : Json} {names : List String} {name : String}
  {values : List (Option Json)} {extra : SortedMap String Json}

/-! ### What a document has for a field -/

/-- The values a document has for a field of a record with the given fields: those of the members of
its name, or the item in its place where the document is a list. -/
def valuesOf (names : List String) (name : String) : Json → List Json
  | .obj members => (members.filter fun m => m.1 = name).map (·.2)
  | .arr items => ((names.zip items).filter fun p => p.1 = name).map (·.2)
  | _ => []

/-- The values a document has at the end of a path: each step of it is a field of a record. -/
def valuesAt : List (List String × String) → Json → List Json
  | [], j => [j]
  | (names, name) :: path, j => (valuesOf names name j).flatMap (valuesAt path)

theorem valuesAt_singleton (names : List String) (name : String) (j : Json) :
    valuesAt [(names, name)] j = valuesOf names name j :=
  List.flatMap_singleton' _

theorem valuesAt_cons_of_valuesOf {v : Json} (h : j.valuesOf names name = [v])
    (path : List (List String × String)) :
    valuesAt ((names, name) :: path) j = valuesAt path v := by
  rw [valuesAt, h, List.flatMap_singleton]

theorem valuesAt_append (path path' : List (List String × String)) (j : Json) :
    valuesAt (path ++ path') j = (valuesAt path j).flatMap (valuesAt path') := by
  induction path generalizing j with
  | nil => exact (List.flatMap_singleton (valuesAt path') j).symm
  | cons step path ih =>
    simp only [List.cons_append, valuesAt, List.flatMap_assoc]
    exact congrArg (List.flatMap · _) (funext ih)

/-! ### Reading -/

/-- A list is read item by item. -/
theorem mapM_eq_some_iff {β : Type} {read : α → Option β} {xs : List α} {ys : List β} :
    xs.mapM read = some ys ↔ xs.map read = ys.map some := by
  induction xs generalizing ys with
  | nil => cases ys <;> simp
  | cons x xs ih =>
    rw [List.mapM_cons, Option.bind_eq_bind, Option.bind_eq_some_iff]
    cases ys <;> simp [Option.bind_eq_some_iff, ih]

/-- A list is read exactly when each item is. -/
theorem mapM_iff_forall₂ {β : Type} {read : α → Option β} {xs : List α} {ys : List β} :
    xs.mapM read = some ys ↔ List.Forall₂ (fun x y => read x = some y) xs ys := by
  rw [mapM_eq_some_iff, ← List.forall₂_eq_eq_eq, List.forall₂_map_left_iff,
    List.forall₂_map_right_iff]

/-- A member is looked up where there is at most one of its name. -/
theorem member?_eq_some_iff {members : List (String × Json)} {o : Option Json} :
    member? name members = some o ↔ members.filter (fun m => m.1 = name) = given name o := by
  unfold member?
  constructor
  · intro h
    split at h
    · next hnone => cases h; exact hnone
    · next m hone =>
      cases h
      have hm : m ∈ members.filter fun m => m.1 = name := hone ▸ List.mem_singleton_self m
      have hname : m.1 = name := of_decide_eq_true (List.mem_filter.mp hm).2
      rw [hone, given, ← hname]
    · cases h
  · intro h
    rw [h]
    cases o <;> rfl

theorem valuesOf_of_member? {members : List (String × Json)} {o : Option Json}
    (h : member? name members = some o) : valuesOf names name (.obj members) = o.toList := by
  rw [valuesOf, member?_eq_some_iff.mp h]
  cases o <;> rfl

/-- The values that are read from an object are those it has. -/
theorem valuesOf_of_members (names : List String) {read : List String}
    {members : List (String × Json)}
    (h : (read.mapM fun n => member? n members) = some values) :
    read.map (fun n => valuesOf names n (.obj members)) = values.map Option.toList := by
  rw [mapM_eq_some_iff] at h
  induction read generalizing values with
  | nil =>
    cases values with
    | nil => rfl
    | cons => cases h
  | cons n read ih =>
    cases values with
    | nil => cases h
    | cons o values =>
      obtain ⟨hhead, htail⟩ := List.cons.inj h
      rw [List.map_cons, List.map_cons, valuesOf_of_member? hhead, ih htail]

/-- The values that are read from a list are the items in the places of the fields. -/
theorem valuesOf_of_items (hnames : names.Nodup) {items : List Json}
    (h : items.length ≤ names.length) :
    names.map (fun n => valuesOf names n (.arr items)) =
      (items.map some ++ List.replicate (names.length - items.length) none).map Option.toList := by
  induction names generalizing items with
  | nil => rw [List.length_eq_zero_iff.mp (Nat.le_zero.mp h)]; rfl
  | cons n names ih =>
    obtain ⟨hn, hnames⟩ := List.nodup_cons.mp hnames
    cases items with
    | nil => simp [valuesOf, List.replicate_succ, List.map_const']
    | cons v items =>
      -- The first item is for the first field, and the first field has no other.
      have hfirst : valuesOf (n :: names) n (.arr (v :: items)) = [v] := by
        have hother : (names.zip items).filter (fun p => p.1 = n) = [] :=
          List.filter_eq_nil_iff.mpr fun p hp heq =>
            hn (of_decide_eq_true heq ▸ (List.of_mem_zip hp).1)
        simp [valuesOf, hother]
      have hrest : names.map (fun m => valuesOf (n :: names) m (.arr (v :: items))) =
          names.map (fun m => valuesOf names m (.arr items)) := by
        refine List.map_congr_left fun m hm => ?_
        have hne : n ≠ m := fun heq => hn (heq ▸ hm)
        simp [valuesOf, hne]
      have htail := ih hnames (Nat.le_of_succ_le_succ h)
      rw [List.map_cons, hfirst, hrest, htail]
      simp

/-- **Reading a closed record.**  The values that are read are those the document has, and it has
at most one for each field. -/
theorem valuesOf_of_fields? (hnames : names.Nodup) (h : j.fields? names = some values) :
    names.map (fun n => j.valuesOf names n) = values.map Option.toList := by
  cases j with
  | obj members => exact valuesOf_of_members names h
  | arr items =>
    rw [fields?] at h
    split at h
    · next hlength =>
      cases h
      exact valuesOf_of_items hnames hlength
    · cases h
  | null | bool | int | real | str | illFormed => cases h

/-- **Reading an open record.**  It is read from an object.  The values that are read are those it
has, and the members that name no field are kept with the values they denote. -/
theorem openFields?_eq_some_iff :
    j.openFields? names = some (values, extra) ↔ ∃ members, j = .obj members ∧
      (names.mapM fun n => member? n members) = some values ∧
      ∃ others, settledMembers? (members.filter fun m => !names.contains m.1) = some others ∧
        SortedMap.ofList others = extra := by
  constructor
  · intro h
    cases j with
    | obj members =>
      obtain ⟨values', hvalues, h⟩ := Option.bind_eq_some_iff.mp h
      obtain ⟨others, hothers, h⟩ := Option.bind_eq_some_iff.mp h
      cases h
      exact ⟨members, rfl, hvalues, others, hothers, rfl⟩
    | arr | null | bool | int | real | str | illFormed => cases h
  · rintro ⟨members, rfl, hvalues, others, hothers, rfl⟩
    rw [openFields?, hvalues, hothers]
    rfl

/-- An optional value is absent, which null says too, or it is read. -/
theorem optional_cases {read : Json → Option α} {o : Option Json} {x : Option α}
    (h : optional read o = some x) :
    x = none ∧ (∀ d ∈ o.toList, d = .null) ∨
      ∃ d a, o.toList = [d] ∧ d ≠ .null ∧ read d = some a ∧ x = some a := by
  unfold optional at h
  split at h
  · cases h; exact .inl ⟨rfl, List.forall_mem_nil _⟩
  · cases h; exact .inl ⟨rfl, fun d hd => List.mem_singleton.mp hd⟩
  · next d hnull =>
    obtain ⟨a, ha, rfl⟩ := Option.map_eq_some_iff.mp h
    exact .inr ⟨d, a, rfl, fun heq => hnull (heq ▸ rfl), ha, rfl⟩

/-- What is read with a default is the value there is, or the default. -/
theorem defaulted_cases {read : Json → Option α} {absent a : α} {o : Option Json}
    (h : defaulted absent read o = some a) :
    o = none ∧ a = absent ∨ ∃ v, o = some v ∧ read v = some a := by
  cases o with
  | none => exact .inl ⟨rfl, (Option.some.inj h).symm⟩
  | some v => exact .inr ⟨v, rfl, h⟩

/-- A flag that is false by default is set where the document sets it. -/
theorem flag_of_defaulted {o : Option Json} (h : defaulted false flag? o = some true) :
    o.toList = [.bool true] := by
  obtain ⟨_, hdefault⟩ | ⟨v, rfl, hv⟩ := defaulted_cases h
  · cases hdefault
  · cases v <;> cases hv
    rfl

theorem text?_eq_some {v : Json} {s : String} (h : text? v = some s) : v = .str s := by
  cases v <;> cases h
  rfl

/-- The members that a map of texts is read from. -/
theorem textMap?_eq_some {v : Json} {m : SortedMap String String} (h : textMap? v = some m) :
    ∃ es : List (String × String), v = .obj (es.map fun e => (e.1, .str e.2)) ∧
      SortedMap.ofList es = m := by
  cases v with
  | obj members =>
    obtain ⟨es, hes, h⟩ := Option.bind_eq_some_iff.mp h
    cases h
    refine ⟨es, congrArg Json.obj ?_, rfl⟩
    have hmembers := mapM_iff_forall₂.mp hes
    rw [← List.forall₂_eq_eq_eq, List.forall₂_map_right_iff]
    refine hmembers.imp fun m e h => ?_
    obtain ⟨t, ht, rfl⟩ := Option.map_eq_some_iff.mp h
    exact Prod.ext rfl (text?_eq_some ht)
  | arr | null | bool | int | real | str | illFormed => cases h

/-- Of texts by name, the last of a name counts. -/
theorem lastMember?_of_textMap? {m : SortedMap String String} (h : textMap? j = some m) :
    j.lastMember? name = (m.get? name).map .str := by
  obtain ⟨es, rfl, rfl⟩ := textMap?_eq_some h
  rw [lastMember?, SortedMap.ofList, SortedMap.get?_insertMany, SortedMap.get?_empty,
    Option.or_none, ← List.map_reverse]
  exact SortedMap.find?_map name Json.str es.reverse

/-! ### Writing -/

/-- The members of a record, in the order of its fields; a field without a value is left out. -/
def written (fields : List (String × Option Json)) : List (String × Json) :=
  fields.flatMap fun f => given f.1 f.2

variable {fields : List (String × Option Json)}

theorem filter_given (n : String) (o : Option Json) :
    (given n o).filter (fun m => m.1 = name) = if n = name then given n o else [] := by
  cases o with
  | none => split <;> rfl
  | some v => by_cases h : n = name <;> simp [given, h]

/-- A field is found again where it was written, and nowhere else. -/
theorem filter_written (h : (fields.map (·.1)).Nodup) :
    (written fields).filter (fun m => m.1 = name) =
      given name (SortedMap.find? name fields).join := by
  induction fields with
  | nil => rfl
  | cons f fields ih =>
    obtain ⟨n, o⟩ := f
    obtain ⟨hn, hfields⟩ := List.nodup_cons.mp h
    rw [written, List.flatMap_cons, List.filter_append, filter_given, ← written, ih hfields]
    by_cases heq : n = name
    · -- No later field has this name.
      have hnone : SortedMap.find? name fields = none :=
        SortedMap.find?_eq_none_of_forall fun e he hname =>
          hn (List.mem_map.mpr ⟨e, he, (heq.trans hname).symm⟩)
      simp [SortedMap.find?, heq, hnone, given]
    · simp [SortedMap.find?, heq, Ne.symm heq]

/-- **Closed records.**  Of what is written for a record, each field is read as it was given. -/
theorem fields?_written (h : (fields.map (·.1)).Nodup) :
    (obj (written fields)).fields? names =
      some (names.map fun n => (SortedMap.find? n fields).join) := by
  refine mapM_eq_some_iff.mpr ?_
  rw [List.map_map]
  exact List.map_congr_left fun n _ => member?_eq_some_iff.mpr (filter_written h)

theorem mem_written {m : String × Json} : m ∈ written fields ↔ (m.1, some m.2) ∈ fields := by
  rw [written, List.mem_flatMap]
  constructor
  · rintro ⟨⟨n, o⟩, hf, hm⟩
    cases o with
    | none => cases hm
    | some v => cases List.mem_singleton.mp hm; exact hf
  · exact fun h => ⟨_, h, List.mem_singleton_self m⟩

/-- The value of a field can stand within `depth` open containers, if the field has one. -/
def FieldFits (depth : Nat) (o : Option Json) : Prop := ∀ v, o = some v → Fits depth v

/-- What is written for a record can stand where its values can. -/
theorem fits_written {depth : Nat} (h : ∀ f ∈ fields, FieldFits depth f.2) :
    ∀ m ∈ written fields, Fits depth m.2 :=
  fun m hm => h (m.1, some m.2) (mem_written.mp hm) m.2 rfl

/-! ### The values of fields -/

/-- The value of a field for texts by name, which is left out when there are none. -/
def presentTexts (m : SortedMap String String) : Option Json :=
  if m.isEmpty then none else some (ofTexts m)

theorem givenTexts_eq (name : String) (m : SortedMap String String) :
    givenTexts name m = given name (presentTexts m) := by
  unfold givenTexts presentTexts
  split <;> rfl

/-- An optional value is read as it was written, where nothing is written as null. -/
theorem optional_map {read : Json → Option α} (write : α → Json)
    (hread : ∀ a, read (write a) = some a) (hnull : ∀ a, write a ≠ .null) (o : Option α) :
    optional read (o.map write) = some o := by
  cases o with
  | none => rfl
  | some a =>
    rw [Option.map_some, optional, hread, Option.map_some]
    exact hnull a

@[simp] theorem optional_text (o : Option String) : optional text? (o.map .str) = some o :=
  optional_map .str (fun _ => rfl) (fun _ => nofun) o

@[simp] theorem optional_flag (o : Option Bool) : optional flag? (o.map .bool) = some o :=
  optional_map .bool (fun _ => rfl) (fun _ => nofun) o

/-- A list is read as it was written. -/
theorem list?_map {read : Json → Option α} (write : α → Json)
    (hread : ∀ a, read (write a) = some a) (xs : List α) :
    list? read (.arr (xs.map write)) = some xs := by
  refine mapM_eq_some_iff.mpr ?_
  rw [List.map_map]
  exact List.map_congr_left fun x _ => hread x

theorem list?_texts (xs : List String) : list? text? (texts xs) = some xs :=
  list?_map .str (fun _ => rfl) xs

/-- Texts by name are read as they were written. -/
theorem textMap?_ofTexts (m : SortedMap String String) : textMap? (ofTexts m) = some m := by
  have hentries : (m.entries.map fun e => (e.1, Json.str e.2)).mapM
      (fun m => (text? m.2).map fun t => (m.1, t)) = some m.entries := by
    refine mapM_eq_some_iff.mpr ?_
    rw [List.map_map]
    exact List.map_congr_left fun _ _ => rfl
  rw [ofTexts, textMap?, hentries]
  exact congrArg some (SortedMap.ofList_entries m)

theorem defaulted_presentTexts (m : SortedMap String String) :
    defaulted ∅ textMap? (presentTexts m) = some m := by
  unfold presentTexts
  split
  · next hempty =>
    obtain ⟨entries, _⟩ := m
    obtain rfl := List.isEmpty_iff.mp hempty
    rfl
  · exact textMap?_ofTexts m

/-! ### Values that can be put into a text -/

section Fits

variable {depth : Nat}

attribute [simp] Fits.null Fits.bool Fits.str

@[simp] theorem fits_int {n : Int} :
    Fits depth (.int n) ↔ -(Word.values 63 : Int) ≤ n ∧ n < Word.values 64 :=
  ⟨fun h => by cases h with | int hlow hhigh => exact ⟨hlow, hhigh⟩, fun h => .int h.1 h.2⟩

@[simp] theorem fits_arr {items : List Json} :
    Fits depth (.arr items) ↔ depth < maxDepth ∧ ∀ j ∈ items, Fits (depth + 1) j :=
  ⟨fun h => by cases h with | arr hdepth hitems => exact ⟨hdepth, hitems⟩, fun h => .arr h.1 h.2⟩

@[simp] theorem fits_obj {members : List (String × Json)} :
    Fits depth (.obj members) ↔ depth < maxDepth ∧ ∀ m ∈ members, Fits (depth + 1) m.2 :=
  ⟨fun h => by cases h with | obj hdepth hmembers => exact ⟨hdepth, hmembers⟩,
    fun h => .obj h.1 h.2⟩

@[simp] theorem fieldFits_some {v : Json} : FieldFits depth (some v) ↔ Fits depth v :=
  ⟨fun h => h v rfl, fun h _ heq => Option.some.inj heq ▸ h⟩

theorem fieldFits_map {write : α → Json} (h : ∀ a, Fits depth (write a)) (o : Option α) :
    FieldFits depth (o.map write) := by
  intro v hv
  obtain ⟨a, _, rfl⟩ := Option.map_eq_some_iff.mp hv
  exact h a

@[simp] theorem fieldFits_text (o : Option String) : FieldFits depth (o.map .str) :=
  fieldFits_map .str o

@[simp] theorem fieldFits_flag (o : Option Bool) : FieldFits depth (o.map .bool) :=
  fieldFits_map .bool o

theorem fits_list {write : α → Json} (hdepth : depth < maxDepth)
    (h : ∀ a, Fits (depth + 1) (write a)) (xs : List α) : Fits depth (.arr (xs.map write)) := by
  refine .arr hdepth fun j hj => ?_
  obtain ⟨x, _, rfl⟩ := List.mem_map.mp hj
  exact h x

theorem fits_ofTexts (hdepth : depth < maxDepth) (m : SortedMap String String) :
    Fits depth (ofTexts m) := by
  refine .obj hdepth fun m hm => ?_
  obtain ⟨e, _, rfl⟩ := List.mem_map.mp hm
  exact .str e.2

theorem fieldFits_presentTexts (hdepth : depth < maxDepth) (m : SortedMap String String) :
    FieldFits depth (presentTexts m) := by
  intro v hv
  unfold presentTexts at hv
  split at hv
  · cases hv
  · cases hv
    exact fits_ofTexts hdepth m

end Fits

end CredentialBroker.Json
