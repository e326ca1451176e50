import CredentialBroker.Proofs.Json.Depth
import CredentialBroker.Proofs.Json.Record

namespace CredentialBroker.Json

/-!
# What is kept of a document

A part of a document that is not looked into is kept as the value it denotes.  Where no object names
a member twice and all numbers are whole (`Exact`), that is the value it had (`same_of_settled?`),
it is kept as it is from then on (`settled?_settled`), and it can be put into a text again
(`fits_of_settled?`).

* `valuesOf_unnamed` — an open record keeps the fields it does not name with their values;
* `openFields?_written` — what is written for an open record is read as its fields and what it
  keeps.
-/

/-! ### Documents by their parts -/

/-- What holds of a document when it holds of its parts holds of every document. -/
theorem byParts {motive : Json → Prop} (null : motive .null) (bool : ∀ b, motive (.bool b))
    (int : ∀ n, motive (.int n)) (real : ∀ x, motive (.real x)) (str : ∀ s, motive (.str s))
    (illFormed : motive .illFormed)
    (arr : ∀ items, (∀ j ∈ items, motive j) → motive (.arr items))
    (obj : ∀ members, (∀ m ∈ members, motive m.2) → motive (.obj members)) (j : Json) : motive j :=
  match j with
  | .null => null
  | .bool b => bool b
  | .int n => int n
  | .real x => real x
  | .str s => str s
  | .illFormed => illFormed
  | .arr items => arr items fun j _ => byParts null bool int real str illFormed arr obj j
  | .obj members => obj members fun m _ => byParts null bool int real str illFormed arr obj m.2
termination_by sizeOf j
decreasing_by
  · next h =>
    have := List.sizeOf_lt_of_mem h
    simp
    omega
  · next h =>
    have := List.sizeOf_lt_of_mem h
    obtain ⟨k, v⟩ := m
    simp at this ⊢
    omega

/-- A document without a member named twice whose numbers are whole numbers of 64 bits. -/
inductive Exact : Json → Prop where
  /-- The literal for absence. -/
  | null : Exact .null
  /-- A truth value. -/
  | bool (b : Bool) : Exact (.bool b)
  /-- A whole number within bounds. -/
  | int {n : Int} (hlow : -(Word.values 63 : Int) ≤ n) (hhigh : n < Word.values 64) : Exact (.int n)
  /-- A text. -/
  | str (s : String) : Exact (.str s)
  /-- A part that denotes no value. -/
  | illFormed : Exact .illFormed
  /-- A list. -/
  | arr {items : List Json} (hitems : ∀ j ∈ items, Exact j) : Exact (.arr items)
  /-- An object. -/
  | obj {members : List (String × Json)} (hnames : (members.map (·.1)).Nodup)
      (hmembers : ∀ m ∈ members, Exact m.2) : Exact (.obj members)

attribute [simp] Exact.null Exact.bool Exact.str

@[simp] theorem exact_int {n : Int} :
    Exact (.int n) ↔ -(Word.values 63 : Int) ≤ n ∧ n < Word.values 64 :=
  ⟨fun h => by cases h with | int hlow hhigh => exact ⟨hlow, hhigh⟩, fun h => .int h.1 h.2⟩

@[simp] theorem exact_arr {items : List Json} : Exact (.arr items) ↔ ∀ j ∈ items, Exact j :=
  ⟨fun h => by cases h with | arr hitems => exact hitems, .arr⟩

@[simp] theorem exact_obj {members : List (String × Json)} :
    Exact (.obj members) ↔ (members.map (·.1)).Nodup ∧ ∀ m ∈ members, Exact m.2 :=
  ⟨fun h => by cases h with | obj hnames hmembers => exact ⟨hnames, hmembers⟩,
    fun h => .obj h.1 h.2⟩

/-- Two documents with the same value: they are alike up to the order in which members stand. -/
inductive Same : Json → Json → Prop where
  /-- The literal for absence. -/
  | null : Same .null .null
  /-- A truth value. -/
  | bool (b : Bool) : Same (.bool b) (.bool b)
  /-- A whole number. -/
  | int (n : Int) : Same (.int n) (.int n)
  /-- Any other number. -/
  | real (x : Binary64) : Same (.real x) (.real x)
  /-- A text. -/
  | str (s : String) : Same (.str s) (.str s)
  /-- Lists are compared item by item. -/
  | arr {items items' : List Json} (h : List.Forall₂ Same items items') :
    Same (.arr items) (.arr items')
  /-- Objects are compared member by member, once they are in one order. -/
  | obj {members ordered members' : List (String × Json)}
      (hnames : members.map (·.1) = ordered.map (·.1))
      (hvalues : List.Forall₂ Same (members.map (·.2)) (ordered.map (·.2)))
      (horder : ordered.Perm members') : Same (.obj members) (.obj members')

variable {j v : Json} {names : List String} {name : String} {depth : Nat}

/-! ### What a document denotes -/

theorem settledItems?_eq (items : List Json) : settledItems? items = items.mapM settled? := by
  induction items with
  | nil => rfl
  | cons j items ih => rw [settledItems?, ih, List.mapM_cons]

/-- The value that a member denotes, with its name. -/
def settledMember? (m : String × Json) : Option (String × Json) :=
  (settled? m.2).map fun v => (m.1, v)

theorem settledMembers?_eq (members : List (String × Json)) :
    settledMembers? members = members.mapM settledMember? := by
  induction members with
  | nil => rfl
  | cons m members ih =>
    obtain ⟨k, j⟩ := m
    rw [settledMembers?, ih, List.mapM_cons, settledMember?]
    cases settled? j <;> rfl

theorem settledMember?_eq_some {m e : String × Json} :
    settledMember? m = some e ↔ m.1 = e.1 ∧ settled? m.2 = some e.2 := by
  obtain ⟨k, v⟩ := e
  simp only [settledMember?, Option.map_eq_some_iff, Prod.mk.injEq]
  constructor
  · rintro ⟨w, hw, rfl, rfl⟩
    exact ⟨rfl, hw⟩
  · rintro ⟨rfl, hv⟩
    exact ⟨v, hv, rfl, rfl⟩

theorem settled?_arr {items : List Json} : settled? (.arr items) = some v ↔
    ∃ vs, List.Forall₂ (fun j w => settled? j = some w) items vs ∧ .arr vs = v := by
  simp only [settled?, settledItems?_eq, Option.map_eq_some_iff, mapM_iff_forall₂]

/-- Members are kept with their names and the values they denote. -/
def KeptAs (members others : List (String × Json)) : Prop :=
  List.Forall₂ (fun m e => m.1 = e.1 ∧ settled? m.2 = some e.2) members others

theorem settledMembers?_eq_some {members others : List (String × Json)} :
    settledMembers? members = some others ↔ KeptAs members others := by
  simp only [settledMembers?_eq, mapM_iff_forall₂, settledMember?_eq_some, KeptAs]

theorem settled?_obj {members : List (String × Json)} : settled? (.obj members) = some v ↔
    ∃ others, KeptAs members others ∧ .obj (SortedMap.ofList others).entries = v := by
  simp only [settled?, Option.map_eq_some_iff, settledMembers?_eq_some]

section KeptAs

variable {members others : List (String × Json)}

theorem KeptAs.sameNames (h : KeptAs members others) :
    members.map (·.1) = others.map (·.1) := by
  rw [← List.forall₂_eq_eq_eq, List.forall₂_map_left_iff, List.forall₂_map_right_iff]
  exact h.imp fun _ _ h => h.1

theorem KeptAs.sameValues (h : KeptAs members others) :
    List.Forall₂ (fun j w => settled? j = some w) (members.map (·.2)) (others.map (·.2)) := by
  rw [List.forall₂_map_left_iff, List.forall₂_map_right_iff]
  exact h.imp fun _ _ h => h.2

/-- What is kept comes from somewhere. -/
theorem exists_of_forall₂ {α β : Type} {R : α → β → Prop} {xs : List α} {ys : List β}
    (h : List.Forall₂ R xs ys) : ∀ y ∈ ys, ∃ x ∈ xs, R x y := by
  induction h with
  | nil => exact List.forall_mem_nil _
  | cons hxy _ ih =>
    refine List.forall_mem_cons.mpr ⟨⟨_, List.mem_cons_self, hxy⟩, fun y hy => ?_⟩
    obtain ⟨x, hx, hR⟩ := ih y hy
    exact ⟨x, List.mem_cons_of_mem _ hx, hR⟩

/-- Pairs that are related stay so where the relation is weaker on what stands on the left. -/
theorem forall₂_weaken {α β : Type} {R S : α → β → Prop} {xs : List α} {ys : List β}
    (h : List.Forall₂ R xs ys) (himp : ∀ x ∈ xs, ∀ y, R x y → S x y) : List.Forall₂ S xs ys :=
  ((List.forall₂_and_left xs ys).mpr ⟨himp, h⟩).imp fun _ y h => h.1 y h.2

/-- An entry of the map that is kept comes from a member of its name. -/
theorem KeptAs.origin (h : KeptAs members others) {e : String × Json}
    (he : e ∈ (SortedMap.ofList others).entries) :
    ∃ m ∈ members, m.1 = e.1 ∧ settled? m.2 = some e.2 :=
  exists_of_forall₂ h e (SortedMap.mem_ofList he)

end KeptAs

/-- A list of values that are what they denote. -/
theorem forall₂_settled {vs : List Json} (h : ∀ v ∈ vs, settled? v = some v) :
    List.Forall₂ (fun j w => settled? j = some w) vs vs :=
  List.forall₂_same.mpr h

theorem keptAs_self {entries : List (String × Json)} (h : ∀ e ∈ entries, settled? e.2 = some e.2) :
    KeptAs entries entries :=
  List.forall₂_same.mpr fun e he => ⟨rfl, h e he⟩

/-- What a document denotes denotes itself. -/
theorem settled?_settled (h : settled? j = some v) : settled? v = some v := by
  induction j using byParts generalizing v with
  | null | bool | int | real | str => cases h; rfl
  | illFormed => cases h
  | arr items ih =>
    obtain ⟨vs, hvs, rfl⟩ := settled?_arr.mp h
    refine settled?_arr.mpr ⟨vs, forall₂_settled fun w hw => ?_, rfl⟩
    obtain ⟨j, hj, hw⟩ := exists_of_forall₂ hvs w hw
    exact ih j hj hw
  | obj members ih =>
    obtain ⟨others, hothers, rfl⟩ := settled?_obj.mp h
    refine settled?_obj.mpr ⟨_, keptAs_self fun e he => ?_, by rw [SortedMap.ofList_entries]⟩
    obtain ⟨m, hm, _, hvalue⟩ := hothers.origin he
    exact ih m hm hvalue

/-- What a document denotes can stand where the document can. -/
theorem fits_of_settled? (hj : Exact j) (hdepth : Within depth j) (h : settled? j = some v) :
    Fits depth v := by
  induction j using byParts generalizing v depth with
  | null => cases h; exact .null
  | bool b => cases h; exact .bool b
  | int n =>
    cases h
    cases hj with
    | int hlow hhigh => exact .int hlow hhigh
  | real x => cases hj
  | str s => cases h; exact .str s
  | illFormed => cases h
  | arr items ih =>
    obtain ⟨vs, hvs, rfl⟩ := settled?_arr.mp h
    cases hj with
    | arr hitems =>
      cases hdepth with
      | arr hlt hwithin =>
        refine .arr hlt fun w hw => ?_
        obtain ⟨j, hj, hw⟩ := exists_of_forall₂ hvs w hw
        exact ih j hj (hitems j hj) (hwithin j hj) hw
  | obj members ih =>
    obtain ⟨others, hothers, rfl⟩ := settled?_obj.mp h
    cases hj with
    | obj _ hmembers =>
      cases hdepth with
      | obj hlt hwithin =>
        refine .obj hlt fun e he => ?_
        obtain ⟨m, hm, _, hvalue⟩ := hothers.origin he
        exact ih m hm (hmembers m hm) (hwithin m hm) hvalue

/-- **Values.**  What an exact document denotes has the same value. -/
theorem same_of_settled? (hj : Exact j) (h : settled? j = some v) : Same j v := by
  induction j using byParts generalizing v with
  | null => cases h; exact .null
  | bool b => cases h; exact .bool b
  | int n => cases h; exact .int n
  | real x => cases h; exact .real x
  | str s => cases h; exact .str s
  | illFormed => cases h
  | arr items ih =>
    obtain ⟨vs, hvs, rfl⟩ := settled?_arr.mp h
    cases hj with
    | arr hitems =>
      exact .arr (forall₂_weaken hvs fun j hj w hw => ih j hj (hitems j hj) hw)
  | obj members ih =>
    obtain ⟨others, hothers, rfl⟩ := settled?_obj.mp h
    cases hj with
    | obj hnames hmembers =>
      have hsame : ∀ j ∈ members.map (·.2), ∀ w, settled? j = some w → Same j w := by
        intro j hj w hw
        obtain ⟨m, hm, rfl⟩ := List.mem_map.mp hj
        exact ih m hm (hmembers m hm) hw
      -- As no name is repeated, sorting loses nothing.
      have horder := SortedMap.ofList_perm (hothers.sameNames ▸ hnames)
      exact .obj hothers.sameNames (forall₂_weaken hothers.sameValues hsame) horder.symm

/-! ### Parts of exact documents -/

theorem mem_valuesOf (h : v ∈ valuesOf names name j) :
    (∃ members, j = .obj members ∧ (name, v) ∈ members) ∨ ∃ items, j = .arr items ∧ v ∈ items := by
  cases j with
  | obj members =>
    obtain ⟨⟨k, w⟩, hm, rfl⟩ := List.mem_map.mp h
    obtain ⟨hmem, hname⟩ := List.mem_filter.mp hm
    obtain rfl : k = name := of_decide_eq_true hname
    exact .inl ⟨members, rfl, hmem⟩
  | arr items =>
    obtain ⟨⟨k, w⟩, hm, rfl⟩ := List.mem_map.mp h
    exact .inr ⟨items, rfl, (List.of_mem_zip (List.mem_filter.mp hm).1).2⟩
  | null | bool | int | real | str | illFormed => cases h

theorem Exact.of_mem_valuesOf (hj : Exact j) (h : v ∈ valuesOf names name j) : Exact v := by
  rcases mem_valuesOf h with ⟨members, rfl, hm⟩ | ⟨items, rfl, hv⟩
  · cases hj with
    | obj _ hmembers => exact hmembers _ hm
  · cases hj with
    | arr hitems => exact hitems v hv

theorem Exact.of_mem_valuesAt {path : List (List String × String)} (hj : Exact j)
    (h : v ∈ valuesAt path j) : Exact v := by
  induction path generalizing j with
  | nil => exact List.mem_singleton.mp h ▸ hj
  | cons step path ih =>
    obtain ⟨w, hw, hv⟩ := List.mem_flatMap.mp h
    exact ih (hj.of_mem_valuesOf hw) hv

theorem Within.of_mem_valuesOf (hj : Within depth j) (h : v ∈ valuesOf names name j) :
    Within (depth + 1) v := by
  rcases mem_valuesOf h with ⟨members, rfl, hm⟩ | ⟨items, rfl, hv⟩
  · cases hj with
    | obj _ hmembers => exact hmembers _ hm
  · cases hj with
    | arr _ hitems => exact hitems v hv

/-! ### Open records -/

/-- Members that an open record can keep within `depth` open containers: they name none of its
fields, and their values are settled and can stand there. -/
structure Kept (names : List String) (depth : Nat) (extra : SortedMap String Json) : Prop where
  /-- No member names a field. -/
  unnamed : ∀ e ∈ extra.entries, e.1 ∉ names
  /-- The values are what they denote. -/
  settled : ∀ e ∈ extra.entries, settled? e.2 = some e.2
  /-- The values can stand where they are. -/
  fits : ∀ e ∈ extra.entries, Fits depth e.2

theorem kept_empty (names : List String) (depth : Nat) : Kept names depth ∅ :=
  ⟨List.forall_mem_nil _, List.forall_mem_nil _, List.forall_mem_nil _⟩

section OpenRecords

variable {values : List (Option Json)} {extra : SortedMap String Json}

/-- Where the members come from that an open record keeps. -/
theorem origin_of_openFields? (h : j.openFields? names = some (values, extra)) {e : String × Json}
    (he : e ∈ extra.entries) :
    ∃ members, j = .obj members ∧ ∃ m ∈ members, m.1 ∉ names ∧ m.1 = e.1 ∧
      settled? m.2 = some e.2 := by
  obtain ⟨members, rfl, _, others, hothers, rfl⟩ := openFields?_eq_some_iff.mp h
  obtain ⟨m, hm, hname, hvalue⟩ := (settledMembers?_eq_some.mp hothers).origin he
  obtain ⟨hm, hunnamed⟩ := List.mem_filter.mp hm
  exact ⟨members, rfl, m, hm, by simpa using hunnamed, hname, hvalue⟩

/-- What an exact document has beside the fields of an open record can be kept. -/
theorem kept_of_openFields? (hj : Exact j) (hdepth : Within depth j)
    (h : j.openFields? names = some (values, extra)) : Kept names (depth + 1) extra where
  unnamed e he := by
    obtain ⟨_, _, m, _, hunnamed, hname, _⟩ := origin_of_openFields? h he
    exact hname ▸ hunnamed
  settled e he := by
    obtain ⟨_, _, m, _, _, _, hvalue⟩ := origin_of_openFields? h he
    exact settled?_settled hvalue
  fits e he := by
    obtain ⟨members, rfl, m, hm, _, _, hvalue⟩ := origin_of_openFields? h he
    cases hj with
    | obj _ hmembers =>
      cases hdepth with
      | obj _ hwithin => exact fits_of_settled? (hmembers m hm) (hwithin m hm) hvalue

/-- **Reading an open record.**  The values that are read are those the document has. -/
theorem valuesOf_of_openFields? (h : j.openFields? names = some (values, extra)) :
    names.map (fun n => j.valuesOf names n) = values.map Option.toList := by
  obtain ⟨members, rfl, hvalues, _⟩ := openFields?_eq_some_iff.mp h
  exact valuesOf_of_members names hvalues

/-- **Unnamed fields.**  An open record keeps every field it does not name with the value it had,
and no other field. -/
theorem valuesOf_unnamed (hj : Exact j) (h : j.openFields? names = some (values, extra))
    (hname : name ∉ names) :
    List.Forall₂ Same (j.valuesOf names name) (extra.get? name).toList := by
  obtain ⟨members, rfl, _, others, hothers, rfl⟩ := openFields?_eq_some_iff.mp h
  have hothers := settledMembers?_eq_some.mp hothers
  cases hj with
  | obj hnames hmembers =>
    -- Only the members of this name matter, and they are among those that are kept.
    have hkept : members.filter (fun m => m.1 = name) =
        (members.filter fun m => !names.contains m.1).filter (fun m => m.1 = name) := by
      rw [List.filter_filter]
      refine List.filter_congr fun m _ => ?_
      by_cases heq : m.1 = name
      · simp [heq, hname]
      · simp [heq]
    have hpairs : KeptAs (members.filter fun m => m.1 = name)
        (others.filter fun e => e.1 = name) := by
      rw [hkept]
      exact List.rel_filter (fun m e h => by simp [h.1]) hothers
    have hsame : List.Forall₂ Same (valuesOf names name (.obj members))
        ((others.filter fun e => e.1 = name).map (·.2)) :=
      forall₂_weaken hpairs.sameValues fun w hw _ h =>
        same_of_settled? ((Exact.obj hnames hmembers).of_mem_valuesOf hw) h
    -- The map holds at most one of them.
    have hperm : (((SortedMap.ofList others).get? name).toList).Perm
        ((others.filter fun e => e.1 = name).map (·.2)) := by
      rw [← SortedMap.filter_entries]
      have hnodup : (others.map (·.1)).Nodup :=
        hothers.sameNames ▸ (List.filter_sublist.map _).nodup hnames
      exact ((SortedMap.ofList_perm hnodup).filter _).map _
    cases hget : (SortedMap.ofList others).get? name with
    | none =>
      rw [hget, Option.toList_none, List.nil_perm] at hperm
      rw [hperm] at hsame
      exact hsame
    | some w =>
      rw [hget, Option.toList_some, List.singleton_perm] at hperm
      rw [← hperm] at hsame
      exact hsame

variable {fields : List (String × Option Json)}

/-- The value of a field among several with names of their own. -/
theorem find?_of_mem (h : (fields.map (·.1)).Nodup) {f : String × Option Json} (hf : f ∈ fields) :
    SortedMap.find? f.1 fields = some f.2 := by
  induction fields with
  | nil => cases hf
  | cons g fields ih =>
    obtain ⟨hg, hfields⟩ := List.nodup_cons.mp h
    rcases List.mem_cons.mp hf with rfl | hf
    · exact if_pos rfl
    · have hne : f.1 ≠ g.1 := fun heq => hg (List.mem_map.mpr ⟨f, hf, heq⟩)
      exact (if_neg hne).trans (ih hfields hf)

/-- A member that names no field is none of those written for the fields. -/
theorem filter_written_unnamed (hname : name ∉ fields.map (·.1)) :
    (written fields).filter (fun m => m.1 = name) = [] :=
  List.filter_eq_nil_iff.mpr fun _ hm heq => hname
    (List.mem_map.mpr ⟨_, mem_written.mp hm, of_decide_eq_true heq⟩)

theorem filter_extra_named (hextra : Kept names depth extra) (hname : name ∈ names) :
    extra.entries.filter (fun m => m.1 = name) = [] :=
  List.filter_eq_nil_iff.mpr fun m hm heq =>
    hextra.unnamed m hm (of_decide_eq_true heq ▸ hname)

/-- **Open records.**  What is written for an open record is read as its fields and what it
keeps. -/
theorem openFields?_written (hnames : fields.map (·.1) = names) (hnodup : names.Nodup)
    (hextra : Kept names depth extra) :
    (obj (written fields ++ extra.entries)).openFields? names =
      some (fields.map (·.2), extra) := by
  subst hnames
  refine openFields?_eq_some_iff.mpr ⟨_, rfl, ?_, extra.entries, ?_, extra.ofList_entries⟩
  · rw [mapM_eq_some_iff, List.map_map, List.map_map]
    refine List.map_congr_left fun f hf => member?_eq_some_iff.mpr ?_
    rw [List.filter_append, filter_extra_named hextra (List.mem_map_of_mem hf), List.append_nil,
      filter_written hnodup, find?_of_mem hnodup hf]
    rfl
  · -- The members that name no field are those that are kept.
    have hwritten : (written fields).filter
        (fun m => !(fields.map (·.1)).contains m.1) = [] :=
      List.filter_eq_nil_iff.mpr fun m hm => by
        simpa using ⟨m.2, mem_written.mp hm⟩
    have hkept : extra.entries.filter (fun m => !(fields.map (·.1)).contains m.1) = extra.entries :=
      List.filter_eq_self.mpr fun m hm => by simpa using hextra.unnamed m hm
    rw [List.filter_append, hwritten, List.nil_append, hkept]
    exact settledMembers?_eq_some.mpr (keptAs_self hextra.settled)

/-- What is written for an open record can stand where its fields and what it keeps can. -/
theorem fits_openRecord (hdepth : depth < maxDepth)
    (hfields : ∀ f ∈ fields, FieldFits (depth + 1) f.2)
    (hextra : Kept names (depth + 1) extra) :
    Fits depth (obj (written fields ++ extra.entries)) :=
  .obj hdepth fun m hm =>
    (List.mem_append.mp hm).elim (fits_written hfields m) (hextra.fits m)

/-- What an open record with these fields has under a name: the value of the field, or what it keeps
where no field has the name. -/
def heldAt (names : List String) (fields : List (String × Option Json))
    (extra : SortedMap String Json) (name : String) : Option Json :=
  if name ∈ names then (SortedMap.find? name fields).join else extra.get? name

/-- A record whose fields are all absent has nothing under any name. -/
theorem heldAt_absent (h : ∀ f ∈ fields, f.2 = none) (name : String) :
    heldAt names fields ∅ name = none := by
  have hfield : (SortedMap.find? name fields).join = none := by
    induction fields with
    | nil => rfl
    | cons f fields ih =>
      obtain ⟨hf, hfields⟩ := List.forall_mem_cons.mp h
      rw [SortedMap.find?]
      split
      · exact hf
      · exact ih hfields
  rw [heldAt, hfield, SortedMap.get?_emptyCollection, ite_self]

/-- What an open record has under a name is found there in its document. -/
theorem valuesOf_written (hnames : fields.map (·.1) = names) (hnodup : names.Nodup)
    (hextra : Kept names depth extra) (name : String) :
    (obj (written fields ++ extra.entries)).valuesOf names name =
      (heldAt names fields extra name).toList := by
  subst hnames
  rw [valuesOf, List.filter_append, heldAt]
  split
  · next hname =>
    rw [filter_extra_named hextra hname, List.append_nil, filter_written hnodup]
    cases (SortedMap.find? name fields).join <;> rfl
  · next hname =>
    rw [filter_written_unnamed hname, List.nil_append, SortedMap.filter_entries]

end OpenRecords

end CredentialBroker.Json
