import CredentialBroker.Proofs.Session.Document

namespace CredentialBroker

/-!
# What is written of what was read

A field of a record is written with the value it had, unless that says nothing (`Json.carried`):
null and maps without texts are left out, and a text that has a default is written even where it was
absent.  Each record of a session holds under every name what is to be written of what its document
has there; for the metadata that is `Metadata.carried`, and so on.
-/

open Json (Same Exact heldAt)

/-! ### What is written of a field -/

namespace Json

/-- Whether a value says nothing: the literal for absence, or an object without members. -/
def saysNothing : Json → Bool
  | .null => true
  | .obj members => members.isEmpty
  | _ => false

/-- What is written of a field that has these values.  A field that is always written is an empty
text where it was absent; any other is left out where it says nothing. -/
def carried (always : Bool) (vs : List Json) : List Json :=
  if always then (if vs.isEmpty then [.str ""] else vs) else vs.filter fun v => !v.saysNothing

variable {o : Option Json}

theorem forall₂_same_str (s : String) : List.Forall₂ Same [.str s] [.str s] := .cons (.str s) .nil

theorem carried_defaulted {s : String} (h : defaulted "" text? o = some s) :
    List.Forall₂ Same (carried true o.toList) [.str s] := by
  cases o with
  | none => cases h; exact forall₂_same_str ""
  | some v => rw [text?_eq_some h]; exact forall₂_same_str s

theorem carried_required {s : String} (h : required text? o = some s) :
    List.Forall₂ Same (carried true o.toList) [.str s] := by
  cases o with
  | none => cases h
  | some v => rw [text?_eq_some h]; exact forall₂_same_str s

theorem carried_text {x : Option String} (h : optional text? o = some x) :
    List.Forall₂ Same (carried false o.toList) (x.map .str).toList := by
  rcases optional_cases h with ⟨rfl, hnull⟩ | ⟨v, s, hv, _, hs, rfl⟩
  · have hnone : carried false o.toList = [] :=
      List.filter_eq_nil_iff.mpr fun v hv => by rw [hnull v hv]; decide
    rw [hnone]
    exact .nil
  · rw [hv, text?_eq_some hs]
    exact forall₂_same_str s

theorem carried_flag {x : Option Bool} (h : optional flag? o = some x) :
    List.Forall₂ Same (carried false o.toList) (x.map .bool).toList := by
  rcases optional_cases h with ⟨rfl, hnull⟩ | ⟨v, b, hv, _, hb, rfl⟩
  · have hnone : carried false o.toList = [] :=
      List.filter_eq_nil_iff.mpr fun v hv => by rw [hnull v hv]; decide
    rw [hnone]
    exact .nil
  · have hvalue : v = .bool b := by
      cases v <;> cases hb
      rfl
    rw [hv, hvalue]
    exact .cons (.bool b) .nil

/-- The names of exact texts are told apart. -/
theorem nodup_of_exact {es : List (String × String)}
    (h : Exact (.obj (es.map fun e => (e.1, .str e.2)))) : (es.map (·.1)).Nodup := by
  cases h with
  | obj hnames => simpa [List.map_map, Function.comp_def] using hnames

theorem same_ofTexts {v : Json} {m : SortedMap String String} (hv : Exact v)
    (h : textMap? v = some m) : Same v (ofTexts m) := by
  obtain ⟨es, rfl, rfl⟩ := textMap?_eq_some h
  have horder := (SortedMap.ofList_perm (nodup_of_exact hv)).symm.map
    fun e : String × String => (e.1, Json.str e.2)
  refine .obj rfl (List.forall₂_same.mpr fun w hw => ?_) horder
  obtain ⟨k, t, _, rfl⟩ : ∃ k t, (k, t) ∈ es ∧ Json.str t = w := by
    simpa [List.map_map, Function.comp_def] using hw
  exact .str t

theorem carried_texts {m : SortedMap String String} (ho : ∀ v ∈ o.toList, Exact v)
    (h : defaulted ∅ textMap? o = some m) :
    List.Forall₂ Same (carried false o.toList) (presentTexts m).toList := by
  cases o with
  | none => cases h; exact .nil
  | some v =>
    have hv := ho v (List.mem_singleton_self v)
    have hsame := same_ofTexts hv h
    obtain ⟨es, rfl, rfl⟩ := textMap?_eq_some h
    cases es with
    | nil => exact .nil
    | cons e es =>
      have hpresent : presentTexts (SortedMap.ofList (e :: es)) =
          some (ofTexts (SortedMap.ofList (e :: es))) := by
        refine if_neg fun hempty => ?_
        have hperm := SortedMap.ofList_perm (nodup_of_exact hv)
        rw [List.isEmpty_iff.mp hempty, List.nil_perm] at hperm
        cases hperm
      rw [hpresent]
      exact .cons hsame .nil

/-- A text is found under its name. -/
theorem valuesOf_textMap {v : Json} {m : SortedMap String String} (hv : Exact v)
    (h : textMap? v = some m) (names : List String) (key : String) :
    v.valuesOf names key = ((m.get? key).map .str).toList := by
  obtain ⟨es, rfl, rfl⟩ := textMap?_eq_some h
  have hperm := (((SortedMap.ofList_perm (nodup_of_exact hv)).filter fun e => e.1 = key).map
    (·.2)).map Json.str
  rw [SortedMap.filter_entries] at hperm
  have hvalues : valuesOf names key (.obj (es.map fun e => (e.1, .str e.2))) =
      ((es.filter fun e => e.1 = key).map (·.2)).map Json.str := by
    simp [valuesOf, List.filter_map, List.map_map, Function.comp_def]
  rw [hvalues]
  cases hget : (SortedMap.ofList es).get? key with
  | none =>
    rw [hget] at hperm
    exact (List.nil_perm.mp hperm)
  | some t =>
    rw [hget] at hperm
    exact (List.singleton_perm.mp hperm).symm

theorem valuesOf_ofTexts (m : SortedMap String String) (names : List String) (key : String) :
    (ofTexts m).valuesOf names key = ((m.get? key).map .str).toList := by
  have hvalues : valuesOf names key (ofTexts m) =
      ((m.entries.filter fun e => e.1 = key).map (·.2)).map Json.str := by
    simp [valuesOf, ofTexts, List.filter_map, List.map_map, Function.comp_def]
  rw [hvalues, SortedMap.filter_entries]
  cases m.get? key <;> rfl

/-- What is written for the names of an open record, some of which are always written. -/
def carriedAs (names always : List String) (name : String) (vs : List Json) : List Json :=
  if name ∈ names then carried (always.contains name) vs else vs

/-- What a document has under a name is held under it by the record that is read from it, when that
is so for the fields. -/
theorem forall₂_heldAt {j : Json} {names always : List String} (nested : List String)
    {name : String}
    {values : List (Option Json)} {fields : List (String × Option Json)}
    {extra : SortedMap String Json} (hj : Exact j)
    (hopen : j.openFields? names = some (values, extra)) (hnames : fields.map (·.1) = names)
    (hnodup : names.Nodup)
    (hfields : ∀ f ∈ fields, f.1 ∉ nested →
      List.Forall₂ Same (carried (always.contains f.1) (j.valuesOf names f.1)) f.2.toList)
    (hname : name ∉ nested) :
    List.Forall₂ Same (carriedAs names always name (j.valuesOf names name))
      (heldAt names fields extra name).toList := by
  rw [carriedAs, heldAt]
  split
  · next hmem =>
    rw [← hnames] at hmem hnodup
    obtain ⟨f, hf, rfl⟩ := List.mem_map.mp hmem
    rw [find?_of_mem hnodup hf]
    exact hfields f hf hname
  · next hmem => exact valuesOf_unnamed hj hopen hmem

end Json

/-! ### Records of a session -/

section Records

variable {j : Json}

theorem Metadata.carried {m : Metadata} (hj : Exact j) (h : ofJson? j = some m) (name : String) :
    List.Forall₂ Same
      (Json.carriedAs fieldNames ["name", "namespace", "uid"] name (j.valuesOf fieldNames name))
      (heldAt fieldNames m.fields m.extra name).toList := by
  obtain ⟨_, _, _, _, _, _, hopen, hname, hns, huid, hversion, hlabels, hannotations⟩ :=
    ofJson?_eq_some h
  have hvalues := Json.valuesOf_of_openFields? hopen
  have htexts : ∀ {n} {o : Option Json} {texts}, j.valuesOf fieldNames n = o.toList →
      Json.defaulted ∅ Json.textMap? o = some texts →
      List.Forall₂ Same (Json.carried false o.toList) (Json.presentTexts texts).toList :=
    fun hat => Json.carried_texts fun v hv => hj.of_mem_valuesOf (hat ▸ hv)
  refine Json.forall₂_heldAt [] hj hopen (names_fields _) nodup_fieldNames ?_ List.not_mem_nil
  simp only [fieldNames, List.map_cons, List.map_nil, List.cons.injEq, and_true] at hvalues
  obtain ⟨hnameAt, hnsAt, huidAt, hversionAt, hlabelsAt, hannotationsAt⟩ := hvalues
  simp only [fields, List.forall_mem_cons, fieldNames, hnameAt, hnsAt, huidAt, hversionAt,
    hlabelsAt, hannotationsAt]
  exact ⟨fun _ => Json.carried_required hname, fun _ => Json.carried_defaulted hns,
    fun _ => Json.carried_defaulted huid, fun _ => Json.carried_text hversion,
    fun _ => htexts hlabelsAt hlabels, fun _ => htexts hannotationsAt hannotations,
    List.forall_mem_nil _⟩

theorem UserContext.carried {u : UserContext} (hj : Exact j) (h : ofJson? j = some u)
    (name : String) :
    List.Forall₂ Same (Json.carriedAs fieldNames [] name (j.valuesOf fieldNames name))
      (heldAt fieldNames u.fields u.extra name).toList := by
  obtain ⟨_, hopen, huserId⟩ := ofJson?_eq_some h
  have hvalues := Json.valuesOf_of_openFields? hopen
  refine Json.forall₂_heldAt [] hj hopen (names_fields _) nodup_fieldNames ?_ List.not_mem_nil
  simp only [fieldNames, List.map_cons, List.map_nil, List.cons.injEq, and_true] at hvalues
  simp only [fields, List.forall_mem_cons, fieldNames, hvalues]
  exact ⟨fun _ => Json.carried_text huserId, List.forall_mem_nil _⟩

theorem SessionSpec.carried {s : SessionSpec} (hj : Exact j) (h : ofJson? j = some s)
    {name : String} (hname : name ≠ "userContext") :
    List.Forall₂ Same (Json.carriedAs fieldNames [] name (j.valuesOf fieldNames name))
      (heldAt fieldNames s.fields s.extra name).toList := by
  obtain ⟨_, _, hopen, hinteractive, _⟩ := ofJson?_eq_some h
  have hvalues := Json.valuesOf_of_openFields? hopen
  refine Json.forall₂_heldAt ["userContext"] hj hopen (names_fields _) nodup_fieldNames ?_
    (List.mem_singleton.not.mpr hname)
  simp only [fieldNames, List.map_cons, List.map_nil, List.cons.injEq, and_true] at hvalues
  obtain ⟨hinteractiveAt, _⟩ := hvalues
  simp only [fields, List.forall_mem_cons, fieldNames, hinteractiveAt]
  exact ⟨fun _ => Json.carried_flag hinteractive, fun h => absurd (List.mem_singleton_self _) h,
    List.forall_mem_nil _⟩

theorem SessionStatus.carried {s : SessionStatus} (hj : Exact j) (h : ofJson? j = some s)
    (name : String) :
    List.Forall₂ Same (Json.carriedAs fieldNames [] name (j.valuesOf fieldNames name))
      (heldAt fieldNames s.fields s.extra name).toList := by
  obtain ⟨_, _, _, _, _, hopen, hphase, hmessage, hjobName, hstart, hcompletion⟩ :=
    ofJson?_eq_some h
  have hvalues := Json.valuesOf_of_openFields? hopen
  refine Json.forall₂_heldAt [] hj hopen (names_fields _) nodup_fieldNames ?_ List.not_mem_nil
  simp only [fieldNames, List.map_cons, List.map_nil, List.cons.injEq, and_true] at hvalues
  obtain ⟨hphaseAt, hmessageAt, hjobNameAt, hstartAt, hcompletionAt⟩ := hvalues
  simp only [fields, List.forall_mem_cons, fieldNames, hphaseAt, hmessageAt, hjobNameAt, hstartAt,
    hcompletionAt]
  exact ⟨fun _ => Json.carried_text hphase, fun _ => Json.carried_text hmessage,
    fun _ => Json.carried_text hjobName, fun _ => Json.carried_text hstart,
    fun _ => Json.carried_text hcompletion, List.forall_mem_nil _⟩

end Records

end CredentialBroker
