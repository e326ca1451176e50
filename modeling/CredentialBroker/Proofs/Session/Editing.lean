import CredentialBroker.Proofs.Session.Carried
import CredentialBroker.Rest.Client

namespace CredentialBroker

/-!
# Sessions survive being read, edited and written

A session belongs to a reconciler outside of this program, which reads its document, changes what it
knows of it, and sends the whole back (`Session.Edit`).

* `Session.Part` — the four open records, with what a document has and what a session holds under a
  name of each;
* `Session.Part.carried` — a session holds what is to be written of what its document has;
* `Session.Part.heldAt_edited` — changes leave alone what is under the names they do not write;
* `Session.edited_survives` — what is sent is read as the changed session, and it has everything
  that the document had beside what was changed (`Session.Preserves`).
-/

open Json (Same Exact)

namespace Session

/-! ### Parts -/

/-- An open record of a session. -/
inductive Part where
  /-- The metadata. -/
  | metadata
  /-- The specification. -/
  | spec
  /-- The user context. -/
  | userContext
  /-- The status. -/
  | status
deriving DecidableEq

/-! ### Edits -/

/-- A change that this program makes to a session. -/
inductive Edit where
  /-- To name the session that is continued. -/
  | parent (name : String)
  /-- To set whether the session waits for input. -/
  | interactive (value : Bool)
  /-- To report a phase with a remark. -/
  | phase (reached : Phase) (message : String)

/-- The session after a change. -/
def Edit.apply (s : Session) : Edit → Session
  | .parent name => s.withParent name
  | .interactive value => s.withInteractive value
  | .phase reached message => s.withPhase reached message

/-- The fields that a change writes. -/
def Edit.fields : Edit → List (Part × String)
  | .parent _ => [(.metadata, "annotations")]
  | .interactive _ => [(.spec, "interactive")]
  | .phase .. => [(.status, "phase"), (.status, "message")]

/-- The session after several changes. -/
def edited (s : Session) (edits : List Edit) : Session := edits.foldl Edit.apply s

/-- What holds of a session and is left alone by each change holds after all of them. -/
theorem edited_induction {P : Session → Prop} {s : Session} {edits : List Edit} (h : P s)
    (hstep : ∀ s, ∀ e ∈ edits, P s → P (e.apply s)) : P (s.edited edits) := by
  induction edits generalizing s with
  | nil => exact h
  | cons e edits ih =>
    obtain ⟨he, hrest⟩ : (∀ s, P s → P (e.apply s)) ∧
        ∀ s, ∀ e ∈ edits, P s → P (e.apply s) :=
      ⟨fun s => hstep s e List.mem_cons_self,
        fun s e he => hstep s e (List.mem_cons_of_mem _ he)⟩
    exact ih (he s h) hrest

/-- Changes leave alone what a session keeps beside its fields. -/
theorem Keeps.edited {s : Session} (h : s.Keeps) (edits : List Edit) : (s.edited edits).Keeps :=
  edited_induction h fun _ e _ h => by
    cases e <;> exact ⟨h.metadata, h.spec, h.userContext, h.status⟩

namespace Part

/-- The names of the fields. -/
def fieldNames : Part → List String
  | .metadata => Metadata.fieldNames
  | .spec => SessionSpec.fieldNames
  | .userContext => UserContext.fieldNames
  | .status => SessionStatus.fieldNames

/-- The fields that are always written. -/
def always : Part → List String
  | .metadata => ["name", "namespace", "uid"]
  | .spec | .userContext | .status => []

/-- Where the part is in the document of a session. -/
def path : Part → List (List String × String)
  | .metadata => [(Session.fieldNames, "metadata")]
  | .spec => [(Session.fieldNames, "spec")]
  | .userContext => userContextPath
  | .status => [(Session.fieldNames, "status")]

/-- What the document of a session has under a name of the part. -/
def valuesOf (p : Part) (name : String) (j : Json) : List Json :=
  (j.valuesAt p.path).flatMap (Json.valuesOf p.fieldNames name)

/-- What a session holds under a name of the part. -/
def heldAt (p : Part) (name : String) (s : Session) : Option Json :=
  match p with
  | .metadata => Json.heldAt Metadata.fieldNames s.metadata.fields s.metadata.extra name
  | .spec => Json.heldAt SessionSpec.fieldNames s.spec.fields s.spec.extra name
  | .userContext =>
    s.spec.userContext.bind fun u => Json.heldAt UserContext.fieldNames u.fields u.extra name
  | .status => Json.heldAt SessionStatus.fieldNames s.status.fields s.status.extra name

variable {j : Json} {s : Session} {name : String}

/-- The user context is found in the document of a session. -/
theorem userContext_toJson (h : s.Keeps) : s.toJson.valuesAt userContextPath =
    (s.spec.userContext.map UserContext.toJson).toList := by
  have hat : s.toJson.valuesOf Session.fieldNames "spec" = [s.spec.toJson] := rfl
  rw [valuesAt_userContextPath hat, SessionSpec.toJson_eq]
  exact Json.valuesOf_written s.spec.names_fields SessionSpec.nodup_fieldNames h.spec "userContext"

/-- What a session holds under a name is found there in its document. -/
theorem valuesOf_toJson (h : s.Keeps) (p : Part) (name : String) :
    p.valuesOf name s.toJson = (p.heldAt name s).toList := by
  cases p with
  | metadata =>
    have hat : s.toJson.valuesAt (path .metadata) = [s.metadata.toJson] := rfl
    rw [valuesOf, hat, List.flatMap_singleton, Metadata.toJson_eq]
    exact Json.valuesOf_written s.metadata.names_fields Metadata.nodup_fieldNames h.metadata name
  | spec =>
    have hat : s.toJson.valuesAt (path .spec) = [s.spec.toJson] := rfl
    rw [valuesOf, hat, List.flatMap_singleton, SessionSpec.toJson_eq]
    exact Json.valuesOf_written s.spec.names_fields SessionSpec.nodup_fieldNames h.spec name
  | userContext =>
    rw [valuesOf, path, userContext_toJson h, heldAt]
    cases hu : s.spec.userContext with
    | none => rfl
    | some u =>
      rw [Option.map_some, Option.toList_some, List.flatMap_singleton, UserContext.toJson_eq]
      exact Json.valuesOf_written u.names_fields UserContext.nodup_fieldNames
        (h.userContext u hu) name
  | status =>
    have hat : s.toJson.valuesAt (path .status) = [s.status.toJson] := rfl
    rw [valuesOf, hat, List.flatMap_singleton, SessionStatus.toJson_eq]
    exact Json.valuesOf_written s.status.names_fields SessionStatus.nodup_fieldNames h.status name

/-- What the document of a session has under a name is held there by the session. -/
theorem carried (hj : Exact j) (h : ofJson? j = some s) (p : Part)
    (hname : (p, name) ≠ (.spec, "userContext")) :
    List.Forall₂ Same (Json.carriedAs p.fieldNames p.always name (p.valuesOf name j))
      (p.heldAt name s).toList := by
  have hfrom := readFrom_of_ofJson? h
  -- A part that is absent has nothing under any name, and nothing is written of it.
  have hnil : ∀ names,
      List.Forall₂ Same (Json.carriedAs names [] name []) (none : Option Json).toList := by
    intro names
    rw [Json.carriedAs]
    split <;> exact .nil
  cases p with
  | metadata =>
    obtain ⟨d, hd, hread⟩ := hfrom.metadata
    have hexact : Exact d := hj.of_mem_valuesOf (hd ▸ List.mem_singleton_self d)
    rw [valuesOf, path, Json.valuesAt_singleton, hd, List.flatMap_singleton]
    exact Metadata.carried hexact hread name
  | spec =>
    rw [valuesOf, path, Json.valuesAt_singleton]
    rcases hfrom.spec with ⟨hd, hspec⟩ | ⟨d, hd, hread⟩
    · have hheld : heldAt .spec name s = none := by
        rw [heldAt, hspec]
        exact Json.heldAt_absent (by decide) name
      rw [hd, List.flatMap_nil, hheld]
      exact hnil _
    · have hexact : Exact d := hj.of_mem_valuesOf (hd ▸ List.mem_singleton_self d)
      rw [hd, List.flatMap_singleton]
      exact SessionSpec.carried hexact hread fun heq => hname (heq ▸ rfl)
  | userContext =>
    rw [valuesOf, path]
    rcases hfrom.userContext with ⟨hnone, hnull⟩ | ⟨d, u, hd, _, hread, hsome⟩
    · have hvalues : (j.valuesAt userContextPath).flatMap
          (Json.valuesOf (fieldNames .userContext) name) = [] :=
        List.flatMap_eq_nil_iff.mpr fun d hd => hnull d hd ▸ rfl
      rw [hvalues, heldAt, hnone]
      exact hnil _
    · have hmem : d ∈ j.valuesAt userContextPath := hd ▸ List.mem_singleton_self d
      rw [userContextPath, Json.valuesAt, List.mem_flatMap] at hmem
      obtain ⟨part, hpart, hmem⟩ := hmem
      rw [Json.valuesAt_singleton] at hmem
      have hexact : Exact d := (hj.of_mem_valuesOf hpart).of_mem_valuesOf hmem
      rw [hd, List.flatMap_singleton, heldAt, hsome]
      exact UserContext.carried hexact hread name
  | status =>
    rw [valuesOf, path, Json.valuesAt_singleton]
    rcases hfrom.status with ⟨hd, hstatus⟩ | ⟨d, hd, hread⟩
    · have hheld : heldAt .status name s = none := by
        rw [heldAt, hstatus]
        exact Json.heldAt_absent (by decide) name
      rw [hd, List.flatMap_nil, hheld]
      exact hnil _
    · have hexact : Exact d := hj.of_mem_valuesOf (hd ▸ List.mem_singleton_self d)
      rw [hd, List.flatMap_singleton]
      exact SessionStatus.carried hexact hread name

/-- A change writes named fields only. -/
theorem mem_fieldNames_of_edit (e : Edit) : ∀ f ∈ e.fields, f.2 ∈ f.1.fieldNames := by
  cases e <;> simp [Edit.fields, fieldNames, Metadata.fieldNames, SessionSpec.fieldNames,
    SessionStatus.fieldNames]

/-- A change leaves alone what is under the names it does not write. -/
theorem heldAt_apply (p : Part) (s : Session) {e : Edit} (h : (p, name) ∉ e.fields) :
    p.heldAt name (e.apply s) = p.heldAt name s := by
  cases e with
  | parent =>
    cases p with
    | metadata =>
      have hne : name ≠ "annotations" := fun heq => h (heq ▸ List.mem_singleton_self _)
      simp [heldAt, Json.heldAt, Edit.apply, withParent, Metadata.fields, SortedMap.find?, hne]
    | spec | userContext | status => rfl
  | interactive =>
    cases p with
    | spec =>
      have hne : name ≠ "interactive" := fun heq => h (heq ▸ List.mem_singleton_self _)
      simp [heldAt, Json.heldAt, Edit.apply, withInteractive, SessionSpec.fields, SortedMap.find?,
        hne]
    | metadata | userContext | status => rfl
  | phase =>
    cases p with
    | status =>
      have hphase : name ≠ "phase" := fun heq => h (heq ▸ List.mem_cons_self)
      have hmessage : name ≠ "message" := fun heq =>
        h (heq ▸ List.mem_cons_of_mem _ (List.mem_singleton_self _))
      simp [heldAt, Json.heldAt, Edit.apply, withPhase, SessionStatus.fields, SortedMap.find?,
        hphase, hmessage]
    | metadata | spec | userContext => rfl

theorem heldAt_edited (p : Part) (s : Session) {edits : List Edit}
    (h : ∀ e ∈ edits, (p, name) ∉ e.fields) :
    p.heldAt name (s.edited edits) = p.heldAt name s :=
  edited_induction (P := fun t => p.heldAt name t = p.heldAt name s) rfl
    fun t _ he ht => (p.heldAt_apply t (h _ he)).trans ht

end Part

/-- A change leaves alone what it does not name: the API version and the kind, the user context, and
the annotations but one. -/
structure Untouched (s t : Session) : Prop where
  /-- The API version. -/
  apiVersion : t.apiVersion = s.apiVersion
  /-- The kind. -/
  kind : t.kind = s.kind
  /-- The user context. -/
  userContext : t.spec.userContext = s.spec.userContext
  /-- The annotations. -/
  annotations : ∀ key, key ≠ parentKey →
    t.metadata.annotations.get? key = s.metadata.annotations.get? key

theorem untouched_edited (s : Session) (edits : List Edit) : s.Untouched (s.edited edits) :=
  edited_induction ⟨rfl, rfl, rfl, fun _ _ => rfl⟩ fun t e _ h => by
    cases e with
    | parent name =>
      refine ⟨h.apiVersion, h.kind, h.userContext, fun key hkey => ?_⟩
      exact (SortedMap.get?_insert _ _ _ _).trans ((if_neg hkey).trans (h.annotations key hkey))
    | interactive | phase => exact ⟨h.apiVersion, h.kind, h.userContext, h.annotations⟩

/-! ### Reading, editing and writing -/

/-- Where an annotation is in the document of a session. -/
def annotationPath (key : String) : List (List String × String) :=
  [(fieldNames, "metadata"), (Metadata.fieldNames, "annotations"), ([], key)]

/-- What a document has in common with the one that is written after changes to the session that was
read from it. -/
structure Preserves (edits : List Edit) (j written : Json) : Prop where
  /-- The fields that the types do not name have the values they had, and there are no others. -/
  unnamed : ∀ (p : Part) (name : String), name ∉ p.fieldNames →
    List.Forall₂ Same (p.valuesOf name j) (p.valuesOf name written)
  /-- The fields that no change writes have the values they had; what says nothing is left out. -/
  named : ∀ p : Part, ∀ name ∈ p.fieldNames, (p, name) ≠ (.spec, "userContext") →
    (∀ e ∈ edits, (p, name) ∉ e.fields) →
      List.Forall₂ Same (Json.carried (p.always.contains name) (p.valuesOf name j))
        (p.valuesOf name written)
  /-- There is a user context where there was one. -/
  userContext : written.valuesAt userContextPath ≠ [] ↔
    ∃ d ∈ j.valuesAt userContextPath, d ≠ .null
  /-- The API version and the kind are what they were. -/
  top : ∀ name ∈ ["apiVersion", "kind"],
    List.Forall₂ Same (Json.carried true (j.valuesOf fieldNames name))
      (written.valuesOf fieldNames name)
  /-- The annotations are what they were, but for the one that names the session continued. -/
  annotations : ∀ key, key ≠ parentKey →
    written.valuesAt (annotationPath key) = j.valuesAt (annotationPath key)

variable {j : Json} {s : Session}

theorem carried_part {vs : List Json} {text : String} (h : ReadPart Json.text? "" vs text) :
    List.Forall₂ Same (Json.carried true vs) [.str text] := by
  rcases h with ⟨rfl, rfl⟩ | ⟨d, rfl, hd⟩
  · exact Json.forall₂_same_str ""
  · rw [Json.text?_eq_some hd]
    exact Json.forall₂_same_str text

/-- An annotation that was read is found in the document. -/
theorem annotation_of_ofJson? (hj : Exact j) (h : ofJson? j = some s) (key : String) :
    j.valuesAt (annotationPath key) = ((s.metadata.annotations.get? key).map .str).toList := by
  obtain ⟨annotations, hat, hannotations⟩ := annotations_of_ofJson? h
  have hpath : annotationPath key = annotationsPath ++ [([], key)] := rfl
  rw [hpath, Json.valuesAt_append, hat]
  cases annotations with
  | none =>
    rw [← Option.some.inj hannotations]
    rfl
  | some v =>
    have hmem : v ∈ j.valuesAt annotationsPath := hat ▸ List.mem_singleton_self v
    have hv : Exact v := hj.of_mem_valuesAt hmem
    rw [Option.toList_some, List.flatMap_singleton, Json.valuesAt_singleton]
    exact Json.valuesOf_textMap hv hannotations [] key

/-- An annotation is found in the document that is written. -/
theorem annotation_toJson (h : s.Keeps) (key : String) :
    s.toJson.valuesAt (annotationPath key) =
      ((s.metadata.annotations.get? key).map .str).toList := by
  have hmetadata : s.toJson.valuesOf fieldNames "metadata" = [s.metadata.toJson] := rfl
  have hat : s.metadata.toJson.valuesOf Metadata.fieldNames "annotations" =
      (Json.presentTexts s.metadata.annotations).toList := by
    rw [Metadata.toJson_eq]
    exact Json.valuesOf_written s.metadata.names_fields Metadata.nodup_fieldNames h.metadata
      "annotations"
  rw [annotationPath, Json.valuesAt, hmetadata, List.flatMap_singleton, Json.valuesAt, hat,
    Json.presentTexts]
  split
  · next hempty =>
    have hget : s.metadata.annotations.get? key = none := by
      rw [SortedMap.get?, List.isEmpty_iff.mp hempty, SortedMap.find?]
    rw [hget]
    rfl
  · rw [Option.toList_some, List.flatMap_singleton, Json.valuesAt_singleton]
    exact Json.valuesOf_ofTexts s.metadata.annotations [] key

theorem preserves_edited (hj : Exact j) (h : ofJson? j = some s) (hkeeps : s.Keeps)
    (edits : List Edit) : Preserves edits j (s.edited edits).toJson := by
  have hfrom := readFrom_of_ofJson? h
  have hsame := s.untouched_edited edits
  have hwritten := hkeeps.edited edits
  have hheld := Part.valuesOf_toJson hwritten
  refine ⟨fun p name hname => ?_, fun p name hname hrecord huntouched => ?_, ?_, ?_,
    fun key hkey => ?_⟩
  · have huntouched : ∀ e ∈ edits, (p, name) ∉ e.fields :=
      fun e _ he => hname (Part.mem_fieldNames_of_edit e _ he)
    have hrecord : (p, name) ≠ (.spec, "userContext") := by
      rintro heq
      cases heq
      exact hname (by decide)
    have hcarried := Part.carried hj h p hrecord
    rw [Json.carriedAs, if_neg hname] at hcarried
    rw [hheld, p.heldAt_edited s huntouched]
    exact hcarried
  · have hcarried := Part.carried hj h p hrecord
    rw [Json.carriedAs, if_pos hname] at hcarried
    rw [hheld, p.heldAt_edited s huntouched]
    exact hcarried
  · rw [Part.userContext_toJson hwritten, hsame.userContext]
    rcases hfrom.userContext with ⟨hnone, hnull⟩ | ⟨d, u, hd, hne, _, hsome⟩
    · rw [hnone]
      constructor
      · intro h
        exact absurd rfl h
      · rintro ⟨d, hd, hne⟩
        exact absurd (hnull d hd) hne
    · rw [hsome]
      exact ⟨fun _ => ⟨d, hd ▸ List.mem_singleton_self d, hne⟩, fun _ => List.cons_ne_nil _ _⟩
  · have hversion := carried_part hfrom.apiVersion
    have hkind := carried_part hfrom.kind
    rw [← hsame.apiVersion] at hversion
    rw [← hsame.kind] at hkind
    exact List.forall_mem_cons.mpr ⟨hversion, List.forall_mem_singleton.mpr hkind⟩
  · rw [annotation_toJson hwritten, annotation_of_ofJson? hj h, hsame.annotations key hkey]

/-- **Sessions survive being read, edited and written.**  Let a session be read from octets, be
changed any number of times, and be sent to the cluster.  What is sent is read as the changed
session, and it has everything that the document had beside what was changed. -/
theorem edited_survives {bs : Bytes} (hread : Json.read? bs = some j) (hj : Exact j)
    (h : ofJson? j = some s) (edits : List Edit) (resource : SessionResource) :
    (∀ sent ∈ [Call.updateSession (s.edited edits), .updateSessionStatus (s.edited edits)],
      Json.read? (RestClient.body (Rest.endpoint resource sent)) = some (s.edited edits).toJson) ∧
    ofJson? (s.edited edits).toJson = some (s.edited edits) ∧
    Preserves edits j (s.edited edits).toJson := by
  have hkeeps := keeps_of_ofJson? hj (Json.within_of_read? hread) h
  have hwritten := hkeeps.edited edits
  have hsent := read?_toJson hwritten
  exact ⟨List.forall_mem_cons.mpr ⟨hsent, List.forall_mem_singleton.mpr hsent⟩,
    ofJson?_toJson hwritten, preserves_edited hj h hkeeps edits⟩

/-- The document of a session with fields of its reconciler, absent and null ones among them. -/
def reconciledDocument : Json :=
  .obj [("kind", .str "AgenticSession"),
    ("metadata", .obj [("name", .str "s"), ("namespace", .str "proj-a"), ("labels", .obj []),
      ("generation", .int 7), ("managedFields", .arr [.obj [("time", .null), ("by", .str "r")]])]),
    ("spec", .obj [("interactive", .null), ("prompt", .str "hello"),
      ("userContext", .obj [("groups", .arr [.str "dev", .null]), ("userId", .str "ann")])]),
    ("status", .obj
      [("phase", .str "Running"), ("conditions", .obj [("b", .null), ("a", .int 1)])])]

/-- A session is continued, made to wait for input, and stopped; its reconciler loses nothing. -/
theorem edited_survives_reconciled : ∃ s, ofJson? reconciledDocument = some s ∧
    let edits : List Edit := [.parent "s0", .interactive true, .phase .stopped "done"]
    ofJson? (s.edited edits).toJson = some (s.edited edits) ∧
    Preserves edits reconciledDocument (s.edited edits).toJson := by
  have hexact : Exact reconciledDocument := by simp +decide [reconciledDocument]
  have hfits : Json.Fits 0 reconciledDocument := by simp +decide [reconciledDocument]
  obtain ⟨s, hs⟩ : ∃ s, ofJson? reconciledDocument = some s := ⟨_, rfl⟩
  exact ⟨s, hs, (edited_survives (Json.read?_compact hfits) hexact hs _ {}).2⟩

end Session

end CredentialBroker
