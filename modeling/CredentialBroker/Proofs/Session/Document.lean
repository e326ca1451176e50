import CredentialBroker.Proofs.Json.Settled
import CredentialBroker.Session.Document

namespace CredentialBroker

/-!
# Documents of sessions

A session has four open records: its metadata, its specification with the user context, and its
status.  Each of them is written as its fields followed by what it keeps, so it is read as it was
written (`ofJson?_toJson`) wherever what it keeps can be kept (`Session.Keeps`), and that is so when
it was read from an exact document (`Session.keeps_of_ofJson?`).
-/

open Json (written Kept Exact Within FieldFits)

/-! ### Metadata -/

namespace Metadata

/-- The fields of the metadata with their values. -/
def fields (m : Metadata) : List (String × Option Json) :=
  [("name", some (.str m.name)), ("namespace", some (.str m.ns)), ("uid", some (.str m.uid)),
   ("resourceVersion", m.resourceVersion.map .str), ("labels", Json.presentTexts m.labels),
   ("annotations", Json.presentTexts m.annotations)]

theorem names_fields (m : Metadata) : m.fields.map (·.1) = fieldNames := rfl

theorem nodup_fieldNames : fieldNames.Nodup := by decide

theorem toJson_eq (m : Metadata) : m.toJson = .obj (written m.fields ++ m.extra.entries) := by
  rw [toJson, Json.givenTexts_eq, Json.givenTexts_eq]
  simp [written, fields, Json.given]

theorem ofJson?_toJson {depth : Nat} {m : Metadata} (h : Kept fieldNames depth m.extra) :
    ofJson? m.toJson = some m := by
  have hopen : m.toJson.openFields? fieldNames = some (m.fields.map (·.2), m.extra) :=
    m.toJson_eq ▸ Json.openFields?_written (names_fields _) nodup_fieldNames h
  have hlabels := Json.defaulted_presentTexts m.labels
  have hannotations := Json.defaulted_presentTexts m.annotations
  unfold ofJson?
  rw [hopen]
  simp only [fields, List.map_cons, List.map_nil, Option.bind_eq_bind, Option.bind_some,
    hlabels, hannotations, Json.optional_text]
  rfl

theorem fits_toJson {depth : Nat} (hdepth : depth + 1 < Json.maxDepth) {m : Metadata}
    (h : Kept fieldNames (depth + 1) m.extra) : Json.Fits depth m.toJson := by
  have htexts : ∀ texts, FieldFits (depth + 1) (Json.presentTexts texts) :=
    Json.fieldFits_presentTexts hdepth
  exact m.toJson_eq ▸ Json.fits_openRecord (by omega) (by simp [fields, htexts]) h

theorem ofJson?_eq_some {j : Json} {m : Metadata} (h : ofJson? j = some m) :
    ∃ name ns uid resourceVersion labels annotations,
      j.openFields? fieldNames =
        some ([name, ns, uid, resourceVersion, labels, annotations], m.extra) ∧
      Json.required Json.text? name = some m.name ∧
      Json.defaulted "" Json.text? ns = some m.ns ∧
      Json.defaulted "" Json.text? uid = some m.uid ∧
      Json.optional Json.text? resourceVersion = some m.resourceVersion ∧
      Json.defaulted ∅ Json.textMap? labels = some m.labels ∧
      Json.defaulted ∅ Json.textMap? annotations = some m.annotations := by
  obtain ⟨⟨values, extra⟩, hopen, h⟩ := Option.bind_eq_some_iff.mp h
  dsimp only at h
  split at h
  · next name ns uid resourceVersion labels annotations =>
    simp only [Option.bind_eq_bind, Option.bind_eq_some_iff] at h
    obtain ⟨_, hname, _, hns, _, huid, _, hversion, _, hlabels, _, hannotations, h⟩ := h
    cases h
    exact ⟨_, _, _, _, _, _, hopen, hname, hns, huid, hversion, hlabels, hannotations⟩
  · cases h

end Metadata

/-! ### User contexts -/

namespace UserContext

/-- The fields of a user context with their values. -/
def fields (u : UserContext) : List (String × Option Json) := [("userId", u.userId.map .str)]

theorem names_fields (u : UserContext) : u.fields.map (·.1) = fieldNames := rfl

theorem nodup_fieldNames : fieldNames.Nodup := by decide

theorem toJson_eq (u : UserContext) : u.toJson = .obj (written u.fields ++ u.extra.entries) := by
  simp [toJson, written, fields]

theorem ofJson?_toJson {depth : Nat} {u : UserContext} (h : Kept fieldNames depth u.extra) :
    ofJson? u.toJson = some u := by
  have hopen : u.toJson.openFields? fieldNames = some (u.fields.map (·.2), u.extra) :=
    u.toJson_eq ▸ Json.openFields?_written (names_fields _) nodup_fieldNames h
  unfold ofJson?
  rw [hopen]
  simp only [fields, List.map_cons, List.map_nil, Option.bind_eq_bind, Option.bind_some,
    Json.optional_text]
  rfl

theorem fits_toJson {depth : Nat} (hdepth : depth < Json.maxDepth) {u : UserContext}
    (h : Kept fieldNames (depth + 1) u.extra) : Json.Fits depth u.toJson :=
  u.toJson_eq ▸ Json.fits_openRecord hdepth (by simp [fields]) h

theorem ofJson?_eq_some {j : Json} {u : UserContext} (h : ofJson? j = some u) :
    ∃ userId, j.openFields? fieldNames = some ([userId], u.extra) ∧
      Json.optional Json.text? userId = some u.userId := by
  obtain ⟨⟨values, extra⟩, hopen, h⟩ := Option.bind_eq_some_iff.mp h
  dsimp only at h
  split at h
  · next userId =>
    simp only [Option.bind_eq_bind, Option.bind_eq_some_iff] at h
    obtain ⟨_, huserId, h⟩ := h
    cases h
    exact ⟨_, hopen, huserId⟩
  · cases h

theorem toJson_ne_null (u : UserContext) : u.toJson ≠ .null := nofun

end UserContext

/-! ### Specifications -/

namespace SessionSpec

/-- The fields of a specification with their values. -/
def fields (s : SessionSpec) : List (String × Option Json) :=
  [("interactive", s.interactive.map .bool), ("userContext", s.userContext.map UserContext.toJson)]

theorem names_fields (s : SessionSpec) : s.fields.map (·.1) = fieldNames := rfl

theorem nodup_fieldNames : fieldNames.Nodup := by decide

theorem toJson_eq (s : SessionSpec) : s.toJson = .obj (written s.fields ++ s.extra.entries) := by
  simp [toJson, written, fields]

theorem ofJson?_toJson {depth : Nat} {s : SessionSpec} (h : Kept fieldNames depth s.extra)
    (huser : ∀ u, s.userContext = some u → UserContext.ofJson? u.toJson = some u) :
    ofJson? s.toJson = some s := by
  have hopen : s.toJson.openFields? fieldNames = some (s.fields.map (·.2), s.extra) :=
    s.toJson_eq ▸ Json.openFields?_written (names_fields _) nodup_fieldNames h
  have huserContext : Json.optional UserContext.ofJson? (s.userContext.map UserContext.toJson) =
      some s.userContext := by
    cases hcontext : s.userContext with
    | none => rfl
    | some u =>
      rw [Option.map_some, Json.optional, huser u hcontext, Option.map_some]
      exact u.toJson_ne_null
  unfold ofJson?
  rw [hopen]
  simp only [fields, List.map_cons, List.map_nil, Option.bind_eq_bind, Option.bind_some,
    Json.optional_flag, huserContext]
  rfl

theorem fits_toJson {depth : Nat} (hdepth : depth < Json.maxDepth) {s : SessionSpec}
    (h : Kept fieldNames (depth + 1) s.extra)
    (huser : ∀ u, s.userContext = some u → Json.Fits (depth + 1) u.toJson) :
    Json.Fits depth s.toJson := by
  have huserContext : FieldFits (depth + 1) (s.userContext.map UserContext.toJson) := by
    intro v hv
    obtain ⟨u, hu, rfl⟩ := Option.map_eq_some_iff.mp hv
    exact huser u hu
  exact s.toJson_eq ▸ Json.fits_openRecord hdepth (by simp [fields, huserContext]) h

theorem ofJson?_eq_some {j : Json} {s : SessionSpec} (h : ofJson? j = some s) :
    ∃ interactive userContext,
      j.openFields? fieldNames = some ([interactive, userContext], s.extra) ∧
      Json.optional Json.flag? interactive = some s.interactive ∧
      Json.optional UserContext.ofJson? userContext = some s.userContext := by
  obtain ⟨⟨values, extra⟩, hopen, h⟩ := Option.bind_eq_some_iff.mp h
  dsimp only at h
  split at h
  · next interactive userContext =>
    simp only [Option.bind_eq_bind, Option.bind_eq_some_iff] at h
    obtain ⟨_, hinteractive, _, huserContext, h⟩ := h
    cases h
    exact ⟨_, _, hopen, hinteractive, huserContext⟩
  · cases h

end SessionSpec

/-! ### Status -/

namespace SessionStatus

/-- The fields of a status with their values. -/
def fields (s : SessionStatus) : List (String × Option Json) :=
  [("phase", s.phase.map .str), ("message", s.message.map .str), ("jobName", s.jobName.map .str),
   ("startTime", s.startTime.map .str), ("completionTime", s.completionTime.map .str)]

theorem names_fields (s : SessionStatus) : s.fields.map (·.1) = fieldNames := rfl

theorem nodup_fieldNames : fieldNames.Nodup := by decide

theorem toJson_eq (s : SessionStatus) : s.toJson = .obj (written s.fields ++ s.extra.entries) := by
  simp [toJson, written, fields]

theorem ofJson?_toJson {depth : Nat} {s : SessionStatus} (h : Kept fieldNames depth s.extra) :
    ofJson? s.toJson = some s := by
  have hopen : s.toJson.openFields? fieldNames = some (s.fields.map (·.2), s.extra) :=
    s.toJson_eq ▸ Json.openFields?_written (names_fields _) nodup_fieldNames h
  unfold ofJson?
  rw [hopen]
  simp only [fields, List.map_cons, List.map_nil, Option.bind_eq_bind, Option.bind_some,
    Json.optional_text]
  rfl

theorem fits_toJson {depth : Nat} (hdepth : depth < Json.maxDepth) {s : SessionStatus}
    (h : Kept fieldNames (depth + 1) s.extra) : Json.Fits depth s.toJson :=
  s.toJson_eq ▸ Json.fits_openRecord hdepth (by simp [fields]) h

theorem ofJson?_eq_some {j : Json} {s : SessionStatus} (h : ofJson? j = some s) :
    ∃ phase message jobName startTime completionTime,
      j.openFields? fieldNames =
        some ([phase, message, jobName, startTime, completionTime], s.extra) ∧
      Json.optional Json.text? phase = some s.phase ∧
      Json.optional Json.text? message = some s.message ∧
      Json.optional Json.text? jobName = some s.jobName ∧
      Json.optional Json.text? startTime = some s.startTime ∧
      Json.optional Json.text? completionTime = some s.completionTime := by
  obtain ⟨⟨values, extra⟩, hopen, h⟩ := Option.bind_eq_some_iff.mp h
  dsimp only at h
  split at h
  · next phase message jobName startTime completionTime =>
    simp only [Option.bind_eq_bind, Option.bind_eq_some_iff] at h
    obtain ⟨_, hphase, _, hmessage, _, hjobName, _, hstart, _, hcompletion, h⟩ := h
    cases h
    exact ⟨_, _, _, _, _, hopen, hphase, hmessage, hjobName, hstart, hcompletion⟩
  · cases h

end SessionStatus

/-! ### Sessions -/

namespace Session

theorem nodup_fieldNames : fieldNames.Nodup := by decide

/-- What a session keeps beside its fields can be written and read again. -/
structure Keeps (s : Session) : Prop where
  /-- In the metadata. -/
  metadata : Kept Metadata.fieldNames 2 s.metadata.extra
  /-- In the specification. -/
  spec : Kept SessionSpec.fieldNames 2 s.spec.extra
  /-- In the user context. -/
  userContext : ∀ u, s.spec.userContext = some u → Kept UserContext.fieldNames 3 u.extra
  /-- In the status. -/
  status : Kept SessionStatus.fieldNames 2 s.status.extra

/-- **Documents of sessions.**  A session is read as it was written. -/
theorem ofJson?_toJson {s : Session} (h : s.Keeps) : ofJson? s.toJson = some s := by
  have hfields : s.toJson.fields? fieldNames = some [some (.str s.apiVersion), some (.str s.kind),
      some s.metadata.toJson, some s.spec.toJson, some s.status.toJson] := rfl
  have hmetadata : Json.required Metadata.ofJson? (some s.metadata.toJson) = some s.metadata :=
    Metadata.ofJson?_toJson h.metadata
  have hspec : Json.defaulted default SessionSpec.ofJson? (some s.spec.toJson) = some s.spec :=
    SessionSpec.ofJson?_toJson h.spec fun u hu => UserContext.ofJson?_toJson (h.userContext u hu)
  have hstatus : Json.defaulted default SessionStatus.ofJson? (some s.status.toJson) =
      some s.status := SessionStatus.ofJson?_toJson h.status
  unfold ofJson?
  rw [hfields]
  simp only [Option.bind_eq_bind, Option.bind_some, hmetadata, hspec, hstatus]
  rfl

theorem fits_toJson {s : Session} (h : s.Keeps) : Json.Fits 0 s.toJson := by
  have hmetadata : Json.Fits 1 s.metadata.toJson := Metadata.fits_toJson (by decide) h.metadata
  have huser : ∀ u, s.spec.userContext = some u → Json.Fits 2 u.toJson :=
    fun u hu => UserContext.fits_toJson (by decide) (h.userContext u hu)
  have hspec : Json.Fits 1 s.spec.toJson := SessionSpec.fits_toJson (by decide) h.spec huser
  have hstatus : Json.Fits 1 s.status.toJson := SessionStatus.fits_toJson (by decide) h.status
  exact .obj (by decide) (by simp [hmetadata, hspec, hstatus])

/-- The text of a session is read as its document. -/
theorem read?_toJson {s : Session} (h : s.Keeps) :
    Json.read? (Text.utf8 (Json.compact s.toJson)) = some s.toJson :=
  Json.read?_compact (fits_toJson h)

/-- The value of a part that is read from what a document has for it. -/
def ReadPart {α : Type} (read : Json → Option α) (absent : α) (vs : List Json) (a : α) : Prop :=
  vs = [] ∧ a = absent ∨ ∃ d, vs = [d] ∧ read d = some a

theorem readPart_of_defaulted {α : Type} {read : Json → Option α} {absent a : α} {vs : List Json}
    {o : Option Json} (hvs : vs = o.toList) (h : Json.defaulted absent read o = some a) :
    ReadPart read absent vs a := by
  cases o with
  | none => exact .inl ⟨hvs, (Option.some.inj h).symm⟩
  | some d => exact .inr ⟨d, hvs, h⟩

/-- Where the user context is. -/
def userContextPath : List (List String × String) :=
  [(fieldNames, "spec"), (SessionSpec.fieldNames, "userContext")]

/-- A document is the one a session was read from. -/
structure ReadFrom (j : Json) (s : Session) : Prop where
  /-- The API version. -/
  apiVersion : ReadPart Json.text? "" (j.valuesOf fieldNames "apiVersion") s.apiVersion
  /-- The kind. -/
  kind : ReadPart Json.text? "" (j.valuesOf fieldNames "kind") s.kind
  /-- The metadata, which is always there. -/
  metadata : ∃ d, j.valuesOf fieldNames "metadata" = [d] ∧ Metadata.ofJson? d = some s.metadata
  /-- The specification. -/
  spec : ReadPart SessionSpec.ofJson? default (j.valuesOf fieldNames "spec") s.spec
  /-- The user context, for which null stands for absence. -/
  userContext : s.spec.userContext = none ∧ (∀ d ∈ j.valuesAt userContextPath, d = .null) ∨
    ∃ d u, j.valuesAt userContextPath = [d] ∧ d ≠ .null ∧ UserContext.ofJson? d = some u ∧
      s.spec.userContext = some u
  /-- The status. -/
  status : ReadPart SessionStatus.ofJson? default (j.valuesOf fieldNames "status") s.status

theorem valuesAt_userContextPath {j d : Json} (h : j.valuesOf fieldNames "spec" = [d]) :
    j.valuesAt userContextPath = d.valuesOf SessionSpec.fieldNames "userContext" := by
  rw [userContextPath, Json.valuesAt_cons_of_valuesOf h, Json.valuesAt_singleton]

theorem readFrom_of_ofJson? {j : Json} {s : Session} (h : ofJson? j = some s) : ReadFrom j s := by
  obtain ⟨values, hfields, h⟩ := Option.bind_eq_some_iff.mp h
  have hvalues := Json.valuesOf_of_fields? nodup_fieldNames hfields
  split at h
  case h_2 => cases h
  case h_1 apiVersion kind metadata spec status =>
    simp only [Option.bind_eq_bind, Option.bind_eq_some_iff] at h
    obtain ⟨_, hversion, _, hkind, _, hmetadata, specValue, hspec, _, hstatus, h⟩ := h
    cases h
    simp only [fieldNames, List.map_cons, List.map_nil, List.cons.injEq, and_true] at hvalues
    obtain ⟨hversionAt, hkindAt, hmetadataAt, hspecAt, hstatusAt⟩ := hvalues
    have hspec := readPart_of_defaulted hspecAt hspec
    refine ⟨readPart_of_defaulted hversionAt hversion, readPart_of_defaulted hkindAt hkind, ?_,
      hspec, ?_, readPart_of_defaulted hstatusAt hstatus⟩
    · cases metadata with
      | none => cases hmetadata
      | some d => exact ⟨d, hmetadataAt, hmetadata⟩
    · rcases hspec with ⟨hnone, rfl⟩ | ⟨d, hd, hread⟩
      · refine .inl ⟨rfl, fun d hd => ?_⟩
        rw [userContextPath, Json.valuesAt] at hd
        rw [fieldNames, hnone] at hd
        cases hd
      · obtain ⟨interactive, userContext, hopen, _, huser⟩ := SessionSpec.ofJson?_eq_some hread
        have hpair := Json.valuesOf_of_openFields? hopen
        simp only [SessionSpec.fieldNames, List.map_cons, List.map_nil, List.cons.injEq,
          and_true] at hpair
        have hat : j.valuesAt userContextPath = userContext.toList :=
          (valuesAt_userContextPath hd).trans hpair.2
        rw [hat]
        exact Json.optional_cases huser

/-- Where the annotations are. -/
def annotationsPath : List (List String × String) :=
  [(fieldNames, "metadata"), (Metadata.fieldNames, "annotations")]

/-- The annotations of a session are read from what the document has for them. -/
theorem annotations_of_ofJson? {j : Json} {s : Session} (h : ofJson? j = some s) :
    ∃ annotations, j.valuesAt annotationsPath = annotations.toList ∧
      Json.defaulted ∅ Json.textMap? annotations = some s.metadata.annotations := by
  obtain ⟨metadata, hmetadata, hread⟩ := (readFrom_of_ofJson? h).metadata
  obtain ⟨_, _, _, _, _, annotations, hopen, _, _, _, _, _, hannotations⟩ :=
    Metadata.ofJson?_eq_some hread
  have hvalues := Json.valuesOf_of_openFields? hopen
  simp only [Metadata.fieldNames, List.map_cons, List.map_nil, List.cons.injEq, and_true] at hvalues
  refine ⟨annotations, ?_, hannotations⟩
  rw [annotationsPath, Json.valuesAt_cons_of_valuesOf hmetadata, Json.valuesAt_singleton]
  exact hvalues.2.2.2.2.2

/-- So each of them stands in the document, and is the last of its name there. -/
theorem annotated_of_ofJson? {j : Json} {s : Session} {key value : String} (h : ofJson? j = some s)
    (hvalue : s.metadata.annotations.get? key = some value) :
    ∃ d, j.valuesAt annotationsPath = [d] ∧ d.lastMember? key = some (.str value) := by
  obtain ⟨annotations, hat, hannotations⟩ := annotations_of_ofJson? h
  cases annotations with
  | none =>
    rw [← Option.some.inj hannotations] at hvalue
    cases hvalue
  | some d =>
    refine ⟨d, hat, ?_⟩
    rw [Json.lastMember?_of_textMap? hannotations, hvalue]
    rfl

/-- What a session that is read from an exact document keeps can be written and read again. -/
theorem keeps_of_ofJson? {j : Json} {s : Session} (hj : Exact j) (hdepth : Within 0 j)
    (h : ofJson? j = some s) : s.Keeps := by
  have hfrom := readFrom_of_ofJson? h
  -- What is in a field of a part is one level deeper than the part.
  have hpart : ∀ {names name d depth} {part : Json}, Exact part → Within depth part →
      part.valuesOf names name = [d] → Exact d ∧ Within (depth + 1) d := by
    intro names name d depth part hpart hdepth hd
    have hmem : d ∈ part.valuesOf names name := hd ▸ List.mem_singleton_self d
    exact ⟨hpart.of_mem_valuesOf hmem, hdepth.of_mem_valuesOf hmem⟩
  refine ⟨?_, ?_, fun u hu => ?_, ?_⟩
  · obtain ⟨d, hd, hread⟩ := hfrom.metadata
    obtain ⟨_, _, _, _, _, _, hopen, _⟩ := Metadata.ofJson?_eq_some hread
    obtain ⟨hexact, hwithin⟩ := hpart hj hdepth hd
    exact Json.kept_of_openFields? hexact hwithin hopen
  · rcases hfrom.spec with ⟨_, hspec⟩ | ⟨d, hd, hread⟩
    · rw [hspec]; exact Json.kept_empty _ _
    · obtain ⟨_, _, hopen, _⟩ := SessionSpec.ofJson?_eq_some hread
      obtain ⟨hexact, hwithin⟩ := hpart hj hdepth hd
      exact Json.kept_of_openFields? hexact hwithin hopen
  · rcases hfrom.userContext with ⟨hnone, _⟩ | ⟨d, u', hd, _, hread, hsome⟩
    · rw [hnone] at hu; cases hu
    · obtain rfl : u' = u := Option.some.inj (hsome.symm.trans hu)
      obtain ⟨_, hopen, _⟩ := UserContext.ofJson?_eq_some hread
      rcases hfrom.spec with ⟨_, hspec⟩ | ⟨part, hpartAt, _⟩
      · rw [hspec] at hu; cases hu
      · obtain ⟨hexact, hwithin⟩ := hpart hj hdepth hpartAt
        rw [valuesAt_userContextPath hpartAt] at hd
        obtain ⟨hexact, hwithin⟩ := hpart hexact hwithin hd
        exact Json.kept_of_openFields? hexact hwithin hopen
  · rcases hfrom.status with ⟨_, hstatus⟩ | ⟨d, hd, hread⟩
    · rw [hstatus]; exact Json.kept_empty _ _
    · obtain ⟨_, _, _, _, _, hopen, _⟩ := SessionStatus.ofJson?_eq_some hread
      obtain ⟨hexact, hwithin⟩ := hpart hj hdepth hd
      exact Json.kept_of_openFields? hexact hwithin hopen

end Session

end CredentialBroker
