import CredentialBroker.Proofs.Codec.Base64
import CredentialBroker.Proofs.Effect.Outcome
import CredentialBroker.Proofs.Json.Record
import CredentialBroker.Rest.Client

namespace CredentialBroker

/-!
# Objects survive the way to the cluster and back

The writers put the members of a document in the order of their names; the readers look fields up
and take what is absent by its default.  For each part of a document there are two lemmas: it is
read as it was written (`ofJson?_toJson`), and it can stand in a text (`fits_toJson`).

* `Rest.roleOfJson?_roleToJson`, `Rest.bindingOfJson?_bindingToJson`,
  `Rest.sealedSecretOfJson?_secretToJson` — documents of whole objects;
* `Rest.openSecret_sealed` — the octets of a secret come out of base64 as they went in;
* `RestClient.readAnswer_sent` — an answer whose body is the document that was sent for an object is
  read as that object.
-/

open Json (written fields?_written fits_written)

/-! ### Owners -/

namespace OwnerReference

theorem toJson_eq (o : OwnerReference) : o.toJson = .obj (written
    [("apiVersion", some (.str o.apiVersion)), ("controller", o.controller.map .bool),
     ("kind", some (.str o.kind)), ("name", some (.str o.name)), ("uid", some (.str o.uid))]) :=
  rfl

theorem ofJson?_toJson (o : OwnerReference) : ofJson? o.toJson = some o := by
  have hfields : o.toJson.fields? fieldNames = some [some (.str o.apiVersion), some (.str o.kind),
      some (.str o.name), some (.str o.uid), o.controller.map .bool] :=
    o.toJson_eq ▸ fields?_written (by simp)
  unfold ofJson?
  rw [hfields]
  simp only [Json.optional_flag, Option.bind_eq_bind, Option.bind_some]
  rfl

theorem fits_toJson {depth : Nat} (h : depth < Json.maxDepth) (o : OwnerReference) :
    Json.Fits depth o.toJson :=
  o.toJson_eq ▸ .obj h (fits_written (by simp))

end OwnerReference

/-! ### Rules and subjects -/

namespace Rule

theorem toJson_eq (r : Rule) : r.toJson = .obj (written
    [("apiGroups", some (Json.texts r.apiGroups)), ("resources", some (Json.texts r.resources)),
     ("verbs", some (Json.texts r.verbs))]) :=
  rfl

theorem ofJson?_toJson (r : Rule) : ofJson? r.toJson = some r := by
  have hfields : r.toJson.fields? fieldNames = some [some (Json.texts r.apiGroups),
      some (Json.texts r.resources), some (Json.texts r.verbs)] :=
    r.toJson_eq ▸ fields?_written (by simp)
  have htexts : ∀ xs, Json.defaulted [] (Json.list? Json.text?) (some (Json.texts xs)) = some xs :=
    Json.list?_texts
  unfold ofJson?
  rw [hfields]
  simp only [htexts, Option.bind_eq_bind, Option.bind_some]
  rfl

theorem fits_toJson {depth : Nat} (h : depth + 1 < Json.maxDepth) (r : Rule) :
    Json.Fits depth r.toJson := by
  have htexts : ∀ xs, Json.Fits (depth + 1) (Json.texts xs) := Json.fits_list h .str
  exact r.toJson_eq ▸ .obj (by omega) (fits_written (by simp [htexts]))

end Rule

namespace Rest

theorem subjectToJson_eq (s : Subject) : subjectToJson s = .obj (written
    [("kind", some (.str s.kind)), ("name", some (.str s.name)),
      ("namespace", s.ns.map .str)]) := by
  simp [subjectToJson, written, Json.given]

theorem subjectOfJson?_subjectToJson (s : Subject) :
    subjectOfJson? (subjectToJson s) = some s := by
  have hfields : (subjectToJson s).fields? ["kind", "name", "namespace"] =
      some [some (.str s.kind), some (.str s.name), s.ns.map .str] :=
    subjectToJson_eq s ▸ fields?_written (by simp)
  unfold subjectOfJson?
  rw [hfields]
  simp only [Json.optional_text, Option.bind_eq_bind, Option.bind_some]
  rfl

theorem fits_subjectToJson {depth : Nat} (h : depth < Json.maxDepth) (s : Subject) :
    Json.Fits depth (subjectToJson s) :=
  subjectToJson_eq s ▸ .obj h (fits_written (by simp))

/-! ### Metadata -/

namespace ObjectHeader

/-- The owners in a document, left out when there are none. -/
def presentOwners (owners : List OwnerReference) : Option Json :=
  if owners.isEmpty then none else some (.arr (owners.map OwnerReference.toJson))

theorem defaulted_presentOwners (owners : List OwnerReference) :
    Json.defaulted [] (Json.list? OwnerReference.ofJson?) (presentOwners owners) = some owners := by
  cases owners with
  | nil => rfl
  | cons o owners =>
    exact Json.list?_map OwnerReference.toJson OwnerReference.ofJson?_toJson (o :: owners)

theorem toJson_eq (m : ObjectHeader) : m.toJson = .obj (written
    [("annotations", Json.presentTexts m.annotations), ("labels", Json.presentTexts m.labels),
     ("name", some (.str m.ref.name)), ("namespace", some (.str m.ref.ns)),
     ("ownerReferences", presentOwners m.owners),
     ("resourceVersion", m.resourceVersion.map .str)]) := by
  have howners : (if m.owners.isEmpty then []
      else [("ownerReferences", Json.arr (m.owners.map OwnerReference.toJson))]) =
        Json.given "ownerReferences" (presentOwners m.owners) := by
    unfold presentOwners
    split <;> rfl
  rw [toJson, Json.givenTexts_eq, Json.givenTexts_eq, howners]
  simp [written, Json.given]

theorem ofJson?_toJson (m : ObjectHeader) : ofJson? m.toJson = some m := by
  have hfields : m.toJson.fields? fieldNames = some [some (.str m.ref.name),
      some (.str m.ref.ns), Json.presentTexts m.labels, Json.presentTexts m.annotations,
      presentOwners m.owners, m.resourceVersion.map .str] :=
    m.toJson_eq ▸ fields?_written (by simp)
  unfold ofJson?
  rw [hfields]
  simp only [Json.defaulted_presentTexts, defaulted_presentOwners, Json.optional_text,
    Option.bind_eq_bind, Option.bind_some]
  rfl

theorem fits_toJson {depth : Nat} (h : depth + 2 < Json.maxDepth) (m : ObjectHeader) :
    Json.Fits depth m.toJson := by
  have htexts : ∀ texts, Json.FieldFits (depth + 1) (Json.presentTexts texts) :=
    Json.fieldFits_presentTexts (by omega)
  have howners : Json.FieldFits (depth + 1) (presentOwners m.owners) := by
    unfold presentOwners
    split
    · exact nofun
    · exact Json.fieldFits_some.mpr
        (Json.fits_list (by omega) (OwnerReference.fits_toJson h) m.owners)
  exact m.toJson_eq ▸ .obj (by omega) (fits_written (by simp [htexts, howners]))

end ObjectHeader

/-! ### Roles -/

theorem roleOfJson?_roleToJson (r : Role) : roleOfJson? (roleToJson r) = some r := by
  let header : ObjectHeader :=
    { ref := r.ref, owners := r.owners, resourceVersion := r.resourceVersion }
  have hfields : (roleToJson r).fields? ["metadata", "rules"] =
      some [some header.toJson, some (.arr (r.rules.map Rule.toJson))] := rfl
  have hheader : Json.required ObjectHeader.ofJson? (some header.toJson) = some header :=
    header.ofJson?_toJson
  have hrules : Json.defaulted [] (Json.list? Rule.ofJson?)
      (some (.arr (r.rules.map Rule.toJson))) = some r.rules :=
    Json.list?_map Rule.toJson Rule.ofJson?_toJson r.rules
  unfold roleOfJson?
  rw [hfields]
  simp only [hheader, hrules, Option.bind_eq_bind, Option.bind_some]
  rfl

theorem fits_roleToJson (r : Role) : Json.Fits 0 (roleToJson r) := by
  have hheader : ∀ header : ObjectHeader, Json.Fits 1 header.toJson :=
    ObjectHeader.fits_toJson (by decide)
  have hrules : Json.Fits 1 (.arr (r.rules.map Rule.toJson)) :=
    Json.fits_list (by decide) (Rule.fits_toJson (by decide)) r.rules
  exact .obj (by decide) (by simp [head, hheader, hrules])

/-! ### Role bindings -/

theorem bindingOfJson?_bindingToJson (b : RoleBinding) :
    bindingOfJson? (bindingToJson b) = some b := by
  let header : ObjectHeader :=
    { ref := b.ref, owners := b.owners, resourceVersion := b.resourceVersion }
  let roleRef : Json := .obj [("apiGroup", .str "rbac.authorization.k8s.io"), ("kind", .str "Role"),
    ("name", .str b.roleName)]
  have hfields : (bindingToJson b).fields? ["metadata", "roleRef", "subjects"] =
      some [some header.toJson, some roleRef, some (.arr (b.subjects.map subjectToJson))] := rfl
  have hheader : Json.required ObjectHeader.ofJson? (some header.toJson) = some header :=
    header.ofJson?_toJson
  have hname : Json.required roleNameOfJson? (some roleRef) = some b.roleName := rfl
  have hsubjects : Json.defaulted [] (Json.list? subjectOfJson?)
      (some (.arr (b.subjects.map subjectToJson))) = some b.subjects :=
    Json.list?_map subjectToJson subjectOfJson?_subjectToJson b.subjects
  unfold bindingOfJson?
  rw [hfields]
  simp only [hheader, hname, hsubjects, Option.bind_eq_bind, Option.bind_some]
  rfl

theorem fits_bindingToJson (b : RoleBinding) : Json.Fits 0 (bindingToJson b) := by
  have hheader : ∀ header : ObjectHeader, Json.Fits 1 header.toJson :=
    ObjectHeader.fits_toJson (by decide)
  have hroleRef : Json.Fits 1 (.obj [("apiGroup", .str "rbac.authorization.k8s.io"),
      ("kind", .str "Role"), ("name", .str b.roleName)]) := .obj (by decide) (by simp)
  have hsubjects : Json.Fits 1 (.arr (b.subjects.map subjectToJson)) :=
    Json.fits_list (by decide) (fits_subjectToJson (by decide)) b.subjects
  exact .obj (by decide) (by simp [head, hheader, hroleRef, hsubjects])

/-! ### Secrets -/

/-- Data as it stands in the document of a secret. -/
def sealedData (data : SortedMap String Bytes) : SortedMap String String :=
  data.mapValues (Base64.encodePadded Base64.standard)

/-- The metadata as it stands in the document of a secret. -/
def secretHeader (s : Secret) : ObjectHeader :=
  { ref := s.ref, labels := s.labels, owners := s.owners, resourceVersion := s.resourceVersion }

theorem sealedSecretOfJson?_secretToJson (s : Secret) :
    sealedSecretOfJson? (secretToJson s) = some (secretHeader s, sealedData s.data) := by
  have hfields : (secretToJson s).fields? ["metadata", "data"] =
      some [some (secretHeader s).toJson, some (Json.ofTexts (sealedData s.data))] := rfl
  have hheader : Json.required ObjectHeader.ofJson? (some (secretHeader s).toJson) =
      some (secretHeader s) := (secretHeader s).ofJson?_toJson
  have hdata : Json.defaulted ∅ Json.textMap? (some (Json.ofTexts (sealedData s.data))) =
      some (sealedData s.data) := Json.textMap?_ofTexts _
  unfold sealedSecretOfJson?
  rw [hfields]
  simp only [hheader, hdata, Option.bind_eq_bind, Option.bind_some]
  rfl

theorem fits_secretToJson (s : Secret) : Json.Fits 0 (secretToJson s) := by
  have hheader : ∀ header : ObjectHeader, Json.Fits 1 header.toJson :=
    ObjectHeader.fits_toJson (by decide)
  have hdata : Json.Fits 1 (Json.ofTexts (sealedData s.data)) := Json.fits_ofTexts (by decide) _
  rw [sealedData] at hdata
  exact .obj (by decide) (by simp [head, hheader, hdata])

/-- The octets under each key come out of base64 as they went in. -/
theorem openSecret_sealed (header : ObjectHeader) (data : SortedMap String Bytes) :
    openSecret header (sealedData data) =
      .ok ⟨header.ref, header.labels, data, header.owners, header.resourceVersion⟩ := by
  have hentry : ∀ e : String × Bytes,
      entryOctets (e.1, Base64.encodePadded Base64.standard e.2) = .ok e := by
    intro e
    rw [entryOctets, Base64.decode?_encodePadded Base64.standard_isReadable]
  have hentries : ∀ es : List (String × Bytes),
      (es.map fun e => (e.1, Base64.encodePadded Base64.standard e.2)).mapM entryOctets =
        .ok es := by
    intro es
    induction es with
    | nil => rfl
    | cons e es ih => rw [List.map_cons, List.mapM_cons, hentry, ih]; rfl
  have hopen : (sealedData data).entries.mapM entryOctets = .ok data.entries :=
    hentries data.entries
  rw [openSecret, hopen, Outcome.ok_bind, SortedMap.ofList_entries]
  rfl

end Rest

/-! ### Answers -/

namespace RestClient

open Rest

/-- A document that is sent and comes back is read as what it holds. -/
theorem readDocument_sent {α : Type} {read : Json → Option α} {j : Json} {a : α} {r : Http.Response}
    (w : Wording) (hbody : r.body = Text.utf8 (Json.compact j)) (hfits : Json.Fits 0 j)
    (hread : read j = some a) : readDocument w read r = .ok a := by
  rw [readDocument, hbody, Json.read?_compact hfits, Option.bind_some, hread]

theorem readSecret_sent {s : Secret} {r : Http.Response} (w : Wording)
    (hbody : r.body = Text.utf8 (Json.compact (secretToJson s))) : readSecret w r = .ok s := by
  have hdocument := readDocument_sent w hbody (fits_secretToJson s)
    (sealedSecretOfJson?_secretToJson s)
  rw [readSecret, hdocument, Outcome.ok_bind]
  exact openSecret_sealed (secretHeader s) s.data

/-- An answer with success that carries the document which a call sends. -/
structure Carries (resource : SessionResource) (sent : Call) (r : Http.Response) : Prop where
  /-- The status is one of success. -/
  success : r.isSuccess = true
  /-- The body is the one that is sent. -/
  document : r.body = body (endpoint resource sent)

variable {resource : SessionResource} {sent : Call} {r : Http.Response}

/-- An answer with success is read by what it carries. -/
theorem Carries.readAnswer_eq (h : Carries resource sent r) (call : Call) :
    readAnswer call r = readReply r call := by
  rw [readAnswer, if_pos h.success]

/-- **Objects on the wire.**  An answer that carries what was sent to create or to replace a secret,
a role or a role binding is read as that object, whichever call for such an object it answers. -/
theorem readAnswer_sent (resource : SessionResource) (r : Http.Response) :
    (∀ s : Secret, Carries resource (.createSecret s) r ∨ Carries resource (.updateSecret s) r →
      ∀ ref created updated, readAnswer (.getSecret ref) r = .ok s ∧
        readAnswer (.createSecret created) r = .ok s ∧
        readAnswer (.updateSecret updated) r = .ok s) ∧
    (∀ role : Role, Carries resource (.createRole role) r ∨ Carries resource (.updateRole role) r →
      ∀ ref created updated, readAnswer (.getRole ref) r = .ok role ∧
        readAnswer (.createRole created) r = .ok role ∧
        readAnswer (.updateRole updated) r = .ok role) ∧
    (∀ binding : RoleBinding,
      Carries resource (.createRoleBinding binding) r ∨
        Carries resource (.updateRoleBinding binding) r →
      ∀ ref created updated, readAnswer (.getRoleBinding ref) r = .ok binding ∧
        readAnswer (.createRoleBinding created) r = .ok binding ∧
        readAnswer (.updateRoleBinding updated) r = .ok binding) := by
  refine ⟨fun s h ref created updated => ?_, fun role h ref created updated => ?_,
    fun binding h ref created updated => ?_⟩
  -- To create an object and to replace it, the same document is sent.
  · obtain ⟨hcall, hbody⟩ : (∀ call, readAnswer call r = readReply r call) ∧
        r.body = Text.utf8 (Json.compact (secretToJson s)) := by
      rcases h with h | h <;> exact ⟨h.readAnswer_eq, h.document⟩
    have hsecret : ∀ w, readSecret w r = .ok s := fun w => readSecret_sent w hbody
    rw [hcall, hcall, hcall]
    exact ⟨hsecret _, hsecret _, hsecret _⟩
  · obtain ⟨hcall, hbody⟩ : (∀ call, readAnswer call r = readReply r call) ∧
        r.body = Text.utf8 (Json.compact (roleToJson role)) := by
      rcases h with h | h <;> exact ⟨h.readAnswer_eq, h.document⟩
    have hrole : ∀ w, readDocument w roleOfJson? r = .ok role := fun w =>
      readDocument_sent w hbody (fits_roleToJson role) (roleOfJson?_roleToJson role)
    rw [hcall, hcall, hcall]
    exact ⟨hrole _, hrole _, hrole _⟩
  · obtain ⟨hcall, hbody⟩ : (∀ call, readAnswer call r = readReply r call) ∧
        r.body = Text.utf8 (Json.compact (bindingToJson binding)) := by
      rcases h with h | h <;> exact ⟨h.readAnswer_eq, h.document⟩
    have hbinding : ∀ w, readDocument w bindingOfJson? r = .ok binding := fun w =>
      readDocument_sent w hbody (fits_bindingToJson binding) (bindingOfJson?_bindingToJson binding)
    rw [hcall, hcall, hcall]
    exact ⟨hbinding _, hbinding _, hbinding _⟩

/-- A secret with keys of one, two and three octets and an empty one, owned in both ways, a role and
a role binding with subjects of both forms. -/
theorem readAnswer_sent_samples :
    let owners : List OwnerReference :=
      [⟨"v1", "Pod", "p", "1", none⟩, ⟨"v1", "Job", "j", "2", true⟩]
    let secret : Secret := ⟨⟨"proj-a", "s"⟩, .ofList [("app", "broker")],
      .ofList [("", []), ("one", [255]), ("two", [0, 1]), ("three", [1, 2, 3])], owners, "7"⟩
    let role : Role := ⟨⟨"proj-a", "r"⟩, [⟨[""], ["pods", "pods/log"], ["get"]⟩], owners, none⟩
    let binding : RoleBinding := ⟨⟨"proj-a", "b"⟩, "r",
      [⟨"ServiceAccount", "runner", "proj-a"⟩, ⟨"User", "ann", none⟩], [], none⟩
    let answer (sent : Call) : Http.Response := ⟨200, body (endpoint {} sent)⟩
    readAnswer (.getSecret secret.ref) (answer (.createSecret secret)) = .ok secret ∧
    readAnswer (.getRole role.ref) (answer (.updateRole role)) = .ok role ∧
    readAnswer (.getRoleBinding binding.ref) (answer (.createRoleBinding binding)) =
      .ok binding := by
  intro owners secret role binding answer
  have hcarries : ∀ sent, Carries {} sent (answer sent) := fun _ => ⟨rfl, rfl⟩
  exact ⟨((readAnswer_sent {} _).1 secret (.inl (hcarries _)) secret.ref secret secret).1,
    ((readAnswer_sent {} _).2.1 role (.inr (hcarries _)) role.ref role role).1,
    ((readAnswer_sent {} _).2.2 binding (.inl (hcarries _)) binding.ref binding binding).1⟩

end RestClient

end CredentialBroker
