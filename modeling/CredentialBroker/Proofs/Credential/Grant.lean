import CredentialBroker.Credential.Grant
import CredentialBroker.Proofs.Json.Record

namespace CredentialBroker.StoredGrant

/-!
# What is stored of a grant

* `read?_document` — the document that is stored of a grant holds that grant;
* `heldIn_union` — data into which the entries of a grant are merged holds that grant and nothing of
  another one.
-/

variable {g : StoredGrant} {data : SortedMap String Bytes}

/-! ### The document -/

/-- The document of a grant is one that can be read back. -/
theorem fits_toJson (g : StoredGrant) : Json.Fits 0 g.toJson := by
  have hscopes : Json.Fits 1 (Json.texts g.scopes) := Json.fits_list (by decide) .str g.scopes
  refine .obj (by decide) fun m hm => ?_
  simp only [List.mem_cons, List.not_mem_nil, or_false] at hm
  rcases hm with rfl | rfl | rfl | rfl | rfl | rfl | rfl
  · exact .str _
  · exact .str _
  · exact .str _
  · exact .str _
  · exact .str _
  · exact hscopes
  · exact .str _

theorem ofJson?_toJson (g : StoredGrant) : ofJson? g.toJson = some g := by
  have hfields : g.toJson.fields? fieldNames = some [some (.str g.token),
      some (.str g.refreshToken), some (.str g.tokenUri), some (.str g.clientId),
      some (.str g.clientSecret), some (Json.texts g.scopes), some (.str g.expiry)] := rfl
  have hscopes : Json.required (Json.list? Json.text?) (some (Json.texts g.scopes)) =
      some g.scopes := Json.list?_texts g.scopes
  unfold ofJson?
  rw [hfields]
  simp only [Option.bind_eq_bind, Option.bind_some, hscopes]
  rfl

/-- **Documents of grants.**  What is stored of a grant is read as that grant. -/
theorem read?_document (g : StoredGrant) : (Json.read? g.document).bind ofJson? = some g := by
  rw [document, Json.read?_pretty g.fits_toJson, Option.bind_some, ofJson?_toJson]

/-! ### The entries -/

theorem get?_entries (g : StoredGrant) :
    g.entries.get? documentKey = some g.document ∧
      g.entries.get? accessTokenKey = some (Text.utf8 g.token) ∧
      g.entries.get? refreshTokenKey = some (Text.utf8 g.refreshToken) := by
  unfold entries SortedMap.ofList
  simp only [SortedMap.get?_insertMany]
  exact ⟨rfl, rfl, rfl⟩

/-- Data holds a grant: its document, and its tokens under keys of their own. -/
structure HeldIn (g : StoredGrant) (data : SortedMap String Bytes) : Prop where
  /-- The document is the one that is stored of the grant. -/
  document : data.get? documentKey = some g.document
  /-- The access token is that of the grant. -/
  access : data.get? accessTokenKey = some (Text.utf8 g.token)
  /-- The refresh token is that of the grant, empty when it has none. -/
  refresh : data.get? refreshTokenKey = some (Text.utf8 g.refreshToken)

/-- Whatever data holds, it holds a grant when the entries of that are merged in. -/
theorem heldIn_union (g : StoredGrant) (data : SortedMap String Bytes) :
    g.HeldIn (data.union g.entries) := by
  obtain ⟨hdocument, haccess, hrefresh⟩ := g.get?_entries
  constructor
  · rw [SortedMap.get?_union, hdocument, Option.some_or]
  · rw [SortedMap.get?_union, haccess, Option.some_or]
  · rw [SortedMap.get?_union, hrefresh, Option.some_or]

/-- Under other keys than those of grants, what is merged in does not matter. -/
theorem heldIn_union_other {changes : SortedMap String Bytes}
    (hdocument : changes.get? documentKey = none) (haccess : changes.get? accessTokenKey = none)
    (hrefresh : changes.get? refreshTokenKey = none) :
    g.HeldIn (data.union changes) ↔ g.HeldIn data := by
  have hsame : ∀ {key}, changes.get? key = none → (data.union changes).get? key = data.get? key :=
    fun h => by rw [SortedMap.get?_union, h, Option.none_or]
  constructor
  · rintro ⟨h₁, h₂, h₃⟩
    exact ⟨hsame hdocument ▸ h₁, hsame haccess ▸ h₂, hsame hrefresh ▸ h₃⟩
  · rintro ⟨h₁, h₂, h₃⟩
    exact ⟨(hsame hdocument).trans h₁, (hsame haccess).trans h₂, (hsame hrefresh).trans h₃⟩

end CredentialBroker.StoredGrant
