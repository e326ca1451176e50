import CredentialBroker.SortedMap

namespace CredentialBroker

/-!
# Addresses of objects

An object of the cluster is addressed by its namespace and its name.  Addresses are ordered by
namespace first, so that tables list the objects of a namespace together.
-/

/-- The address of an object. -/
structure ObjectRef where
  /-- The namespace. -/
  ns : String
  /-- The name. -/
  name : String
deriving DecidableEq

namespace ObjectRef

/-- The address in words. -/
def text (r : ObjectRef) : String := r.ns ++ "/" ++ r.name

/-- The order by namespace, then by name. -/
protected def before (a b : ObjectRef) : Prop := a.ns < b.ns ∨ a.ns = b.ns ∧ a.name < b.name

instance : LT ObjectRef := ⟨ObjectRef.before⟩

theorem lt_iff {a b : ObjectRef} : a < b ↔ a.ns < b.ns ∨ a.ns = b.ns ∧ a.name < b.name := Iff.rfl

instance : DecidableLT ObjectRef := fun a b =>
  decidable_of_iff (a.ns < b.ns ∨ a.ns = b.ns ∧ a.name < b.name) lt_iff.symm

instance : LinearKey ObjectRef where
  irrefl a h := by
    rcases lt_iff.mp h with h | ⟨_, h⟩ <;> exact String.lt_irrefl _ h
  trans {a b c} h h' := by
    rw [lt_iff] at *
    rcases h with h | ⟨h, hn⟩ <;> rcases h' with h' | ⟨h', hn'⟩
    · exact .inl (String.lt_trans h h')
    · exact .inl (h' ▸ h)
    · exact .inl (h ▸ h')
    · exact .inr ⟨h.trans h', String.lt_trans hn hn'⟩
  total a b := by
    simp only [lt_iff]
    rcases LinearKey.total a.ns b.ns with h | h | h
    · exact .inl (.inl h)
    · rcases LinearKey.total a.name b.name with h' | h' | h'
      · exact .inl (.inr ⟨h, h'⟩)
      · exact .inr (.inl (by cases a; cases b; simp_all))
      · exact .inr (.inr (.inr ⟨h.symm, h'⟩))
    · exact .inr (.inr (.inl h))

end ObjectRef

end CredentialBroker
