import CredentialBroker.Cluster.Access

namespace CredentialBroker

/-!
# Rules that are missing

A required rule counts as covered when each of the triples that it names is allowed by a rule that
exists, and a star in it is looked up like any other name.  That is enough to tell whether the rules
that exist allow all that it allows, of whatever name: a list that covers the star has the star in
it, so it covers every name.

* `Rule.covers_of_covers` — what covers the name of an entry covers all that the entry stands for;
* `Rule.coveredBy_iff` — a rule is covered exactly when the existing rules allow all that it allows;
* `missingRules_exact` — so the rules that are missing are those that allow something more.
-/

namespace Rule

variable {names existing : List String} {n name group resource verb : String} {r e : Rule}

theorem covers_iff : covers names name = true ↔ ∃ n ∈ names, n = name ∨ n = "*" := by
  simp [covers]

theorem covers_of_mem (h : n ∈ names) : covers names n = true := covers_iff.mpr ⟨n, h, .inl rfl⟩

/-- The names in a list that covers one of them as a name cover what that one stands for. -/
theorem covers_of_covers (hn : n = name ∨ n = "*") (h : covers existing n = true) :
    covers existing name = true := by
  rcases hn with rfl | rfl
  · exact h
  · -- Only a star covers the star, and it covers everything.
    obtain ⟨m, hm, hstar⟩ := covers_iff.mp h
    exact covers_iff.mpr ⟨m, hm, .inr (or_self_iff.mp hstar)⟩

theorem allows_iff : r.allows group resource verb = true ↔
    covers r.apiGroups group = true ∧ covers r.resources resource = true ∧
      covers r.verbs verb = true := by
  rw [allows, Bool.and_eq_true, Bool.and_eq_true, and_assoc]

/-- What a rule allows, one of the triples that it names stands for. -/
theorem exists_named (h : r.allows group resource verb = true) :
    ∃ g ∈ r.apiGroups, ∃ s ∈ r.resources, ∃ v ∈ r.verbs, ∀ e : Rule, e.allows g s v = true →
      e.allows group resource verb = true := by
  obtain ⟨hgroup, hresource, hverb⟩ := allows_iff.mp h
  obtain ⟨g, hg, hgroup⟩ := covers_iff.mp hgroup
  obtain ⟨s, hs, hresource⟩ := covers_iff.mp hresource
  obtain ⟨v, hv, hverb⟩ := covers_iff.mp hverb
  refine ⟨g, hg, s, hs, v, hv, fun e he => ?_⟩
  obtain ⟨heg, hes, hev⟩ := allows_iff.mp he
  exact allows_iff.mpr ⟨covers_of_covers hgroup heg, covers_of_covers hresource hes,
    covers_of_covers hverb hev⟩

variable {rules : List Rule}

/-- **Covered rules.**  The triples that a rule names are allowed exactly when all is that the rule
allows. -/
theorem coveredBy_iff : r.coveredBy rules = true ↔
    ∀ group resource verb, r.allows group resource verb = true →
      ∃ e ∈ rules, e.allows group resource verb = true := by
  unfold coveredBy
  simp only [List.all_eq_true, List.any_eq_true]
  constructor
  · intro h group resource verb hallows
    obtain ⟨g, hg, s, hs, v, hv, hstands⟩ := exists_named hallows
    obtain ⟨e, he, hallowed⟩ := h g hg s hs v hv
    exact ⟨e, he, hstands e hallowed⟩
  · intro h g hg s hs v hv
    exact h g s v (allows_iff.mpr ⟨covers_of_mem hg, covers_of_mem hs, covers_of_mem hv⟩)

/-- The rule allows something that none of the others does. -/
def Exceeds (r : Rule) (rules : List Rule) : Prop :=
  ∃ group resource verb, r.allows group resource verb = true ∧
    ∀ e ∈ rules, e.allows group resource verb = false

theorem coveredBy_eq_false_iff : r.coveredBy rules = false ↔ r.Exceeds rules := by
  rw [← Bool.not_eq_true, coveredBy_iff]
  simp [Exceeds]

instance : Decidable (r.Exceeds rules) := decidable_of_iff _ coveredBy_eq_false_iff

end Rule

/-- **Missing rules.**  They are the required rules that allow something which no existing rule
allows, in their order and each as often as it is required; and none is missing exactly when the
existing rules allow all that the required ones do. -/
theorem missingRules_exact (existing required : List Rule) :
    (∀ r ∈ required, r ∈ missingRules existing required ↔
      ∃ group resource verb, r.allows group resource verb = true ∧
        ∀ e ∈ existing, e.allows group resource verb = false) ∧
    missingRules existing required = required.filter (fun r => r.Exceeds existing) ∧
    (missingRules existing required = [] ↔
      ∀ group resource verb, (∃ r ∈ required, r.allows group resource verb = true) →
        ∃ e ∈ existing, e.allows group resource verb = true) := by
  have hfilter :
      missingRules existing required = required.filter (fun r => r.Exceeds existing) := by
    refine List.filter_congr fun r _ => ?_
    rw [Bool.eq_iff_iff, Bool.not_eq_true', decide_eq_true_iff]
    exact Rule.coveredBy_eq_false_iff
  refine ⟨fun r hr => ?_, hfilter, ?_⟩
  · rw [hfilter, List.mem_filter, decide_eq_true_iff]
    exact and_iff_right hr
  · unfold missingRules
    simp only [List.filter_eq_nil_iff, Bool.not_eq_true', Bool.not_eq_false, Rule.coveredBy_iff]
    constructor
    · rintro h group resource verb ⟨r, hr, hallows⟩
      exact h r hr group resource verb hallows
    · intro h r hr group resource verb hallows
      exact h group resource verb ⟨r, hr, hallows⟩

/-- Two rules cover one between them, and neither of them covers the star. -/
example : missingRules [⟨["*"], ["jobs"], ["get"]⟩, ⟨["batch"], ["pods"], ["*"]⟩]
    [⟨["batch"], ["jobs", "pods"], ["get"]⟩, ⟨["batch"], ["*"], ["get"]⟩] =
      [⟨["batch"], ["*"], ["get"]⟩] := by decide

end CredentialBroker
