import CredentialBroker.Proofs.Effect.Course

namespace CredentialBroker.Program

/-!
# Programs answered by programs

A handler may answer each request of a program by a program of its own, that asks requests of
another signature: a call to the cluster is answered by a client that sends requests through a
network.  `Relayed` ties a course of the program to one of what it becomes that way: the course of
the whole is those of the answers, one after the other.

* `ends_run` — what comes of the whole is what comes of the program, answered by what came of the
  answers;
* `reaches_run` — a request of the whole is one of the answer to a request the program got to.
-/

variable {σ τ : Signature} {α : Type} {h : Handler σ (Program τ)} {asked : List (Answer σ)}
  {past : List (Answer τ)}

/-- The requests of a program with their replies, and the courses of the programs that answered
them, one after the other. -/
inductive Relayed (h : Handler σ (Program τ)) : List (Answer σ) → List (Answer τ) → Prop where
  /-- Nothing is asked. -/
  | nil : Relayed h [] []
  /-- A request is answered by the end of its program. -/
  | cons {x : Answer σ} {asked : List (Answer σ)} {first rest : List (Answer τ)}
      (answer : (h x.request).Ends first x.reply) (others : Relayed h asked rest) :
    Relayed h (x :: asked) (first ++ rest)

theorem relayed_nil : Relayed h [] past ↔ past = [] := by
  constructor
  · rintro ⟨⟩
    rfl
  · rintro rfl
    exact .nil

theorem relayed_cons {x : Answer σ} : Relayed h (x :: asked) past ↔
    ∃ first rest, past = first ++ rest ∧ (h x.request).Ends first x.reply ∧
      Relayed h asked rest := by
  constructor
  · rintro ⟨⟩
    exact ⟨_, _, rfl, ‹_›, ‹_›⟩
  · rintro ⟨first, rest, rfl, answer, others⟩
    exact .cons answer others

theorem relayed_single {x : Answer σ} :
    Relayed h [x] past ↔ (h x.request).Ends past x.reply := by
  rw [relayed_cons]
  constructor
  · rintro ⟨first, rest, rfl, answer, others⟩
    rwa [relayed_nil.mp others, List.append_nil]
  · exact fun answer => ⟨past, [], (List.append_nil past).symm, answer, .nil⟩

/-- **Ends.**  What a program comes to is what it comes to with the replies that its requests got
from the programs that answered them. -/
theorem ends_run {p : Program σ α} {a : α} :
    (p.run h).Ends past a ↔ ∃ asked, p.Ends asked a ∧ Relayed h asked past := by
  induction p generalizing past with
  | done b =>
    constructor
    · intro hends
      obtain ⟨rfl, heq⟩ := course_done.mp hends
      cases heq
      exact ⟨[], .here _, .nil⟩
    · rintro ⟨asked, hends, hrelayed⟩
      obtain ⟨rfl, heq⟩ := course_done.mp hends
      cases heq
      cases hrelayed
      exact .here _
  | ask r next ih =>
    rw [run, ends_bind]
    constructor
    · rintro ⟨reply, first, rest, rfl, hfirst, hrest⟩
      obtain ⟨asked, hends, hrelayed⟩ := (ih reply).mp hrest
      exact ⟨⟨r, reply⟩ :: asked, .ask hends, .cons hfirst hrelayed⟩
    · rintro ⟨asked, hends, hrelayed⟩
      rcases course_ask.mp hends with ⟨_, heq⟩ | ⟨reply, others, rfl, hothers⟩
      · cases heq
      · cases hrelayed with
        | cons hfirst hrest =>
          exact ⟨reply, _, _, rfl, hfirst, (ih reply).mpr ⟨others, hothers, hrest⟩⟩

/-- **Requests.**  What is asked is asked by the answer to a request that the program got to. -/
theorem reaches_run {p : Program σ α} {r : τ.Request} :
    (p.run h).Reaches past r ↔ ∃ asked d before after, past = before ++ after ∧
      p.Reaches asked d ∧ Relayed h asked before ∧ (h d).Reaches after r := by
  induction p generalizing past with
  | done b =>
    constructor
    · rintro ⟨next, hcourse⟩
      cases (course_done.mp hcourse).2
    · rintro ⟨asked, d, before, after, rfl, ⟨next, hcourse⟩, _⟩
      cases (course_done.mp hcourse).2
  | ask d next ih =>
    rw [run, reaches_bind]
    constructor
    · rintro (hfirst | ⟨reply, first, rest, rfl, hfirst, hrest⟩)
      · exact ⟨[], d, [], past, rfl, ⟨next, .here _⟩, .nil, hfirst⟩
      · obtain ⟨asked, d', before, after, rfl, ⟨next', hcourse⟩, hrelayed, hreaches⟩ :=
          (ih reply).mp hrest
        exact ⟨⟨d, reply⟩ :: asked, d', first ++ before, after, (List.append_assoc ..).symm,
          ⟨next', .ask hcourse⟩, .cons hfirst hrelayed, hreaches⟩
    · rintro ⟨asked, d', before, after, rfl, ⟨next', hcourse⟩, hrelayed, hreaches⟩
      rcases course_ask.mp hcourse with ⟨rfl, heq⟩ | ⟨reply, others, rfl, hothers⟩
      · cases heq
        cases hrelayed
        exact .inl hreaches
      · cases hrelayed with
        | cons hfirst hrest =>
          exact .inr ⟨reply, _, _, List.append_assoc .., hfirst,
            (ih reply).mpr ⟨others, d', _, after, rfl, ⟨next', hothers⟩, hrest, hreaches⟩⟩

end CredentialBroker.Program
