import CredentialBroker.Session.Basic

namespace CredentialBroker

/-!
# What is read off a session

The phase, the end and the job of a session, by the words of its status.

* `Session.phase?_eq_some_iff` — the phase has its word in the status;
* `Session.IsOver`, `Session.isTerminal_iff` — a session is over by one of four words;
* `Session.HasJob`, `Session.hasJob_iff` — the job is the one on record, or else the one named after
  the session.
-/

/-- The words by which a session is over. -/
def Session.lastWords : List String := ["Completed", "Failed", "Stopped", "Error"]

theorem Phase.isTerminal_iff {phase : Phase} :
    phase.isTerminal = true ↔ phase.text ∈ Session.lastWords := by
  cases phase <;> decide

/-- Each of the words is that of a phase. -/
theorem Session.exists_text_of_mem {word : String} (h : word ∈ lastWords) :
    ∃ phase : Phase, phase.text = word := by
  have hall : ∀ word ∈ lastWords, ∃ phase ∈ Phase.all, phase.text = word := by decide
  obtain ⟨phase, _, hphase⟩ := hall word h
  exact ⟨phase, hphase⟩

namespace Session

variable {s : Session} {job : String}

/-! ### Phases -/

theorem phase?_eq_some_iff {phase : Phase} :
    s.phase? = some phase ↔ s.status.phase = some phase.text := by
  unfold phase?
  constructor
  · intro h
    obtain ⟨word, hword, hphase⟩ := Option.bind_eq_some_iff.mp h
    rw [hword, Phase.ofText?_eq_some_iff.mp hphase]
  · intro h
    rw [h]
    exact Phase.ofText?_text phase

/-- The status says that the session is over. -/
def IsOver (s : Session) : Prop := ∃ word ∈ lastWords, s.status.phase = some word

theorem isTerminal_iff : s.isTerminal = true ↔ s.IsOver := by
  unfold isTerminal
  constructor
  · intro h
    cases hphase : s.phase? with
    | none =>
      rw [hphase] at h
      cases h
    | some phase =>
      rw [hphase] at h
      exact ⟨phase.text, Phase.isTerminal_iff.mp h, phase?_eq_some_iff.mp hphase⟩
  · rintro ⟨word, hword, hphase⟩
    obtain ⟨phase, rfl⟩ := exists_text_of_mem hword
    rw [phase?_eq_some_iff.mpr hphase]
    exact Phase.isTerminal_iff.mpr hword

theorem isTerminal_eq_false_iff : s.isTerminal = false ↔ ¬ s.IsOver := by
  rw [← isTerminal_iff, Bool.not_eq_true]

/-- Any other word says that it is not over. -/
theorem not_isOver {word : String} (h : s.status.phase = some word) (hword : word ∉ lastWords) :
    ¬ s.IsOver := by
  rintro ⟨last, hlast, hphase⟩
  obtain rfl : word = last := Option.some.inj (h.symm.trans hphase)
  exact hword hlast

theorem isInteractive_iff : s.isInteractive = true ↔ s.spec.interactive = some true := by
  unfold isInteractive
  cases s.spec.interactive <;> simp

/-! ### Jobs -/

/-- The job of the session has this name: the one on record, without the blanks around it, or the
name of the session with an ending where nothing is on record but blanks. -/
inductive HasJob (s : Session) : String → Prop where
  /-- A name is on record. -/
  | recorded (given : String) (hgiven : s.status.jobName = some given)
    (hname : Text.trim given ≠ "") : HasJob s (Text.trim given)
  /-- No name is. -/
  | unrecorded (hblank : ∀ given, s.status.jobName = some given → Text.trim given = "") :
    HasJob s (s.metadata.name ++ "-job")

theorem HasJob.of_none {name : String} (h : s.status.jobName = none)
    (hname : s.metadata.name = name) : s.HasJob (name ++ "-job") := by
  subst hname
  exact .unrecorded fun _ hgiven => nomatch h.symm.trans hgiven

theorem hasJob_jobName : s.HasJob s.jobName := by
  unfold jobName
  cases hgiven : s.status.jobName with
  | none => exact .of_none hgiven rfl
  | some given =>
    rw [Option.map_some]
    by_cases hname : Text.trim given = ""
    · rw [Option.filter_some_neg (by simpa using hname)]
      refine .unrecorded fun other h => ?_
      rwa [← Option.some.inj (hgiven.symm.trans h)]
    · rw [Option.filter_some_pos (by simpa using hname)]
      exact .recorded given hgiven hname

/-- **The job of a session.**  There is one name for it, and it is the one that is read. -/
theorem hasJob_iff : s.HasJob job ↔ job = s.jobName := by
  constructor
  · intro h
    unfold jobName
    cases h with
    | recorded given hgiven hname =>
      rw [hgiven, Option.map_some, Option.filter_some_pos (by simpa using hname)]
      rfl
    | unrecorded hblank =>
      cases hgiven : s.status.jobName with
      | none => rfl
      | some given =>
        rw [Option.map_some, Option.filter_some_neg (by simpa using hblank given hgiven)]
        rfl
  · rintro rfl
    exact hasJob_jobName

end Session

end CredentialBroker
