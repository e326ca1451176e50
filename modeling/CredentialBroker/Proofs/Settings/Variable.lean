import CredentialBroker.Proofs.Text.Numerals
import CredentialBroker.Settings.Variable

namespace CredentialBroker

/-!
# Readers of variables

A variable says a text without blanks around it, or nothing, or what it has is no text.  A reader
looks at some variables in order and is `Faithful` to them: it depends on what they say and on
nothing else, it refuses the first one that does not fit, and it gives a value only when all of them
do.  Readers made of faithful ones are faithful, so that a reader of many variables is put together
from those of each.

* `Environment.said` — what a variable says; `Environment.text?_eq` — all that readers get to see;
* `Variable.Fits` — a variable that must be accepted;
* `Faithful.bind` — one reader after another;
* `faithful_text`, `faithful_number`, `faithful_flag`, `faithful_range` — the readers of one
  variable.
-/

/-- The variable that a refusal names. -/
def SettingsError.key : SettingsError → String
  | .missing key _ | .invalid key _ => key

/-- What a variable says. -/
inductive Said where
  /-- Nothing: it is not set, or blank. -/
  | nothing
  /-- No text: its octets are none. -/
  | garbled
  /-- A text, without the blanks around it. -/
  | text (s : String)
deriving DecidableEq

namespace Environment

variable {α : Type} {env env' : Environment} {key : String}

/-- What a variable of the environment says. -/
def said (env : Environment) (key : String) : Said :=
  match env key with
  | none => .nothing
  | some octets =>
    match Text.ofUtf8? octets with
    | none => .garbled
    | some s => if Text.trim s = "" then .nothing else .text (Text.trim s)

/-- Readers get to see what a variable says, and no more. -/
theorem text?_eq (env : Environment) (key : String) :
    env.text? key = match env.said key with
      | .nothing => .ok none
      | .garbled => .error (.invalid key "value is not valid unicode")
      | .text s => .ok (some s) := by
  unfold text? said
  cases env key with
  | none => rfl
  | some octets =>
    dsimp only
    cases Text.ofUtf8? octets with
    | none => rfl
    | some s =>
      dsimp only
      by_cases hblank : Text.trim s = ""
      · rw [if_pos hblank, hblank]
        rfl
      · rw [if_neg hblank, Option.filter_some, if_pos (by simpa using hblank)]

theorem text?_congr (h : env'.said key = env.said key) : env'.text? key = env.text? key := by
  rw [text?_eq, text?_eq, h]

/-- The value a variable gives: what its text means, or a default when it says nothing. -/
def Gives (env : Environment) (key : String) (Means : String → α → Prop) (d a : α) : Prop :=
  match env.said key with
  | .nothing => a = d
  | .garbled => False
  | .text s => Means s a

/-- What holds of the default and of all that a text can mean holds of the value. -/
theorem Gives.of_forall {Means : String → α → Prop} {d a : α} {P : α → Prop}
    (h : env.Gives key Means d a) (hd : P d) (hmeans : ∀ s b, Means s b → P b) : P a := by
  unfold Gives at h
  split at h
  · exact h ▸ hd
  · cases h
  · next s _ => exact hmeans s a h

/-- A value made of the one that is given. -/
theorem Gives.map {β : Type} {Means : String → α → Prop} {Means' : String → β → Prop} {d a : α}
    {d' : β} {f : α → β} (h : env.Gives key Means d a) (hd : f d = d')
    (hmeans : ∀ s a, Means s a → Means' s (f a)) : env.Gives key Means' d' (f a) := by
  unfold Gives at h ⊢
  split at h
  · rw [h, hd]
  · cases h
  · next s _ => exact hmeans s a h

end Environment

/-! ### Variables that must be accepted -/

/-- A variable with what is accepted of it. -/
structure Variable where
  /-- Its name. -/
  key : String
  /-- The texts that are accepted. -/
  Accepts : String → Prop := fun _ => True
  /-- A variable that may only say something when this one does. -/
  partner : Option String := none

/-- The variable says a text that is accepted, or nothing where it need not say anything. -/
def Variable.Fits (v : Variable) (env : Environment) : Prop :=
  match env.said v.key with
  | .nothing => ∀ partner ∈ v.partner, env.said partner = .nothing
  | .garbled => False
  | .text s => v.Accepts s

/-- The first of some variables that does not fit is the one that a refusal names. -/
def FirstMisfit (vs : List Variable) (env : Environment) (e : SettingsError) : Prop :=
  ∃ before v after, vs = before ++ v :: after ∧ (∀ w ∈ before, w.Fits env) ∧ ¬ v.Fits env ∧
    e.key = v.key

/-- What comes of reading some variables: a value with a property when all of them fit, a refusal of
the first one that does not otherwise. -/
def Accounts {α : Type} (vs : List Variable) (env : Environment) (P : α → Prop) :
    Except SettingsError α → Prop
  | .ok a => (∀ v ∈ vs, v.Fits env) ∧ P a
  | .error e => FirstMisfit vs env e

/-- A reader depends on what some variables say, refuses the first one that does not fit, and gives
values with a property. -/
structure Faithful {α : Type} (vs : List Variable) (r : Environment → Except SettingsError α)
    (P : Environment → α → Prop) : Prop where
  /-- The variables account for what comes of it. -/
  accounts : ∀ env, Accounts vs env (P env) (r env)
  /-- Nothing else does. -/
  alike : ∀ env env' : Environment, (∀ v ∈ vs, env'.said v.key = env.said v.key) → r env' = r env

section Readers

variable {α β : Type} {vs ws : List Variable} {env : Environment} {e : SettingsError}
  {r : Environment → Except SettingsError α} {P : Environment → α → Prop}

theorem FirstMisfit.append_right (h : FirstMisfit vs env e) : FirstMisfit (vs ++ ws) env e := by
  obtain ⟨before, v, after, rfl, hbefore, hmisfit, hkey⟩ := h
  exact ⟨before, v, after ++ ws, by simp, hbefore, hmisfit, hkey⟩

theorem FirstMisfit.append_left (hfits : ∀ v ∈ vs, v.Fits env) (h : FirstMisfit ws env e) :
    FirstMisfit (vs ++ ws) env e := by
  obtain ⟨before, v, after, rfl, hbefore, hmisfit, hkey⟩ := h
  exact ⟨vs ++ before, v, after, by simp, List.forall_mem_append.mpr ⟨hfits, hbefore⟩, hmisfit,
    hkey⟩

theorem firstMisfit_singleton {v : Variable} (h : ¬ v.Fits env) (hkey : e.key = v.key) :
    FirstMisfit [v] env e :=
  ⟨[], v, [], rfl, nofun, h, hkey⟩

theorem Faithful.congr {r' : Environment → Except SettingsError α} (h : Faithful vs r P)
    (hr : ∀ env, r' env = r env) : Faithful vs r' P := by
  obtain rfl : r' = r := funext hr
  exact h

/-- A value that is given without reading. -/
theorem Faithful.pure {a : α} (h : ∀ env, P env a) : Faithful [] (fun _ => Except.ok a) P :=
  ⟨fun env => ⟨nofun, h env⟩, fun _ _ _ => rfl⟩

/-- **One reader after another.**  The second one looks at its variables only when those of the
first one fit. -/
theorem Faithful.bind {Q : Environment → β → Prop} {f : α → Environment → Except SettingsError β}
    (hr : Faithful vs r P) (hf : ∀ a, Faithful ws (f a) fun env b => P env a → Q env b) :
    Faithful (vs ++ ws) (fun env => r env >>= fun a => f a env) Q where
  accounts env := by
    have hfirst := hr.accounts env
    cases hread : r env with
    | error e =>
      rw [hread] at hfirst
      exact hfirst.append_right
    | ok a =>
      rw [hread] at hfirst
      obtain ⟨hfits, ha⟩ := hfirst
      have hsecond := (hf a).accounts env
      show Accounts (vs ++ ws) env (Q env) (f a env)
      cases hnext : f a env with
      | error e =>
        rw [hnext] at hsecond
        exact hsecond.append_left hfits
      | ok b =>
        rw [hnext] at hsecond
        exact ⟨List.forall_mem_append.mpr ⟨hfits, hsecond.1⟩, hsecond.2 ha⟩
  alike env env' h := by
    obtain ⟨hvs, hws⟩ := List.forall_mem_append.mp h
    rw [hr.alike env env' hvs]
    cases r env with
    | error e => rfl
    | ok a => exact (hf a).alike env env' hws

end Readers

/-! ### Readers of one variable -/

/-- A text is what is read. -/
def IsText (s a : String) : Prop := a = s

/-- A text is what is read, and there is one. -/
def IsGiven (s : String) (a : Option String) : Prop := a = some s

/-- A text is a numeral for a number within bounds. -/
def IsNumber (least greatest : Nat) (s : String) (n : Nat) : Prop :=
  Text.IsNumeral s n ∧ least ≤ n ∧ n ≤ greatest

/-- The words for a truth value. -/
def flagWords : Bool → List String
  | true => ["1", "true", "yes", "on"]
  | false => ["0", "false", "no", "off"]

/-- A text is a word for a truth value, whatever the case of its letters. -/
def IsFlag (s : String) (b : Bool) : Prop := Text.lowercase s ∈ flagWords b

namespace Variable

/-- A variable with a number within bounds. -/
def number (key : String) (least greatest : Nat) : Variable :=
  { key, Accepts := fun s => ∃ n, IsNumber least greatest s n }

/-- A variable with a truth value. -/
def flag (key : String) : Variable := { key, Accepts := fun s => ∃ b, IsFlag s b }

end Variable

section One

variable {α : Type} {key : String}

/-- What is read of a variable is told by its text: a refusal that names it when the text means
nothing, or what it means. -/
theorem faithful_of_text? {Accepts : String → Prop} {Means : String → α → Prop} {d : α}
    {f : Option String → Except SettingsError α}
    (haccepts : ∀ s, Accepts s ↔ ∃ a, Means s a) (hnothing : f none = .ok d)
    (hok : ∀ s a, f (some s) = .ok a → Means s a)
    (herror : ∀ s e, f (some s) = .error e → e.key = key ∧ ∀ a, ¬ Means s a) :
    Faithful [{ key, Accepts }] (fun env => env.text? key >>= f)
      fun env => env.Gives key Means d where
  accounts env := by
    rw [Environment.text?_eq]
    cases hsaid : env.said key with
    | nothing =>
      show Accounts _ env _ (f none)
      rw [hnothing]
      refine ⟨?_, ?_⟩
      · simp [Variable.Fits, hsaid]
      · simp [Environment.Gives, hsaid]
    | garbled =>
      refine firstMisfit_singleton ?_ rfl
      simp [Variable.Fits, hsaid]
    | text s =>
      show Accounts _ env _ (f (some s))
      cases hread : f (some s) with
      | ok a =>
        have hmeans : Means s a := hok s a hread
        refine ⟨?_, ?_⟩
        · simpa [Variable.Fits, hsaid] using (haccepts s).mpr ⟨a, hmeans⟩
        · simpa [Environment.Gives, hsaid] using hmeans
      | error e =>
        obtain ⟨hkey, hnone⟩ := herror s e hread
        refine firstMisfit_singleton ?_ hkey
        simpa [Variable.Fits, hsaid, haccepts s] using hnone
  alike env env' h := by
    rw [Environment.text?_congr (h _ List.mem_cons_self)]

/-- A reader that accepts any text. -/
theorem faithful_any (key : String) (f : Option String → α) :
    Faithful [{ key }] (fun env => env.text? key >>= fun found => .ok (f found))
      fun env => env.Gives key (fun s a => a = f (some s)) (f none) :=
  faithful_of_text? (fun _ => ⟨fun _ => ⟨_, rfl⟩, fun _ => trivial⟩) rfl
    (fun _ _ h => (Except.ok.inj h).symm) fun _ _ h => by cases h

theorem faithful_text? (key : String) :
    Faithful [{ key }] (fun env => env.text? key) fun env => env.Gives key IsGiven none := by
  refine (faithful_any key id).congr fun env => ?_
  cases env.text? key <;> rfl

theorem faithful_text (key d : String) :
    Faithful [{ key }] (fun env => env.text key d) fun env => env.Gives key IsText d :=
  faithful_any key (·.getD d)

/-- A number is read or refused, and then it may be out of range, which is refused as well. -/
theorem faithful_range {bound least greatest d : Nat} {Refused : Nat → Prop}
    [DecidablePred Refused] {reason : Nat → String} (hgreatest : greatest ≤ bound)
    (hrange : ∀ n ≤ bound, ¬ Refused n ↔ least ≤ n ∧ n ≤ greatest) (hd : ¬ Refused d) :
    Faithful [.number key least greatest]
      (fun env => env.number key bound d >>= fun n =>
        if Refused n then .error (.invalid key (reason n)) else .ok n)
      fun env => env.Gives key (IsNumber least greatest) d := by
  let f (found : Option String) : Except SettingsError Nat :=
    (match found with
      | none => .ok d
      | some s => (Text.number bound s).mapError fun f => .invalid key f.message) >>= fun n =>
        if Refused n then .error (.invalid key (reason n)) else .ok n
  refine (faithful_of_text? (f := f) (fun _ => Iff.rfl) (if_neg hd) (fun s n h => ?_)
    fun s e h => ?_).congr fun env => ?_
  · obtain ⟨m, hnumber, hm⟩ := Outcome.bind_eq_ok.mp h
    obtain ⟨hnumeral, hle⟩ := Text.number_eq_ok_iff.mp (Outcome.mapError_eq_ok.mp hnumber)
    obtain ⟨hin, hn⟩ := Outcome.check_eq_ok.mp hm
    cases hn
    exact ⟨hnumeral, (hrange _ hle).mp hin⟩
  · -- A numeral within the range would have been read, and not been refused then.
    have hnone : ∀ n, IsNumber least greatest s n → f (some s) = .ok n := fun n hn => by
      obtain ⟨hnumeral, hin⟩ := hn
      have hle : n ≤ bound := Nat.le_trans hin.2 hgreatest
      refine Outcome.bind_eq_ok.mpr ⟨n, ?_, if_neg ((hrange n hle).mpr hin)⟩
      exact Outcome.mapError_eq_ok.mpr (Text.number_eq_ok_iff.mpr ⟨hnumeral, hle⟩)
    refine ⟨?_, fun n hn => by rw [hnone n hn] at h; cases h⟩
    rcases Outcome.bind_eq_error.mp h with hnumber | ⟨m, _, hm⟩
    · obtain ⟨_, _, rfl⟩ := Outcome.mapError_eq_error.mp hnumber
      rfl
    · split at hm
      · cases hm
        rfl
      · cases hm
  · unfold Environment.number
    cases env.text? key with
    | error e => rfl
    | ok found => cases found <;> rfl

/-- Other readers after one of a number within a range. -/
theorem Faithful.range {β : Type} {ws : List Variable} {Q : Environment → β → Prop}
    {bound least greatest d : Nat} {Refused : Nat → Prop} [DecidablePred Refused]
    {reason : Nat → String} {f : Nat → Environment → Except SettingsError β}
    (hgreatest : greatest ≤ bound)
    (hrange : ∀ n ≤ bound, ¬ Refused n ↔ least ≤ n ∧ n ≤ greatest) (hd : ¬ Refused d)
    (hf : ∀ n, Faithful ws (f n) fun env b =>
      env.Gives key (IsNumber least greatest) d n → Q env b) :
    Faithful ([.number key least greatest] ++ ws)
      (fun env => env.number key bound d >>= fun n =>
        if Refused n then .error (.invalid key (reason n)) else f n env) Q := by
  have hread : Faithful [.number key least greatest]
      (fun env => env.number key bound d >>= fun n =>
        if Refused n then .error (.invalid key (reason n)) else .ok n)
      fun env => env.Gives key (IsNumber least greatest) d :=
    faithful_range hgreatest hrange hd
  refine (hread.bind hf).congr fun env => ?_
  cases env.number key bound d with
  | error e => rfl
  | ok n =>
    by_cases h : Refused n
    · simp only [Outcome.ok_bind, if_pos h, Outcome.error_bind]
    · simp only [Outcome.ok_bind, if_neg h]

/-- A number that only has to fit in its word. -/
theorem faithful_number (key : String) (bound d : Nat) :
    Faithful [.number key 0 bound] (fun env => env.number key bound d)
      fun env => env.Gives key (IsNumber 0 bound) d := by
  have hrange : ∀ n ≤ bound, ¬ False ↔ 0 ≤ n ∧ n ≤ bound := fun n hn =>
    ⟨fun _ => ⟨Nat.zero_le n, hn⟩, fun _ => not_false⟩
  have hread : Faithful [.number key 0 bound]
      (fun env => env.number key bound d >>= fun n =>
        if False then .error (.invalid key "") else .ok n)
      fun env => env.Gives key (IsNumber 0 bound) d :=
    faithful_range (Nat.le_refl bound) hrange not_false
  refine hread.congr fun env => ?_
  cases env.number key bound d <;> rfl

/-- No word stands for both truth values. -/
theorem not_mem_flagWords {word : String} (h : word ∈ flagWords true) : word ∉ flagWords false := by
  simp only [flagWords, List.mem_cons, List.not_mem_nil, or_false] at h
  rcases h with rfl | rfl | rfl | rfl <;> decide

theorem flagOf?_eq_some_iff {s : String} {b : Bool} :
    Environment.flagOf? s = some b ↔ IsFlag s b := by
  have hcontains : ∀ b, (flagWords b).contains (Text.lowercase s) = true ↔ IsFlag s b :=
    fun _ => List.contains_iff_mem
  show (if (flagWords true).contains (Text.lowercase s) then some true
    else if (flagWords false).contains (Text.lowercase s) then some false else none) = some b ↔ _
  by_cases htrue : IsFlag s true
  · have hfalse : ¬ IsFlag s false := not_mem_flagWords htrue
    rw [if_pos ((hcontains true).mpr htrue)]
    cases b <;> simp [htrue, hfalse]
  · rw [if_neg (mt (hcontains true).mp htrue)]
    by_cases hfalse : IsFlag s false
    · rw [if_pos ((hcontains false).mpr hfalse)]
      cases b <;> simp [htrue, hfalse]
    · rw [if_neg (mt (hcontains false).mp hfalse)]
      cases b <;> simp [htrue, hfalse]

theorem faithful_flag (key : String) (d : Bool) :
    Faithful [.flag key] (fun env => env.flag key d) fun env => env.Gives key IsFlag d := by
  refine faithful_of_text? (fun _ => Iff.rfl) rfl (fun s b h => ?_) fun s e h => ?_
  · dsimp only at h
    split at h
    · next hflag =>
      cases h
      exact flagOf?_eq_some_iff.mp hflag
    · cases h
  · dsimp only at h
    split at h
    · cases h
    · next hflag =>
      cases h
      refine ⟨rfl, fun b hb => ?_⟩
      rw [flagOf?_eq_some_iff.mpr hb] at hflag
      cases hflag

end One

end CredentialBroker
