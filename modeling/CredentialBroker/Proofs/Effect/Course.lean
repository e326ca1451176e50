import CredentialBroker.Proofs.Effect.Contract
import CredentialBroker.Proofs.Effect.Outcome

namespace CredentialBroker

/-!
# Courses of programs

The course of a program is the list of the requests it has asked so far, each with the reply it
got.  `Program.Course p past q` says that `p`, answered as in `past`, has become `q`; nothing is
said of who answers, so that a statement about all courses is one about all surroundings, those
that change between two requests as well.

* `Program.course_bind` — a sequence is within its first part, or has that part behind it;
* `Program.Follows.course` — a program that follows a contract has kept to it, and goes on so;
* the rules for the combinators of `Action`, up to `Action.reaches_retried`: a second attempt comes
  after a first one that ended with an error worth another try.
-/

/-- A request and the reply it got. -/
structure Answer (σ : Signature) where
  /-- The request. -/
  request : σ.Request
  /-- The reply. -/
  reply : σ.Reply request

namespace Program

variable {σ : Signature} {α β : Type} {past : List (Answer σ)} {p q : Program σ α}

/-- What a program becomes when its requests are answered one by one. -/
inductive Course {α : Type} : Program σ α → List (Answer σ) → Program σ α → Prop where
  /-- Nothing is asked yet. -/
  | here (p : Program σ α) : Course p [] p
  /-- A request is answered. -/
  | ask {r : σ.Request} {next : σ.Reply r → Program σ α} {reply : σ.Reply r}
      {past : List (Answer σ)} {q : Program σ α} (h : Course (next reply) past q) :
    Course (.ask r next) (⟨r, reply⟩ :: past) q

/-- The program gets to a request. -/
def Reaches (p : Program σ α) (past : List (Answer σ)) (r : σ.Request) : Prop :=
  ∃ next, p.Course past (.ask r next)

/-- The program gets to its end. -/
def Ends (p : Program σ α) (past : List (Answer σ)) (a : α) : Prop := p.Course past (.done a)

theorem course_done {a : α} : (Program.done a).Course past q ↔ past = [] ∧ q = .done a := by
  constructor
  · rintro ⟨⟩
    exact ⟨rfl, rfl⟩
  · rintro ⟨rfl, rfl⟩
    exact .here _

theorem course_ask {r : σ.Request} {next : σ.Reply r → Program σ α} :
    (Program.ask r next).Course past q ↔
      (past = [] ∧ q = .ask r next) ∨
        ∃ reply rest, past = ⟨r, reply⟩ :: rest ∧ (next reply).Course rest q := by
  constructor
  · intro h
    cases h with
    | here => exact .inl ⟨rfl, rfl⟩
    | ask h => exact .inr ⟨_, _, rfl, h⟩
  · rintro (⟨rfl, rfl⟩ | ⟨reply, rest, rfl, h⟩)
    · exact .here _
    · exact .ask h

/-- The next request is answered. -/
theorem Course.answer {r : σ.Request} {next : σ.Reply r → Program σ α}
    (h : p.Course past (.ask r next)) (reply : σ.Reply r) :
    p.Course (past ++ [⟨r, reply⟩]) (next reply) := by
  induction past generalizing p with
  | nil =>
    cases h
    exact .ask (.here _)
  | cons x past ih =>
    cases h with
    | ask h => exact .ask (ih h)

/-- A sequence is within its first part, or has that part behind it. -/
theorem course_bind {p : Program σ β} {f : β → Program σ α} :
    (p >>= f).Course past q ↔
      (∃ p', p.Course past p' ∧ q = p' >>= f) ∨
        ∃ b before after, past = before ++ after ∧ p.Ends before b ∧ (f b).Course after q := by
  induction p generalizing past with
  | done b =>
    rw [done_bind]
    constructor
    · exact fun h => .inr ⟨b, [], past, rfl, .here _, h⟩
    · rintro (⟨p', h, rfl⟩ | ⟨c, before, after, rfl, h, hf⟩)
      · obtain ⟨rfl, rfl⟩ := course_done.mp h
        exact .here _
      · obtain ⟨rfl, hc⟩ := course_done.mp h
        cases hc
        exact hf
  | ask r next ih =>
    rw [ask_bind, course_ask]
    constructor
    · rintro (⟨rfl, rfl⟩ | ⟨reply, rest, rfl, h⟩)
      · exact .inl ⟨_, .here _, rfl⟩
      · rcases (ih reply).mp h with ⟨p', hp, rfl⟩ | ⟨b, before, after, rfl, hp, hf⟩
        · exact .inl ⟨p', .ask hp, rfl⟩
        · exact .inr ⟨b, ⟨r, reply⟩ :: before, after, rfl, .ask hp, hf⟩
    · rintro (⟨p', h, rfl⟩ | ⟨b, before, after, rfl, h, hf⟩)
      · rcases course_ask.mp h with ⟨rfl, rfl⟩ | ⟨reply, rest, rfl, hrest⟩
        · exact .inl ⟨rfl, rfl⟩
        · exact .inr ⟨reply, rest, rfl, (ih reply).mpr (.inl ⟨p', hrest, rfl⟩)⟩
      · rcases course_ask.mp h with ⟨_, hdone⟩ | ⟨reply, rest, rfl, hrest⟩
        · cases hdone
        · exact .inr ⟨reply, rest ++ after, rfl,
            (ih reply).mpr (.inr ⟨b, rest, after, rfl, hrest, hf⟩)⟩

theorem reaches_bind {p : Program σ β} {f : β → Program σ α} {r : σ.Request} :
    (p >>= f).Reaches past r ↔
      p.Reaches past r ∨
        ∃ b before after, past = before ++ after ∧ p.Ends before b ∧ (f b).Reaches after r := by
  unfold Reaches
  simp only [course_bind]
  constructor
  · rintro ⟨next, ⟨p', hp, heq⟩ | ⟨b, before, after, rfl, hp, hf⟩⟩
    · cases p' with
      | done b => exact .inr ⟨b, past, [], (List.append_nil _).symm, hp, next, heq ▸ .here _⟩
      | ask r' next' =>
        cases heq
        exact .inl ⟨next', hp⟩
    · exact .inr ⟨b, before, after, rfl, hp, next, hf⟩
  · rintro (⟨next, hp⟩ | ⟨b, before, after, rfl, hp, next, hf⟩)
    · exact ⟨_, .inl ⟨_, hp, rfl⟩⟩
    · exact ⟨next, .inr ⟨b, before, after, rfl, hp, hf⟩⟩

theorem ends_bind {p : Program σ β} {f : β → Program σ α} {a : α} :
    (p >>= f).Ends past a ↔
      ∃ b before after, past = before ++ after ∧ p.Ends before b ∧ (f b).Ends after a := by
  unfold Ends
  rw [course_bind]
  constructor
  · rintro (⟨p', hp, heq⟩ | h)
    · cases p' with
      | done b => exact ⟨b, past, [], (List.append_nil _).symm, hp, heq ▸ .here _⟩
      | ask r next => cases heq
    · exact h
  · exact .inr

/-- A sequence that an error ends comes to a value when both of its parts do. -/
theorem ends_bind_ok {ε : Type} {a : ExceptT ε (Program σ) β} {f : β → ExceptT ε (Program σ) α}
    {v : α} : Program.Ends (a >>= f).run past (.ok v) ↔
      ∃ b before after, past = before ++ after ∧ Program.Ends a.run before (.ok b) ∧
        Program.Ends (f b).run after (.ok v) := by
  rw [ExceptT.run_bind, ends_bind]
  constructor
  · rintro ⟨x, before, after, rfl, ha, hf⟩
    cases x with
    | ok b => exact ⟨b, before, after, rfl, ha, hf⟩
    | error e => cases (course_done.mp hf).2
  · rintro ⟨b, before, after, rfl, ha, hf⟩
    exact ⟨.ok b, before, after, rfl, ha, hf⟩

/-- The requests of a program that a handler answers, each with its reply, in order. -/
def answers {S : Type} (handler : Handler σ (StateM S)) : Program σ α → S → List (Answer σ)
  | .done _, _ => []
  | .ask r next, s => ⟨r, (handler r s).1⟩ :: (next (handler r s).1).answers handler (handler r s).2

/-- What a handler answers is a course of the program up to its end. -/
theorem ends_answers {S : Type} (handler : Handler σ (StateM S)) (p : Program σ α) (s : S) :
    p.Ends (p.answers handler s) (p.run handler s).1 := by
  induction p generalizing s with
  | done a => exact .here _
  | ask r next ih => exact .ask (ih (handler r s).1 (handler r s).2)

/-- The second part of a sequence is answered where the first one ended. -/
theorem answers_bind {S : Type} (handler : Handler σ (StateM S)) (p : Program σ β)
    (f : β → Program σ α) (s : S) :
    (p >>= f).answers handler s =
      p.answers handler s ++ (f (p.run handler s).1).answers handler (p.run handler s).2 := by
  induction p generalizing s with
  | done b => rfl
  | ask r next ih => exact congrArg _ (ih (handler r s).1 (handler r s).2)

/-- The first request is answered in the state at the beginning. -/
theorem reply_of_answers {S : Type} {handler : Handler σ (StateM S)} {s : S} {x : Answer σ}
    (h : p.answers handler s = x :: past) : x.reply = (handler x.request s).1 := by
  cases p with
  | done a => cases h
  | ask r next =>
    cases h
    rfl

/-- **Courses of contracts.**  A program that follows a contract has asked only what is allowed, as
long as it was answered as the contract says, and goes on the same way. -/
theorem Follows.course {k : Contract σ} {ends : α → Prop} (h : p.Follows k ends)
    (hc : p.Course past q) (hgets : ∀ x ∈ past, k.gets x.request x.reply) :
    (∀ x ∈ past, k.asks x.request) ∧ q.Follows k ends := by
  induction hc with
  | here p => exact ⟨fun _ hx => absurd hx List.not_mem_nil, h⟩
  | @ask r next reply past q hc ih =>
    have hreply : k.gets r reply := hgets ⟨r, reply⟩ List.mem_cons_self
    obtain ⟨hasks, hq⟩ := ih (h.2 reply hreply) fun x hx => hgets x (List.mem_cons_of_mem _ hx)
    refine ⟨fun x hx => ?_, hq⟩
    rcases List.mem_cons.mp hx with rfl | hx
    · exact h.1
    · exact hasks x hx

/-- So it asks only what is allowed. -/
theorem Follows.reaches {k : Contract σ} {ends : α → Prop} {r : σ.Request} (h : p.Follows k ends)
    (hr : p.Reaches past r) (hgets : ∀ x ∈ past, k.gets x.request x.reply) : k.asks r := by
  obtain ⟨next, hc⟩ := hr
  exact (h.course hc hgets).2.1

end Program

namespace Action

variable {ε ε' α β : Type} {past : List (Answer demands)} {r : Demand}

/-- The action gets to a request. -/
def Reaches (a : Action ε α) (past : List (Answer demands)) (r : Demand) : Prop :=
  Program.Reaches (σ := demands) a.run past r

/-- The action gets to its end. -/
def Ends (a : Action ε α) (past : List (Answer demands)) (x : Except ε α) : Prop :=
  Program.Ends (σ := demands) a.run past x

/-! ### Parts without requests -/

theorem not_reaches_done {x : Except ε α} :
    ¬ Program.Reaches (σ := demands) (.done x) past r := by
  rintro ⟨next, h⟩
  cases (Program.course_done.mp h).2

@[simp] theorem not_reaches_pure {v : α} : ¬ (pure v : Action ε α).Reaches past r :=
  not_reaches_done

@[simp] theorem not_reaches_throw {e : ε} : ¬ (throw e : Action ε α).Reaches past r :=
  not_reaches_done

theorem ends_done {x y : Except ε α} :
    Program.Ends (σ := demands) (.done x) past y ↔ past = [] ∧ y = x := by
  unfold Program.Ends
  rw [Program.course_done, Program.done.injEq]

@[simp] theorem ends_pure {v : α} {x : Except ε α} :
    (pure v : Action ε α).Ends past x ↔ past = [] ∧ x = .ok v := ends_done

@[simp] theorem not_reaches_ofExcept {x : Except ε α} : ¬ (ofExcept x).Reaches past r :=
  not_reaches_done

@[simp] theorem ends_ofExcept {x y : Except ε α} :
    (ofExcept x).Ends past y ↔ past = [] ∧ y = x := ends_done

/-! ### Single requests -/

theorem reaches_request (r : Demand) (next : r.Reply → Except ε α) {r' : Demand} :
    Program.Reaches (σ := demands) (.ask r fun reply => .done (next reply)) past r' ↔
      past = [] ∧ r' = r := by
  constructor
  · rintro ⟨next', h⟩
    rcases Program.course_ask.mp h with ⟨rfl, heq⟩ | ⟨reply, rest, rfl, hrest⟩
    · cases heq
      exact ⟨rfl, rfl⟩
    · cases (Program.course_done.mp hrest).2
  · rintro ⟨rfl, rfl⟩
    exact ⟨_, .here _⟩

theorem ends_request (r : Demand) (next : r.Reply → Except ε α) {x : Except ε α} :
    Program.Ends (σ := demands) (.ask r fun reply => .done (next reply)) past x ↔
      ∃ reply, past = [⟨r, reply⟩] ∧ x = next reply := by
  constructor
  · intro h
    rcases Program.course_ask.mp h with ⟨_, heq⟩ | ⟨reply, rest, rfl, hrest⟩
    · cases heq
    · obtain ⟨rfl, heq⟩ := Program.course_done.mp hrest
      cases heq
      exact ⟨reply, rfl, rfl⟩
  · rintro ⟨reply, rfl, rfl⟩
    exact .ask (.here _)

variable {who : Client} {c : Call}

@[simp] theorem reaches_cluster :
    (cluster who c).Reaches past r ↔ past = [] ∧ r = .cluster who c :=
  reaches_request (.cluster who c) fun x => x

@[simp] theorem ends_cluster {x : Except ClusterError c.Reply} :
    (cluster who c).Ends past x ↔ past = [⟨.cluster who c, x⟩] := by
  refine (ends_request (.cluster who c) fun x => x).trans ?_
  constructor
  · rintro ⟨reply, rfl, rfl⟩
    rfl
  · rintro rfl
    exact ⟨x, rfl, rfl⟩

@[simp] theorem reaches_clock :
    (clock : Action ε Timestamp).Reaches past r ↔ past = [] ∧ r = .clock :=
  reaches_request .clock .ok

theorem ends_clock {x : Except ε Timestamp} :
    (clock : Action ε Timestamp).Ends past x ↔ ∃ now, past = [⟨.clock, now⟩] ∧ x = .ok now :=
  ends_request .clock .ok

variable {request : Http.Request} {timeout : Span}

@[simp] theorem reaches_exchange :
    (exchange request timeout).Reaches past r ↔ past = [] ∧ r = .exchange request timeout :=
  reaches_request (.exchange request timeout) fun x => x

@[simp] theorem ends_exchange {x : Except Http.Fault Http.Response} :
    (exchange request timeout).Ends past x ↔ past = [⟨.exchange request timeout, x⟩] := by
  refine (ends_request (.exchange request timeout) fun x => x).trans ?_
  constructor
  · rintro ⟨reply, rfl, rfl⟩
    rfl
  · rintro rfl
    exact ⟨x, rfl, rfl⟩

/-! ### Sequences -/

/-- The second part of a sequence is reached when the first one ends well. -/
theorem reaches_bind {a : Action ε β} {f : β → Action ε α} :
    (a >>= f).Reaches past r ↔
      a.Reaches past r ∨
        ∃ b before after, past = before ++ after ∧ a.Ends before (.ok b) ∧
          (f b).Reaches after r := by
  unfold Reaches Ends
  rw [ExceptT.run_bind, Program.reaches_bind]
  refine or_congr_right ⟨?_, ?_⟩
  · rintro ⟨x, before, after, rfl, ha, hf⟩
    cases x with
    | ok b => exact ⟨b, before, after, rfl, ha, hf⟩
    | error e => exact absurd hf not_reaches_done
  · rintro ⟨b, before, after, rfl, ha, hf⟩
    exact ⟨.ok b, before, after, rfl, ha, hf⟩

/-- A sequence ends with its second part, or with an error of the first one. -/
theorem ends_bind {a : Action ε β} {f : β → Action ε α} {x : Except ε α} :
    (a >>= f).Ends past x ↔
      (∃ b before after, past = before ++ after ∧ a.Ends before (.ok b) ∧ (f b).Ends after x) ∨
        ∃ e, x = .error e ∧ a.Ends past (.error e) := by
  unfold Ends
  rw [ExceptT.run_bind, Program.ends_bind]
  constructor
  · rintro ⟨y, before, after, rfl, ha, hf⟩
    cases y with
    | ok b => exact .inl ⟨b, before, after, rfl, ha, hf⟩
    | error e =>
      obtain ⟨rfl, rfl⟩ := ends_done.mp hf
      rw [List.append_nil]
      exact .inr ⟨e, rfl, ha⟩
  · rintro (⟨b, before, after, rfl, ha, hf⟩ | ⟨e, rfl, ha⟩)
    · exact ⟨.ok b, before, after, rfl, ha, hf⟩
    · exact ⟨.error e, past, [], (List.append_nil _).symm, ha, ends_done.mpr ⟨rfl, rfl⟩⟩

/-- A sequence ends well when both of its parts do. -/
theorem ends_bind_ok {a : Action ε β} {f : β → Action ε α} {v : α} :
    (a >>= f).Ends past (.ok v) ↔
      ∃ b before after, past = before ++ after ∧ a.Ends before (.ok b) ∧
        (f b).Ends after (.ok v) := Program.ends_bind_ok

/-- A change of the outcome asks nothing. -/
theorem reaches_mapOutcome {x : Action ε α} {f : Except ε α → Except ε' β} :
    Program.Reaches (σ := demands) (f <$> x.run) past r ↔ x.Reaches past r := by
  rw [map_eq_pure_bind, Program.reaches_bind]
  refine or_iff_left ?_
  rintro ⟨_, _, _, _, _, h⟩
  exact not_reaches_done h

theorem ends_mapOutcome {x : Action ε α} {f : Except ε α → Except ε' β} {z : Except ε' β} :
    Program.Ends (σ := demands) (f <$> x.run) past z ↔ ∃ y, x.Ends past y ∧ z = f y := by
  rw [map_eq_pure_bind, Program.ends_bind]
  constructor
  · rintro ⟨y, before, after, rfl, hx, h⟩
    obtain ⟨rfl, rfl⟩ := ends_done.mp h
    rw [List.append_nil]
    exact ⟨y, hx, rfl⟩
  · rintro ⟨y, hx, rfl⟩
    exact ⟨y, past, [], (List.append_nil _).symm, hx, ends_done.mpr ⟨rfl, rfl⟩⟩

@[simp] theorem reaches_mapError {f : ε → ε'} {a : Action ε α} :
    (a.mapError f).Reaches past r ↔ a.Reaches past r := reaches_mapOutcome

@[simp] theorem ends_mapError {f : ε → ε'} {a : Action ε α} {x : Except ε' α} :
    (a.mapError f).Ends past x ↔ ∃ y, a.Ends past y ∧ x = y.mapError f := ends_mapOutcome

theorem ends_mapError_ok {f : ε → ε'} {a : Action ε α} {v : α} :
    (a.mapError f).Ends past (.ok v) ↔ a.Ends past (.ok v) := by
  rw [ends_mapError]
  constructor
  · rintro ⟨y, h, heq⟩
    rwa [← Outcome.mapError_eq_ok.mp heq.symm]
  · exact fun h => ⟨.ok v, h, rfl⟩

@[simp] theorem reaches_outcome {a : Action ε α} :
    (a.outcome : Action ε' (Except ε α)).Reaches past r ↔ a.Reaches past r := reaches_mapOutcome

@[simp] theorem ends_outcome {a : Action ε α} {x : Except ε' (Except ε α)} :
    (a.outcome : Action ε' (Except ε α)).Ends past x ↔ ∃ y, a.Ends past y ∧ x = .ok y :=
  ends_mapOutcome

@[simp] theorem reaches_discard {a : Action ε α} :
    (discard a).Reaches past r ↔ a.Reaches past r := by
  show (a >>= fun _ => pure ()).Reaches past r ↔ _
  rw [reaches_bind]
  refine or_iff_left ?_
  rintro ⟨_, _, _, _, _, h⟩
  exact not_reaches_pure h

theorem ends_discard {a : Action ε α} {x : Except ε Unit} :
    (discard a).Ends past x ↔ ∃ y, a.Ends past y ∧ x = y.map fun _ => () := by
  show (a >>= fun _ => pure ()).Ends past x ↔ _
  rw [ends_bind]
  constructor
  · rintro (⟨v, before, after, rfl, ha, hpure⟩ | ⟨e, rfl, ha⟩)
    · obtain ⟨rfl, rfl⟩ := ends_pure.mp hpure
      rw [List.append_nil]
      exact ⟨.ok v, ha, rfl⟩
    · exact ⟨.error e, ha, rfl⟩
  · rintro ⟨y, ha, rfl⟩
    cases y with
    | ok v => exact .inl ⟨v, past, [], (List.append_nil _).symm, ha, ends_pure.mpr ⟨rfl, rfl⟩⟩
    | error e => exact .inr ⟨e, rfl, ha⟩

/-! ### Repeated attempts -/

section Attempts

variable {p : RetryPolicy} {again : ε → Bool} {onCancel : Nat → ε} {op : Nat → Action ε α}

/-- The first attempt is under way, or it ended with an error worth another try. -/
theorem reaches_tryFrom {left attempt : Nat}
    (h : Program.Reaches (σ := demands)
      (p.tryFrom pause again (fun n => (op n).run) left attempt) past r) :
    (op attempt).Reaches past r ∨
      ∃ e first rest, past = first ++ rest ∧ again e = true ∧ (op attempt).Ends first (.error e) ∧
        ((∃ length, r = .pause length) ∨
          ∃ n last, attempt < n ∧ last <:+ rest ∧ (op n).Reaches last r) := by
  induction left generalizing attempt past with
  | zero =>
    rw [RetryPolicy.tryFrom, Program.reaches_bind] at h
    refine .inl (h.resolve_right ?_)
    rintro ⟨x, before, after, rfl, _, h⟩
    cases x <;> exact not_reaches_done h
  | succ left ih =>
    rw [RetryPolicy.tryFrom, Program.reaches_bind] at h
    refine h.imp id ?_
    rintro ⟨x, first, rest, rfl, hfirst, h⟩
    cases x with
    | ok v => exact absurd h not_reaches_done
    | error e =>
      dsimp only at h
      split at h
      · next hagain =>
        refine ⟨e, first, rest, rfl, hagain, hfirst, ?_⟩
        -- The pause comes first, and the attempts left come after it.
        obtain ⟨next, hcourse⟩ := h
        rcases Program.course_ask.mp hcourse with ⟨rfl, heq⟩ | ⟨reply, after, rfl, hafter⟩
        · cases heq
          exact .inl ⟨_, rfl⟩
        · rcases ih ⟨next, hafter⟩ with hn | ⟨_, before, last, rfl, _, _, hpause | hn⟩
          · exact .inr ⟨_, after, Nat.lt_succ_self _, List.suffix_cons _ _, hn⟩
          · exact .inl hpause
          · obtain ⟨n, tail, hlt, htail, hn⟩ := hn
            have hlast : last <:+ before ++ last := List.suffix_append _ _
            exact .inr ⟨n, tail, by omega, htail.trans (hlast.trans (List.suffix_cons _ _)), hn⟩
      · exact absurd h not_reaches_done

/-- **Second attempts.**  What is asked in a later attempt than the first is asked after the first
one ended with an error worth another try. -/
theorem reaches_retried (h : (retried p again onCancel op).Reaches past r) :
    (op 0).Reaches past r ∨
      ∃ e first rest, past = first ++ rest ∧ again e = true ∧ (op 0).Ends first (.error e) ∧
        ((∃ length, r = .pause length) ∨
          ∃ n last, 0 < n ∧ last <:+ rest ∧ (op n).Reaches last r) :=
  reaches_tryFrom (reaches_mapError.mp h)

end Attempts

end Action

end CredentialBroker
