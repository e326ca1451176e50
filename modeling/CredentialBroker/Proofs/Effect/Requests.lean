import CredentialBroker.Proofs.Effect.Course
import CredentialBroker.Proofs.Effect.Execution

namespace CredentialBroker

/-!
# What runs ask

The requests that a run on a cluster held in memory asks, part by part, and among them those that
leave for a token endpoint.

* `Simulation.requests`, `Simulation.requests_bind` — all of them, those of a sequence being those
  of its parts;
* `Simulation.exchanges` — those to token endpoints;
* `Simulation.exchanges_of_inside` — a program whose text has none asks none.
-/

/-- The request of a demand that is meant for a token endpoint. -/
def Demand.exchange? : Demand → Option Http.Request
  | .exchange request _ => some request
  | .cluster .. | .clock | .pause _ => none

/-- The contract of programs that ask no token endpoint, whatever the replies. -/
def Contract.inside : Contract demands where
  asks r := r.exchange? = none
  gets _ _ := True

namespace Simulation

variable {ε ε' α β : Type} {env : Surroundings} {s t : Simulation}

/-- What an action asks when it is run. -/
def requests (env : Surroundings) (a : Action ε α) (s : Simulation) : List Demand :=
  (Program.answers (handler env) a.run s).map Answer.request

/-- What it asks of token endpoints. -/
def exchanges (env : Surroundings) (a : Action ε α) (s : Simulation) : List Http.Request :=
  (requests env a s).filterMap Demand.exchange?

/-! ### Combinators -/

theorem requests_bind (a : Action ε β) (f : β → Action ε α) :
    requests env (a >>= f) s = requests env a s ++
      match run env a s with
      | (.ok b, t) => requests env (f b) t
      | (.error _, _) => [] := by
  unfold requests
  rw [ExceptT.run_bind, Program.answers_bind, List.map_append, run_eq]
  cases Program.run (handler env) a.run s with
  | mk x t => cases x <;> rfl

theorem requests_mapError {f : ε → ε'} {a : Action ε α} :
    requests env (a.mapError f) s = requests env a s := by
  show (Program.answers (handler env) (Except.mapError f <$> a.run) s).map Answer.request = _
  rw [map_eq_pure_bind, Program.answers_bind, List.map_append]
  exact List.append_nil _

theorem exchanges_bind_of_ok {a : Action ε β} {f : β → Action ε α} {b : β}
    (h : run env a s = (.ok b, t)) :
    exchanges env (a >>= f) s = exchanges env a s ++ exchanges env (f b) t := by
  unfold exchanges
  rw [requests_bind, h, List.filterMap_append]

/-- Nothing is asked after an error. -/
theorem exchanges_bind_of_error {a : Action ε β} {f : β → Action ε α} {e : ε}
    (h : run env a s = (.error e, t)) : exchanges env (a >>= f) s = exchanges env a s := by
  unfold exchanges
  rw [requests_bind, h, List.append_nil]

theorem exchanges_mapError {f : ε → ε'} {a : Action ε α} :
    exchanges env (a.mapError f) s = exchanges env a s :=
  congrArg (List.filterMap Demand.exchange?) requests_mapError

/-! ### Programs that ask no token endpoint -/

/-- A program that asks no token endpoint asks none in a run. -/
theorem exchanges_of_inside {a : Action ε α} {ends : α → Prop} (h : a.Follows .inside ends) :
    exchanges env a s = [] := by
  refine List.filterMap_eq_nil_iff.mpr fun r hr => ?_
  obtain ⟨x, hx, rfl⟩ := List.mem_map.mp hr
  exact (Program.Follows.course (Action.follows_iff.mp h)
    (Program.ends_answers (handler env) a.run s) fun _ _ => trivial).1 x hx

/-- A second part that asks none adds nothing. -/
theorem exchanges_bind_of_inside {a : Action ε β} {f : β → Action ε α} {ends : α → Prop}
    (h : ∀ b, (f b).Follows .inside ends) : exchanges env (a >>= f) s = exchanges env a s := by
  cases hrun : run env a s with
  | mk x t =>
    cases x with
    | ok b => rw [exchanges_bind_of_ok hrun, exchanges_of_inside (h b), List.append_nil]
    | error e => exact exchanges_bind_of_error hrun

end Simulation

end CredentialBroker
