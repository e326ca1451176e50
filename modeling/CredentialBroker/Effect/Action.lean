import CredentialBroker.Cluster.Call
import CredentialBroker.Effect.Program
import CredentialBroker.Effect.Retry
import CredentialBroker.Http.Message

namespace CredentialBroker

/-!
# Actions of the broker

What the broker asks of its surroundings: calls to the cluster, one request to the token endpoint
of a provider, the time, and a pause.  An `Action` is a program of such requests that may end
with an error.  A request to a token endpoint is one send of the HTTP client: redirects that it
follows by itself are part of it, and the response is the last one.
-/

/-- A request of the broker to its surroundings. -/
inductive Demand where
  /-- A call to the cluster, made as a client. -/
  | cluster (who : Client) (call : Call)
  /-- One send of the HTTP client to a token endpoint, with the time to wait for an answer.
  Redirects that it follows are inside. -/
  | exchange (request : Http.Request) (timeout : Span)
  /-- The time. -/
  | clock
  /-- A pause. -/
  | pause (length : Span)

/-- The type of the reply to a request. -/
@[reducible] def Demand.Reply : Demand → Type
  | .cluster _ call => Except ClusterError call.Reply
  | .exchange .. => Except Http.Fault Http.Response
  | .clock => Timestamp
  | .pause _ => Unit

/-- The requests of the broker. -/
@[reducible] def demands : Signature := ⟨Demand, Demand.Reply⟩

/-- A program of the broker that ends with a value or an error. -/
abbrev Action (ε α : Type) := ExceptT ε (Program demands) α

namespace Action

variable {ε ε' α : Type}

/-- A call to the cluster. -/
def cluster (who : Client) (call : Call) : Action ClusterError call.Reply :=
  ExceptT.mk (Program.request (σ := demands) (.cluster who call))

/-- A request to a token endpoint. -/
def exchange (request : Http.Request) (timeout : Span) : Action Http.Fault Http.Response :=
  ExceptT.mk (Program.request (σ := demands) (.exchange request timeout))

/-- The time. -/
def clock : Action ε Timestamp := ExceptT.lift (Program.request (σ := demands) .clock)

/-- A pause that nothing cuts short. -/
def pause (length : Span) : Program demands Bool :=
  Program.request (σ := demands) (.pause length) >>= fun _ => pure false

/-- An outcome that is there already. -/
def ofExcept (x : Except ε α) : Action ε α := ExceptT.mk (pure x)

/-- The action with its error seen as another one. -/
def mapError (f : ε → ε') (a : Action ε α) : Action ε' α := ExceptT.adapt f a

/-- The outcome of an action, error or not, as a value. -/
def outcome (a : Action ε α) : Action ε' (Except ε α) := ExceptT.lift a.run

/-- An action tried again by a policy; `onCancel` names a stop within a pause. -/
def retried (p : RetryPolicy) (again : ε → Bool) (onCancel : Nat → ε) (op : Nat → Action ε α) :
    Action ε α :=
  mapError (RetryError.collapse onCancel)
    (ExceptT.mk (p.run pause again fun attempt => (op attempt).run))

end Action

end CredentialBroker
