import CredentialBroker.Cluster.State
import CredentialBroker.Effect.Action

namespace CredentialBroker

/-!
# The broker on a cluster held in memory

A `Simulation` is the cluster in memory with a clock that stands still between requests.
`Simulation.handler` answers the requests of the broker with it: calls are steps of the cluster,
token endpoints answer as they are told to, and pauses pass at once.
-/

/-- What a simulation is given from outside. -/
structure Surroundings where
  /-- The tokens and identifiers that the cluster draws. -/
  supply : Supply
  /-- How token endpoints answer. -/
  exchange : Http.Request → Except Http.Fault Http.Response

/-- A cluster in memory and a clock. -/
structure Simulation where
  /-- The time. -/
  now : Timestamp
  /-- The cluster. -/
  cluster : ClusterState

namespace Simulation

/-- A call is made. -/
def call (env : Surroundings) (who : Client) (c : Call) :
    StateM Simulation (Except ClusterError c.Reply) := fun s =>
  let (reply, cluster) := s.cluster.step env.supply s.now who c
  (reply, { s with cluster := cluster })

/-- Answers the requests of the broker. -/
def handler (env : Surroundings) : Program.Handler demands (StateM Simulation)
  | .cluster who c => call env who c
  | .exchange request _ => pure (env.exchange request)
  | .clock => fun s => (s.now, s)
  | .pause _ => pure ()

/-- The outcome of an action and the simulation after it. -/
def run {ε α : Type} (env : Surroundings) (a : Action ε α) (s : Simulation) :
    Except ε α × Simulation :=
  StateT.run (Program.run (handler env) a.run) s

end Simulation

end CredentialBroker
