import CredentialBroker.Proofs.Cluster.Reachable
import CredentialBroker.Proofs.Effect.Course
import CredentialBroker.Proofs.Effect.Execution

namespace CredentialBroker

/-!
# Programs side by side

An `Interleaving` is a cluster with programs that take turns on it: each turn asks one request.
Between two turns anything may happen to the cluster, and time may pass.

* `Interleaving.run_invariant` — what every move keeps holds in the end;
* `Interleaving.run_follows` — so does what the contracts of the programs keep;
* `Interleaving.run_accounted` — at every moment each program has followed a course of its own, and
  what it was told of objects that carry versions is true of the chronicle of the cluster.
-/

/-- A program on its way. -/
structure Thread (α : Type) where
  /-- What it has asked, with the replies. -/
  past : List (Answer demands)
  /-- What is left of it. -/
  left : Program demands α

/-- The value of a program that has ended. -/
def Thread.value? {α : Type} (t : Thread α) : Option α :=
  match t.left with
  | .done a => some a
  | .ask _ _ => none

theorem Thread.value?_eq_some {α : Type} {t : Thread α} {a : α} :
    t.value? = some a ↔ t.left = .done a := by
  unfold value?
  cases t.left with
  | done b => simp
  | ask r next => simp

/-- A cluster and the programs that run on it. -/
structure Interleaving (ι α : Type) where
  /-- The cluster and its clock. -/
  world : Simulation
  /-- The programs. -/
  threads : ι → Thread α

/-- What can happen next. -/
inductive Move (ι : Type) where
  /-- A program asks its next request, while token endpoints answer in a given way. -/
  | turn (i : ι) (exchange : Http.Request → Except Http.Fault Http.Response)
  /-- Something else happens to the cluster. -/
  | other (h : Happening)
  /-- Time passes. -/
  | wait (length : Span)

namespace Interleaving

variable {ι α : Type} [DecidableEq ι] {supply : Supply} {env : Surroundings}
  {c : Interleaving ι α} {i j : ι}

/-- Programs that have not begun. -/
def start (programs : ι → Program demands α) (world : Simulation) : Interleaving ι α :=
  ⟨world, fun i => ⟨[], programs i⟩⟩

/-- A program asks its next request; one that is done asks none. -/
def turn (env : Surroundings) (i : ι) (c : Interleaving ι α) : Interleaving ι α :=
  match (c.threads i).left with
  | .done _ => c
  | .ask r next =>
    let (reply, world) := Simulation.handler env r c.world
    ⟨world, fun j =>
      if j = i then ⟨(c.threads i).past ++ [⟨r, reply⟩], next reply⟩ else c.threads j⟩

/-- What a program asks in its next turn, with the reply. -/
def answer? (env : Surroundings) (i : ι) (c : Interleaving ι α) : Option (Answer demands) :=
  match (c.threads i).left with
  | .done _ => none
  | .ask r _ => some ⟨r, (Simulation.handler env r c.world).1⟩

/-- Programs and cluster after a move. -/
def move (supply : Supply) (c : Interleaving ι α) : Move ι → Interleaving ι α
  | .turn i exchange => c.turn ⟨supply, exchange⟩ i
  | .other h =>
    { c with world := { c.world with cluster := h.run supply c.world.now c.world.cluster } }
  | .wait length => { c with world := { c.world with now := c.world.now.after length } }

/-- Programs and cluster after a list of moves. -/
def run (supply : Supply) (moves : List (Move ι)) (c : Interleaving ι α) : Interleaving ι α :=
  moves.foldl (move supply) c

/-! ### Turns -/

theorem turn_of_done {a : α} (h : (c.threads i).left = .done a) : c.turn env i = c := by
  unfold turn
  rw [h]

theorem world_turn {r : Demand} {next : r.Reply → Program demands α}
    (h : (c.threads i).left = .ask r next) :
    (c.turn env i).world = (Simulation.handler env r c.world).2 := by
  unfold turn
  rw [h]
  rfl

theorem threads_turn {r : Demand} {next : r.Reply → Program demands α}
    (h : (c.threads i).left = .ask r next) :
    (c.turn env i).threads j =
      if j = i then
        ⟨(c.threads i).past ++ [⟨r, (Simulation.handler env r c.world).1⟩],
          next (Simulation.handler env r c.world).1⟩
      else c.threads j := by
  unfold turn
  rw [h]
  rfl

/-- A call asked in a turn is made on the cluster. -/
theorem answer?_cluster {who : Client} {call : Call} {x : Except ClusterError call.Reply}
    (h : c.answer? env i = some ⟨.cluster who call, x⟩) :
    (∃ next, (c.threads i).left = .ask (.cluster who call) next) ∧
      c.world.cluster.step env.supply c.world.now who call =
        (x, (c.turn env i).world.cluster) := by
  unfold answer? at h
  split at h
  · cases h
  · next r next hleft =>
    obtain ⟨hrequest, hreply⟩ := Answer.mk.inj (Option.some.inj h)
    subst hrequest
    refine ⟨⟨next, hleft⟩, ?_⟩
    rw [world_turn hleft, ← eq_of_heq hreply]
    rfl

/-- What holds of the programs after a turn: it holds of the others, and of the one that was
told something. -/
theorem forall_threads_turn {P : ι → Thread α → Prop} {r : Demand}
    {next : r.Reply → Program demands α} (h : (c.threads i).left = .ask r next)
    (hothers : ∀ j, j ≠ i → P j (c.threads j))
    (htold : P i ⟨(c.threads i).past ++ [⟨r, (Simulation.handler env r c.world).1⟩],
      next (Simulation.handler env r c.world).1⟩) :
    ∀ j, P j ((c.turn env i).threads j) := by
  intro j
  rw [threads_turn h]
  by_cases hj : j = i
  · rw [if_pos hj, hj]
    exact htold
  · rw [if_neg hj]
    exact hothers j hj

/-- A turn adds to what the programs were told. -/
theorem past_turn (env : Surroundings) (i j : ι) (c : Interleaving ι α) :
    ∃ more, ((c.turn env i).threads j).past = (c.threads j).past ++ more := by
  cases hleft : (c.threads i).left with
  | done a => exact ⟨[], by rw [turn_of_done hleft, List.append_nil]⟩
  | ask r next =>
    rw [threads_turn hleft]
    by_cases hj : j = i
    · rw [if_pos hj, hj]
      exact ⟨_, rfl⟩
    · rw [if_neg hj]
      exact ⟨[], (List.append_nil _).symm⟩

/-- Courses go on with a turn. -/
theorem course_turn {programs : ι → Program demands α} {r : Demand}
    {next : r.Reply → Program demands α} (h : (c.threads i).left = .ask r next)
    (hcourse : ∀ j, (programs j).Course (c.threads j).past (c.threads j).left) :
    ∀ j, (programs j).Course ((c.turn env i).threads j).past ((c.turn env i).threads j).left :=
  forall_threads_turn (P := fun j thread => (programs j).Course thread.past thread.left) h
    (fun j _ => hcourse j) ((h ▸ hcourse i).answer _)

/-- What every move keeps holds in the end. -/
theorem run_invariant {I : Interleaving ι α → Prop} {moves : List (Move ι)}
    (hmove : ∀ m ∈ moves, ∀ c, I c → I (c.move supply m)) (hc : I c) : I (c.run supply moves) := by
  induction moves generalizing c with
  | nil => exact hc
  | cons m moves ih =>
    exact ih (fun m' hm' => hmove m' (List.mem_cons_of_mem _ hm'))
      (hmove m List.mem_cons_self c hc)

/-- **Contracts side by side.**  When the calls that the contracts allow keep an invariant of the
cluster and answer as the contracts say, and all else that happens keeps it, too, then programs that
follow the contracts keep it, and go on following them. -/
theorem run_follows {programs : ι → Program demands α} {asks : ι → Client → Call → Prop}
    {gets : ι → (c : Call) → c.Reply → Prop} {ends : ι → α → Prop} {I : ClusterState → Prop}
    {world : Simulation} {moves : List (Move ι)}
    (hcall : ∀ i now s who call, I s → asks i who call →
      I (s.step supply now who call).2 ∧
        ∀ v, (s.step supply now who call).1 = .ok v → gets i call v)
    (hother : ∀ h, .other h ∈ moves → ∀ now s, I s → I (h.run supply now s))
    (h : ∀ i, (programs i).Follows (.ofCalls (asks i) (gets i)) (ends i)) (hs : I world.cluster) :
    let c := (start programs world).run supply moves
    I c.world.cluster ∧
      ∀ i, (c.threads i).left.Follows (.ofCalls (asks i) (gets i)) (ends i) := by
  refine run_invariant (I := fun c => I c.world.cluster ∧
    ∀ i, (c.threads i).left.Follows (.ofCalls (asks i) (gets i)) (ends i)) ?_ ⟨hs, h⟩
  rintro m hm c ⟨hc, hfollows⟩
  cases m with
  | turn i exchange =>
    cases hleft : (c.threads i).left with
    | done a =>
      rw [move, turn_of_done hleft]
      exact ⟨hc, hfollows⟩
    | ask r next =>
      obtain ⟨hasks, hnext⟩ := hleft ▸ hfollows i
      -- What is asked keeps the invariant, and the reply is as the contract says.
      have hreply : I (Simulation.handler ⟨supply, exchange⟩ r c.world).2.cluster ∧
          (Contract.ofCalls (asks i) (gets i)).gets r
            (Simulation.handler ⟨supply, exchange⟩ r c.world).1 := by
        cases r with
        | cluster who call => exact hcall i c.world.now c.world.cluster who call hc hasks
        | exchange | clock | pause => exact ⟨hc, trivial⟩
      refine ⟨?_, forall_threads_turn (P := fun i thread =>
        thread.left.Follows (.ofCalls (asks i) (gets i)) (ends i)) hleft (fun j _ => hfollows j)
          (hnext _ hreply.2)⟩
      rw [move, world_turn hleft]
      exact hreply.1
  | other e => exact ⟨hother e hm c.world.now c.world.cluster hc, hfollows⟩
  | wait length => exact ⟨hc, hfollows⟩

end Interleaving

/-! ### What programs are told -/

/-- An answer tells what calls that succeed are sure to tell. -/
def Answer.Tells (gets : (c : Call) → c.Reply → Prop) (x : Answer demands) : Prop :=
  ∀ who c v, x = ⟨.cluster who c, .ok v⟩ → gets c v

theorem Answer.Tells.of_ok {gets : (c : Call) → c.Reply → Prop} {who : Client} {c : Call}
    {v : c.Reply} (h : Answer.Tells gets ⟨.cluster who c, .ok v⟩) : gets c v := h who c v rfl

/-- What is no call leaves the cluster alone. -/
theorem Simulation.handler_cluster (env : Surroundings) (s : Simulation) {r : Demand}
    (h : ∀ who c, r ≠ .cluster who c) : (Simulation.handler env r s).2.cluster = s.cluster := by
  cases r with
  | cluster who c => exact absurd rfl (h who c)
  | exchange | clock | pause => rfl

/-- What is no call tells nothing. -/
theorem Answer.tells_of_ne {gets : (c : Call) → c.Reply → Prop} {r : Demand} {reply : r.Reply}
    (h : ∀ who c, r ≠ .cluster who c) : Answer.Tells gets ⟨r, reply⟩ := by
  intro who c v heq
  exact absurd (congrArg Answer.request heq) (h who c)

theorem Answer.Tells.gets {gets : (c : Call) → c.Reply → Prop} {asks : Client → Call → Prop}
    {x : Answer demands} (h : x.Tells gets) :
    (Contract.ofCalls asks gets).gets x.request x.reply := by
  obtain ⟨r, reply⟩ := x
  cases r with
  | cluster who c =>
    intro v hv
    exact h who c v (by rw [← hv])
  | exchange | clock | pause => trivial

/-- A call that succeeded told this. -/
def Told (past : List (Answer demands)) (c : Call) (v : c.Reply) : Prop :=
  ∃ who, (⟨.cluster who c, .ok v⟩ : Answer demands) ∈ past

/-- An action that relies on what was told asks only what its contract allows. -/
theorem Action.Follows.asks_of_told {ε α : Type} {a : Action ε α} {asks : Client → Call → Prop}
    {ends : α → Prop} {past told : List (Answer demands)} {who : Client} {c : Call}
    (h : a.Follows (.ofCalls asks (Told told)) ends) (hr : a.Reaches past (.cluster who c))
    (hpast : past ⊆ told) : asks who c :=
  (Action.follows_iff.mp h).reaches hr fun _ hx =>
    Answer.Tells.gets fun who _ _ heq => ⟨who, heq ▸ hpast hx⟩

/-- What the replies to calls tell of the objects that a cluster has held. -/
structure Knowledge where
  /-- What a reply tells. -/
  known : List VersionedObject → (c : Call) → c.Reply → Prop
  /-- It stays true when the chronicle goes on. -/
  mono : ∀ {history added : List VersionedObject} {c : Call} {v : c.Reply}, known history c v →
    known (history ++ added) c v
  /-- It is true when the call succeeds. -/
  tells : ∀ {supply : Supply} {now : Timestamp} {s t : ClusterState} {who : Client} {c : Call}
    {v : c.Reply} {history added : List VersionedObject}, s.step supply now who c = (.ok v, t) →
    s.objects.Keyed → Chronicle s history → Chronicle t (history ++ added) →
    known (history ++ added) c v

namespace Interleaving

variable {ι α : Type} {K : Knowledge} {supply : Supply} {programs : ι → Program demands α}
  {c : Interleaving ι α} {history : List VersionedObject}

/-- The programs have come by courses of their own, on a cluster with a chronicle, and what they
were told is true of it. -/
structure Accounted (K : Knowledge) (supply : Supply) (programs : ι → Program demands α)
    (c : Interleaving ι α) (history : List VersionedObject) : Prop where
  /-- The cluster is in a state that it can reach. -/
  reachable : c.world.cluster.Reachable supply
  /-- The cluster has a chronicle. -/
  chronicle : Chronicle c.world.cluster history
  /-- What is left of each program is what its answers lead to. -/
  course : ∀ i, (programs i).Course (c.threads i).past (c.threads i).left
  /-- The answers told the truth. -/
  told : ∀ i, ∀ x ∈ (c.threads i).past, x.Tells (K.known history)

/-- What a program keeps to it goes on keeping to. -/
theorem Accounted.follows (h : c.Accounted K supply programs history) {i : ι}
    {asks : Client → Call → Prop} {ends : α → Prop}
    (hp : (programs i).Follows (.ofCalls asks (K.known history)) ends) :
    (c.threads i).left.Follows (.ofCalls asks (K.known history)) ends :=
  (hp.course (h.course i) fun x hx => (h.told i x hx).gets).2

/-- A program has got to the request that it asks next. -/
theorem Accounted.reaches (h : c.Accounted K supply programs history) {i : ι} {r : Demand}
    {next : r.Reply → Program demands α} (hleft : (c.threads i).left = .ask r next) :
    (programs i).Reaches (c.threads i).past r :=
  ⟨next, hleft ▸ h.course i⟩

/-- The cluster changes, and with it the chronicle. -/
theorem Accounted.happening (h : c.Accounted K supply programs history)
    {world : Simulation} (now : Timestamp) (e : Happening)
    (hworld : world.cluster = e.run supply now c.world.cluster) :
    ∃ added, Accounted K supply programs { c with world := world } (history ++ added) := by
  obtain ⟨added, hadded⟩ := h.chronicle.extend (e.evolves supply now _)
  refine ⟨added, ⟨?_, ?_, h.course, fun i x hx who c v heq => K.mono (h.told i x hx who c v heq)⟩⟩
  · rw [hworld]
    exact h.reachable.next now e
  · rw [hworld]
    exact hadded

/-- Before the first move nothing has been asked. -/
theorem start_accounted (K : Knowledge) (programs : ι → Program demands α)
    {world : Simulation} (hs : world.cluster.Reachable supply) :
    ∃ history, Accounted K supply programs (start programs world) history := by
  obtain ⟨history, hchronicle⟩ := hs.chronicle
  exact ⟨history, hs, hchronicle, fun i => .here _, fun i x hx => absurd hx List.not_mem_nil⟩

variable [DecidableEq ι]

/-- A program is told something true. -/
theorem Accounted.tell {env : Surroundings} {i : ι} {r : Demand}
    {next : r.Reply → Program demands α} (hleft : (c.threads i).left = .ask r next)
    (hreachable : (Simulation.handler env r c.world).2.cluster.Reachable supply)
    (hchronicle : Chronicle (Simulation.handler env r c.world).2.cluster history)
    (hcourse : ∀ j, (programs j).Course (c.threads j).past (c.threads j).left)
    (htold : ∀ j, ∀ x ∈ (c.threads j).past, x.Tells (K.known history))
    (hnew : Answer.Tells (K.known history) ⟨r, (Simulation.handler env r c.world).1⟩) :
    Accounted K supply programs (c.turn env i) history := by
  refine ⟨?_, ?_, ?_, ?_⟩
  · rwa [world_turn hleft]
  · rwa [world_turn hleft]
  · exact course_turn hleft hcourse
  · refine forall_threads_turn (P := fun _ thread => ∀ x ∈ thread.past, x.Tells (K.known history))
      hleft (fun j _ => htold j) fun x hx => ?_
    rcases List.mem_append.mp hx with hx | hx
    · exact htold i x hx
    · obtain rfl := List.mem_singleton.mp hx
      exact hnew

theorem Accounted.turn (h : c.Accounted K supply programs history) (i : ι)
    (exchange : Http.Request → Except Http.Fault Http.Response) :
    ∃ added, Accounted K supply programs (c.turn ⟨supply, exchange⟩ i) (history ++ added) := by
  cases hleft : (c.threads i).left with
  | done a =>
    rw [turn_of_done hleft]
    exact ⟨[], by rwa [List.append_nil]⟩
  | ask r next =>
    by_cases hcall : ∃ who call, r = .cluster who call
    · -- The call happens to the cluster, and the program is told its outcome.
      obtain ⟨who, call, rfl⟩ := hcall
      have hworld : (Simulation.handler ⟨supply, exchange⟩ (.cluster who call) c.world).2.cluster =
          Happening.run supply c.world.now c.world.cluster (.call who call) := rfl
      obtain ⟨added, hafter⟩ := h.happening c.world.now (.call who call) hworld
      refine ⟨added, .tell hleft hafter.reachable hafter.chronicle hafter.course hafter.told ?_⟩
      rintro who' call' v heq
      obtain ⟨hrequest, hreply⟩ := Answer.mk.inj heq
      cases hrequest
      exact K.tells (Prod.ext (eq_of_heq hreply) rfl) h.reachable.keyed h.chronicle
        hafter.chronicle
    · -- Nothing happens to the cluster, and what is told says nothing of it.
      have hne : ∀ who call, r ≠ .cluster who call := fun who call heq => hcall ⟨who, call, heq⟩
      have hsame := Simulation.handler_cluster ⟨supply, exchange⟩ c.world hne
      refine ⟨[], ?_⟩
      rw [List.append_nil]
      refine .tell hleft ?_ ?_ h.course h.told (Answer.tells_of_ne hne)
      · rw [hsame]
        exact h.reachable
      · rw [hsame]
        exact h.chronicle

theorem Accounted.move (h : c.Accounted K supply programs history) (m : Move ι) :
    ∃ added, Accounted K supply programs (c.move supply m) (history ++ added) := by
  cases m with
  | turn i exchange => exact h.turn i exchange
  | other e => exact h.happening c.world.now e rfl
  | wait length =>
    refine ⟨[], ?_⟩
    rw [List.append_nil]
    exact ⟨h.reachable, h.chronicle, h.course, h.told⟩

/-- **Programs side by side.**  Whatever moves are made, programs stay accounted for. -/
theorem run_accounted (K : Knowledge) (programs : ι → Program demands α)
    {world : Simulation} (hs : world.cluster.Reachable supply) (moves : List (Move ι)) :
    ∃ history, Accounted K supply programs ((start programs world).run supply moves) history := by
  refine run_invariant (I := fun c => ∃ history, Accounted K supply programs c history)
    (fun m _ c hc => ?_) (start_accounted K programs hs)
  obtain ⟨history, h⟩ := hc
  obtain ⟨added, hadded⟩ := h.move m
  exact ⟨history ++ added, hadded⟩

end Interleaving

end CredentialBroker
