import CredentialBroker.Proofs.Credential.Store
import CredentialBroker.Proofs.World.Interleaving

namespace CredentialBroker

/-!
# Writers of one secret

Writers that run side by side on one secret lose nothing: what the secret holds is what the writers
that ended well have merged in, one after the other.  Their order is that of the calls by which the
cluster accepted their changes; a writer that ended with an error had none accepted.

* `Secret.Blends` — what changes made one after the other leave, said of the contents alone;
* `Program.Commits` — a program ends well exactly with the first request that is committed;
* `CredentialStore.write_commits` — a write does, with the secret it makes or replaces;
* `CredentialStore.step_asked` — what the cluster accepts from a writer is the change made to what
  is stored, however old the writer's copy is;
* `CredentialStore.run_writes_merged` — the secret after any moves.
-/

/-! ### Programs that commit -/

namespace Program

variable {σ : Signature} {α β : Type} {commits : (r : σ.Request) → σ.Reply r → Prop}

/-- The program ends with `final` right after a request that is committed, and in no other way. -/
def Commits (commits : (r : σ.Request) → σ.Reply r → Prop) (final : α) : Program σ α → Prop
  | .done a => a ≠ final
  | .ask r next => ∀ reply,
    (commits r reply ∧ next reply = .done final) ∨
      (¬ commits r reply ∧ (next reply).Commits commits final)

theorem Commits.ne_done {p : Program σ α} {final : α} (h : p.Commits commits final) :
    p ≠ .done final := by
  rintro rfl
  exact h rfl

/-- A sequence commits with its first part when that ends the second one, which commits nothing
otherwise. -/
theorem commits_bind {p : Program σ β} {f : β → Program σ α} {b : β} {a : α}
    (hp : p.Commits commits b) (hb : f b = .done a)
    (hf : ∀ x, x ≠ b → (f x).Commits commits a) : (p >>= f).Commits commits a := by
  induction p with
  | done x => exact hf x hp
  | ask r next ih =>
    intro reply
    rcases hp reply with ⟨hcommits, hdone⟩ | ⟨hnot, hnext⟩
    · refine .inl ⟨hcommits, ?_⟩
      show (next reply >>= f) = .done a
      rw [hdone, done_bind, hb]
    · exact .inr ⟨hnot, ih reply hnext⟩

end Program

namespace Action

variable {ε ε' α : Type} {commits : (r : Demand) → r.Reply → Prop} {v : α}

theorem commits_mapError {f : ε → ε'} {a : Action ε α}
    (h : Program.Commits (σ := demands) commits (.ok v) a.run) :
    Program.Commits (σ := demands) commits (.ok v) (a.mapError f).run := by
  show Program.Commits (σ := demands) commits (.ok v) (Except.mapError f <$> a.run)
  rw [map_eq_pure_bind]
  refine Program.commits_bind h rfl fun x hx hv => ?_
  exact hx (Outcome.mapError_eq_ok.mp hv)

/-- Attempts that commit do so together: after the one that is committed there is no other. -/
theorem commits_retried {p : RetryPolicy} {again : ε → Bool} {onCancel : Nat → ε}
    {op : Nat → Action ε α} (hpause : ∀ length reply, ¬ commits (.pause length) reply)
    (hop : ∀ n, Program.Commits (σ := demands) commits (.ok v) (op n).run) :
    Program.Commits (σ := demands) commits (.ok v) (retried p again onCancel op).run := by
  refine commits_mapError ?_
  show Program.Commits (σ := demands) commits (.ok v)
    (p.tryFrom pause again (fun n => (op n).run) (p.maxAttempts - 1) 0)
  generalize p.maxAttempts - 1 = left
  generalize 0 = attempt
  induction left generalizing attempt with
  | zero =>
    rw [RetryPolicy.tryFrom]
    refine Program.commits_bind (hop attempt) rfl fun x hx => ?_
    cases x with
    | ok w => exact fun heq => hx (congrArg Except.ok (Except.ok.inj heq))
    | error e => rintro ⟨⟩
  | succ left ih =>
    rw [RetryPolicy.tryFrom]
    refine Program.commits_bind (hop attempt) rfl fun x hx => ?_
    cases x with
    | ok w => exact fun heq => hx (congrArg Except.ok (Except.ok.inj heq))
    | error e =>
      dsimp only
      split
      · exact fun _ => .inr ⟨hpause _ _, ih (attempt + 1)⟩
      · rintro ⟨⟩

end Action

/-! ### What writers ask for -/

/-- A secret is made or replaced. -/
def SecretWritten : (r : Demand) → r.Reply → Prop
  | .cluster _ (.createSecret _), .ok _ | .cluster _ (.updateSecret _), .ok _ => True
  | _, _ => False

theorem not_secretWritten_error {who : Client} {call : Call} {e : ClusterError} :
    ¬ SecretWritten (.cluster who call) (.error e) := by
  cases call <;> exact id

/-- What reads of secrets tell: the secret was stored, and at the address asked for. -/
def Knowledge.secrets : Knowledge where
  known history
    | .getSecret ref, found => .secret found ∈ history ∧ found.ref = ref
    | _, _ => True
  mono := by
    intro history added call v h
    cases call
    case getSecret ref => exact ⟨List.mem_append_left _ h.1, h.2⟩
    all_goals trivial
  tells := by
    intro supply now s t who call v history added hstep hk hc _
    cases call
    case getSecret ref =>
      obtain ⟨_, _, _, _, happly, _⟩ := ClusterState.step_eq_ok hstep
      obtain ⟨_, hstored⟩ := Objects.apply_getSecret.mp happly
      exact ⟨List.mem_append_left _ (hc.stored (.secret v) ⟨ref, hstored⟩),
        hk.secrets ref v hstored⟩
    all_goals trivial

/-! ### What changes leave -/

/-- The owners of a secret; there are none where there is no secret. -/
def Secret.ownersOf (stored : Option Secret) : List OwnerReference := stored.elim [] Secret.owners

/-- What changes made one after the other leave at an address where `stored` was.  Under each key
there is what the last change with an entry for it brings, or else what was there before, and with
labels it is the same.  The owners stay; a secret without any gets the owner of the first change. -/
structure Secret.Blends (ref : ObjectRef) (stored : Option Secret) (changes : List SecretChange)
    (left : Option Secret) : Prop where
  /-- Without changes all stays as it was. -/
  untouched : changes = [] → left = stored
  /-- With changes there is a secret at the address. -/
  made : changes ≠ [] → ∃ s, left = some s ∧ s.ref = ref
  /-- The entries. -/
  data : ∀ key, left.bind (·.data.get? key) =
    (changes.reverse.findSome? (·.entries.get? key)).or (stored.bind (·.data.get? key))
  /-- The labels. -/
  labels : ∀ key, left.bind (·.labels.get? key) =
    (changes.reverse.findSome? (·.labels.get? key)).or (stored.bind (·.labels.get? key))
  /-- The owners. -/
  owners : Secret.ownersOf left = match Secret.ownersOf stored with
    | [] => (changes.head?.map (·.owner)).toList
    | owner :: others => owner :: others

/-- The change made to what is stored at an address, if anything is. -/
def SecretChange.onto (c : SecretChange) (ref : ObjectRef) : Option Secret → Secret
  | some s => c.applyTo s
  | none => c.fresh ref

namespace SecretChange

variable {c : SecretChange} {ref : ObjectRef} {stored : Option Secret}

theorem ref_onto (h : ∀ s, stored = some s → s.ref = ref) : (c.onto ref stored).ref = ref := by
  cases stored with
  | none => rfl
  | some s => exact h s rfl

theorem get?_data_onto (key : String) : (c.onto ref stored).data.get? key =
    (c.entries.get? key).or (stored.bind (·.data.get? key)) := by
  cases stored with
  | none => exact (Option.or_none).symm
  | some s => exact SortedMap.get?_union _ _ _

theorem get?_labels_onto (key : String) : (c.onto ref stored).labels.get? key =
    (c.labels.get? key).or (stored.bind (·.labels.get? key)) := by
  cases stored with
  | none => exact (Option.or_none).symm
  | some s => exact SortedMap.get?_union _ _ _

theorem owners_onto : (c.onto ref stored).owners = match Secret.ownersOf stored with
    | [] => [c.owner]
    | owner :: others => owner :: others := by
  cases stored with
  | none => rfl
  | some s =>
    show (if s.owners.isEmpty then [c.owner] else s.owners) = match s.owners with
      | [] => [c.owner]
      | owner :: others => owner :: others
    cases s.owners <;> rfl

end SecretChange

namespace Secret.Blends

variable {ref : ObjectRef} {stored left : Option Secret} {changes : List SecretChange}

/-- Before any change. -/
theorem nil : Blends ref stored [] stored where
  untouched _ := rfl
  made h := absurd rfl h
  data _ := rfl
  labels _ := rfl
  owners := by cases Secret.ownersOf stored <;> rfl

/-- **One more change.**  It is made to what the others have left, and gets a version. -/
theorem concat (h : Blends ref stored changes left) (hleft : ∀ s, left = some s → s.ref = ref)
    (c : SecretChange) (version : Option String) : Blends ref stored (changes ++ [c])
      (some { c.onto ref left with resourceVersion := version }) where
  untouched hnil := absurd hnil (List.append_ne_nil_of_right_ne_nil _ (List.cons_ne_nil c []))
  made _ := ⟨_, rfl, SecretChange.ref_onto hleft⟩
  data key := by
    rw [List.reverse_concat, List.findSome?_cons]
    show (c.onto ref left).data.get? key = _
    rw [SecretChange.get?_data_onto, h.data key]
    cases c.entries.get? key <;> rfl
  labels key := by
    rw [List.reverse_concat, List.findSome?_cons]
    show (c.onto ref left).labels.get? key = _
    rw [SecretChange.get?_labels_onto, h.labels key]
    cases c.labels.get? key <;> rfl
  owners := by
    show (c.onto ref left).owners = _
    rw [SecretChange.owners_onto, h.owners]
    -- Once there is an owner, the changes to come bring none.
    cases Secret.ownersOf stored with
    | cons owner others => rfl
    | nil =>
      cases changes with
      | nil => rfl
      | cons first others => rfl

end Secret.Blends

namespace CredentialStore

variable {st : CredentialStore} {ref : ObjectRef} {c : SecretChange} {supply : Supply}
  {now : Timestamp} {s t : ClusterState} {who : Client} {call : Call}
  {history : List VersionedObject}

/-- One call decides, and nothing is asked after it. -/
theorem discard_commits (h : ∀ v, SecretWritten (.cluster who call) (.ok v)) :
    Program.Commits (σ := demands) SecretWritten (.ok ())
      (discard (Action.cluster who call) : Action ClusterError Unit).run := by
  intro reply
  cases reply with
  | ok v => exact .inl ⟨h v, rfl⟩
  | error e => exact .inr ⟨not_secretWritten_error, nofun⟩

theorem tryWrite_commits :
    Program.Commits (σ := demands) SecretWritten (.ok ()) (st.tryWrite ref c).run := by
  -- Whatever was read, the one write that follows decides.
  intro reply
  refine .inr ⟨id, ?_⟩
  cases reply with
  | ok secret => exact discard_commits fun _ => trivial
  | error e =>
    show Program.Commits (σ := demands) SecretWritten (.ok ())
      (if e.isNotFound then discard (Action.cluster st.client (.createSecret (c.fresh ref)))
        else throw e : Action ClusterError Unit).run
    split
    · exact discard_commits fun _ => trivial
    · exact nofun

/-- **Writes commit.**  A write ends well exactly when a secret is made or replaced for it, and asks
for no more after that. -/
theorem write_commits :
    Program.Commits (σ := demands) SecretWritten (.ok ()) (st.write ref c).run :=
  Action.commits_mapError (Action.commits_retried (fun _ _ => id) fun _ => tryWrite_commits)

/-- **What the cluster accepts from a writer.**  It is the change made to what is stored, as two
secrets with one version are the same; and what is not accepted leaves the secret as it is. -/
theorem step_asked {x : Except ClusterError call.Reply} (hc : Chronicle s history)
    (h : Asks (Knowledge.secrets.known history) ref c call)
    (hstep : s.step supply now who call = (x, t)) :
    (SecretWritten (.cluster who call) x ∧ ∃ version, t.objects.secrets.get? ref =
        some { c.onto ref (s.objects.secrets.get? ref) with resourceVersion := version }) ∨
      (¬ SecretWritten (.cluster who call) x ∧
        t.objects.secrets.get? ref = s.objects.secrets.get? ref) := by
  cases x with
  | error e =>
    refine .inr ⟨not_secretWritten_error, ?_⟩
    rw [(ClusterState.step_error hstep).1]
  | ok v =>
    obtain ⟨_, _, _, _, happly, _⟩ := ClusterState.step_eq_ok hstep
    cases h with
    | read =>
      refine .inr ⟨id, ?_⟩
      rw [(Objects.apply_getSecret.mp happly).1]
    | update found hfound =>
      obtain ⟨⟨stored, hstored, hversion⟩, hv, hobjects⟩ := Objects.apply_updateSecret.mp happly
      rw [SecretChange.ref_applyTo, hfound.2] at hstored hobjects
      -- The version that was read is the stored one, so what was read is what is stored.
      have hgiven : found.resourceVersion ≠ none :=
        Option.isSome_iff_ne_none.mp (hc.version_isSome hfound.1)
      obtain rfl : found = stored := hc.secret_eq hfound.1
        (hc.stored (.secret stored) ⟨ref, hstored⟩) (hversion.resolve_left hgiven)
      refine .inl ⟨trivial, v.resourceVersion, ?_⟩
      rw [hobjects, hstored, SortedMap.get?_insert_self, hv]
      rfl
    | create =>
      obtain ⟨habsent, hv, hobjects⟩ := Objects.apply_createSecret.mp happly
      rw [SecretChange.ref_fresh] at habsent hobjects
      refine .inl ⟨trivial, v.resourceVersion, ?_⟩
      rw [hobjects, habsent, SortedMap.get?_insert_self, hv]
      rfl

end CredentialStore

/-! ### Writers side by side -/

/-- The happening is no write of the secret. -/
def Happening.Spares (ref : ObjectRef) : Happening → Prop
  | .call _ (.createSecret secret) | .call _ (.updateSecret secret) => secret.ref ≠ ref
  | _ => True

theorem Happening.Spares.get?_secrets {ref : ObjectRef} {h : Happening} (hspares : h.Spares ref)
    {supply : Supply} {now : Timestamp} {s : ClusterState} :
    (h.run supply now s).objects.secrets.get? ref = s.objects.secrets.get? ref := by
  cases h with
  | call who call =>
    refine ClusterState.step_keeps (s := s)
      (I := fun o => o.secrets.get? ref = s.objects.secrets.get? ref) rfl fun o' heffect => ?_
    rcases heffect.secrets with hsame | ⟨secret, hcall, hinsert⟩
    · rw [hsame]
    · have hother : secret.ref ≠ ref := by
        rcases hcall with rfl | rfl <;> exact hspares
      rw [hinsert, SortedMap.get?_insert, if_neg hother.symm]
  | putSession | removeSession | putServiceAccount | putRole | putJob | addPod | registerToken
  | grant | failNext => rfl

namespace CredentialStore

variable {ι : Type} {supply : Supply} {ref : ObjectRef} {stores : ι → CredentialStore}
  {changes : ι → SecretChange} {world : Simulation}
  {c : Interleaving ι (Except CredentialError Unit)}
  {order : List ι}

/-- The writers' programs. -/
def writers (ref : ObjectRef) (stores : ι → CredentialStore) (changes : ι → SecretChange) (i : ι) :
    Program demands (Except CredentialError Unit) := ((stores i).write ref (changes i)).run

/-- The writers in `order` have ended well, and the secret is what they made of it; the others have
committed nothing. -/
structure Merged (ref : ObjectRef) (changes : ι → SecretChange) (initial : Option Secret)
    (c : Interleaving ι (Except CredentialError Unit)) (order : List ι) : Prop where
  /-- No writer ends twice. -/
  nodup : order.Nodup
  /-- The writers in the order have ended well. -/
  ended : ∀ i ∈ order, (c.threads i).left = .done (.ok ())
  /-- The others commit when they end well. -/
  pending : ∀ i, i ∉ order → (c.threads i).left.Commits SecretWritten (.ok ())
  /-- The secret is what the changes made in that order leave. -/
  stored : Secret.Blends ref initial (order.map changes) (c.world.cluster.objects.secrets.get? ref)

/-- What a writer asks for is accepted and made to what is stored, or changes nothing. -/
theorem handler_asked {i : ι} {history : List VersionedObject} (env : Surroundings) {r : Demand}
    {next : r.Reply → Program demands (Except CredentialError Unit)}
    (ha : c.Accounted .secrets supply (writers ref stores changes) history)
    (hleft : (c.threads i).left = .ask r next) :
    let after := (Simulation.handler env r c.world).2.cluster.objects.secrets.get? ref
    (SecretWritten r (Simulation.handler env r c.world).1 ∧ ∃ version, after =
        some { (changes i).onto ref (c.world.cluster.objects.secrets.get? ref) with
          resourceVersion := version }) ∨
      (¬ SecretWritten r (Simulation.handler env r c.world).1 ∧
        after = c.world.cluster.objects.secrets.get? ref) := by
  intro after
  have hfollows := ha.follows (i := i) (Action.follows_iff.mp write_follows)
  rw [hleft] at hfollows
  cases r with
  | cluster who call => exact step_asked ha.chronicle hfollows.1.2 rfl
  | exchange | clock | pause => exact .inr ⟨id, rfl⟩

variable [DecidableEq ι] {initial : Option Secret}

/-- A writer asks, and when its change is accepted it is the next in the order. -/
theorem Merged.turn {i : ι} {history : List VersionedObject} {env : Surroundings}
    (h : Merged ref changes initial c order)
    (ha : c.Accounted .secrets supply (writers ref stores changes) history) :
    ∃ order', Merged ref changes initial (c.turn env i) order' := by
  cases hleft : (c.threads i).left with
  | done a =>
    rw [Interleaving.turn_of_done hleft]
    exact ⟨order, h⟩
  | ask r next =>
    have hi : i ∉ order := by
      intro hmem
      rw [h.ended i hmem] at hleft
      cases hleft
    have hcommits := h.pending i hi
    rw [hleft] at hcommits
    rcases handler_asked env ha hleft with ⟨hwritten, version, hstored⟩ | ⟨hnot, hstored⟩
    · -- The change is accepted, so the writer has ended well.
      have hdone := ((hcommits _).resolve_right fun hpending => hpending.1 hwritten).2
      refine ⟨order ++ [i], ?nodup, ?ended, ?pending, ?stored⟩
      case nodup =>
        rw [List.nodup_append]
        refine ⟨h.nodup, List.pairwise_singleton _ _, fun a ha b hb => ?_⟩
        rw [List.mem_singleton.mp hb]
        exact fun heq => hi (heq ▸ ha)
      case ended =>
        refine Interleaving.forall_threads_turn
          (P := fun j thread => j ∈ order ++ [i] → thread.left = .done (.ok ())) hleft
          (fun j hj hmem => ?_) fun _ => hdone
        rcases List.mem_append.mp hmem with hmem | hmem
        · exact h.ended j hmem
        · exact absurd (List.mem_singleton.mp hmem) hj
      case pending =>
        refine Interleaving.forall_threads_turn
          (P := fun j thread => j ∉ order ++ [i] → thread.left.Commits SecretWritten (.ok ())) hleft
          (fun j _ hmem => ?_) fun hmem => ?_
        · exact h.pending j fun hj => hmem (List.mem_append_left _ hj)
        · exact absurd (List.mem_append_right _ List.mem_cons_self) hmem
      case stored =>
        rw [Interleaving.world_turn hleft, hstored, List.map_append]
        exact h.stored.concat (fun s hs => ha.reachable.keyed.secrets ref s hs) _ _
    · -- Nothing is accepted, and the writer goes on.
      have hpending := ((hcommits _).resolve_left fun hwritten => hnot hwritten.1).2
      refine ⟨order, h.nodup, ?ended, ?pending, ?stored⟩
      case ended =>
        exact Interleaving.forall_threads_turn
          (P := fun j thread => j ∈ order → thread.left = .done (.ok ())) hleft
          (fun j _ hmem => h.ended j hmem) fun hmem => absurd hmem hi
      case pending =>
        exact Interleaving.forall_threads_turn
          (P := fun j thread => j ∉ order → thread.left.Commits SecretWritten (.ok ())) hleft
          (fun j _ hmem => h.pending j hmem) fun _ => hpending
      case stored =>
        rw [Interleaving.world_turn hleft, hstored]
        exact h.stored

theorem Merged.move {m : Move ι} {history : List VersionedObject}
    (hothers : ∀ h, m = .other h → h.Spares ref) (h : Merged ref changes initial c order)
    (ha : c.Accounted .secrets supply (writers ref stores changes) history) :
    ∃ order', Merged ref changes initial (c.move supply m) order' := by
  cases m with
  | turn i exchange => exact h.turn ha
  | other e =>
    refine ⟨order, h.nodup, h.ended, h.pending, ?_⟩
    have hkept : (e.run supply c.world.now c.world.cluster).objects.secrets.get? ref =
        c.world.cluster.objects.secrets.get? ref := (hothers e rfl).get?_secrets
    exact hkept ▸ h.stored
  | wait length => exact ⟨order, h.nodup, h.ended, h.pending, h.stored⟩

/-- **No update is lost.**  Whatever moves writers of one secret make on a cluster in any state that
it can reach, the secret is what the changes of those that have ended well leave one after the
other: entry by entry and label by label, and with the owners it had or the first one it got.  The
rest have added nothing.  Others may do what they like but write that secret. -/
theorem run_writes_merged (ref : ObjectRef) (stores : ι → CredentialStore)
    (changes : ι → SecretChange) (hs : world.cluster.Reachable supply) (moves : List (Move ι))
    (hothers : ∀ h, .other h ∈ moves → h.Spares ref) :
    let c := (Interleaving.start (writers ref stores changes) world).run supply moves
    ∃ order : List ι, order.Nodup ∧ (∀ i, i ∈ order ↔ (c.threads i).value? = some (.ok ())) ∧
      Secret.Blends ref (world.cluster.objects.secrets.get? ref) (order.map changes)
        (c.world.cluster.objects.secrets.get? ref) := by
  intro c
  let initial := world.cluster.objects.secrets.get? ref
  obtain ⟨order, h⟩ : ∃ order, Merged ref changes initial c order := by
    -- The writers are accounted for all along, which each step of the order needs.
    refine (Interleaving.run_invariant
      (I := fun c => (∃ history, c.Accounted .secrets supply (writers ref stores changes) history) ∧
        ∃ order, Merged ref changes initial c order)
      (fun m hm c hc => ?_) ⟨Interleaving.start_accounted .secrets _ hs, [], ?_⟩).2
    · obtain ⟨⟨history, ha⟩, order, h⟩ := hc
      obtain ⟨added, hadded⟩ := ha.move m
      exact ⟨⟨_, hadded⟩, h.move (fun e heq => hothers e (heq ▸ hm)) ha⟩
    · exact ⟨List.nodup_nil, nofun, fun _ _ => write_commits, .nil⟩
  refine ⟨order, h.nodup, fun i => ?_, h.stored⟩
  rw [Thread.value?_eq_some]
  refine ⟨h.ended i, fun hleft => ?_⟩
  by_cases hmem : i ∈ order
  · exact hmem
  · exact absurd hleft (h.pending i hmem).ne_done

/-- Two writers that both found no secret: the second one is refused, reads again, meets a failure
that was made to wait for it, reads once more, and merges.  So the entries of both are there, the
one that both bring is that of the second, and the owner is that of the first. -/
theorem run_writes_merged_racing :
    let ref : ObjectRef := ⟨"team", "shared"⟩
    let owner (b : Bool) : OwnerReference := ⟨"v1", "Session", toString b, "", none⟩
    let changes : Bool → SecretChange := fun b =>
      ⟨SortedMap.ofList [(toString b, Text.utf8 "token"), ("last", Text.utf8 (toString b))],
        SortedMap.ofList [("writer", toString b)], owner b⟩
    let stores : Bool → CredentialStore := fun _ => ⟨.platform, .usual⟩
    let world : Simulation := ⟨.ofSeconds 0, {}⟩
    let turn (b : Bool) : Move Bool := .turn b fun _ => .error .timedOut
    let fault : Happening := .failNext .updateSecret (.conflict "Secret" ref.text)
    let moves := [turn false, turn true, turn false, .other fault] ++ List.replicate 7 (turn true)
    let c := (Interleaving.start (writers ref stores changes) world).run ⟨toString, toString⟩ moves
    .other fault ∈ moves ∧ fault.Spares ref ∧ (∀ b, (c.threads b).value?.any Except.isOk) ∧
      (c.world.cluster.objects.secrets.get? ref).map (fun s =>
          (s.data.entries, s.labels.entries, s.owners)) =
        some ([("false", Text.utf8 "token"), ("last", Text.utf8 "true"),
          ("true", Text.utf8 "token")], [("writer", "true")], [owner false]) ∧
      ∃ order : List Bool, order.Nodup ∧ (∀ b, b ∈ order ↔ (c.threads b).value? = some (.ok ())) ∧
        Secret.Blends ref none (order.map changes) (c.world.cluster.objects.secrets.get? ref) := by
  intro ref owner changes stores world turn fault moves c
  have hmem : Move.other fault ∈ moves := by simp [moves]
  have hspares : fault.Spares ref := trivial
  refine ⟨hmem, hspares, ?_, ?_, ?_⟩
  · intro b
    cases b <;> decide +kernel
  · decide +kernel
  · have hs : world.cluster.Reachable ⟨toString, toString⟩ := .fresh {}
    have hnone : world.cluster.objects.secrets.get? ref = none := rfl
    have hothers : ∀ h, Move.other h ∈ moves → h.Spares ref := by
      intro h hother
      have heq : h = fault := by simpa [moves, turn] using hother
      exact heq ▸ hspares
    -- From here on it does not matter how the state came about.
    clear_value stores changes world moves
    rw [← hnone]
    exact run_writes_merged ref stores changes hs moves hothers

end CredentialStore

end CredentialBroker
