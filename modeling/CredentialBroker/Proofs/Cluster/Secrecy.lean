import CredentialBroker.Cluster.Simulation
import CredentialBroker.Proofs.Cluster.Kept
import CredentialBroker.Proofs.Effect.Alike

namespace CredentialBroker

/-!
# What a cluster does not tell

Two clusters are `Alike` to those who show certain tokens when they differ at most in the octets of
their secrets and in tokens that nobody shows.  A call that names no secret has the same answer on
both, and a call that names one has answers that differ in octets alone.

* `Objects.apply_alike` — what a call that tells no secret does to objects that are alike;
* `ClusterState.step_alike` — a call keeps clusters alike when its effect does;
* `Simulation.handler_alike` — all demands that are `Demand.Paired` are answered alike.
-/

/-! ### Secrets and tokens -/

/-- The secrets differ in their octets at most. -/
def Secret.Alike (s s' : Secret) : Prop := ∃ data, s' = { s with data := data }

/-- The tokens differ in their text at most, and both texts are empty or neither is. -/
def MintedToken.Alike (t t' : MintedToken) : Prop :=
  (t.token = "" ↔ t'.token = "") ∧ t'.expiresAt = t.expiresAt

/-- A client that is the platform or shows one of the given tokens. -/
def Client.Shows (shown : String → Prop) : Client → Prop
  | .platform => True
  | .bearer token => shown token

/-- A call that neither reads or writes a secret nor mints a token, and asks about no token but
those that are shown. -/
def Call.IsOpen (shown : String → Prop) : Call → Prop
  | .getSecret _ | .createSecret _ | .updateSecret _ | .createToken .. => False
  | .reviewToken token => shown token
  | _ => True

/-- What both of two calls are known by to those who admit them. -/
structure Call.Resembles (c c' : Call) : Prop where
  /-- The operation. -/
  operation : c'.operation = c.operation
  /-- What they are about. -/
  target : c'.target = c.target
  /-- What a caller must be allowed to do. -/
  access : ∀ resource, c'.access? resource = c.access? resource
  /-- Whether a version is drawn in any case. -/
  isWrite : c'.isWrite = c.isWrite
  /-- Whether a version is drawn when the call succeeds. -/
  isCreation : c'.isCreation = c.isCreation
  /-- Whether a token is drawn. -/
  isMinting : c'.isMinting = c.isMinting

theorem Call.resembles_refl (c : Call) : c.Resembles c := ⟨rfl, rfl, fun _ => rfl, rfl, rfl, rfl⟩

theorem Secret.Alike.createSecret {s s' : Secret} (h : s.Alike s') :
    (Call.createSecret s).Resembles (.createSecret s') := by
  obtain ⟨data, rfl⟩ := h
  exact ⟨rfl, rfl, fun _ => rfl, rfl, rfl, rfl⟩

theorem Secret.Alike.updateSecret {s s' : Secret} (h : s.Alike s') :
    (Call.updateSecret s).Resembles (.updateSecret s') := by
  obtain ⟨data, rfl⟩ := h
  exact ⟨rfl, rfl, fun _ => rfl, rfl, rfl, rfl⟩

namespace Objects

variable {shown : String → Prop} {d d' : Draw} {who : Client} {user : String} {o o' : Objects}
  {call : Call}

/-- The objects differ at most in the octets of secrets and in tokens that are not shown. -/
def Alike (shown : String → Prop) (o o' : Objects) : Prop :=
  ∃ secrets tokens, o' = { o with secrets := secrets, tokens := tokens } ∧
    (∀ ref, Option.Rel Secret.Alike (o.secrets.get? ref) (secrets.get? ref)) ∧
    ∀ token, shown token → tokens.get? token = o.tokens.get? token

theorem Alike.userOf? (h : o.Alike shown o') (hwho : who.Shows shown) :
    o'.userOf? who = o.userOf? who := by
  obtain ⟨secrets, tokens, rfl, _, htokens⟩ := h
  cases who with
  | platform => rfl
  | bearer token => exact htokens token hwho

theorem Alike.permits (h : o.Alike shown o') (user : String) (c : AccessCheck) :
    o'.permits user c = o.permits user c := by
  obtain ⟨secrets, tokens, rfl, _, _⟩ := h
  rfl

/-! ### Effects -/

/-- The replies to two calls belong together, and so do the objects after them. -/
def EffectsAlike (shown : String → Prop) {c c' : Call} (replies : c.Reply → c'.Reply → Prop) :
    Except ClusterError (Objects × c.Reply) → Except ClusterError (Objects × c'.Reply) → Prop :=
  Outcome.Alike Eq fun p p' => p.1.Alike shown p'.1 ∧ replies p.2 p'.2

/-- A call that tells no secret does the same whatever the secrets and the tokens not shown. -/
theorem apply_open (hopen : call.IsOpen shown) (hversion : d'.version = d.version)
    {secrets : SortedMap ObjectRef Secret} {tokens : SortedMap String String}
    (htokens : ∀ token, shown token → tokens.get? token = o.tokens.get? token) :
    ({ o with secrets := secrets, tokens := tokens } : Objects).apply d' who user call =
      (fun p => ({ p.1 with secrets := secrets, tokens := tokens }, p.2)) <$>
        o.apply d who user call := by
  cases call with
  | getSecret | createSecret | updateSecret | createToken => exact hopen.elim
  | reviewToken token =>
    simp only [apply, map_pure, review, htokens token hopen]
  | checkAccess check => rfl
  | _ => simp only [apply, map_bind, map_pure, hversion]

theorem apply_alike (hopen : call.IsOpen shown) (hversion : d'.version = d.version)
    (h : o.Alike shown o') :
    EffectsAlike shown Eq (o.apply d who user call) (o'.apply d' who user call) := by
  obtain ⟨secrets, tokens, rfl, hsecrets, htokens⟩ := h
  rw [apply_open (d := d) hopen hversion htokens]
  cases happly : o.apply d who user call with
  | error e => exact .error rfl
  | ok p =>
    -- The call writes to neither table.
    have heffect := apply_effect happly
    have hkept : p.1.secrets = o.secrets ∧ p.1.tokens = o.tokens := by
      refine ⟨heffect.secrets.resolve_right ?_, (heffect.tokens.resolve_right ?_).2⟩
      · rintro ⟨secret, rfl | rfl, _⟩ <;> exact hopen
      · rintro ⟨account, lifetime, rfl, _⟩
        exact hopen
    refine .ok ⟨⟨secrets, tokens, rfl, ?_, ?_⟩, rfl⟩
    · rw [hkept.1]
      exact hsecrets
    · rw [hkept.2]
      exact htokens

theorem found_alike {α α' : Type} {vals : α → α' → Prop} {kind : String} {ref : ObjectRef}
    {x : Option α} {x' : Option α'} (h : Option.Rel vals x x') :
    Outcome.Alike Eq vals (found kind ref x) (found kind ref x') := by
  cases h with
  | some h => exact .ok h
  | none => exact .error rfl

theorem checkAbsent_alike {α α' : Type} {vals : α → α' → Prop} {kind name : String} {x : Option α}
    {x' : Option α'} (h : Option.Rel vals x x') :
    Outcome.Alike Eq Eq (checkAbsent kind name x) (checkAbsent kind name x') := by
  cases h with
  | some h => exact .error rfl
  | none => exact .ok rfl

/-- Secrets that differ in their octets are put into objects that are alike. -/
theorem Alike.insert_secret (h : o.Alike shown o') (ref : ObjectRef) {s s' : Secret}
    (hs : s.Alike s') :
    Alike shown { o with secrets := o.secrets.insert ref s }
      { o' with secrets := o'.secrets.insert ref s' } := by
  obtain ⟨secrets, tokens, rfl, hsecrets, htokens⟩ := h
  refine ⟨secrets.insert ref s', tokens, rfl, fun ref' => ?_, htokens⟩
  rw [SortedMap.get?_insert, SortedMap.get?_insert]
  split
  · exact .some hs
  · exact hsecrets ref'

/-- Tokens that nobody shows are registered in objects that are alike. -/
theorem Alike.insert_token (h : o.Alike shown o') {token token' user : String}
    (htoken : ¬ shown token) (htoken' : ¬ shown token') :
    Alike shown { o with tokens := o.tokens.insert token user }
      { o' with tokens := o'.tokens.insert token' user } := by
  obtain ⟨secrets, tokens, rfl, hsecrets, htokens⟩ := h
  refine ⟨secrets, tokens.insert token' user, rfl, hsecrets, fun t ht => ?_⟩
  have hne : t ≠ token := fun h => htoken (h ▸ ht)
  have hne' : t ≠ token' := fun h => htoken' (h ▸ ht)
  rw [SortedMap.get?_insert, SortedMap.get?_insert, if_neg hne, if_neg hne']
  exact htokens t ht

theorem Alike.get?_secrets (h : o.Alike shown o') (ref : ObjectRef) :
    Option.Rel Secret.Alike (o.secrets.get? ref) (o'.secrets.get? ref) := by
  obtain ⟨secrets, tokens, rfl, hsecrets, _⟩ := h
  exact hsecrets ref

theorem apply_getSecret_alike (h : o.Alike shown o') (ref : ObjectRef) :
    EffectsAlike shown Secret.Alike (o.apply d who user (.getSecret ref))
      (o'.apply d' who user (.getSecret ref)) :=
  Outcome.alike_bind (found_alike (h.get?_secrets ref)) fun _ _ hs => .ok ⟨h, hs⟩

theorem apply_createSecret_alike (hversion : d'.version = d.version) (h : o.Alike shown o')
    {s s' : Secret} (hs : s.Alike s') :
    EffectsAlike shown Secret.Alike (o.apply d who user (.createSecret s))
      (o'.apply d' who user (.createSecret s')) := by
  obtain ⟨data, rfl⟩ := hs
  have hstored : Secret.Alike { s with resourceVersion := some d.version }
      { s with data := data, resourceVersion := some d'.version } := ⟨data, by rw [hversion]⟩
  exact Outcome.alike_bind (checkAbsent_alike (h.get?_secrets s.ref)) fun _ _ _ =>
    .ok ⟨h.insert_secret s.ref hstored, hstored⟩

theorem apply_updateSecret_alike (hversion : d'.version = d.version) (h : o.Alike shown o')
    {s s' : Secret} (hs : s.Alike s') :
    EffectsAlike shown Secret.Alike (o.apply d who user (.updateSecret s))
      (o'.apply d' who user (.updateSecret s')) := by
  obtain ⟨data, rfl⟩ := hs
  have hstored : Secret.Alike { s with resourceVersion := some d.version }
      { s with data := data, resourceVersion := some d'.version } := ⟨data, by rw [hversion]⟩
  refine Outcome.alike_bind (found_alike (h.get?_secrets s.ref)) ?_
  -- The stored secrets have one version, so both are replaced or neither is.
  rintro stored _ ⟨data', rfl⟩
  exact Outcome.alike_bind (Outcome.alike_refl Eq.refl _) fun _ _ _ =>
    .ok ⟨h.insert_secret s.ref hstored, hstored⟩

/-- A cluster mints tokens that are alike when it draws tokens that nobody shows. -/
theorem apply_createToken_alike (hnow : d'.now = d.now) (h : o.Alike shown o')
    (htoken : ¬ shown d.token) (htoken' : ¬ shown d'.token)
    (hempty : d.token = "" ↔ d'.token = "") (account : ObjectRef) (lifetime : Span) :
    EffectsAlike shown MintedToken.Alike (o.apply d who user (.createToken account lifetime))
      (o'.apply d' who user (.createToken account lifetime)) := by
  have hfound : Outcome.Alike Eq Eq (found "ServiceAccount" account (o.accounts.get? account))
      (found "ServiceAccount" account (o'.accounts.get? account)) := by
    obtain ⟨secrets, tokens, rfl, _, _⟩ := h
    exact Outcome.alike_refl Eq.refl _
  exact Outcome.alike_bind hfound fun _ _ _ =>
    .ok ⟨h.insert_token htoken htoken', hempty, by rw [hnow]⟩

end Objects

/-! ### Steps -/

namespace ClusterState

variable {shown : String → Prop} {supply supply' : Supply} {now : Timestamp} {who : Client}
  {c c' : Call} {s s' : ClusterState}

/-- The clusters differ at most in the octets of secrets and in tokens that are not shown. -/
def Alike (shown : String → Prop) (s s' : ClusterState) : Prop :=
  ∃ objects, s' = { s with objects := objects } ∧ s.objects.Alike shown objects

theorem Alike.objects (h : s.Alike shown s') : s.objects.Alike shown s'.objects := by
  obtain ⟨objects, rfl, hobjects⟩ := h
  exact hobjects

theorem Alike.faults (h : s.Alike shown s') : s'.faults = s.faults := by
  obtain ⟨objects, rfl, _⟩ := h
  rfl

theorem Alike.with_faults (h : s.Alike shown s') (faults : List (Operation × ClusterError)) :
    Alike shown { s with faults := faults } { s' with faults := faults } := by
  obtain ⟨objects, rfl, hobjects⟩ := h
  exact ⟨objects, rfl, hobjects⟩

theorem Alike.recorded (h : s.Alike shown s') (hwho : who.Shows shown) (hc : c.Resembles c') :
    (s.recorded who c).Alike shown (s'.recorded who c') := by
  obtain ⟨objects, rfl, hobjects⟩ := h
  refine ⟨objects, ?_, hobjects⟩
  unfold ClusterState.recorded
  rw [hobjects.userOf? hwho, hc.operation, hc.target]

theorem Alike.refusal? (h : s.Alike shown s') (hc : c.Resembles c') (user : String) :
    s'.refusal? who user c' = s.refusal? who user c := by
  obtain ⟨objects, rfl, hobjects⟩ := h
  unfold ClusterState.refusal?
  dsimp only
  rw [hc.access]
  simp only [hobjects.permits]

theorem perform_alike {replies : c.Reply → c'.Reply → Prop} {user : String}
    (h : s.Alike shown s') (hc : c.Resembles c')
    (heffect : Objects.EffectsAlike shown replies
      (s.objects.apply (s.draw supply now) who user c)
      (s'.objects.apply (s'.draw supply' now) who user c')) :
    Outcome.Alike Eq replies (s.perform supply now who user c).1
        (s'.perform supply' now who user c').1 ∧
      (s.perform supply now who user c).2.Alike shown (s'.perform supply' now who user c').2 := by
  obtain ⟨objects, rfl, hobjects⟩ := h
  unfold perform
  dsimp only
  rw [hc.isWrite, hc.isCreation, hc.isMinting]
  revert heffect
  generalize s.objects.apply (s.draw supply now) who user c = x
  generalize objects.apply _ who user c' = x'
  rintro (herror | ⟨hobjects', hreplies⟩)
  · exact ⟨.error herror, _, rfl, hobjects⟩
  · exact ⟨.ok hreplies, _, rfl, hobjects'⟩

/-- **Calls to clusters that are alike.**  When the effects of two calls that resemble each other
belong together, so do the answers, and the clusters stay alike. -/
theorem step_alike (supply supply' : Supply) (now : Timestamp)
    {replies : c.Reply → c'.Reply → Prop} (h : s.Alike shown s') (hwho : who.Shows shown)
    (hc : c.Resembles c')
    (heffect : ∀ user, Objects.EffectsAlike shown replies
      (s.objects.apply (s.draw supply now) who user c)
      (s'.objects.apply (s'.draw supply' now) who user c')) :
    Outcome.Alike Eq replies (s.step supply now who c).1 (s'.step supply' now who c').1 ∧
      (s.step supply now who c).2.Alike shown (s'.step supply' now who c').2 := by
  -- Both calls are put on the log first, in the same words.
  have hrecorded := h.recorded hwho hc
  unfold step
  dsimp only
  rw [hc.operation, hrecorded.faults]
  cases takeFault c.operation (s.recorded who c).faults with
  | some f => exact ⟨.error rfl, hrecorded.with_faults f.2⟩
  | none =>
    dsimp only
    rw [hrecorded.objects.userOf? hwho]
    cases (s.recorded who c).objects.userOf? who with
    | none => exact ⟨.error rfl, hrecorded⟩
    | some user =>
      dsimp only
      rw [hrecorded.refusal? hc user]
      cases (s.recorded who c).refusal? who user c with
      | some e => exact ⟨.error rfl, hrecorded⟩
      | none => exact perform_alike hrecorded hc (heffect user)

end ClusterState

/-! ### Demands -/

/-- In what two runs of the broker may differ beside the octets of secrets. -/
structure Likeness where
  /-- The tokens that are shown to the cluster. -/
  shown : String → Prop
  /-- Which requests to token endpoints belong together. -/
  posts : Http.Request → Http.Request → Prop
  /-- Which answers of token endpoints belong together. -/
  answers : Http.Response → Http.Response → Prop

/-- The demands that belong together, with the replies to them that do. -/
inductive Demand.Paired (k : Likeness) : Pairing demands where
  /-- One call that tells no secret. -/
  | call {who : Client} {c : Call} (hwho : who.Shows k.shown) (hopen : c.IsOpen k.shown) :
    Paired k (.cluster who c) (.cluster who c) (Outcome.Alike Eq Eq)
  /-- A secret is read. -/
  | readSecret {who : Client} (hwho : who.Shows k.shown) (ref : ObjectRef) :
    Paired k (.cluster who (.getSecret ref)) (.cluster who (.getSecret ref))
      (Outcome.Alike Eq Secret.Alike)
  /-- Secrets are made that differ in their octets. -/
  | createSecret {who : Client} (hwho : who.Shows k.shown) {s s' : Secret} (hs : s.Alike s') :
    Paired k (.cluster who (.createSecret s)) (.cluster who (.createSecret s'))
      (Outcome.Alike Eq Secret.Alike)
  /-- Secrets are replaced by ones that differ in their octets. -/
  | updateSecret {who : Client} (hwho : who.Shows k.shown) {s s' : Secret} (hs : s.Alike s') :
    Paired k (.cluster who (.updateSecret s)) (.cluster who (.updateSecret s'))
      (Outcome.Alike Eq Secret.Alike)
  /-- A token is minted. -/
  | createToken {who : Client} (hwho : who.Shows k.shown) (account : ObjectRef) (lifetime : Span) :
    Paired k (.cluster who (.createToken account lifetime))
      (.cluster who (.createToken account lifetime)) (Outcome.Alike Eq MintedToken.Alike)
  /-- A code is exchanged. -/
  | exchange {q q' : Http.Request} (h : k.posts q q') (timeout : Span) :
    Paired k (.exchange q timeout) (.exchange q' timeout) (Outcome.Alike Eq k.answers)
  /-- The time is asked for. -/
  | clock : Paired k .clock .clock Eq
  /-- A pause is made. -/
  | pause (length : Span) : Paired k (.pause length) (.pause length) Eq

/-- The surroundings mint tokens that nobody shows, whatever their text, and answer paired requests
to token endpoints alike. -/
structure Surroundings.Alike (k : Likeness) (minted : Nat) (env env' : Surroundings) : Prop where
  /-- Tokens still to be drawn are not shown. -/
  fresh : ∀ n, minted ≤ n → ¬ k.shown (env.supply.token n) ∧ ¬ k.shown (env'.supply.token n)
  /-- Tokens still to be drawn are empty in both or in neither; no cluster draws empty ones. -/
  empty : ∀ n, minted ≤ n → (env.supply.token n = "" ↔ env'.supply.token n = "")
  /-- Paired requests are answered alike. -/
  exchange : ∀ q q', k.posts q q' → Outcome.Alike Eq k.answers (env.exchange q) (env'.exchange q')

namespace Simulation

variable {k : Likeness} {env env' : Surroundings} {w w' : Simulation}

/-- The clocks agree, and the clusters differ at most in the octets of secrets and in tokens that
are not shown. -/
def Alike (shown : String → Prop) (w w' : Simulation) : Prop :=
  ∃ cluster, w' = { w with cluster := cluster } ∧ w.cluster.Alike shown cluster

/-- A call is made on clusters that are alike. -/
theorem call_alike (env env' : Surroundings) {who : Client} {c c' : Call}
    {replies : c.Reply → c'.Reply → Prop} {minted : Nat} (h : w.Alike k.shown w')
    (hminted : minted ≤ w.cluster.minted) (hwho : who.Shows k.shown) (hc : c.Resembles c')
    (heffect : ∀ user {o' : Objects} {d' : Draw}, w.cluster.objects.Alike k.shown o' →
      d'.version = (w.cluster.draw env.supply w.now).version → d'.now = w.now →
      d'.token = env'.supply.token w.cluster.minted →
      Objects.EffectsAlike k.shown replies
        (w.cluster.objects.apply (w.cluster.draw env.supply w.now) who user c)
        (o'.apply d' who user c')) :
    Outcome.Alike Eq replies (call env who c w).1 (call env' who c' w').1 ∧
      (call env who c w).2.Alike k.shown (call env' who c' w').2 ∧
      minted ≤ (call env who c w).2.cluster.minted := by
  obtain ⟨cluster, rfl, objects, rfl, hobjects⟩ := h
  obtain ⟨hreplies, hcluster⟩ := ClusterState.step_alike env.supply env'.supply w.now
    ⟨objects, rfl, hobjects⟩ hwho hc fun user => heffect user hobjects rfl rfl rfl
  refine ⟨hreplies, ⟨_, rfl, hcluster⟩, Nat.le_trans hminted ?_⟩
  exact ClusterState.minted_le_step

/-- **Demands in two worlds.**  Paired demands are answered alike, and the worlds stay alike. -/
theorem handler_alike {minted : Nat} (henv : env.Alike k minted env') (r r' : Demand)
    (replies : r.Reply → r'.Reply → Prop) (w w' : Simulation) (hk : Demand.Paired k r r' replies)
    (h : w.Alike k.shown w' ∧ minted ≤ w.cluster.minted) :
    replies (handler env r w).1 (handler env' r' w').1 ∧
      ((handler env r w).2.Alike k.shown (handler env' r' w').2 ∧
        minted ≤ (handler env r w).2.cluster.minted) := by
  obtain ⟨hw, hminted⟩ := h
  cases hk with
  | call hwho hopen =>
    exact call_alike env env' hw hminted hwho (Call.resembles_refl _)
      fun _ _ _ ho hversion _ _ => Objects.apply_alike hopen hversion ho
  | readSecret hwho ref =>
    exact call_alike env env' hw hminted hwho (Call.resembles_refl _)
      fun _ _ _ ho _ _ _ => Objects.apply_getSecret_alike ho ref
  | createSecret hwho hs =>
    exact call_alike env env' hw hminted hwho hs.createSecret
      fun _ _ _ ho hversion _ _ => Objects.apply_createSecret_alike hversion ho hs
  | updateSecret hwho hs =>
    exact call_alike env env' hw hminted hwho hs.updateSecret
      fun _ _ _ ho hversion _ _ => Objects.apply_updateSecret_alike hversion ho hs
  | createToken hwho account lifetime =>
    -- The token drawn next is one that nobody shows.
    refine call_alike env env' hw hminted hwho (Call.resembles_refl (.createToken account lifetime))
      fun _ _ d' ho _ hnow htoken => ?_
    have hfresh := henv.fresh _ hminted
    have hempty := henv.empty _ hminted
    rw [← htoken] at hfresh hempty
    exact Objects.apply_createToken_alike hnow ho hfresh.1 hfresh.2 hempty account lifetime
  | exchange hq timeout =>
    exact ⟨henv.exchange _ _ hq, hw, hminted⟩
  | clock =>
    obtain ⟨cluster, rfl, _⟩ := id hw
    exact ⟨rfl, hw, hminted⟩
  | pause length => exact ⟨rfl, hw, hminted⟩

/-- **Programs in two worlds.**  Programs that go on alike have values that belong together in two
worlds that are alike. -/
theorem run_alike {α α' : Type} {ends : α → α' → Prop} {p : Program demands α}
    {p' : Program demands α'} (henv : env.Alike k w.cluster.minted env')
    (hw : w.Alike k.shown w') (hp : p.Alike (Demand.Paired k) ends p') :
    ends (Program.run (handler env) p w).1 (Program.run (handler env') p' w').1 :=
  (hp.run (handler_alike henv) ⟨hw, Nat.le_refl _⟩).1

end Simulation

end CredentialBroker
