import CredentialBroker.Credential.Runner
import CredentialBroker.Credential.Usage
import CredentialBroker.Proofs.Cluster.Secrecy
import CredentialBroker.Proofs.Credential.Issue
import CredentialBroker.Proofs.Credential.Runner

namespace CredentialBroker

/-!
# Credentials that are handled without being told

What writes secrets, issues credentials, checks jobs and notes the use of keys goes on alike
whatever the octets and the tokens it handles.

* `CredentialStore.write_alike` — writes of entries that differ in their octets;
* `Issuer.issue_alike` — issues of a credential with whatever token is minted for it;
* `verifyRunner_alike`, `Usage.program_alike` — programs that only ask about tokens shown.
-/

variable {k : Likeness}

/-- A call that tells no secret is answered the same. -/
theorem Action.open_alike {who : Client} {c : Call} (hwho : who.Shows k.shown)
    (hopen : c.IsOpen k.shown) :
    (Action.cluster who c).Alike (Demand.Paired k) Eq Eq (Action.cluster who c) :=
  Action.alike_cluster (.call hwho hopen)

theorem Action.platform_alike {c : Call} (hopen : c.IsOpen k.shown) :
    (Action.cluster .platform c).Alike (Demand.Paired k) Eq Eq (Action.cluster .platform c) :=
  Action.alike_cluster (.call trivial hopen)

/-! ### Writing -/

/-- The changes differ in the octets of their entries at most. -/
def SecretChange.Alike (c c' : SecretChange) : Prop := ∃ entries, c' = { c with entries := entries }

namespace CredentialStore

variable {st : CredentialStore} {ref : ObjectRef} {c c' : SecretChange}

theorem tryWrite_alike (hst : st.client.Shows k.shown) (hc : c.Alike c') :
    (st.tryWrite ref c).Alike (Demand.Paired k) Eq Eq (st.tryWrite ref c') := by
  obtain ⟨entries, rfl⟩ := hc
  unfold tryWrite
  refine Action.alike_bind (Action.alike_outcome
    (Action.alike_cluster (.readSecret hst ref))) fun x x' hx => ?_
  cases hx with
  | ok hs =>
    -- The change is merged into secrets that differ in their octets.
    obtain ⟨data, rfl⟩ := hs
    exact Action.alike_discard (Action.alike_cluster (.updateSecret hst ⟨data.union entries, rfl⟩))
  | error he =>
    subst he
    dsimp only
    split
    · exact Action.alike_discard (Action.alike_cluster (.createSecret hst ⟨entries, rfl⟩))
    · exact Action.alike_throw rfl

/-- Writes of changes that differ in their octets go on alike. -/
theorem write_alike (hst : st.client.Shows k.shown) (hc : c.Alike c') :
    (st.write ref c).Alike (Demand.Paired k) Eq Eq (st.write ref c') := by
  refine Action.alike_mapError ?_ fun _ _ he => congrArg _ he
  exact Action.alike_retried .pause (fun _ _ he => congrArg isLate he)
    fun _ => tryWrite_alike hst hc

end CredentialStore

/-! ### Issuing -/

namespace Issuer

variable {i : Issuer} {ref : ObjectRef} {owner : OwnerReference}

theorem ask_alike (hi : i.client.Shows k.shown) {call : Call} (hopen : call.IsOpen k.shown) :
    (i.ask call).Alike (Demand.Paired k) Eq Eq (i.ask call) :=
  Action.alike_mapError (Action.open_alike hi hopen) fun _ _ he => congrArg _ he

theorem create_alike (hi : i.client.Shows k.shown) {call : Call} (hopen : call.IsOpen k.shown) :
    (i.create call).Alike (Demand.Paired k) Eq Eq (i.create call) := by
  unfold create
  refine Action.alike_bind (Action.alike_outcome (Action.open_alike hi hopen)) fun x x' hx => ?_
  cases hx with
  | ok hv => exact Action.alike_pure rfl
  | error he =>
    subst he
    dsimp only
    split
    · exact Action.alike_pure rfl
    · exact Action.alike_throw rfl

theorem ensureRole_alike (hi : i.client.Shows k.shown) :
    (i.ensureRole ref owner).Alike (Demand.Paired k) Eq Eq (i.ensureRole ref owner) := by
  unfold ensureRole
  refine Action.alike_then (create_alike hi trivial) fun present => ?_
  split
  · refine Action.alike_then (ask_alike hi trivial) fun found => ?_
    split
    · exact Action.alike_discard (ask_alike hi trivial)
    · exact Action.alike_pure rfl
  · exact Action.alike_pure rfl

theorem ensureBinding_alike (hi : i.client.Shows k.shown) :
    (i.ensureBinding ref owner).Alike (Demand.Paired k) Eq Eq (i.ensureBinding ref owner) := by
  unfold ensureBinding
  refine Action.alike_then (create_alike hi trivial) fun present => ?_
  split
  · refine Action.alike_then (ask_alike hi trivial) fun found => ?_
    split
    · exact Action.alike_discard (ask_alike hi trivial)
    · exact Action.alike_pure rfl
  · exact Action.alike_pure rfl

theorem prepare_alike (hi : i.client.Shows k.shown) :
    (i.prepare ref).Alike (Demand.Paired k) Eq Eq (i.prepare ref) := by
  unfold prepare
  refine Action.alike_then (ask_alike hi trivial) fun session => ?_
  refine Action.alike_then (Action.alike_discard (create_alike hi trivial)) fun _ => ?_
  refine Action.alike_then (ensureRole_alike hi) fun _ => ?_
  refine Action.alike_then (ensureBinding_alike hi) fun _ => ?_
  exact Action.alike_pure rfl

theorem deliver_alike (hi : i.client.Shows k.shown) :
    (i.deliver ref owner).Alike (Demand.Paired k) Eq Eq (i.deliver ref owner) := by
  unfold deliver
  refine Action.alike_bind (Action.alike_mapError (Action.alike_cluster
    (c := .createToken (accountOf ref) i.lifetime) (.createToken hi _ _))
      fun _ _ he => congrArg _ he) ?_
  rintro minted minted' ⟨hempty, hexpires⟩
  dsimp only
  rw [hexpires]
  by_cases h : minted.token = ""
  · rw [if_pos h, if_pos (hempty.mp h)]
    exact Action.alike_throw_bind rfl
  · rw [if_neg h, if_neg (mt hempty.mpr h)]
    -- The tokens are put into the secret and told nobody.
    refine Action.alike_then (CredentialStore.write_alike hi ⟨_, rfl⟩) fun _ => ?_
    refine Action.alike_then (Action.alike_discard (ask_alike hi trivial)) fun _ => ?_
    exact Action.alike_pure rfl

theorem issue_alike (hi : i.client.Shows k.shown) :
    (i.issue ref).Alike (Demand.Paired k) Eq Eq (i.issue ref) := by
  rw [issue_eq]
  exact Action.alike_then (prepare_alike hi) fun _ => deliver_alike hi

theorem issue?_alike {ε : Type} (hi : i.client.Shows k.shown) :
    (i.issue? ref : Action ε (Option IssuedCredential)).Alike (Demand.Paired k) Eq Eq
      (i.issue? ref) := by
  unfold issue?
  refine Action.alike_bind (Action.alike_outcome (issue_alike hi)) fun x x' hx => ?_
  cases hx with
  | ok hv => exact Action.alike_pure (congrArg _ hv)
  | error he => exact Action.alike_pure rfl

end Issuer

/-! ### Checking jobs -/

theorem askPlatform_alike {call : Call} (hopen : call.IsOpen k.shown) :
    (askPlatform call).Alike (Demand.Paired k) Eq Eq (askPlatform call) :=
  Action.alike_mapError (Action.platform_alike hopen) fun _ _ he => congrArg _ he

/-- Checking a job asks about the token it shows. -/
theorem verifyRunner_alike {token : String} {session : ObjectRef}
    (htoken : k.shown (Text.trim token)) :
    (verifyRunner token session).Alike (Demand.Paired k) Eq Eq (verifyRunner token session) := by
  by_cases hblank : Text.trim token = ""
  · unfold verifyRunner
    rw [if_pos hblank]
    exact Action.alike_throw_bind rfl
  · rw [verifyRunner_eq token session hblank]
    refine Action.alike_then (askPlatform_alike htoken) fun review => ?_
    refine Action.alike_then (Action.alike_known Eq.refl _) fun id => ?_
    refine Action.alike_then (askPlatform_alike trivial) fun stored => ?_
    refine Action.alike_then (Action.alike_known Eq.refl _) fun user => ?_
    exact Action.alike_pure rfl

/-! ### Noting the use of keys -/

namespace Usage

theorem note_alike {account : ObjectRef} :
    (note account).Alike (Demand.Paired k) Eq Eq (note account) := by
  unfold note
  refine Action.alike_then (Action.platform_alike trivial) fun found => ?_
  split
  · refine Action.alike_then (Action.alike_clock .clock) fun now => ?_
    exact Action.platform_alike (c := .patchServiceAccountAnnotations account _) trivial
  · exact Action.alike_pure rfl

/-- What is noted about a token goes on alike. -/
theorem program_alike (enabled : Bool) (token : String) :
    (program enabled token).Alike (Demand.Paired k) Eq (program enabled token) := by
  unfold program
  split
  · show Program.Alike _ _ (_ <$> (note _).run) (_ <$> (note _).run)
    rw [map_eq_pure_bind]
    exact Program.alike_bind (Action.alike_iff.mp note_alike) fun _ _ _ => .done rfl
  · exact .done rfl

end Usage

end CredentialBroker
