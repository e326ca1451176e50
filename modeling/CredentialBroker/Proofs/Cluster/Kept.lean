import CredentialBroker.Proofs.Cluster.Step

namespace CredentialBroker

/-!
# What every call keeps

Facts about a cluster that no call undoes, whoever makes it and whether it succeeds or fails.

* `Objects.Keyed` — sessions and secrets are found at their own addresses;
* `ClusterState.Holds` — a token that was drawn stands for the user it was drawn for, when no token
  is drawn twice;
* roles and role bindings stay once they are there.
-/

/-- Sessions and secrets are stored at the addresses they name themselves. -/
structure Objects.Keyed (o : Objects) : Prop where
  /-- The sessions are. -/
  sessions : ∀ ref s, o.sessions.get? ref = some s → s.ref = ref
  /-- The secrets are. -/
  secrets : ∀ ref s, o.secrets.get? ref = some s → s.ref = ref

namespace Objects

variable {d : Draw} {call : Call} {o o' : Objects}

@[simp] theorem ref_versioned (s : Session) (version : String) :
    (versioned s version).ref = s.ref := rfl

/-- A session is written at the address at which it was found. -/
theorem SessionWrite.ref_eq {ref : ObjectRef} {stored new : Session}
    (h : SessionWrite call ref stored new) (hstored : stored.ref = ref) : new.ref = ref := by
  cases h with
  | patch => exact hstored
  | update => rfl
  | status => exact hstored

theorem Effect.keyed (h : Effect d call o o') (hk : o.Keyed) : o'.Keyed := by
  constructor
  · rcases h.sessions with hsame | ⟨ref, stored, new, hwrite, hstored, hinsert⟩
    · rw [hsame]
      exact hk.sessions
    · rw [hinsert]
      have hnew : (versioned new d.version).ref = ref :=
        hwrite.ref_eq (hk.sessions ref stored hstored)
      exact SortedMap.forall_insert hk.sessions hnew
  · rcases h.secrets with hsame | ⟨secret, _, hinsert⟩
    · rw [hsame]
      exact hk.secrets
    · rw [hinsert]
      exact SortedMap.forall_insert hk.secrets rfl

/-- A role that is there stays, with these rules or others. -/
theorem Effect.role_stays (h : Effect d call o o') {ref : ObjectRef}
    (hr : (o.roles.get? ref).isSome) : (o'.roles.get? ref).isSome := by
  rcases h.roles with hsame | ⟨role, _, hinsert⟩
  · rwa [hsame]
  · rw [hinsert]
    exact SortedMap.isSome_get?_insert hr

/-- A role binding that is there stays, with these subjects or others. -/
theorem Effect.binding_stays (h : Effect d call o o') {ref : ObjectRef}
    (hb : (o.bindings.get? ref).isSome) : (o'.bindings.get? ref).isSome := by
  rcases h.bindings with hsame | ⟨binding, _, hinsert⟩
  · rwa [hsame]
  · rw [hinsert]
    exact SortedMap.isSome_get?_insert hb

end Objects

namespace ClusterState

variable {supply : Supply} {now : Timestamp} {who : Client} {call : Call} {s : ClusterState}

/-- What effects keep, steps keep. -/
theorem step_keeps {I : Objects → Prop} (hs : I s.objects)
    (heffect : ∀ o', Objects.Effect (s.draw supply now) call s.objects o' → I o') :
    I (s.step supply now who call).2.objects := by
  rcases step_effect supply now who call s with ⟨hsame, _⟩ | ⟨heff, _⟩
  · rwa [hsame]
  · exact heffect _ heff

theorem step_keyed (hk : s.objects.Keyed) : (s.step supply now who call).2.objects.Keyed :=
  step_keeps hk fun _ h => h.keyed hk

theorem step_role_stays {ref : ObjectRef} (h : (s.objects.roles.get? ref).isSome) :
    ((s.step supply now who call).2.objects.roles.get? ref).isSome :=
  step_keeps (I := fun o => (o.roles.get? ref).isSome) h fun _ he => he.role_stays h

theorem step_binding_stays {ref : ObjectRef} (h : (s.objects.bindings.get? ref).isSome) :
    ((s.step supply now who call).2.objects.bindings.get? ref).isSome :=
  step_keeps (I := fun o => (o.bindings.get? ref).isSome) h fun _ he => he.binding_stays h

/-! ### Tokens -/

theorem minted_le_step : s.minted ≤ (s.step supply now who call).2.minted := by
  rcases step_effect supply now who call s with ⟨_, hsame⟩ | ⟨_, hminted⟩
  · exact Nat.le_of_eq hsame.symm
  · rw [hminted]
    omega

/-- The token with a number was drawn and stands for a user. -/
def Holds (supply : Supply) (k : Nat) (user : String) (s : ClusterState) : Prop :=
  k < s.minted ∧ s.objects.tokens.get? (supply.token k) = some user

/-- **Tokens keep their users.**  As no token is drawn twice, none that was drawn changes hands. -/
theorem step_holds {k : Nat} {user : String} (hfresh : Function.Injective supply.token)
    (h : s.Holds supply k user) : (s.step supply now who call).2.Holds supply k user := by
  obtain ⟨hk, htoken⟩ := h
  refine ⟨Nat.lt_of_lt_of_le hk minted_le_step, ?_⟩
  rcases step_effect supply now who call s with ⟨hsame, _⟩ | ⟨heff, _⟩
  · rw [hsame, htoken]
  · rcases heff.tokens with ⟨_, hsame⟩ | ⟨account, lifetime, _, hinsert⟩
    · rw [hsame, htoken]
    · rw [hinsert, SortedMap.get?_insert, if_neg, htoken]
      -- The token drawn now has a later number.
      intro heq
      have : k = s.minted := hfresh heq
      omega

/-- The next token drawn stands for the identity it is drawn for. -/
theorem step_draws {k : Nat} (hold : s.minted ≤ k)
    (hk : k < (s.step supply now who call).2.minted) :
    ∃ account lifetime, call = .createToken account lifetime ∧
      (s.step supply now who call).2.Holds supply k (Identity.user account) := by
  rcases step_effect supply now who call s with ⟨_, hsame⟩ | ⟨heff, hminted⟩
  · rw [hsame] at hk
    omega
  · rcases heff.tokens with ⟨hno, _⟩ | ⟨account, lifetime, hcall, hinsert⟩
    · rw [hminted, hno] at hk
      simp only [Bool.toNat_false, Nat.add_zero] at hk
      omega
    · have hlast : k = s.minted := by
        have := Bool.toNat_le call.isMinting
        omega
      refine ⟨account, lifetime, hcall, hk, ?_⟩
      rw [hinsert, hlast]
      exact SortedMap.get?_insert_self _ _ _

end ClusterState

end CredentialBroker
