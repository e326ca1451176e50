import CredentialBroker.Cluster.Identity

namespace CredentialBroker.Identity

/-!
# User names of machine identities, read back

`accountOf?` and `subject?` are determined by the user names they accept.

* `accountOf?_eq_some_iff` — the account of a user name is the one whose user name it is, as long
  as its namespace has no colon;
* `subject?_eq_some_iff` — the same with both parts given and free of colons, which leaves no two
  accounts that could be meant;
* `user_subject` — a user name that is accepted as a subject is that of no other account, not even
  of one with colons in its namespace.
-/

variable {name : String} {account other : ObjectRef}

theorem toList_user (account : ObjectRef) :
    (user account).toList =
      userStart.toList ++ (account.ns.toList ++ ':' :: account.name.toList) := by
  simp [user, List.append_assoc]

/-- The account of a user name is the one that the name is made of. -/
theorem accountOf?_eq_some_iff :
    accountOf? name = some account ↔ name = user account ∧ ':' ∉ account.ns.toList := by
  unfold accountOf? Text.dropPrefix? Text.cut?
  simp only [Option.bind_eq_bind, Option.bind_eq_some_iff, Option.map_eq_some_iff,
    Text.dropPrefixChars_eq_some_iff, Prod.exists, Prod.mk.injEq, pure, Option.some.injEq]
  constructor
  · rintro ⟨_, ⟨rest, hname, rfl⟩, _, _, ⟨ns, id, hcut, rfl, rfl⟩, rfl⟩
    obtain ⟨hns, hrest⟩ := Text.cutChars_eq_some_iff.mp hcut
    rw [String.toList_ofList] at hrest
    refine ⟨String.ext ?_, by simpa using hns⟩
    rw [hname, toList_user, hrest, String.toList_ofList, String.toList_ofList]
  · rintro ⟨rfl, hns⟩
    refine ⟨_, ⟨_, toList_user account, rfl⟩, _, _, ⟨account.ns.toList, account.name.toList, ?_,
      rfl, rfl⟩, ?_⟩
    · rw [String.toList_ofList]
      exact Text.cutChars_eq_some_iff.mpr ⟨hns, rfl⟩
    · simp

@[simp] theorem accountOf?_user (h : ':' ∉ account.ns.toList) :
    accountOf? (user account) = some account :=
  accountOf?_eq_some_iff.mpr ⟨rfl, h⟩

/-- **Subjects.**  A user name is accepted as a subject exactly when it is the user name of an
account with a namespace and a name, both free of colons. -/
theorem subject?_eq_some_iff :
    subject? name = some account ↔
      name = user account ∧ account.ns ≠ "" ∧ account.name ≠ "" ∧ ':' ∉ account.ns.toList ∧
        ':' ∉ account.name.toList := by
  unfold subject?
  rw [Option.filter_eq_some_iff, accountOf?_eq_some_iff]
  simp only [decide_eq_true_eq, List.contains_iff_mem]
  constructor
  · rintro ⟨⟨hname, hcolon⟩, hns, hid, hfree⟩
    exact ⟨hname, hns, hid, hcolon, hfree⟩
  · rintro ⟨hname, hns, hid, hcolon, hfree⟩
    exact ⟨⟨hname, hcolon⟩, hns, hid, hfree⟩

/-- When the user name of an account is accepted as a subject, it is as the account itself. -/
theorem user_subject (h : subject? (user other) = some account) : account = other := by
  obtain ⟨hname, _, _, hns, hfree⟩ := subject?_eq_some_iff.mp h
  have hlists := congrArg String.toList hname
  rw [toList_user, toList_user] at hlists
  have hrest := List.append_cancel_left hlists
  -- A colon in the other namespace would leave one in the name of the account.
  have hother : ':' ∉ other.ns.toList := by
    intro hmem
    have hcount := congrArg (List.count ':') hrest
    have h1 : account.ns.toList.count ':' = 0 := List.count_eq_zero.mpr hns
    have h2 : account.name.toList.count ':' = 0 := List.count_eq_zero.mpr hfree
    have h3 : 0 < other.ns.toList.count ':' := List.count_pos_iff.mpr hmem
    simp only [List.count_append, List.count_cons_self] at hcount
    omega
  have hcut := accountOf?_eq_some_iff.mpr ⟨hname, hns⟩
  rw [accountOf?_user hother] at hcut
  exact (Option.some.inj hcut).symm

end CredentialBroker.Identity
