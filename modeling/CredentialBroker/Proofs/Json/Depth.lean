import CredentialBroker.Json.Reader

namespace CredentialBroker.Json

/-!
# How deep a document that is read can be

A container that ends within too many others is read as a part that denotes no value, so nothing
that is read is nested more deeply than the reader admits (`within_of_read?`).

A machine keeps this with every octet (`Machine.IsWithin`): what an open container holds can stand
where it is, the number of containers around it being the height of the stack.
-/

/-- The containers of a document can stand within `depth` open ones. -/
inductive Within : Nat → Json → Prop where
  /-- The literal for absence. -/
  | null {depth : Nat} : Within depth .null
  /-- A truth value. -/
  | bool {depth : Nat} (b : Bool) : Within depth (.bool b)
  /-- A whole number. -/
  | int {depth : Nat} (n : Int) : Within depth (.int n)
  /-- Any other number. -/
  | real {depth : Nat} (x : Binary64) : Within depth (.real x)
  /-- A text. -/
  | str {depth : Nat} (s : String) : Within depth (.str s)
  /-- A part that denotes no value. -/
  | illFormed {depth : Nat} : Within depth .illFormed
  /-- A list. -/
  | arr {depth : Nat} {items : List Json} (hdepth : depth < maxDepth)
      (hitems : ∀ j ∈ items, Within (depth + 1) j) : Within depth (.arr items)
  /-- An object. -/
  | obj {depth : Nat} {members : List (String × Json)} (hdepth : depth < maxDepth)
      (hmembers : ∀ m ∈ members, Within (depth + 1) m.2) : Within depth (.obj members)

/-! ### Machines -/

/-- The members that an open object holds so far. -/
def MembersWithin (depth : Nat) (before : Option (List (String × Json))) : Prop :=
  ∀ ms, before = some ms → ∀ m ∈ ms, Within depth m.2

/-- What an open container holds so far can stand within `depth` others. -/
def Frame.IsWithin (depth : Nat) : Frame → Prop
  | .items before => ∀ j ∈ before, Within depth j
  | .members before | .named before _ => MembersWithin depth before

/-- What the open containers hold so far can stand where they are. -/
def StackWithin : List Frame → Prop
  | [] => True
  | frame :: rest => frame.IsWithin (rest.length + 1) ∧ StackWithin rest

/-- The value that has been read, or will have been at the end of a literal. -/
def Mode.IsWithin (depth : Nat) : Mode → Prop
  | .after v | .literal _ v => Within depth v
  | _ => True

/-- What a machine holds so far can stand where it is. -/
structure Machine.IsWithin (m : Machine) : Prop where
  /-- The open containers. -/
  stack : StackWithin m.2
  /-- The value they will get next. -/
  value : m.1.IsWithin m.2.length

variable {stack rest : List Frame} {m m' : Machine} {c : Char} {v : Json}
  {before : Option (List (String × Json))}

/-- A container that ends is deep enough for what it holds. -/
theorem isWithin_closed (hrest : StackWithin rest)
    (hv : rest.length < maxDepth → Within rest.length v) : Machine.IsWithin (closed rest v) := by
  refine ⟨hrest, ?_⟩
  show Within rest.length (if maxDepth ≤ rest.length then .illFormed else v)
  split
  · exact .illFormed
  · next hdepth => exact hv (Nat.lt_of_not_le hdepth)

theorem isWithin_closedItems {before : List Json} (hrest : StackWithin rest)
    (hitems : ∀ j ∈ before, Within (rest.length + 1) j) :
    Machine.IsWithin (closedItems rest before) :=
  isWithin_closed hrest fun hdepth => .arr hdepth fun j hj => hitems j (List.mem_reverse.mp hj)

theorem isWithin_closedMembers (hrest : StackWithin rest)
    (hmembers : MembersWithin (rest.length + 1) before) :
    Machine.IsWithin (closedMembers rest before) := by
  refine isWithin_closed hrest fun hdepth => ?_
  cases before with
  | none => exact .illFormed
  | some ms => exact .obj hdepth fun m hm => hmembers ms rfl m (List.mem_reverse.mp hm)

theorem membersWithin_addMember {depth : Nat} (h : MembersWithin depth before)
    (name : Option String) (hv : Within depth v) :
    MembersWithin depth (addMember before name v) := by
  intro ms hms m hm
  obtain ⟨ms', rfl, hadded⟩ := Option.bind_eq_some_iff.mp hms
  obtain ⟨k, _, rfl⟩ := Option.map_eq_some_iff.mp hadded
  rcases List.mem_cons.mp hm with rfl | hm
  · exact hv
  · exact h ms' rfl m hm

/-! ### Steps -/

/-- Opening a container and skipping blanks leave what is held as it is. -/
theorem stepValue_isWithin {mayClose : Bool} (h : StackWithin stack)
    (hstep : stepValue mayClose stack c = some m') : m'.IsWithin := by
  unfold stepValue at hstep
  split at hstep
  · cases hstep; exact ⟨h, trivial⟩
  · split at hstep
    case h_1 => cases hstep; exact ⟨h, trivial⟩
    case h_2 => cases hstep; exact ⟨⟨List.forall_mem_nil _, h⟩, trivial⟩
    case h_3 =>
      cases hstep
      exact ⟨⟨fun ms hms => by cases hms; exact List.forall_mem_nil _, h⟩, trivial⟩
    case h_4 => cases hstep; exact ⟨h, .bool true⟩
    case h_5 => cases hstep; exact ⟨h, .bool false⟩
    case h_6 => cases hstep; exact ⟨h, .null⟩
    case h_7 => cases hstep; exact ⟨h, trivial⟩
    case h_8 =>
      split at hstep
      · cases hstep; exact isWithin_closedItems h.2 h.1
      · cases hstep
    case h_9 =>
      obtain ⟨n, _, rfl⟩ := Option.map_eq_some_iff.mp hstep
      exact ⟨h, trivial⟩

theorem stepName_isWithin {mayClose : Bool} (h : StackWithin stack)
    (hstep : stepName mayClose stack c = some m') : m'.IsWithin := by
  unfold stepName at hstep
  split at hstep
  · cases hstep; exact ⟨h, trivial⟩
  · split at hstep
    · cases hstep; exact ⟨h, trivial⟩
    · split at hstep
      · cases hstep; exact isWithin_closedMembers h.2 h.1
      · cases hstep
    · cases hstep

/-- A value goes into the innermost open container. -/
theorem stepAfter_isWithin (h : StackWithin stack) (hv : Within stack.length v)
    (hstep : stepAfter v stack c = some m') : m'.IsWithin := by
  unfold stepAfter at hstep
  split at hstep
  · cases hstep; exact ⟨h, hv⟩
  · split at hstep
    · cases hstep; exact ⟨⟨List.forall_mem_cons.mpr ⟨hv, h.1⟩, h.2⟩, trivial⟩
    · cases hstep; exact isWithin_closedItems h.2 (List.forall_mem_cons.mpr ⟨hv, h.1⟩)
    · cases hstep; exact ⟨⟨membersWithin_addMember h.1 _ hv, h.2⟩, trivial⟩
    · cases hstep; exact isWithin_closedMembers h.2 (membersWithin_addMember h.1 _ hv)
    · cases hstep

theorem stepStringEnd_isWithin {isName : Bool} {s : StringScan} (h : StackWithin stack)
    (hstep : stepStringEnd isName s stack = some m') : m'.IsWithin := by
  unfold stepStringEnd at hstep
  split at hstep
  · split at hstep
    · cases hstep; exact ⟨h, trivial⟩
    · cases hstep
  · cases hstep
    refine ⟨h, ?_⟩
    show Within stack.length _
    split
    · exact .str _
    · exact .illFormed

theorem within_ofReal {depth : Nat} (x? : Option Binary64) :
    Within depth (NumberScan.ofReal x?) := by
  cases x? with
  | none => exact .illFormed
  | some x => exact .real x

/-- A number is no container, whether it is whole or not. -/
theorem within_of_finish? {n : NumberScan} {depth : Nat} (h : n.finish? = some v) :
    Within depth v := by
  have hreal : Within depth n.asReal := by
    unfold NumberScan.asReal
    exact within_ofReal _
  unfold NumberScan.finish? at h
  -- What the number is as a binary one plays no part, and it is costly to look into.
  generalize n.asReal = real at h hreal
  split at h
  case h_1 | h_2 =>
    split at h
    · cases h; exact hreal
    · split at h
      · split at h
        · cases h; exact .int _
        · cases h; exact hreal
      · cases h; exact .int _
  case h_3 | h_4 => cases h; exact hreal
  case h_5 => cases h

/-- **Steps.**  Whatever octet comes, what the machine holds can stand where it is. -/
theorem step_isWithin (h : m.IsWithin) {b : UInt8} (hstep : step m b = some m') : m'.IsWithin := by
  obtain ⟨mode, stack⟩ := m
  obtain ⟨hstack, hvalue⟩ := h
  cases mode with
  | value mayClose => exact stepValue_isWithin hstack hstep
  | name mayClose => exact stepName_isWithin hstack hstep
  | colon =>
    simp only [step] at hstep
    split at hstep
    · cases hstep; exact ⟨hstack, trivial⟩
    · split at hstep
      · cases hstep; exact ⟨hstack, trivial⟩
      · cases hstep
  | after v => exact stepAfter_isWithin hstack hvalue hstep
  | string isName s =>
    simp only [step] at hstep
    split at hstep
    · exact stepStringEnd_isWithin hstack hstep
    · split at hstep
      · cases hstep; exact ⟨hstack, trivial⟩
      · split at hstep
        · cases hstep
        · cases hstep; exact ⟨hstack, trivial⟩
  | escape isName s =>
    simp only [step] at hstep
    split at hstep
    · cases hstep; exact ⟨hstack, trivial⟩
    · obtain ⟨e, _, rfl⟩ := Option.map_eq_some_iff.mp hstep
      exact ⟨hstack, trivial⟩
  | unit isName s left value =>
    obtain ⟨d, _, rfl⟩ := Option.map_eq_some_iff.mp hstep
    split
    · exact ⟨hstack, trivial⟩
    · exact ⟨hstack, trivial⟩
  | literal rest v =>
    simp only [step] at hstep
    split at hstep
    · cases hstep
    · split at hstep
      · cases hstep; exact ⟨hstack, hvalue⟩
      · cases hstep
    · split at hstep
      · cases hstep; exact ⟨hstack, hvalue⟩
      · cases hstep
  | number n =>
    simp only [step] at hstep
    split at hstep
    · cases hstep; exact ⟨hstack, trivial⟩
    · obtain ⟨v, hv, hstep⟩ := Option.bind_eq_some_iff.mp hstep
      exact stepAfter_isWithin hstack (within_of_finish? hv) hstep

/-! ### Runs -/

theorem run_isWithin (h : m.IsWithin) {bs : Bytes} (hrun : run m bs = some m') : m'.IsWithin := by
  induction bs generalizing m with
  | nil => cases hrun; exact h
  | cons b bs ih =>
    obtain ⟨next, hstep, hrun⟩ := Option.bind_eq_some_iff.mp hrun
    exact ih (step_isWithin h hstep) hrun

/-- **Depth.**  No document that is read from octets is nested more deeply than the reader
admits. -/
theorem within_of_read? {bs : Bytes} {j : Json} (h : read? bs = some j) : Within 0 j := by
  obtain ⟨m, hrun, hfinish⟩ := Option.bind_eq_some_iff.mp h
  have hstart : Machine.IsWithin (.value false, []) := ⟨trivial, trivial⟩
  have hm : m.IsWithin := run_isWithin hstart hrun
  unfold finish? at hfinish
  split at hfinish
  · cases hfinish; exact hm.value
  · exact within_of_finish? hfinish
  · cases hfinish

end CredentialBroker.Json
