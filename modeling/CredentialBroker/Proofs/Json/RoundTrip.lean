import CredentialBroker.Proofs.Json.Parts

namespace CredentialBroker.Json

/-!
# What is written is read back

A document may be written with blanks between its parts: `Spells` says which characters spell a
document, and `reads_of_spells` that the machine reads it from them, whatever the blanks are.  Both
ways to write a document are covered: `read?_compact` reads it from one line without blanks, and
`read?_pretty` from lines of their own for its parts.  Both need a document that a text can hold:
`Fits` says that every number in it is whole and within bounds and that it is not nested too deeply
for the containers that are open around it.

The induction is on `Spells`, over any machine that expects a value.  A number has no end of its
own, so the machine may still be within it afterwards; `Ends` is what the two endings have in
common.
-/

open Text

/-- A document that can stand within `depth` open containers. -/
inductive Fits : Nat → Json → Prop where
  /-- The literal for absence. -/
  | null {depth : Nat} : Fits depth .null
  /-- A truth value. -/
  | bool {depth : Nat} (b : Bool) : Fits depth (.bool b)
  /-- A whole number within bounds. -/
  | int {depth : Nat} {n : Int} (hlow : -(Word.values 63 : Int) ≤ n) (hhigh : n < Word.values 64) :
    Fits depth (.int n)
  /-- A text. -/
  | str {depth : Nat} (s : String) : Fits depth (.str s)
  /-- A list. -/
  | arr {depth : Nat} {items : List Json} (hdepth : depth < maxDepth)
      (hitems : ∀ j ∈ items, Fits (depth + 1) j) : Fits depth (.arr items)
  /-- An object. -/
  | obj {depth : Nat} {members : List (String × Json)} (hdepth : depth < maxDepth)
      (hmembers : ∀ m ∈ members, Fits (depth + 1) m.2) : Fits depth (.obj members)

/-- Characters that may stand between the parts of a document. -/
def Blank (cs : List Char) : Prop := ∀ c ∈ cs, isSpace c = true

/-- A member of an object as it is written: its name, a colon, and the value. -/
def memberChars (colon : List Char) (spelling : Json → List Char) (m : String × Json) :
    List Char :=
  quoted m.1 ++ ':' :: (colon ++ spelling m.2)

/-- Characters that spell a document within `depth` open containers.  In a container the same blanks
stand before each part, and others may stand after the last one. -/
inductive Spells : Nat → Json → List Char → Prop where
  /-- The literal for absence. -/
  | null {depth : Nat} : Spells depth .null ['n', 'u', 'l', 'l']
  /-- The literal for what holds. -/
  | true {depth : Nat} : Spells depth (.bool true) ['t', 'r', 'u', 'e']
  /-- The literal for what does not hold. -/
  | false {depth : Nat} : Spells depth (.bool false) ['f', 'a', 'l', 's', 'e']
  /-- A whole number within bounds. -/
  | int {depth : Nat} {n : Int} (hlow : -(Word.values 63 : Int) ≤ n) (hhigh : n < Word.values 64) :
    Spells depth (.int n) (digits n)
  /-- A text in quotes. -/
  | str {depth : Nat} (s : String) : Spells depth (.str s) (quoted s)
  /-- A list without items. -/
  | noItems {depth : Nat} (hdepth : depth < maxDepth) : Spells depth (.arr []) ['[', ']']
  /-- A list with items. -/
  | arr {depth : Nat} {first : Json} {rest : List Json} {spelling : Json → List Char}
    {gap last : List Char} (hdepth : depth < maxDepth) (hgap : Blank gap) (hlast : Blank last)
    (hitems : ∀ j ∈ first :: rest, Spells (depth + 1) j (spelling j)) :
    Spells depth (.arr (first :: rest))
      ('[' :: (gap ++ (separated (',' :: gap) ((first :: rest).map spelling) ++ (last ++ [']']))))
  /-- An object without members. -/
  | noMembers {depth : Nat} (hdepth : depth < maxDepth) : Spells depth (.obj []) ['{', '}']
  /-- An object with members. -/
  | obj {depth : Nat} {first : String × Json} {rest : List (String × Json)}
    {spelling : Json → List Char} {gap colon last : List Char} (hdepth : depth < maxDepth)
    (hgap : Blank gap) (hcolon : Blank colon) (hlast : Blank last)
    (hmembers : ∀ m ∈ first :: rest, Spells (depth + 1) m.2 (spelling m.2)) :
    Spells depth (.obj (first :: rest))
      ('{' :: (gap ++ (separated (',' :: gap) ((first :: rest).map (memberChars colon spelling)) ++
        (last ++ ['}']))))

/-- The machine has read a value, and at most the end of a number is still open. -/
inductive Ends (j : Json) (stack : List Frame) : Machine → Prop where
  /-- The value is complete. -/
  | after : Ends j stack (.after j, stack)
  /-- The value is a whole number that more digits could follow. -/
  | number (n : NumberScan) (hphase : n.phase = .zero ∨ n.phase = .whole)
      (hvalue : n.finish? = some j) : Ends j stack (.number n, stack)

/-- The machine reads `j` from the octets of `cs`. -/
def Reads (m : Machine) (j : Json) (cs : List Char) : Prop :=
  ∃ m', run m (octetsOf cs) = some m' ∧ Ends j m.2 m'

variable {j : Json} {stack : List Frame} {m : Machine} {mayClose : Bool}
  {cs gap colon last : List Char}

/-! ### Blanks -/

/-- Blanks are characters of ASCII. -/
theorem space_cases {c : Char} (h : isSpace c = true) :
    c = ' ' ∨ c = '\n' ∨ c = '\t' ∨ c = '\r' := by
  simpa only [isSpace, Bool.or_eq_true, decide_eq_true_eq, or_assoc] using h

/-- Where blanks leave the machine as it is, it goes on after them. -/
theorem run_blank (hskip : ∀ c, isSpace c = true → step m (UInt8.ofNat c.toNat) = some m)
    (h : Blank gap) : run m (octetsOf (gap ++ cs)) = run m (octetsOf cs) := by
  induction gap with
  | nil => rfl
  | cons c gap ih =>
    have hc : isSpace c = true := h c List.mem_cons_self
    have hascii : c.toNat < 0x80 := by
      rcases space_cases hc with rfl | rfl | rfl | rfl <;> decide
    rw [List.cons_append, run_ascii hascii, hskip c hc, Option.bind_some]
    exact ih fun c' hc' => h c' (List.mem_cons_of_mem _ hc')

theorem run_blank_value (h : Blank gap) :
    run (.value mayClose, stack) (octetsOf (gap ++ cs)) =
      run (.value mayClose, stack) (octetsOf cs) :=
  run_blank (fun _ hc => by rcases space_cases hc with rfl | rfl | rfl | rfl <;> rfl) h

theorem run_blank_name (h : Blank gap) :
    run (.name mayClose, stack) (octetsOf (gap ++ cs)) =
      run (.name mayClose, stack) (octetsOf cs) :=
  run_blank (fun _ hc => by rcases space_cases hc with rfl | rfl | rfl | rfl <;> rfl) h

theorem run_blank_after (h : Blank gap) :
    run (.after j, stack) (octetsOf (gap ++ cs)) = run (.after j, stack) (octetsOf cs) :=
  run_blank (fun _ hc => by rcases space_cases hc with rfl | rfl | rfl | rfl <;> rfl) h

/-- A character that ends every number. -/
def endsNumber (c : Char) : Bool := c = ',' || c = ']' || c = '}' || isSpace c

/-- A separator or a blank ends a value, a number too. -/
theorem Ends.run_separator (h : Ends j stack m) {c : Char} {cs : List Char} (hc : endsNumber c) :
    run m (octetsOf (c :: cs)) =
      (stepAfter j stack c).bind fun m' => run m' (octetsOf cs) := by
  have hc' : c = ',' ∨ c = ']' ∨ c = '}' ∨ c = ' ' ∨ c = '\n' ∨ c = '\t' ∨ c = '\r' := by
    simpa only [endsNumber, isSpace, Bool.or_eq_true, decide_eq_true_eq, or_assoc] using hc
  have hascii : c.toNat < 0x80 := by
    rcases hc' with rfl | rfl | rfl | rfl | rfl | rfl | rfl <;> decide
  rw [run_ascii hascii]
  cases h with
  | after => simp only [step, ofNat_octet hascii]
  | number n hphase hvalue =>
    -- No separator goes on with a number.
    have hnext : n.next? c = none := by
      rcases hc' with rfl | rfl | rfl | rfl | rfl | rfl | rfl <;>
        rcases hphase with hphase | hphase <;>
          simp [NumberScan.next?, NumberScan.digit?, hphase]
    simp only [step, ofNat_octet hascii, hnext, hvalue, Option.bind_some]

/-- After a value, blanks are skipped before a separator. -/
theorem Ends.run_blank_separator (h : Ends j stack m) (hgap : Blank gap) {c : Char}
    (hc : endsNumber c) :
    run m (octetsOf (gap ++ c :: cs)) =
      (stepAfter j stack c).bind fun m' => run m' (octetsOf cs) := by
  cases gap with
  | nil => exact h.run_separator hc
  | cons space gap =>
    have hspace : isSpace space = true := hgap space List.mem_cons_self
    have hends : endsNumber space = true := by
      rw [endsNumber, hspace, Bool.or_true]
    have hstay : stepAfter j stack space = some (.after j, stack) := if_pos hspace
    rw [List.cons_append, h.run_separator hends, hstay, Option.bind_some,
      run_blank_after fun c' hc' => hgap c' (List.mem_cons_of_mem _ hc')]
    exact Ends.after.run_separator hc

theorem Ends.finish? (h : Ends j [] m) : Json.finish? m = some j := by
  cases h with
  | after => rfl
  | number n _ hvalue => exact hvalue

/-! ### Numbers -/

/-- A number of which only digits have been read may go on with more of them. -/
theorem counted_phase (negative : Bool) (n : Nat) :
    (counted negative n).phase = .zero ∨ (counted negative n).phase = .whole := by
  unfold counted
  dsimp only
  split
  · exact .inl rfl
  · exact .inr rfl

theorem finish?_counted_natural (n : Nat) : (counted false n).finish? = some (.int n) := by
  unfold NumberScan.finish?
  rcases counted_phase false n with h | h <;> rw [h] <;> rfl

theorem finish?_counted_negative {n : Nat} (hpos : 0 < n) (h : n ≤ Word.values 63) :
    (counted true n).finish? = some (.int (-n)) := by
  have hfull : ¬ (counted true n).full = true := Bool.false_ne_true
  have hsign : (counted true n).negative = true := rfl
  have hbound : 0 < (counted true n).digits ∧ (counted true n).digits ≤ Word.values 63 := ⟨hpos, h⟩
  unfold NumberScan.finish?
  rcases counted_phase true n with hphase | hphase <;> rw [hphase] <;> dsimp only <;>
    rw [if_neg hfull, if_pos hsign, if_pos hbound] <;> rfl

theorem reads_int {n : Int} (hlow : -(Word.values 63 : Int) ≤ n) (hhigh : n < Word.values 64) :
    Reads (.value mayClose, stack) (.int n) (digits n) := by
  -- A number below zero has to fit a word with sign, the others a word without.
  by_cases hsign : 0 ≤ n
  · have hdigits : digits n = Nat.toDigits 10 n.toNat := by
      rw [digits, Int.toString_eq_repr, Int.repr_eq_if, if_pos hsign, Nat.toList_repr]
    have hn : (n.toNat : Int) = n := Int.toNat_of_nonneg hsign
    refine ⟨_, ?_, .number _ (counted_phase false n.toNat) ?_⟩
    · rw [hdigits, run_natural (by omega)]
    · rw [finish?_counted_natural, hn]
  · have hdigits : digits n = '-' :: Nat.toDigits 10 (-n).toNat := by
      rw [digits, Int.toString_eq_repr, Int.repr_eq_if, if_neg hsign,
        String.toList_append, Nat.toList_repr]
      rfl
    have hn : (((-n).toNat : Nat) : Int) = -n := Int.toNat_of_nonneg (by omega)
    have hbound : (-n).toNat ≤ Word.values 63 := by omega
    refine ⟨_, ?_, .number _ (counted_phase true (-n).toNat) ?_⟩
    · rw [hdigits, run_negative (Nat.lt_of_le_of_lt hbound (by decide))]
    · rw [finish?_counted_negative (by omega) hbound, hn, Int.neg_neg]

/-! ### Containers -/

theorem closed_eq {v : Json} (h : stack.length < maxDepth) :
    closed stack v = (.after v, stack) := by
  rw [closed, if_neg (Nat.not_le_of_lt h)]

theorem separated_map_cons_cons {α : Type} (sep : List Char) (f : α → List Char) (x y : α)
    (xs : List α) :
    separated sep ((x :: y :: xs).map f) = f x ++ (sep ++ separated sep ((y :: xs).map f)) := by
  rw [List.map_cons, List.map_cons, separated, List.append_assoc]
  exact List.cons_ne_nil _ _

variable {spelling : Json → List Char}

/-- The items of a list that is not empty are read up to its end. -/
theorem run_items (hgap : Blank gap) (hlast : Blank last) (mayClose : Bool) (before : List Json)
    {rest : List Json} (h : stack.length < maxDepth) (first : Json)
    (hitems : ∀ j ∈ first :: rest, ∀ mayClose before,
      Reads (.value mayClose, .items before :: stack) j (spelling j)) :
    run (.value mayClose, .items before :: stack) (octetsOf
        (separated (',' :: gap) ((first :: rest).map spelling) ++ (last ++ [']']))) =
      some (.after (.arr (before.reverse ++ first :: rest)), stack) := by
  induction rest generalizing first before mayClose with
  | nil =>
    -- The last item is ended by the bracket.
    obtain ⟨m, hrun, hends⟩ := hitems first List.mem_cons_self mayClose before
    rw [List.map_singleton, separated, octetsOf_append, run_append_of_eq hrun,
      hends.run_blank_separator hlast (by decide)]
    show some (closedItems stack (first :: before)) = _
    rw [closedItems, closed_eq h, List.reverse_cons]
  | cons next rest ih =>
    -- The others are ended by a comma, and the list goes on with one more item read.
    obtain ⟨m, hrun, hends⟩ := hitems first List.mem_cons_self mayClose before
    have hrest := ih false (first :: before) next
      fun j hj => hitems j (List.mem_cons_of_mem _ hj)
    rw [separated_map_cons_cons, List.append_assoc, octetsOf_append, run_append_of_eq hrun,
      List.append_assoc, List.cons_append, hends.run_separator (by decide)]
    show run (.value false, .items (first :: before) :: stack) _ = _
    rw [run_blank_value hgap, hrest, List.reverse_cons, List.append_assoc, List.singleton_append]

/-- One member of an object is read up to the end of its value. -/
theorem run_member (hcolon : Blank colon) (mayClose : Bool)
    (before : Option (List (String × Json))) (m : String × Json)
    (hm : ∀ mayClose stack', stack'.length = stack.length + 1 →
      Reads (.value mayClose, stack') m.2 (spelling m.2)) :
    ∃ t, run (.name mayClose, .members before :: stack)
        (octetsOf (memberChars colon spelling m)) = some t ∧
      Ends m.2 (.named before (some m.1) :: stack) t := by
  obtain ⟨t, hrun, hends⟩ := hm false (.named before (some m.1) :: stack) rfl
  refine ⟨t, ?_, hends⟩
  rw [memberChars, octetsOf_append, run_append_of_eq (run_name m.1)]
  show run (.value false, .named before (some m.1) :: stack) (octetsOf (colon ++ _)) = _
  rw [run_blank_value hcolon]
  exact hrun

/-- The members of an object that is not empty are read up to its end. -/
theorem run_members (hgap : Blank gap) (hcolon : Blank colon) (hlast : Blank last)
    (mayClose : Bool) (before : List (String × Json)) {rest : List (String × Json)}
    (h : stack.length < maxDepth) (first : String × Json)
    (hmembers : ∀ m ∈ first :: rest, ∀ mayClose stack', stack'.length = stack.length + 1 →
      Reads (.value mayClose, stack') m.2 (spelling m.2)) :
    run (.name mayClose, .members (some before) :: stack) (octetsOf (separated (',' :: gap)
        ((first :: rest).map (memberChars colon spelling)) ++ (last ++ ['}']))) =
      some (.after (.obj (before.reverse ++ first :: rest)), stack) := by
  induction rest generalizing first before mayClose with
  | nil =>
    obtain ⟨t, hrun, hends⟩ :=
      run_member hcolon mayClose (some before) first (hmembers first List.mem_cons_self)
    rw [List.map_singleton, separated, octetsOf_append, run_append_of_eq hrun,
      hends.run_blank_separator hlast (by decide)]
    show some (closedMembers stack (some (first :: before))) = _
    rw [closedMembers, closed_eq h, List.reverse_cons]
  | cons next rest ih =>
    obtain ⟨t, hrun, hends⟩ :=
      run_member hcolon mayClose (some before) first (hmembers first List.mem_cons_self)
    have hrest := ih false (first :: before) next
      fun m hm => hmembers m (List.mem_cons_of_mem _ hm)
    rw [separated_map_cons_cons, List.append_assoc, octetsOf_append, run_append_of_eq hrun,
      List.append_assoc, List.cons_append, hends.run_separator (by decide)]
    show run (.name false, .members (some (first :: before)) :: stack) _ = _
    rw [run_blank_name hgap, hrest, List.reverse_cons, List.append_assoc, List.singleton_append]

/-! ### Documents -/

/-- A document is read from what spells it, wherever a value may start. -/
theorem reads_of_spells {depth : Nat} (h : Spells depth j cs) :
    ∀ mayClose stack, stack.length = depth → Reads (.value mayClose, stack) j cs := by
  -- The depth is the number of open containers, so each level of the induction adds a frame.
  induction h with
  | null => exact fun _ stack _ => ⟨(.after .null, stack), rfl, .after⟩
  | true => exact fun _ stack _ => ⟨(.after (.bool true), stack), rfl, .after⟩
  | false => exact fun _ stack _ => ⟨(.after (.bool false), stack), rfl, .after⟩
  | int hlow hhigh => exact fun _ _ _ => reads_int hlow hhigh
  | str s => exact fun _ _ _ => ⟨_, run_text s, .after⟩
  | noItems hdepth =>
    -- Only the list without items may close where its first item could start.
    intro mayClose stack hstack
    refine ⟨(.after (.arr []), stack), ?_, .after⟩
    show some (closedItems stack []) = _
    rw [closedItems, closed_eq (hstack ▸ hdepth), List.reverse_nil]
  | arr hdepth hgap hlast _ ih =>
    intro mayClose stack hstack
    refine ⟨_, ?_, .after⟩
    show run (.value true, .items [] :: stack) (octetsOf (_ ++ _)) = _
    rw [run_blank_value hgap]
    exact run_items hgap hlast true [] (hstack ▸ hdepth) _ fun j hj mayClose before =>
      ih j hj mayClose _ (by rw [List.length_cons, hstack])
  | noMembers hdepth =>
    intro mayClose stack hstack
    refine ⟨(.after (.obj []), stack), ?_, .after⟩
    show some (closedMembers stack (some [])) = _
    rw [closedMembers, closed_eq (hstack ▸ hdepth), List.reverse_nil]
  | obj hdepth hgap hcolon hlast _ ih =>
    intro mayClose stack hstack
    refine ⟨_, ?_, .after⟩
    show run (.name true, .members (some []) :: stack) (octetsOf (_ ++ _)) = _
    rw [run_blank_name hgap]
    exact run_members hgap hcolon hlast true [] (hstack ▸ hdepth) _
      fun m hm mayClose stack' hstack' => ih m hm mayClose stack' (by rw [hstack', hstack])

/-- A document is read from the octets of any text that spells it. -/
theorem read?_of_spells (h : Spells 0 j cs) : read? (Text.utf8 (String.ofList cs)) = some j := by
  obtain ⟨m, hrun, hends⟩ := reads_of_spells h false [] rfl
  rw [Text.utf8_ofList, read?]
  rw [octetsOf] at hrun
  rw [hrun]
  exact hends.finish?

/-! ### The two ways to write -/

theorem blank_nil : Blank [] := fun _ h => absurd h List.not_mem_nil

theorem compactItems_eq (items : List Json) : compactItems items = items.map compactChars := by
  induction items with
  | nil => rw [compactItems, List.map_nil]
  | cons j items ih => rw [compactItems, ih, List.map_cons]

theorem compactMembers_eq (members : List (String × Json)) :
    compactMembers members = members.map (memberChars [] compactChars) := by
  induction members with
  | nil => rw [compactMembers, List.map_nil]
  | cons m members ih => rw [compactMembers, ih, List.map_cons, memberChars, List.nil_append]

/-- What is written on one line spells the document, without a blank. -/
theorem spells_compact {depth : Nat} (h : Fits depth j) : Spells depth j (compactChars j) := by
  induction h with
  | null => rw [compactChars]; exact .null
  | bool b =>
    cases b with
    | false => rw [compactChars]; exact .false
    | true => rw [compactChars]; exact .true
  | int hlow hhigh => rw [compactChars]; exact .int hlow hhigh
  | str s => rw [compactChars]; exact .str s
  | @arr depth items hdepth hitems ih =>
    rw [compactChars, compactItems_eq]
    cases items with
    | nil => exact .noItems hdepth
    | cons first rest => exact .arr hdepth blank_nil blank_nil ih
  | @obj depth members hdepth hmembers ih =>
    rw [compactChars, compactMembers_eq]
    cases members with
    | nil => exact .noMembers hdepth
    | cons first rest => exact .obj hdepth blank_nil blank_nil blank_nil ih

theorem blank_newline (level : Nat) : Blank (newline level) := by
  intro c hc
  rcases List.mem_cons.mp hc with rfl | hspace
  · rfl
  · rw [List.eq_of_mem_replicate hspace]
    rfl

theorem prettyItems_eq (level : Nat) (items : List Json) :
    prettyItems level items = items.map (prettyChars level) := by
  induction items with
  | nil => rw [prettyItems, List.map_nil]
  | cons j items ih => rw [prettyItems, ih, List.map_cons]

theorem prettyMembers_eq (level : Nat) (members : List (String × Json)) :
    prettyMembers level members = members.map (memberChars [' '] (prettyChars level)) := by
  induction members with
  | nil => rw [prettyMembers, List.map_nil]
  | cons m members ih => rw [prettyMembers, ih, List.map_cons, memberChars, List.singleton_append]

theorem block_map_cons {α : Type} (opening closing : Char) (level : Nat) (f : α → List Char) (x : α)
    (xs : List α) :
    block opening closing level ((x :: xs).map f) = opening :: (newline (level + 1) ++
      (separated (',' :: newline (level + 1)) ((x :: xs).map f) ++
        (newline level ++ [closing]))) := by
  simp only [block, List.map_cons, List.isEmpty_cons, Bool.false_eq_true, if_false,
    List.append_assoc]

/-- What is written over lines spells the document, with a new line as the blank. -/
theorem spells_pretty {depth : Nat} (h : Fits depth j) :
    ∀ level, Spells depth j (prettyChars level j) := by
  -- Each container goes one level deeper, so the level has to vary.
  induction h with
  | null => intro level; rw [prettyChars]; exact .null
  | bool b =>
    intro level
    cases b with
    | false => rw [prettyChars]; exact .false
    | true => rw [prettyChars]; exact .true
  | int hlow hhigh => intro level; rw [prettyChars]; exact .int hlow hhigh
  | str s => intro level; rw [prettyChars]; exact .str s
  | @arr depth items hdepth hitems ih =>
    intro level
    rw [prettyChars, prettyItems_eq]
    cases items with
    | nil => exact .noItems hdepth
    | cons first rest =>
      rw [block_map_cons]
      exact .arr hdepth (blank_newline (level + 1)) (blank_newline level)
        fun j hj => ih j hj (level + 1)
  | @obj depth members hdepth hmembers ih =>
    intro level
    rw [prettyChars, prettyMembers_eq]
    cases members with
    | nil => exact .noMembers hdepth
    | cons first rest =>
      have hcolon : Blank [' '] := by
        intro c hc
        rw [List.mem_singleton.mp hc]
        rfl
      rw [block_map_cons]
      exact .obj hdepth (blank_newline (level + 1)) hcolon (blank_newline level)
        fun m hm => ih m hm (level + 1)

/-- **JSON.**  Reading the octets of a document written on one line gives the document back. -/
theorem read?_compact (h : Fits 0 j) : read? (Text.utf8 (compact j)) = some j :=
  read?_of_spells (spells_compact h)

/-- Reading the octets of a document written over lines gives the document back. -/
theorem read?_pretty (h : Fits 0 j) : read? (Text.utf8 (pretty j)) = some j :=
  read?_of_spells (spells_pretty h 0)

end CredentialBroker.Json
