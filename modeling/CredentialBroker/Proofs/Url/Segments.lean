import CredentialBroker.Proofs.Codec.Percent
import CredentialBroker.Proofs.Text.Pieces
import CredentialBroker.Url.Reader
import Mathlib

namespace CredentialBroker

/-!
# Segments of paths

A path is cut at its slashes, its `.` and `..` segments are resolved, and what is left is
percent-decoded.  None of these steps makes a path longer: with one for each slash, the octets that
the segments stand for become fewer whenever a step does anything but cut.  `Url.load` counts them.

* `Url.resolve_append` — resolving a path in two steps;
* `Url.load_resolve_le`, `Url.unescaped_of_load_le` — no step adds octets, and none are lost only
  where there is nothing to resolve and no escape to replace.
-/

namespace Text

variable {sep : Char} {cs ds : List Char}

/-- The pieces of a text and one octet for each separator make up the text. -/
theorem sum_length_piecesChars (hsep : sep.toNat < 0x80) (cs : List Char) :
    ((piecesChars sep cs).map fun p => (octetsOf p).length + 1).sum = (octetsOf cs).length + 1 := by
  induction cs with
  | nil => rfl
  | cons c cs ih =>
    rw [piecesChars, octetsOf_cons, List.length_append]
    split
    · next h =>
      have hone : (String.utf8EncodeChar c).length = 1 := by
        rw [h, encode_ascii hsep, List.length_singleton]
      rw [List.map_cons, List.sum_cons, ih, hone, octetsOf_nil, List.length_nil]
      omega
    · split
      · next hnil => exact absurd hnil (piecesChars_ne_nil sep cs)
      · next p ps hcons =>
        rw [hcons, List.map_cons, List.sum_cons] at ih
        rw [List.map_cons, List.sum_cons, octetsOf_cons, List.length_append]
        omega

/-- Each character that is left out leaves out an octet at least. -/
theorem length_octetsOf_sublist (h : cs.Sublist ds) :
    (octetsOf cs).length + ds.length ≤ (octetsOf ds).length + cs.length := by
  induction h with
  | slnil => exact Nat.le_refl _
  | cons c _ ih =>
    have hpos : 0 < c.utf8Size := c.utf8Size_pos
    rw [octetsOf_cons, List.length_append, String.length_utf8EncodeChar, List.length_cons]
    omega
  | cons_cons c _ ih =>
    rw [octetsOf_cons, octetsOf_cons, List.length_append, List.length_append, List.length_cons,
      List.length_cons]
    omega

theorem length_octetsOf_le (h : cs.Sublist ds) : (octetsOf cs).length ≤ (octetsOf ds).length := by
  have hlong := length_octetsOf_sublist h
  have hshort := h.length_le
  omega

/-- Nothing was left out when no octet is missing. -/
theorem eq_of_sublist (h : cs.Sublist ds) (hle : (octetsOf ds).length ≤ (octetsOf cs).length) :
    cs = ds := by
  have hshort := h.length_le
  have hlong := length_octetsOf_sublist h
  exact h.length_eq.mp (by omega)

end Text

namespace Url

variable {above segs : List (List Char)} {seg : List Char}

/-- The octets that a segment stands for. -/
def octets (seg : List Char) : Bytes := Percent.decodeOctets (Text.octetsOf seg)

/-- The octets that a segment stands for, with one more for its slash. -/
def size (seg : List Char) : Nat := (octets seg).length + 1

/-- The octets that segments stand for, with one more for each slash. -/
def load (segs : List (List Char)) : Nat := (segs.map size).sum

@[simp] theorem load_nil : load [] = 0 := rfl

@[simp] theorem load_cons (seg : List Char) (segs : List (List Char)) :
    load (seg :: segs) = size seg + load segs := List.sum_cons

@[simp] theorem load_reverse (segs : List (List Char)) : load segs.reverse = load segs := by
  rw [load, List.map_reverse, List.sum_reverse]
  rfl

/-- Whether a segment is resolved and not entered. -/
def isDots (seg : List Char) : Bool := isDoubleDot seg || isSingleDot seg

/-! ### Resolving -/

theorem enter_false (above : List (List Char)) (seg : List Char) :
    enter false above seg = seg :: above := by
  unfold enter
  split <;> rfl

/-- What a segment does to those read before it, last first. -/
def climb (above : List (List Char)) (seg : List Char) : List (List Char) :=
  if isDoubleDot seg then parent above else if isSingleDot seg then above else seg :: above

theorem climb_of_level (h : isDots seg = false) : climb above seg = seg :: above := by
  rw [isDots, Bool.or_eq_false_iff] at h
  rw [climb, if_neg (Bool.eq_false_iff.mp h.1), if_neg (Bool.eq_false_iff.mp h.2)]

theorem resolve_cons (seg : List Char) (hsegs : segs ≠ []) :
    resolve false above (seg :: segs) = resolve false (climb above seg) segs := by
  cases segs with
  | nil => exact absurd rfl hsegs
  | cons next rest =>
    rw [resolve, climb]
    · split
      · rfl
      · split
        · rfl
        · rw [enter_false]
    · exact List.cons_ne_nil _ _

/-- A segment that is resolved at the end leaves an empty one. -/
theorem resolve_singleton (seg : List Char) : resolve false above [seg] =
    (if isDots seg then [] :: climb above seg else climb above seg).reverse := by
  rw [resolve, climb, isDots]
  cases isDoubleDot seg with
  | true => rfl
  | false =>
    cases isSingleDot seg with
    | true => rfl
    | false =>
      rw [enter_false]
      rfl

/-- A path is resolved from where its first part leads. -/
theorem resolve_append (front : List (List Char)) (hsegs : segs ≠ []) :
    resolve false above (front ++ segs) = resolve false (front.foldl climb above) segs := by
  induction front generalizing above with
  | nil => rfl
  | cons seg front ih =>
    rw [List.cons_append, resolve_cons seg (List.append_ne_nil_of_right_ne_nil front hsegs), ih,
      List.foldl_cons]

/-- A path without `.` and `..` is entered segment by segment. -/
theorem resolve_of_level (h : ∀ seg ∈ segs, isDots seg = false) :
    resolve false above segs = above.reverse ++ segs := by
  induction segs generalizing above with
  | nil => rw [resolve, List.append_nil]
  | cons seg rest ih =>
    obtain ⟨hseg, hrest⟩ := List.forall_mem_cons.mp h
    cases rest with
    | nil =>
      rw [resolve_singleton, if_neg (Bool.eq_false_iff.mp hseg), climb_of_level hseg,
        List.reverse_cons]
    | cons next rest =>
      rw [resolve_cons seg (List.cons_ne_nil _ _), ih hrest, climb_of_level hseg, List.reverse_cons,
        List.append_assoc, List.singleton_append]

/-! ### What is lost -/

theorem load_parent_le (above : List (List Char)) : load (parent above) ≤ load above := by
  cases above with
  | nil => exact Nat.le_refl 0
  | cons seg above =>
    rw [parent]
    split
    · exact Nat.le_refl _
    · rw [load_cons]
      exact Nat.le_add_left _ _

/-- A segment that is resolved adds nothing. -/
theorem load_climb_le (h : isDots seg = true) : load (climb above seg) ≤ load above := by
  rw [climb]
  split
  · exact load_parent_le above
  · next hdouble =>
    have hsingle : isSingleDot seg = true := (Bool.or_eq_true _ _).mp h |>.resolve_left hdouble
    exact Nat.le_of_eq (congrArg load (if_pos hsingle))

/-- A segment that is resolved stands for an octet at least. -/
theorem one_lt_size (h : isDots seg = true) : 1 < size seg := by
  have hne : Text.octetsOf seg ≠ [] := by
    cases seg with
    | nil => exact absurd h (by decide)
    | cons c cs =>
      rw [Text.octetsOf_cons]
      exact List.append_ne_nil_of_left_ne_nil String.utf8EncodeChar_ne_nil _
  exact Nat.succ_lt_succ (List.length_pos_iff.mpr (Percent.decodeOctets_ne_nil hne))

/-- Each segment that is resolved loses an octet at least. -/
theorem load_resolve_le (above segs : List (List Char)) :
    load (resolve false above segs) + segs.countP isDots ≤ load above + load segs := by
  induction segs generalizing above with
  | nil => simp only [resolve, load_reverse, List.countP_nil, load_nil, Nat.le_refl]
  | cons seg rest ih =>
    cases hdots : isDots seg with
    | false =>
      have hcount : (seg :: rest).countP isDots = rest.countP isDots :=
        List.countP_cons_of_neg (Bool.eq_false_iff.mp hdots)
      have hclimb : climb above seg = seg :: above := climb_of_level hdots
      cases rest with
      | nil =>
        rw [resolve_singleton, if_neg (Bool.eq_false_iff.mp hdots), hclimb, hcount]
        simp only [load_reverse, load_cons, load_nil, List.countP_nil]
        omega
      | cons next rest =>
        have hrest := ih (climb above seg)
        rw [resolve_cons seg (List.cons_ne_nil _ _), hcount, load_cons]
        rw [hclimb] at hrest ⊢
        rw [load_cons] at hrest
        omega
    | true =>
      have hcount : (seg :: rest).countP isDots = rest.countP isDots + 1 :=
        List.countP_cons_of_pos hdots
      have hclimb : load (climb above seg) ≤ load above := load_climb_le hdots
      have hsize : 1 < size seg := one_lt_size hdots
      cases rest with
      | nil =>
        have hempty : size [] = 1 := rfl
        rw [resolve_singleton, if_pos hdots, hcount]
        simp only [load_reverse, load_cons, load_nil, List.countP_nil, hempty]
        omega
      | cons next rest =>
        have hrest := ih (climb above seg)
        rw [resolve_cons seg (List.cons_ne_nil _ _), hcount, load_cons]
        omega

/-! ### Cutting -/

theorem size_le (seg : List Char) : size seg ≤ (Text.octetsOf seg).length + 1 :=
  Nat.succ_le_succ (Percent.length_decodeOctets_le _)

theorem load_le (segs : List (List Char)) :
    load segs ≤ (segs.map fun seg => (Text.octetsOf seg).length + 1).sum := by
  induction segs with
  | nil => exact Nat.le_refl 0
  | cons seg segs ih =>
    rw [load_cons, List.map_cons, List.sum_cons]
    exact Nat.add_le_add (size_le seg) ih

/-- Segments that stand for as many octets as they have are without escapes. -/
theorem unescaped_of_load_le
    (h : (segs.map fun seg => (Text.octetsOf seg).length + 1).sum ≤ load segs) :
    ∀ seg ∈ segs, octets seg = Text.octetsOf seg := by
  induction segs with
  | nil => exact List.forall_mem_nil _
  | cons seg segs ih =>
    have hseg := size_le seg
    have hsegs := load_le segs
    rw [load_cons, List.map_cons, List.sum_cons] at h
    refine List.forall_mem_cons.mpr ⟨Percent.decodeOctets_eq_of_length_le ?_, ih (by omega)⟩
    have hsize : (Text.octetsOf seg).length + 1 ≤ size seg := by omega
    exact Nat.le_of_succ_le_succ hsize

/-- A path with its backslashes turned. -/
def turned (cs : List Char) : List Char := cs.map fun c => if c = '\\' then '/' else c

theorem turned_append (cs ds : List Char) : turned (cs ++ ds) = turned cs ++ turned ds :=
  List.map_append

theorem length_octetsOf_turned (cs : List Char) :
    (Text.octetsOf (turned cs)).length = (Text.octetsOf cs).length := by
  induction cs with
  | nil => rfl
  | cons c cs ih =>
    have hsize : (if c = '\\' then '/' else c).utf8Size = c.utf8Size := by
      split
      · next h => rw [h]; decide
      · rfl
    rw [turned, List.map_cons, Text.octetsOf_cons, Text.octetsOf_cons, List.length_append,
      List.length_append, String.length_utf8EncodeChar, String.length_utf8EncodeChar, hsize]
    exact congrArg _ ih

theorem turned_eq_self {cs : List Char} (h : '\\' ∉ cs) : turned cs = cs := by
  rw [turned]
  refine (List.map_congr_left fun c hc => if_neg ?_).trans (List.map_id cs)
  rintro rfl
  exact h hc

theorem slash_notMem_turned {cs : List Char} (h : '/' ∉ turned cs) : '/' ∉ cs ∧ '\\' ∉ cs :=
  ⟨fun hc => h (List.mem_map.mpr ⟨'/', hc, rfl⟩), fun hc => h (List.mem_map.mpr ⟨'\\', hc, rfl⟩)⟩

/-- Parts behind one another, each behind a slash, are cut part by part. -/
theorem slashPieces_parts (cs : List Char) (parts : List (List Char)) :
    slashPieces true (cs ++ parts.flatMap ('/' :: ·)) =
      slashPieces true cs ++ parts.flatMap (slashPieces true) := by
  have hturned : turned (cs ++ parts.flatMap ('/' :: ·)) =
      turned cs ++ (parts.map turned).flatMap ('/' :: ·) := by
    refine (turned_append _ _).trans (congrArg _ ?_)
    rw [turned, List.map_flatMap, List.flatMap_map]
    rfl
  have hpieces : slashPieces true (cs ++ parts.flatMap ('/' :: ·)) =
      Text.piecesChars '/' (turned (cs ++ parts.flatMap ('/' :: ·))) := rfl
  rw [hpieces, hturned, Text.piecesChars_flatMap, List.flatMap_map]
  rfl

theorem sum_length_slashPieces (cs : List Char) :
    ((slashPieces true cs).map fun seg => (Text.octetsOf seg).length + 1).sum =
      (Text.octetsOf cs).length + 1 := by
  have hslash : ('/').toNat < 0x80 := by decide
  have hpieces : slashPieces true cs = Text.piecesChars '/' (turned cs) := rfl
  rw [hpieces, Text.sum_length_piecesChars hslash, length_octetsOf_turned]

/-- The pieces of a path stand for no more octets than the path has. -/
theorem load_slashPieces_le (cs : List Char) :
    load (slashPieces true cs) ≤ (Text.octetsOf cs).length + 1 := by
  rw [← sum_length_slashPieces]
  exact load_le _

end Url

end CredentialBroker
