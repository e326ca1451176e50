import CredentialBroker.Proofs.Url.Reading

namespace CredentialBroker.Url

/-!
# Paths that are read as they are written

Segments put behind a URL, each behind a slash, are the last segments of the URL that is read
exactly when each of them is plain and the last one does not end in a blank.

If a segment is not plain, then either it is cut in two, or an octet is lost on the way from the
text to what its segments stand for: characters are dropped, a query or a fragment begins, a
segment is resolved, or an escape is replaced.  As no octet is ever added, neither can be made good
by another segment.

* `of_below_joined` — segments that are read as they are written are plain;
* `below_joined` — plain segments are read as they are written.
-/

variable {b : Url} {above parts : List (List Char)} {seg cs : List Char}

/-- The characters that end a segment or do not count. -/
def delimiters : List Char := ['/', '\\', '?', '#', '\t', '\n', '\r']

/-- A segment that stands for itself. -/
structure IsPlain (seg : List Char) : Prop where
  /-- It neither ends early nor has characters that do not count. -/
  clean : ∀ c ∈ seg, c ∉ delimiters
  /-- It is neither `.` nor `..`, also when these are written with escapes. -/
  level : isDots seg = false
  /-- It has no escapes. -/
  unescaped : octets seg = Text.octetsOf seg

/-- A segment that does not end in a blank or a control character. -/
def EndsVisibly (seg : List Char) : Prop := ∀ c, seg.getLast? = some c → isEdge c = false

/-- Segments behind one another, each but the first behind a slash. -/
def joined (seg : List Char) (parts : List (List Char)) : List Char :=
  seg ++ parts.flatMap ('/' :: ·)

theorem joined_cons (seg part : List Char) (parts : List (List Char)) :
    joined seg (part :: parts) = seg ++ '/' :: joined part parts := by
  rw [joined, joined, List.flatMap_cons, List.cons_append]

theorem mem_joined {c : Char} {part : List Char} (hpart : part ∈ seg :: parts) (hc : c ∈ part) :
    c ∈ joined seg parts := by
  obtain rfl | hpart := List.mem_cons.mp hpart
  · exact List.mem_append_left _ hc
  · exact List.mem_append_right _ (List.mem_flatMap.mpr ⟨part, hpart, List.mem_cons_of_mem _ hc⟩)

theorem of_mem_joined {c : Char} (hc : c ∈ joined seg parts) :
    c = '/' ∨ ∃ part ∈ seg :: parts, c ∈ part := by
  obtain hc | hc := List.mem_append.mp hc
  · exact .inr ⟨seg, List.mem_cons_self, hc⟩
  · obtain ⟨part, hpart, hc⟩ := List.mem_flatMap.mp hc
    exact (List.mem_cons.mp hc).imp_right fun hc => ⟨part, List.mem_cons_of_mem _ hpart, hc⟩

theorem sum_length_joined (seg : List Char) (parts : List (List Char)) :
    ((seg :: parts).map fun part => (Text.octetsOf part).length + 1).sum =
      (Text.octetsOf (joined seg parts)).length + 1 := by
  induction parts generalizing seg with
  | nil =>
    rw [joined, List.flatMap_nil, List.append_nil, List.map_singleton, List.sum_singleton]
  | cons part parts ih =>
    have hslash : (String.utf8EncodeChar '/').length = 1 := rfl
    rw [joined_cons, Text.octetsOf_append, Text.octetsOf_cons, List.length_append,
      List.length_append, hslash, List.map_cons, List.sum_cons, ih]
    omega

/-! ### The last character -/

theorem endsVisibly_joined (seg : List Char) (parts : List (List Char)) :
    EndsVisibly (joined seg parts) ↔
      EndsVisibly ((seg :: parts).getLast (List.cons_ne_nil _ _)) := by
  induction parts generalizing seg with
  | nil => rw [joined, List.flatMap_nil, List.append_nil, List.getLast_singleton]
  | cons part parts ih =>
    have hlast : EndsVisibly (joined seg (part :: parts)) ↔ EndsVisibly (joined part parts) := by
      rw [joined_cons, EndsVisibly, EndsVisibly, List.getLast?_append, List.getLast?_cons,
        Option.some_or, ← List.getLast?_cons]
      cases joined part parts with
      | nil =>
        -- The text ends in the slash.
        constructor
        · exact fun _ => nofun
        · rintro - c hc
          cases hc
          decide
      | cons d ds => rw [List.getLast?_cons_cons]
    rw [hlast, ih, List.getLast_cons_cons]

/-- Nothing is dropped from a text exactly when all of it counts and it ends visibly. -/
theorem kept_eq_self : kept cs = cs ↔ (∀ c ∈ cs, isKept c = true) ∧ EndsVisibly cs := by
  constructor
  · intro h
    refine ⟨fun c hc => (List.mem_filter.mp (h.symm ▸ hc)).2, fun c hlast => ?_⟩
    refine Bool.eq_false_iff.mpr fun hedge => ?_
    -- The last character would be dropped, and nothing makes up for it.
    have hreverse : cs.reverse.head? = some c := by rw [List.head?_reverse, hlast]
    have hshort : (kept cs).length ≤ (cs.reverse.dropWhile isEdge).length :=
      Nat.le_trans (List.length_filter_le _ _) (Nat.le_of_eq List.length_reverse)
    cases hcs : cs.reverse with
    | nil =>
      rw [hcs] at hreverse
      cases hreverse
    | cons d ds =>
      rw [hcs] at hreverse
      cases hreverse
      have hlength : cs.length = ds.length + 1 := by
        rw [← List.length_reverse, hcs, List.length_cons]
      have hdrop : (ds.dropWhile isEdge).length ≤ ds.length :=
        (List.dropWhile_sublist _).length_le
      rw [h, hcs, List.dropWhile_cons_of_pos hedge] at hshort
      omega
  · rintro ⟨hkept, hlast⟩
    have htrim : cs.reverse.dropWhile isEdge = cs.reverse := by
      cases hcs : cs.reverse with
      | nil => rfl
      | cons c rest =>
        have hc : cs.getLast? = some c := by rw [← List.head?_reverse, hcs, List.head?_cons]
        rw [List.dropWhile_cons_of_neg (Bool.eq_false_iff.mp (hlast c hc))]
    rw [kept, htrim, List.reverse_reverse]
    exact List.filter_eq_self.mpr hkept

/-! ### What is lost -/

theorem load_eq_of_octets (segs : List (List Char)) :
    load segs = ((segs.map octets).map fun bs => bs.length + 1).sum := by
  rw [List.map_map]
  rfl

/-- Segments that are as many as their pieces have no slashes. -/
theorem notMem_of_length_pieces {segs : List (List Char)}
    (h : (segs.flatMap (slashPieces true)).length ≤ segs.length) :
    ∀ seg ∈ segs, '/' ∉ turned seg := by
  have hpieces : ∀ seg, (slashPieces true seg).length = (turned seg).count '/' + 1 :=
    fun seg => Text.length_piecesChars '/' (turned seg)
  have hmore : ∀ segs : List (List Char),
      segs.length ≤ (segs.flatMap (slashPieces true)).length := by
    intro segs
    induction segs with
    | nil => exact Nat.le_refl 0
    | cons seg segs ih =>
      rw [List.flatMap_cons, List.length_append, hpieces, List.length_cons]
      omega
  induction segs with
  | nil => exact List.forall_mem_nil _
  | cons seg segs ih =>
    have hrest := hmore segs
    rw [List.flatMap_cons, List.length_append, hpieces, List.length_cons] at h
    refine List.forall_mem_cons.mpr ⟨List.count_eq_zero.mp (by omega), ih (by omega)⟩

theorem slashPieces_joined (seg : List Char) (parts : List (List Char)) :
    slashPieces true (joined seg parts) = (seg :: parts).flatMap (slashPieces true) := by
  rw [joined, slashPieces_parts, List.flatMap_cons]

theorem slashPieces_eq_self (h : ∀ c ∈ seg, c ∉ delimiters) : slashPieces true seg = [seg] := by
  have hslash : '/' ∉ seg := fun hc => h _ hc (by decide)
  have hbackslash : '\\' ∉ seg := fun hc => h _ hc (by decide)
  have hturned : turned seg = seg := turned_eq_self hbackslash
  have hpieces : slashPieces true seg = Text.piecesChars '/' (turned seg) := rfl
  rw [hpieces, hturned, Text.piecesChars_eq_self hslash]

/-- Segments without delimiters are cut at the slashes between them. -/
theorem slashPieces_of_clean (h : ∀ part ∈ seg :: parts, ∀ c ∈ part, c ∉ delimiters) :
    slashPieces true (joined seg parts) = seg :: parts := by
  have hself : ∀ part ∈ seg :: parts, slashPieces true part = [part] :=
    fun part hpart => slashPieces_eq_self (h part hpart)
  rw [slashPieces_joined, List.flatMap_def, List.map_congr_left hself, ← List.flatMap_def,
    List.flatMap_singleton']

/-! ### Plain segments -/

theorem decodedSegments_below (b : Url) (above : List (List Char)) (cs : List Char) :
    (below b above cs).decodedSegments =
      (resolve false above (slashPieces true (tail cs).path)).map octets := by
  rw [decodedSegments, below]
  dsimp only
  rw [List.map_map]
  exact List.map_congr_left fun seg _ => decode_segmentText seg

/-- **Plain segments are read as they are written**, when the last one ends visibly. -/
theorem below_joined (hplain : ∀ part ∈ seg :: parts, IsPlain part)
    (hlast : EndsVisibly ((seg :: parts).getLast (List.cons_ne_nil _ _))) :
    (below b above (kept (joined seg parts))).query = none ∧
      (below b above (kept (joined seg parts))).decodedSegments =
        above.reverse.map octets ++ (seg :: parts).map Text.octetsOf := by
  have hclean : ∀ c ∈ joined seg parts, c = '/' ∨ c ∉ delimiters := by
    intro c hc
    exact (of_mem_joined hc).imp_right fun ⟨part, hpart, hc⟩ => (hplain part hpart).clean c hc
  have hnotMem : ∀ c ∈ delimiters, c ≠ '/' → c ∉ joined seg parts :=
    fun c hdelimiter hslash hc => (hclean c hc).elim hslash fun h => h hdelimiter
  have hkept : kept (joined seg parts) = joined seg parts := by
    refine kept_eq_self.mpr ⟨fun c hc => ?_, (endsVisibly_joined seg parts).mpr hlast⟩
    obtain rfl | hc := hclean c hc
    · decide
    · simp only [delimiters, List.mem_cons, not_or] at hc
      simp only [isKept, hc, decide_false, Bool.or_false, Bool.not_false]
  have htail : tail (joined seg parts) = ⟨joined seg parts, none, none⟩ :=
    tail_eq (hnotMem '?' (by decide) (by decide)) (hnotMem '#' (by decide) (by decide))
  have hpieces : slashPieces true (joined seg parts) = seg :: parts :=
    slashPieces_of_clean fun part hpart => (hplain part hpart).clean
  have hlevel : ∀ part ∈ seg :: parts, isDots part = false := fun part hpart =>
    (hplain part hpart).level
  rw [hkept]
  constructor
  · rw [below, htail]
    rfl
  · rw [decodedSegments_below, htail, hpieces, resolve_of_level hlevel, List.map_append]
    exact congrArg _ (List.map_congr_left fun part hpart => (hplain part hpart).unescaped)

/-- **Segments that are read as they are written are plain**, and the last one ends visibly. -/
theorem of_below_joined
    (h : (below b above (kept (joined seg parts))).decodedSegments =
      above.reverse.map octets ++ (seg :: parts).map Text.octetsOf) :
    (∀ part ∈ seg :: parts, IsPlain part) ∧
      EndsVisibly ((seg :: parts).getLast (List.cons_ne_nil _ _)) := by
  obtain ⟨beyond, hbeyond, hquery, hfragment, _⟩ := tail_path (kept (joined seg parts))
  have hkept : (kept (joined seg parts)).Sublist (joined seg parts) := kept_sublist _
  rw [decodedSegments_below] at h
  generalize (tail (kept (joined seg parts))).path = path at *
  have hpath : path.Sublist (kept (joined seg parts)) := by
    rw [hbeyond]
    exact List.sublist_append_left _ _
  -- What the segments stand for has all the octets of the text, so none were lost on the way.
  have hload : load (resolve false above (slashPieces true path)) =
      load above + ((Text.octetsOf (joined seg parts)).length + 1) := by
    rw [load_eq_of_octets, h, List.map_append, List.sum_append, ← load_eq_of_octets, load_reverse,
      List.map_map, ← sum_length_joined]
    rfl
  have hresolve := load_resolve_le above (slashPieces true path)
  have hcut := load_slashPieces_le path
  have hshort := Text.length_octetsOf_le hpath
  have hshort' := Text.length_octetsOf_le hkept
  have hall : kept (joined seg parts) = joined seg parts := Text.eq_of_sublist hkept (by omega)
  obtain rfl : path = joined seg parts := Text.eq_of_sublist (hpath.trans hkept) (by omega)
  have hlevel : ∀ part ∈ slashPieces true (joined seg parts), isDots part = false := by
    have hnone : (slashPieces true (joined seg parts)).countP isDots = 0 := by omega
    intro part hpart
    exact Bool.eq_false_iff.mpr (List.countP_eq_zero.mp hnone part hpart)
  have hunescaped : ∀ part ∈ slashPieces true (joined seg parts),
      octets part = Text.octetsOf part := by
    refine unescaped_of_load_le ?_
    rw [sum_length_slashPieces]
    omega
  -- There are as many pieces as segments, so no segment was cut.
  rw [resolve_of_level hlevel, slashPieces_joined] at h
  have hslash : ∀ part ∈ seg :: parts, '/' ∉ turned part := by
    refine notMem_of_length_pieces ?_
    have hlength := congrArg List.length h
    simp only [List.length_map, List.length_append, List.length_reverse] at hlength
    omega
  obtain ⟨hcounts, hlast⟩ := kept_eq_self.mp hall
  have hclean : ∀ part ∈ seg :: parts, ∀ c ∈ part, c ∉ delimiters := by
    intro part hpart c hc
    have hmem : c ∈ joined seg parts := mem_joined hpart hc
    obtain ⟨hnoslash, hnobackslash⟩ := slash_notMem_turned (hslash part hpart)
    have hkeptc := hcounts c hmem
    simp only [delimiters, List.mem_cons, List.not_mem_nil, or_false, not_or]
    refine ⟨?_, ?_, ?_, ?_, ?_, ?_, ?_⟩ <;> rintro rfl
    · exact hnoslash hc
    · exact hnobackslash hc
    · exact hquery hmem
    · exact hfragment hmem
    · exact absurd hkeptc (by decide)
    · exact absurd hkeptc (by decide)
    · exact absurd hkeptc (by decide)
  have hpieces : slashPieces true (joined seg parts) = seg :: parts := slashPieces_of_clean hclean
  rw [hpieces] at hlevel hunescaped
  exact ⟨fun part hpart => ⟨hclean part hpart, hlevel part hpart, hunescaped part hpart⟩,
    (endsVisibly_joined seg parts).mp hlast⟩

end CredentialBroker.Url
