import CredentialBroker.Proofs.Url.Segments

namespace CredentialBroker.Url

/-!
# Reading what stands below a URL

A path put behind the URL of a web server, which has neither query nor fragment, is read as the
path of the URL with the new segments resolved from where it leads.

* `significant_below` — blanks and line breaks are dropped on either side apart;
* `tail_eq` — a text without `?` and `#` is a path;
* `read?_below` — what is read is the URL with another path, query and fragment.
-/

variable {cs ds rest : List Char} {scheme : String}

/-! ### Lists cut where a slash stands -/

section Cutting

variable {p : Char → Bool} {c : Char}

theorem takeWhile_append_cons (h : p c = false) (cs rest : List Char) :
    (cs ++ c :: rest).takeWhile p = cs.takeWhile p := by
  induction cs with
  | nil =>
    rw [List.nil_append, List.takeWhile_cons_of_neg (Bool.eq_false_iff.mp h), List.takeWhile_nil]
  | cons d cs ih =>
    rw [List.cons_append, List.takeWhile_cons, List.takeWhile_cons, ih]

theorem dropWhile_append_cons (h : p c = false) (cs rest : List Char) :
    (cs ++ c :: rest).dropWhile p = cs.dropWhile p ++ c :: rest := by
  induction cs with
  | nil =>
    rw [List.nil_append, List.dropWhile_cons_of_neg (Bool.eq_false_iff.mp h), List.dropWhile_nil,
      List.nil_append]
  | cons d cs ih =>
    rw [List.cons_append, List.dropWhile_cons, List.dropWhile_cons, ih]
    split
    · rfl
    · rfl

theorem drop_length_takeWhile (p : Char → Bool) (cs : List Char) :
    cs.drop (cs.takeWhile p).length = cs.dropWhile p := by
  calc cs.drop (cs.takeWhile p).length
      = (cs.takeWhile p ++ cs.dropWhile p).drop (cs.takeWhile p).length := by
        rw [List.takeWhile_append_dropWhile]
    _ = cs.dropWhile p := List.drop_left

end Cutting

/-! ### Characters that count -/

/-- A blank or a control character, which does not count at the ends. -/
def isEdge (c : Char) : Bool := c.toNat ≤ 0x20

/-- Any character but a tab and the ends of lines, which never count. -/
def isKept (c : Char) : Bool := !(c = '\t' || c = '\n' || c = '\r')

/-- The characters that count behind a slash. -/
def kept (cs : List Char) : List Char := ((cs.reverse.dropWhile isEdge).reverse).filter isKept

theorem kept_sublist (cs : List Char) : (kept cs).Sublist cs := by
  have htrim : (cs.reverse.dropWhile isEdge).reverse.Sublist cs := by
    rw [← List.reverse_sublist, List.reverse_reverse]
    exact List.dropWhile_sublist _
  exact List.filter_sublist.trans htrim

/-- Blanks and line breaks are dropped on either side of a slash apart. -/
theorem significant_below (cs rest : List Char) :
    significant (String.ofList (cs ++ '/' :: rest)) =
      (cs.dropWhile isEdge).filter isKept ++ '/' :: kept rest := by
  have hslash : isEdge '/' = false := by decide
  have hreverse : (cs.dropWhile isEdge ++ '/' :: rest).reverse =
      rest.reverse ++ '/' :: (cs.dropWhile isEdge).reverse := by
    rw [List.reverse_append, List.reverse_cons, List.append_assoc, List.singleton_append]
  have hdef : significant (String.ofList (cs ++ '/' :: rest)) =
      ((cs ++ '/' :: rest).dropWhile isEdge |>.reverse.dropWhile isEdge).reverse.filter
        isKept := by
    rw [significant, String.toList_ofList]
    rfl
  rw [hdef, dropWhile_append_cons hslash, hreverse, dropWhile_append_cons hslash,
    List.reverse_append, List.reverse_cons, List.reverse_reverse, List.append_assoc,
    List.singleton_append, List.filter_append, List.filter_cons_of_pos (by decide)]
  rfl

/-! ### The scheme -/

/-- A character that a scheme may hold. -/
def isSchemeChar (c : Char) : Bool := c.isAlphanum || c = '+' || c = '-' || c = '.'

theorem scheme?_eq_some : scheme? cs = some (scheme, rest) ↔ ∃ c name,
    cs.takeWhile isSchemeChar = c :: name ∧ cs.dropWhile isSchemeChar = ':' :: rest ∧
      c.isAlpha = true ∧ scheme = String.ofList ((cs.takeWhile isSchemeChar).map Char.toLower) := by
  have hchars :
      (fun c : Char => c.isAlphanum || c = '+' || c = '-' || c = '.') = isSchemeChar := rfl
  simp only [scheme?, hchars, drop_length_takeWhile]
  constructor
  · intro h
    split at h
    · next c name front hname hdrop =>
      split at h
      · next halpha =>
        cases h
        exact ⟨c, name, hname, hdrop, halpha, rfl⟩
      · cases h
    · cases h
  · rintro ⟨c, name, hname, hdrop, halpha, rfl⟩
    rw [hname, hdrop]
    exact if_pos halpha

/-- Behind the scheme everything stays. -/
theorem scheme?_below (h : scheme? (cs ++ ['/']) = some (scheme, ds)) :
    ∃ front, ds = front ++ ['/'] ∧
      ∀ rest, scheme? (cs ++ '/' :: rest) = some (scheme, front ++ '/' :: rest) := by
  have hslash : isSchemeChar '/' = false := by decide
  obtain ⟨c, name, hname, hdrop, halpha, hscheme⟩ := scheme?_eq_some.mp h
  rw [takeWhile_append_cons hslash] at hname hscheme
  rw [dropWhile_append_cons hslash] at hdrop
  cases hfront : cs.dropWhile isSchemeChar with
  | nil =>
    rw [hfront] at hdrop
    cases hdrop
  | cons d front =>
    rw [hfront, List.cons_append, List.cons.injEq] at hdrop
    obtain ⟨rfl, rfl⟩ := hdrop
    refine ⟨front, rfl, fun rest => scheme?_eq_some.mpr ⟨c, name, ?_, ?_, halpha, ?_⟩⟩
    · rw [takeWhile_append_cons hslash, hname]
    · rw [dropWhile_append_cons hslash, hfront, List.cons_append]
    · rw [takeWhile_append_cons hslash, hscheme]

/-! ### Path, query and fragment -/

theorem cutChars_append {sep : Char} (h : sep ∉ cs) (rest : List Char) :
    Text.cutChars sep (cs ++ rest) = (Text.cutChars sep rest).map fun p => (cs ++ p.1, p.2) := by
  induction cs with
  | nil => exact Option.map_id'.symm
  | cons c cs ih =>
    rw [List.mem_cons, not_or] at h
    rw [List.cons_append, Text.cutChars, if_neg (Ne.symm h.1), ih h.2, Option.map_map]
    rfl

theorem tail_eq (hquery : '?' ∉ cs) (hfragment : '#' ∉ cs) : tail cs = ⟨cs, none, none⟩ := by
  rw [tail, Text.cutChars_eq_none_iff.mpr hfragment]
  dsimp only
  rw [Text.cutChars_eq_none_iff.mpr hquery]

/-- What comes first stays in the path when it has no sign for a query or a fragment. -/
theorem tail_append (hquery : '?' ∉ cs) (hfragment : '#' ∉ cs) (rest : List Char) :
    tail (cs ++ rest) = { tail rest with path := cs ++ (tail rest).path } := by
  rw [tail, tail, cutChars_append hfragment]
  cases Text.cutChars '#' rest with
  | none =>
    dsimp only [Option.map_none]
    rw [cutChars_append hquery]
    cases Text.cutChars '?' rest with
    | none => rfl
    | some q => rfl
  | some p =>
    dsimp only [Option.map_some]
    rw [cutChars_append hquery]
    cases Text.cutChars '?' p.1 with
    | none => rfl
    | some q => rfl

/-- The path is what comes before the first sign for a query or a fragment. -/
theorem tail_path (cs : List Char) : ∃ beyond, cs = (tail cs).path ++ beyond ∧
    '?' ∉ (tail cs).path ∧ '#' ∉ (tail cs).path ∧
      ((tail cs).query = none → (tail cs).fragment = none → beyond = []) := by
  cases hfragment : Text.cutChars '#' cs with
  | none =>
    have hclean : '#' ∉ cs := Text.cutChars_eq_none_iff.mp hfragment
    cases hquery : Text.cutChars '?' cs with
    | none =>
      have hnone : '?' ∉ cs := Text.cutChars_eq_none_iff.mp hquery
      rw [tail_eq hnone hclean]
      exact ⟨[], (List.append_nil cs).symm, hnone, hclean, fun _ _ => rfl⟩
    | some p =>
      obtain ⟨hnone, rfl⟩ := Text.cutChars_eq_some_iff.mp hquery
      have htail : tail (p.1 ++ '?' :: p.2) = ⟨p.1, some p.2, none⟩ := by
        rw [tail, hfragment]
        dsimp only
        rw [hquery]
      rw [htail]
      exact ⟨'?' :: p.2, rfl, hnone, fun h => hclean (List.mem_append_left _ h), nofun⟩
  | some p =>
    obtain ⟨hclean, rfl⟩ := Text.cutChars_eq_some_iff.mp hfragment
    cases hquery : Text.cutChars '?' p.1 with
    | none =>
      have htail : tail (p.1 ++ '#' :: p.2) = ⟨p.1, none, some p.2⟩ := by
        rw [tail, hfragment]
        dsimp only
        rw [hquery]
      rw [htail]
      exact ⟨'#' :: p.2, rfl, Text.cutChars_eq_none_iff.mp hquery, hclean, nofun⟩
    | some q =>
      obtain ⟨hnone, hfront⟩ := Text.cutChars_eq_some_iff.mp hquery
      have htail : tail (p.1 ++ '#' :: p.2) = ⟨q.1, some q.2, some p.2⟩ := by
        rw [tail, hfragment]
        dsimp only
        rw [hquery]
      rw [htail]
      refine ⟨'?' :: q.2 ++ '#' :: p.2, ?_, hnone, fun h => hclean ?_, nofun⟩
      · rw [hfront, List.append_assoc]
      · rw [hfront]
        exact List.mem_append_left _ h

/-! ### The path -/

/-- The segments that a path before another one leads to, last first. -/
def levels : List Char → List (List Char)
  | [] => []
  | _ :: rest => (slashPieces true rest).foldl climb []

/-- A path below another one is resolved from where that one leads. -/
theorem pathSegments_below (front rest : List Char) : pathSegments true (front ++ '/' :: rest) =
    (resolve false (levels front) (slashPieces true rest)).map segmentText := by
  cases front with
  | nil => rfl
  | cons c front =>
    have hcut : slashPieces true (front ++ '/' :: rest) =
        slashPieces true front ++ slashPieces true rest := by
      have hparts := slashPieces_parts front [rest]
      rwa [List.flatMap_singleton, List.flatMap_singleton] at hparts
    have hne : slashPieces true rest ≠ [] := Text.piecesChars_ne_nil '/' _
    rw [List.cons_append, pathSegments, hcut, resolve_append _ hne, levels]

/-- With nothing below it, a path leads to an empty segment. -/
theorem pathSegments_slash (front : List Char) : pathSegments true (front ++ ['/']) =
    (levels front).reverse.map segmentText ++ [""] := by
  have hempty : slashPieces true [] = [[]] := rfl
  have hlevel : ∀ seg ∈ [([] : List Char)], isDots seg = false := by decide
  rw [pathSegments_below, hempty, resolve_of_level hlevel, List.map_append]
  rfl

/-! ### The whole -/

/-- A URL with what stands below it: its path, query and fragment are others. -/
def below (b : Url) (above : List (List Char)) (rest : List Char) : Url :=
  { b with
    path := .segments ((resolve false above (slashPieces true (tail rest).path)).map segmentText)
    query := (tail rest).queryText true
    fragment := (tail rest).fragmentText }

/-- A character that what stands before a path may hold. -/
def isAuthorityChar (c : Char) : Bool := !(c = '/' || c = '\\' || c = '?' || c = '#')

/-- What is read before the path, and what is behind it. -/
theorem specialUrl?_eq_some {b : Url} : specialUrl? scheme cs = some b ↔
    let user := credentials (cs.takeWhile isAuthorityChar)
    let t := tail (cs.dropWhile isAuthorityChar)
    ∃ host port, specialHost? (hostAndPort user.2.2).1 = some host ∧
      port? scheme (hostAndPort user.2.2).2 = some port ∧
        b = ⟨scheme, user.1, user.2.1, some host, port, .segments (pathSegments true t.path),
          t.queryText true, t.fragmentText⟩ := by
  have hspecial : specialUrl? scheme cs =
      let user := credentials (cs.takeWhile isAuthorityChar)
      let t := tail (cs.dropWhile isAuthorityChar)
      (specialHost? (hostAndPort user.2.2).1).bind fun host =>
        (port? scheme (hostAndPort user.2.2).2).bind fun port =>
          some ⟨scheme, user.1, user.2.1, some host, port, .segments (pathSegments true t.path),
            t.queryText true, t.fragmentText⟩ := by
    unfold specialUrl?
    simp only [drop_length_takeWhile]
    rfl
  rw [hspecial]
  constructor
  · intro h
    obtain ⟨host, hhost, h⟩ := Option.bind_eq_some_iff.mp h
    obtain ⟨port, hport, h⟩ := Option.bind_eq_some_iff.mp h
    exact ⟨host, port, hhost, hport, (Option.some.inj h).symm⟩
  · rintro ⟨host, port, hhost, hport, rfl⟩
    exact Option.bind_eq_some_iff.mpr ⟨host, hhost,
      Option.bind_eq_some_iff.mpr ⟨port, hport, rfl⟩⟩

theorem specialUrl?_below {b : Url} (h : specialUrl? scheme (cs ++ ['/']) = some b)
    (hquery : b.query = none) (hfragment : b.fragment = none) :
    ∃ above, b.path = .segments (above.reverse.map segmentText ++ [""]) ∧
      ∀ rest, specialUrl? scheme (cs ++ '/' :: rest) = some (below b above rest) := by
  have hslash : isAuthorityChar '/' = false := by decide
  obtain ⟨host, port, hhost, hport, rfl⟩ := specialUrl?_eq_some.mp h
  rw [takeWhile_append_cons hslash] at hhost hport
  rw [dropWhile_append_cons hslash] at hquery hfragment
  -- The URL itself has neither query nor fragment, so what stands before its last slash is a path.
  obtain ⟨beyond, hpath, hnoquery, hnofragment, hnone⟩ :=
    tail_path (cs.dropWhile isAuthorityChar ++ ['/'])
  obtain rfl := hnone (Option.map_eq_none_iff.mp hquery) (Option.map_eq_none_iff.mp hfragment)
  rw [List.append_nil] at hpath
  rw [← hpath] at hnoquery hnofragment
  refine ⟨levels (cs.dropWhile isAuthorityChar), ?_, fun rest => specialUrl?_eq_some.mpr ?_⟩
  · rw [dropWhile_append_cons hslash, ← hpath, pathSegments_slash]
  · have htail : tail (cs.dropWhile isAuthorityChar ++ '/' :: rest) =
        { tail rest with path := cs.dropWhile isAuthorityChar ++ '/' :: (tail rest).path } := by
      have happend := tail_append hnoquery hnofragment rest
      rwa [List.append_assoc, List.append_assoc] at happend
    rw [takeWhile_append_cons hslash, dropWhile_append_cons hslash, htail]
    refine ⟨host, port, hhost, hport, ?_⟩
    rw [pathSegments_below, below, takeWhile_append_cons hslash]
    rfl

/-- There is no URL of a web server without a server. -/
theorem specialUrl?_nil (scheme : String) : specialUrl? scheme [] = none := by
  have hnone : specialHost? [] = none := by decide +kernel
  cases h : specialUrl? scheme [] with
  | none => rfl
  | some b =>
    obtain ⟨host, port, hhost, _⟩ := specialUrl?_eq_some.mp h
    exact absurd (hnone.symm.trans hhost) nofun

theorem scheme_of_fileUrl? {b : Url} (h : fileUrl? cs = some b) : b.scheme = "file" := by
  unfold fileUrl? at h
  split at h
  · split at h
    · dsimp only at h
      split at h
      · cases h
        rfl
      · split at h
        · cases h
          rfl
        · obtain ⟨host, _, h⟩ := Option.bind_eq_some_iff.mp h
          split at h
          · cases h
            rfl
          · cases h
            rfl
    · cases h
      rfl
  · cases h
    rfl
  · cases h
    rfl

theorem scheme_of_otherUrl? {b : Url} (h : otherUrl? scheme cs = some b) : b.scheme = scheme := by
  unfold otherUrl? at h
  split at h
  · unfold authorityUrl? at h
    dsimp only at h
    split at h
    · cases h
    · obtain ⟨host, _, h⟩ := Option.bind_eq_some_iff.mp h
      obtain ⟨port, _, h⟩ := Option.bind_eq_some_iff.mp h
      cases h
      rfl
  · cases h
    rfl
  · cases h
    rfl

/-- The URL of a web server that a text names. -/
theorem read?_eq_some {s : String} {b : Url} (hscheme : b.scheme = "http" ∨ b.scheme = "https") :
    read? s = some b ↔ ∃ rest, scheme? (significant s) = some (b.scheme, rest) ∧
      specialUrl? b.scheme (rest.dropWhile isSlash) = some b := by
  have hspecial : isSpecial b.scheme = true := by
    obtain h | h := hscheme <;> rw [h] <;> rfl
  have hfile : b.scheme ≠ "file" := by
    obtain h | h := hscheme <;> rw [h] <;> decide
  unfold read?
  constructor
  · intro h
    obtain ⟨⟨scheme, rest⟩, hread, h⟩ := Option.bind_eq_some_iff.mp h
    dsimp only at h
    split at h
    · exact absurd (scheme_of_fileUrl? h) hfile
    · split at h
      · obtain ⟨host, port, _, _, hb⟩ := specialUrl?_eq_some.mp h
        obtain rfl : b.scheme = scheme := by rw [hb]
        exact ⟨rest, hread, h⟩
      · next hplain =>
        obtain rfl := scheme_of_otherUrl? h
        exact absurd hspecial hplain
  · rintro ⟨rest, hread, h⟩
    refine Option.bind_eq_some_iff.mpr ⟨(b.scheme, rest), hread, ?_⟩
    dsimp only
    rw [if_neg hfile, if_pos hspecial, h]

theorem decode_segmentText (seg : List Char) : Percent.decode (segmentText seg) = octets seg := by
  rw [segmentText, Percent.decode_encode Percent.pathSet_isLegible, Percent.decode,
    ← Text.octetsOf_toList, String.toList_ofList]
  rfl

/-- **Below a URL.**  What is put behind the URL of a web server that has neither query nor fragment
is read apart from it: its segments are resolved from where the path of the URL leads. -/
theorem read?_below {base : String} {b : Url} (h : read? (base ++ "/") = some b)
    (hscheme : b.scheme = "http" ∨ b.scheme = "https") (hquery : b.query = none)
    (hfragment : b.fragment = none) :
    ∃ above, b.decodedSegments.dropLast = above.reverse.map octets ∧
      ∀ rest, read? (base ++ "/" ++ rest) = some (below b above (kept rest.toList)) := by
  have hsignificant : ∀ rest : String, significant (base ++ "/" ++ rest) =
      (base.toList.dropWhile isEdge).filter isKept ++ '/' :: kept rest.toList := by
    intro rest
    have hchars : base ++ "/" ++ rest = String.ofList (base.toList ++ '/' :: rest.toList) := by
      apply String.toList_inj.mp
      rw [String.toList_ofList, String.toList_append, String.toList_append, List.append_assoc]
      rfl
    rw [hchars, significant_below]
  have hbase : base ++ "/" = base ++ "/" ++ "" := (String.append_empty).symm
  obtain ⟨rest, hread, hurl⟩ := (read?_eq_some hscheme).mp h
  rw [hbase, hsignificant] at hread
  obtain ⟨front, rfl, hbelow⟩ := scheme?_below hread
  -- The server stands before the last slash, so not all before it are slashes.
  have hserver : (front.dropWhile isSlash).isEmpty = false := by
    refine Bool.eq_false_iff.mpr fun hempty => ?_
    rw [List.dropWhile_append, if_pos hempty] at hurl
    exact absurd ((specialUrl?_nil b.scheme).symm.trans hurl) nofun
  have hdrop : ∀ rest, (front ++ rest).dropWhile isSlash = front.dropWhile isSlash ++ rest := by
    intro rest
    rw [List.dropWhile_append, if_neg (Bool.eq_false_iff.mp hserver)]
  rw [hdrop] at hurl
  obtain ⟨above, hpath, hurls⟩ := specialUrl?_below hurl hquery hfragment
  refine ⟨above, ?_, fun rest => (read?_eq_some (b := below b above _) hscheme).mpr
    ⟨front ++ '/' :: kept rest.toList, ?_, ?_⟩⟩
  · rw [decodedSegments, hpath]
    simp only [List.map_append, List.map_map, List.map_cons, List.map_nil, List.dropLast_concat]
    exact List.map_congr_left fun seg _ => decode_segmentText seg
  · rw [hsignificant]
    exact hbelow _
  · rw [hdrop]
    exact hurls _

end CredentialBroker.Url
