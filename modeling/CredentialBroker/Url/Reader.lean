import CredentialBroker.Url.Basic
import CredentialBroker.Url.Host

namespace CredentialBroker.Url

/-!
# Reading URLs

`Url.read?` reads an absolute URL: blanks and control characters at the ends and line breaks
anywhere are dropped, the scheme decides how the rest is cut, `.` and `..` segments are resolved,
and every part is escaped with its own set.  A segment that names a drive, a letter with a colon or
a bar, has no level above it; as the first segment of a file it has a colon and takes the place of
the host.
-/

/-- The characters of a text that count. -/
def significant (s : String) : List Char :=
  let edge := fun c : Char => c.toNat ≤ 0x20
  let cs := ((s.toList.dropWhile edge).reverse.dropWhile edge).reverse
  cs.filter fun c => !(c = '\t' || c = '\n' || c = '\r')

/-- The scheme, in small letters, and what follows its colon. -/
def scheme? (cs : List Char) : Option (String × List Char) :=
  let name := cs.takeWhile fun c => c.isAlphanum || c = '+' || c = '-' || c = '.'
  match name, cs.drop name.length with
  | c :: _, ':' :: rest =>
    if c.isAlpha then some (String.ofList (name.map Char.toLower), rest) else none
  | _, _ => none

/-! ### Paths -/

/-- A segment that stands for its own level. -/
def isSingleDot (seg : List Char) : Bool :=
  [".", "%2e"].any fun d => d.toList = seg.map Char.toLower

/-- A segment that stands for the level above. -/
def isDoubleDot (seg : List Char) : Bool :=
  ["..", ".%2e", "%2e.", "%2e%2e"].any fun d => d.toList = seg.map Char.toLower

/-- A segment that names a drive. -/
def isDrive : List Char → Bool
  | [a, b] => a.isAlpha && (b = ':' || b = '|')
  | _ => false

/-- A segment that names a drive, alone or before a backslash. -/
def startsWithDrive : List Char → Bool
  | a :: b :: rest => isDrive [a, b] && (rest.head?.all (· = '\\'))
  | _ => false

/-- The segments of the level above, last first. -/
def parent : List (List Char) → List (List Char)
  | [] => []
  | seg :: segs => if startsWithDrive seg then seg :: segs else segs

/-- The segments with one more, last first; `ofFile` says whether they lead to a file. -/
def enter (ofFile : Bool) (above : List (List Char)) (seg : List Char) : List (List Char) :=
  match above, seg with
  | [], [letter, _] => [if ofFile && isDrive seg then [letter, ':'] else seg]
  | above, seg => seg :: above

/-- The segments with `.` and `..` resolved; `above` holds those read so far, last first. -/
def resolve (ofFile : Bool) : List (List Char) → List (List Char) → List (List Char)
  | above, [] => above.reverse
  | above, [seg] =>
    if isDoubleDot seg then ([] :: parent above).reverse
    else if isSingleDot seg then ([] :: above).reverse
    else (enter ofFile above seg).reverse
  | above, seg :: segs =>
    if isDoubleDot seg then resolve ofFile (parent above) segs
    else if isSingleDot seg then resolve ofFile above segs
    else resolve ofFile (enter ofFile above seg) segs

/-- The parts between slashes. -/
def slashPieces (special : Bool) (cs : List Char) : List (List Char) :=
  Text.piecesChars '/' (if special then cs.map fun c => if c = '\\' then '/' else c else cs)

/-- A segment, escaped. -/
def segmentText (seg : List Char) : String := Percent.encode Percent.pathSet (String.ofList seg)

/-- The segments of a path that starts with a slash, or of the empty path. -/
def pathSegments (special : Bool) (cs : List Char) : List String :=
  match cs with
  | [] => if special then [""] else []
  | _ :: rest => (resolve false [] (slashPieces special rest)).map segmentText

/-- The segments of a path to a file, without the empty ones at its start. -/
def fileSegments (segs : List (List Char)) : List String :=
  match segs.dropWhile List.isEmpty with
  | [] => [""]
  | segs => segs.map segmentText

/-! ### Authorities -/

/-- The user name and password written before the last `@`, and the rest. -/
def credentials (cs : List Char) : String × String × List Char :=
  let rest := (cs.reverse.takeWhile (· ≠ '@')).reverse
  if rest.length = cs.length then ("", "", cs)
  else
    let user := cs.take (cs.length - rest.length - 1)
    let encode := fun part : List Char => Percent.encode Percent.userinfoSet (String.ofList part)
    match Text.cutChars ':' user with
    | none => (encode user, "", rest)
    | some (name, password) => (encode name, encode password, rest)

/-- The host and the text after its colon, if there is one. -/
def hostAndPort : List Char → List Char × Option (List Char)
  | [] => ([], none)
  | cs@('[' :: _) =>
    let host := cs.takeWhile (· ≠ ']')
    match cs.drop host.length with
    | ']' :: ':' :: port => (host ++ [']'], some port)
    | ']' :: rest => (host ++ ']' :: rest, none)
    | rest => (host ++ rest, none)
  | cs =>
    match Text.cutChars ':' cs with
    | some (host, port) => (host, some port)
    | none => (cs, none)

/-- A port; none when nothing is written or it is the one of the scheme. -/
def port? (scheme : String) : Option (List Char) → Option (Option Nat)
  | none | some [] => some none
  | some cs =>
    if cs.all Char.isDigit then
      let n := Nat.ofDigitChars 10 cs 0
      if n > 65535 then none
      else some (if defaultPort? scheme = some n then none else some n)
    else none

/-! ### The whole -/

/-- The path, query and fragment written after the authority. -/
structure Tail where
  /-- The characters of the path. -/
  path : List Char
  /-- The characters of the query. -/
  query : Option (List Char)
  /-- The characters of the fragment. -/
  fragment : Option (List Char)

/-- The parts of what follows the authority. -/
def tail (cs : List Char) : Tail :=
  let (front, fragment) := match Text.cutChars '#' cs with
    | some (a, b) => (a, some b)
    | none => (cs, none)
  match Text.cutChars '?' front with
  | some (a, b) => ⟨a, some b, fragment⟩
  | none => ⟨front, none, fragment⟩

/-- The escaped query. -/
def Tail.queryText (t : Tail) (special : Bool) : Option String :=
  t.query.map fun q =>
    Percent.encode (if special then Percent.specialQuerySet else Percent.querySet) (String.ofList q)

/-- The escaped fragment. -/
def Tail.fragmentText (t : Tail) : Option String :=
  t.fragment.map fun f => Percent.encode Percent.fragmentSet (String.ofList f)

/-- A URL of a special scheme, from what follows its slashes. -/
def specialUrl? (scheme : String) (cs : List Char) : Option Url := do
  let ends := fun c : Char => c = '/' || c = '\\' || c = '?' || c = '#'
  let authority := cs.takeWhile fun c => !ends c
  let t := tail (cs.drop authority.length)
  let (username, password, rest) := credentials authority
  let (host, port) := hostAndPort rest
  let host ← specialHost? host
  let port ← port? scheme port
  pure ⟨scheme, username, password, some host, port, .segments (pathSegments true t.path),
    t.queryText true, t.fragmentText⟩

/-- A slash of either kind. -/
def isSlash (c : Char) : Bool := c = '/' || c = '\\'

/-- The URL of a file on a host, from what follows the slash after the host. -/
def fileUrl (host : String) (cs : List Char) : Url :=
  let t := tail cs
  let segs := resolve true [] (slashPieces true t.path)
  let host := if segs.head?.any isDrive then "" else host
  ⟨"file", "", "", some host, none, .segments (fileSegments segs), t.queryText true, t.fragmentText⟩

/-- A URL of a file, from what follows its scheme.  A drive is no host. -/
def fileUrl? (cs : List Char) : Option Url :=
  match cs with
  | a :: b :: rest =>
    if isSlash a && isSlash b then do
      let authority := rest.takeWhile fun c => !(isSlash c || c = '?' || c = '#')
      let after := rest.drop authority.length
      if isDrive authority then some (fileUrl "" rest)
      else if authority.isEmpty then some (fileUrl "" after)
      else
        let host ← specialHost? authority
        if host = "localhost" then some (fileUrl "" after)
        else some (fileUrl host (if after.head?.any isSlash then after.tail else after))
    else some (fileUrl "" (if isSlash a then b :: rest else cs))
  | [a] => some (fileUrl "" (if isSlash a then [] else cs))
  | [] => some (fileUrl "" [])

/-- A URL of another scheme with an authority, from what follows its slashes.  Without a host there
is no user information and no port; a port may be followed by a backslash, which starts a path. -/
def authorityUrl? (scheme : String) (cs : List Char) : Option Url := do
  let authority := cs.takeWhile fun c => !(c = '/' || c = '?' || c = '#')
  let after := cs.drop authority.length
  let (username, password, rest) := credentials authority
  let (host, port) := hostAndPort rest
  if host.isEmpty ∧ (port.isSome ∨ username ≠ "" ∨ password ≠ "" ∨ (authority = ['@'] ∧ after ≠ []))
  then none
  let host ← plainHost? host
  let beyond := (port.getD []).dropWhile (· ≠ '\\')
  let port ← port? scheme (port.map (·.takeWhile (· ≠ '\\')))
  let t := tail (if beyond.isEmpty then after else '/' :: (beyond ++ after))
  pure ⟨scheme, username, password, some host, port, .segments (pathSegments false t.path),
    t.queryText false, t.fragmentText⟩

/-- A URL of another scheme, from what follows its colon. -/
def otherUrl? (scheme : String) : List Char → Option Url
  | '/' :: '/' :: cs => authorityUrl? scheme cs
  | '/' :: cs =>
    let t := tail ('/' :: cs)
    some ⟨scheme, "", "", none, none, .segments (pathSegments false t.path), t.queryText false,
      t.fragmentText⟩
  | cs =>
    let t := tail cs
    some ⟨scheme, "", "", none, none,
      .plain (Percent.encode Percent.control (String.ofList t.path)), t.queryText false,
      t.fragmentText⟩

/-- The URL a text names. -/
def read? (s : String) : Option Url := do
  let (scheme, rest) ← scheme? (significant s)
  if scheme = "file" then fileUrl? rest
  else if isSpecial scheme then
    specialUrl? scheme (rest.dropWhile isSlash)
  else otherUrl? scheme rest

end CredentialBroker.Url
