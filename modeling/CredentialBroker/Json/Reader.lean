import CredentialBroker.Json.Basic
import CredentialBroker.Text.Utf8
import CredentialBroker.Word

namespace CredentialBroker.Json

/-!
# Reading JSON text

`Json.read?` reads a document from octets by a machine that takes one octet at a time: a `Mode`
says what is expected next, and a stack of `Frame`s holds the containers that are still open.  The
run is a recursion on the octets, so reading a text in two parts is reading the first and going on
with the second (`run_append`).

A string is collected as octets and decoded when it ends, so a string that is never looked at may
hold anything the grammar admits; the same holds for numbers out of range and for containers
nested deeper than `maxDepth`.
-/

/-- Containers may be nested this deep where they are read. -/
def maxDepth : Nat := 127

/-! ### Numbers -/

/-- How far a number has been read. -/
inductive NumberPhase where
  /-- After the sign; a digit must follow. -/
  | sign
  /-- After a leading zero; no digit may follow. -/
  | zero
  /-- Within the whole part. -/
  | whole
  /-- After the point; a digit must follow. -/
  | point
  /-- Within the fraction. -/
  | fraction
  /-- After the exponent mark; a sign or digit must follow. -/
  | mark
  /-- After the sign of the exponent; a digit must follow. -/
  | markSign
  /-- Within the exponent. -/
  | power
deriving DecidableEq

/-- The part of a number read so far.  Digits count as long as they make a word of 64 bits; the
first one that would not ends what is kept of the part, whole or fraction, in which it stands. -/
structure NumberScan where
  /-- How far it has been read. -/
  phase : NumberPhase
  /-- Whether a minus sign came first. -/
  negative : Bool
  /-- The digits kept from before and after the point, as one number. -/
  digits : Nat
  /-- Whether the rest of the digits of this part is left out. -/
  full : Bool
  /-- The power of ten that the digits kept count. -/
  shift : Int
  /-- Whether the exponent has a minus sign. -/
  shrinks : Bool
  /-- The digits of the exponent. -/
  exponent : Nat

namespace NumberScan

/-- A number of which only the sign has been read. -/
def start (negative : Bool) : NumberScan :=
  ⟨.sign, negative, 0, false, 0, false, 0⟩

/-- The value of a decimal digit. -/
def digit? (c : Char) : Option Nat :=
  if c.isDigit then some (c.toNat - '0'.toNat) else none

/-- The number after a digit; `kept` and `dropped` are added to the power of ten when the digit is
kept and when it is left out. -/
def push (n : NumberScan) (kept dropped : Int) (d : Nat) : NumberScan :=
  let digits := n.digits * 10 + d
  if n.full || Word.values 64 ≤ digits then { n with full := true, shift := n.shift + dropped }
  else { n with digits, shift := n.shift + kept }

/-- The number after one more character, or nothing when the character does not belong to it. -/
def next? (n : NumberScan) (c : Char) : Option NumberScan :=
  match n.phase, digit? c with
  | .sign, some d => some { n with phase := if d = 0 then .zero else .whole, digits := d }
  | .whole, some d => some (n.push 0 1 d)
  | .point, some d | .fraction, some d => some { n.push (-1) 0 d with phase := .fraction }
  | .mark, some d | .markSign, some d | .power, some d =>
    some { n with phase := .power, exponent := n.exponent * 10 + d }
  | .zero, none | .whole, none =>
    if c = '.' then some { n with phase := .point, full := false }
    else if c = 'e' ∨ c = 'E' then some { n with phase := .mark }
    else none
  | .fraction, none => if c = 'e' ∨ c = 'E' then some { n with phase := .mark } else none
  | .mark, none =>
    if c = '+' then some { n with phase := .markSign }
    else if c = '-' then some { n with phase := .markSign, shrinks := true }
    else none
  | _, _ => none

/-- A binary number as a document; where there is none, a part that denotes no value. -/
def ofReal : Option Binary64 → Json
  | some x => .real x
  | none => .illFormed

/-- The number as a binary number. -/
def asReal (n : NumberScan) : Json :=
  let exponent : Int := if n.shrinks then -(n.exponent : Int) else n.exponent
  ofReal (Binary64.ofDecimal? n.negative n.digits (n.shift + exponent))

/-- The number read, if it may end here.  A negative zero is not a whole number. -/
def finish? (n : NumberScan) : Option Json :=
  match n.phase with
  | .zero | .whole =>
    if n.full then some n.asReal
    else if n.negative then
      if 0 < n.digits ∧ n.digits ≤ Word.values 63 then some (.int (-(n.digits : Int)))
      else some n.asReal
    else some (.int n.digits)
  | .fraction | .power => some n.asReal
  | _ => none

end NumberScan

/-! ### Strings -/

/-- The part of a string read so far. -/
structure StringScan where
  /-- The octets of its content, last first. -/
  content : Bytes
  /-- Whether its escapes denote characters up to here. -/
  sound : Bool
  /-- The first half of a surrogate pair whose second half must follow. -/
  half : Option Nat

namespace StringScan

/-- A string of which nothing has been read. -/
def start : StringScan := ⟨[], true, none⟩

/-- The string after more octets that do not complete a surrogate pair. -/
def push (s : StringScan) (bs : Bytes) : StringScan :=
  { content := bs.reverse ++ s.content, sound := s.sound && s.half.isNone, half := none }

/-- The string after an escape by code unit. -/
def pushUnit (s : StringScan) (unit : Nat) : StringScan :=
  match s.half with
  | some high =>
    if 0xDC00 ≤ unit ∧ unit ≤ 0xDFFF then
      let code := 0x10000 + (high - 0xD800) * 0x400 + (unit - 0xDC00)
      { s with
        content := (String.utf8EncodeChar (Char.ofNat code)).reverse ++ s.content
        half := none }
    else { s with sound := false, half := none }
  | none =>
    if 0xD800 ≤ unit ∧ unit ≤ 0xDBFF then { s with half := some unit }
    else if 0xDC00 ≤ unit ∧ unit ≤ 0xDFFF then { s with sound := false }
    else s.push (String.utf8EncodeChar (Char.ofNat unit))

/-- The text of a string that has ended, if its content denotes one. -/
def text? (s : StringScan) : Option String :=
  if s.sound && s.half.isNone then Text.ofUtf8? s.content.reverse else none

/-- The character an escape of one letter stands for. -/
def escape? : Char → Option Char
  | '"' => some '"'
  | '\\' => some '\\'
  | '/' => some '/'
  | 'b' => some '\x08'
  | 'f' => some '\x0C'
  | 'n' => some '\n'
  | 'r' => some '\r'
  | 't' => some '\t'
  | _ => none

/-- The value of a hexadecimal digit. -/
def hexDigit? (c : Char) : Option Nat :=
  if c.isDigit then some (c.toNat - '0'.toNat)
  else if 'a' ≤ c ∧ c ≤ 'f' then some (c.toNat - 'a'.toNat + 10)
  else if 'A' ≤ c ∧ c ≤ 'F' then some (c.toNat - 'A'.toNat + 10)
  else none

end StringScan

/-! ### The machine -/

/-- A container that is still open, with what it holds so far, last first. -/
inductive Frame where
  /-- A list. -/
  | items (before : List Json)
  /-- An object; nothing once one of its names denotes no text. -/
  | members (before : Option (List (String × Json)))
  /-- An object whose next value belongs to the given name. -/
  | named (before : Option (List (String × Json))) (name : Option String)

/-- What is expected next. -/
inductive Mode where
  /-- A value, or the end of the list that has just been opened. -/
  | value (mayClose : Bool)
  /-- A name, or the end of the object that has just been opened. -/
  | name (mayClose : Bool)
  /-- The colon after a name. -/
  | colon
  /-- What may follow the value that has just been read. -/
  | after (v : Json)
  /-- The rest of a string. -/
  | string (isName : Bool) (s : StringScan)
  /-- The character after a backslash. -/
  | escape (isName : Bool) (s : StringScan)
  /-- The digits of an escape by code unit: how many are left, and the value so far. -/
  | unit (isName : Bool) (s : StringScan) (left : Nat) (value : Nat)
  /-- The rest of a literal that denotes `v`. -/
  | literal (rest : List Char) (v : Json)
  /-- The rest of a number. -/
  | number (n : NumberScan)

/-- A mode with the open containers, innermost first. -/
abbrev Machine := Mode × List Frame

/-- Blanks between the parts of a document. -/
def isSpace (c : Char) : Bool :=
  c = ' ' || c = '\n' || c = '\t' || c = '\r'

/-- The container that has ended, with `rest` still open around it. -/
def closed (rest : List Frame) (v : Json) : Machine :=
  (.after (if maxDepth ≤ rest.length then .illFormed else v), rest)

/-- The list with the given items, last first, that has ended. -/
def closedItems (rest : List Frame) (before : List Json) : Machine :=
  closed rest (.arr before.reverse)

/-- The object with the given members, last first, that has ended. -/
def closedMembers (rest : List Frame) (before : Option (List (String × Json))) : Machine :=
  closed rest (match before with
    | some ms => .obj ms.reverse
    | none => .illFormed)

/-- The members with one more. -/
def addMember (before : Option (List (String × Json))) (name : Option String) (v : Json) :
    Option (List (String × Json)) :=
  before.bind fun ms => name.map fun k => (k, v) :: ms

/-- The step where a value is expected. -/
def stepValue (mayClose : Bool) (stack : List Frame) (c : Char) : Option Machine :=
  if isSpace c then some (.value mayClose, stack)
  else match c with
    | '"' => some (.string false .start, stack)
    | '[' => some (.value true, .items [] :: stack)
    | '{' => some (.name true, .members (some []) :: stack)
    | 't' => some (.literal ['r', 'u', 'e'] (.bool true), stack)
    | 'f' => some (.literal ['a', 'l', 's', 'e'] (.bool false), stack)
    | 'n' => some (.literal ['u', 'l', 'l'] .null, stack)
    | '-' => some (.number (.start true), stack)
    | ']' =>
      match mayClose, stack with
      | true, .items before :: rest => some (closedItems rest before)
      | _, _ => none
    | c => ((NumberScan.start false).next? c).map fun n => (.number n, stack)

/-- The step where a name is expected. -/
def stepName (mayClose : Bool) (stack : List Frame) (c : Char) : Option Machine :=
  if isSpace c then some (.name mayClose, stack)
  else match c with
    | '"' => some (.string true .start, stack)
    | '}' =>
      match mayClose, stack with
      | true, .members before :: rest => some (closedMembers rest before)
      | _, _ => none
    | _ => none

/-- The step after a value. -/
def stepAfter (v : Json) (stack : List Frame) (c : Char) : Option Machine :=
  if isSpace c then some (.after v, stack)
  else match c, stack with
    | ',', .items before :: rest => some (.value false, .items (v :: before) :: rest)
    | ']', .items before :: rest => some (closedItems rest (v :: before))
    | ',', .named before name :: rest =>
      some (.name false, .members (addMember before name v) :: rest)
    | '}', .named before name :: rest => some (closedMembers rest (addMember before name v))
    | _, _ => none

/-- The step at the end of a string. -/
def stepStringEnd (isName : Bool) (s : StringScan) (stack : List Frame) : Option Machine :=
  if isName then
    match stack with
    | .members before :: rest => some (.colon, .named before s.text? :: rest)
    | _ => none
  else some (.after (match s.text? with
    | some t => .str t
    | none => .illFormed), stack)

/-- The step of the machine on one octet. -/
def step (m : Machine) (b : UInt8) : Option Machine :=
  let c := Char.ofNat b.toNat
  let stack := m.2
  match m.1 with
  | .value mayClose => stepValue mayClose stack c
  | .name mayClose => stepName mayClose stack c
  | .colon => if isSpace c then some m else if c = ':' then some (.value false, stack) else none
  | .after v => stepAfter v stack c
  | .string isName s =>
    if c = '"' then stepStringEnd isName s stack
    else if c = '\\' then some (.escape isName s, stack)
    else if b < 0x20 then none
    else some (.string isName (s.push [b]), stack)
  | .escape isName s =>
    if c = 'u' then some (.unit isName s 4 0, stack)
    else (StringScan.escape? c).map fun e =>
      (.string isName (s.push (String.utf8EncodeChar e)), stack)
  | .unit isName s left value =>
    (StringScan.hexDigit? c).map fun d =>
      if left ≤ 1 then (.string isName (s.pushUnit (value * 16 + d)), stack)
      else (.unit isName s (left - 1) (value * 16 + d), stack)
  | .literal rest v =>
    match rest with
    | [] => none
    | [x] => if x = c then some (.after v, stack) else none
    | x :: xs => if x = c then some (.literal xs v, stack) else none
  | .number n =>
    match n.next? c with
    | some n' => some (.number n', stack)
    | none => n.finish?.bind fun v => stepAfter v stack c

/-- The machine after all the octets, or nothing when one of them does not fit. -/
def run : Machine → Bytes → Option Machine
  | m, [] => some m
  | m, b :: bs => (step m b).bind fun m' => run m' bs

/-- The document a machine has read, if nothing is open. -/
def finish? : Machine → Option Json
  | (.after v, []) => some v
  | (.number n, []) => n.finish?
  | _ => none

/-- The document written in a sequence of octets. -/
def read? (bs : Bytes) : Option Json :=
  (run (.value false, []) bs).bind finish?

/-- The document written in a text. -/
def readText? (s : String) : Option Json :=
  read? (Text.utf8 s)

/-- Reading goes on after a first part as it would from the start. -/
theorem run_append (m : Machine) (as bs : Bytes) :
    run m (as ++ bs) = (run m as).bind fun m' => run m' bs := by
  induction as generalizing m with
  | nil => rfl
  | cons a as ih =>
    simp only [List.cons_append, run]
    cases step m a with
    | none => rfl
    | some m' => simpa using ih m'

end CredentialBroker.Json
