import CredentialBroker.Text.Composite
import CredentialBroker.Text.Mark

namespace CredentialBroker.Text

/-!
# The composed form

Equivalent texts have one composed form.  A text is taken apart into characters that are not
composite, the marks after each character are put in the order of their classes, and then parts are
put together again wherever nothing stands between them.
-/

/-- The characters a character is composed of; `levels` bounds how often parts have parts. -/
def decompositionWithin : (levels : Nat) → Char → List Char
  | 0, c => [c]
  | levels + 1, c =>
    match parts? c with
    | none => [c]
    | some (a, b) => decompositionWithin levels a ++ [b]

/-- The characters a character is composed of: at most one with three marks. -/
def decomposition (c : Char) : List Char := decompositionWithin 3 c

/-- Puts a character after the given ones, which are in reverse; a mark goes before the marks of
greater classes. -/
def insertMark (c : Char) : List Char → List Char
  | [] => [c]
  | x :: xs =>
    if combiningClass c ≠ 0 ∧ combiningClass c < combiningClass x then x :: insertMark c xs
    else c :: x :: xs

/-- The text with its marks in order. -/
def ordered (cs : List Char) : List Char := (cs.foldl (fun done c => insertMark c done) []).reverse

/-- A text that is being put together. -/
structure Composition where
  /-- What is finished, in reverse. -/
  done : List Char
  /-- The last character that keeps its place, if there is one. -/
  base : Option Char
  /-- The marks after it, in reverse. -/
  marks : List Char

namespace Composition

/-- The text before its first character. -/
def start : Composition := ⟨[], none, []⟩

/-- Everything so far, in reverse. -/
def written (t : Composition) : List Char := t.marks ++ (t.base.toList ++ t.done)

/-- Nothing stands between the base and a character of the given class. -/
def reaches (t : Composition) (cls : Nat) : Bool :=
  match t.marks with
  | [] => true
  | m :: _ => combiningClass m < cls

/-- The text with one more character, which joins the base if it can. -/
def push (t : Composition) (c : Char) : Composition :=
  let joined := if t.reaches (combiningClass c) then t.base.bind (composite? · c) else none
  match joined with
  | some b => { t with base := some b }
  | none =>
    if combiningClass c = 0 then ⟨t.written, some c, []⟩ else { t with marks := c :: t.marks }

end Composition

/-- The text with parts put together. -/
def composed (cs : List Char) : List Char := (cs.foldl Composition.push .start).written.reverse

/-- The composed form of a text. -/
def normal (cs : List Char) : List Char := composed (ordered (cs.flatMap decomposition))

example : normal ['e', '\u0301'] = ['é'] := by decide +kernel

example : normal ['\u1112', '\u1161', '\u11ab'] = ['한'] := by decide +kernel

end CredentialBroker.Text
