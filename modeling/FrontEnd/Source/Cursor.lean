/-!
# A place in a source text

A cursor knows what is left of the text and where it stands: how many characters it has
passed, and the line and column of the next one. A line ends with its line feed, so the line
number grows when the cursor leaves one. A cursor can go on past the end of the text.

* `rest_advanceBy`: after `n` steps, `n` characters fewer are left.
-/

namespace FrontEnd

/-- A place in a text. The place where the next character is read from is always one behind it, so
there is no field for it: it is `offset + 1`. -/
structure Cursor where
  rest : List Char
  offset : Nat
  line : Nat
  column : Nat
  deriving DecidableEq, Repr

namespace Cursor

/-- The beginning of a text. -/
def ofText (s : String) : Cursor := ⟨s.toList, 0, 1, 1⟩

/-- One character further. -/
def advance (c : Cursor) : Cursor :=
  match c.rest with
  | [] => ⟨[], c.offset + 1, c.line, c.column + 1⟩
  | '\n' :: r => ⟨r, c.offset + 1, c.line + 1, 1⟩
  | _ :: r => ⟨r, c.offset + 1, c.line, c.column + 1⟩

/-- Some characters further. -/
def advanceBy : Nat → Cursor → Cursor
  | 0, c => c
  | n + 1, c => advanceBy n c.advance

/-- The character at the cursor. -/
def char? (c : Cursor) : Option Char := c.rest.head?

/-- The character after the one at the cursor. -/
def peek? (c : Cursor) : Option Char := c.rest.tail.head?

theorem rest_advance (c : Cursor) : c.advance.rest = c.rest.tail := by
  unfold advance
  split <;> rename_i h <;> simp [h]

theorem offset_advance (c : Cursor) : c.advance.offset = c.offset + 1 := by
  unfold advance
  split <;> rfl

theorem rest_advanceBy (n : Nat) (c : Cursor) : (advanceBy n c).rest = c.rest.drop n := by
  induction n generalizing c with
  | zero => rfl
  | succ n ih => rw [advanceBy, ih, rest_advance, List.drop_tail]

theorem offset_advanceBy (n : Nat) (c : Cursor) : (advanceBy n c).offset = c.offset + n := by
  induction n generalizing c with
  | zero => rfl
  | succ n ih => rw [advanceBy, ih, offset_advance]; omega

end Cursor

end FrontEnd
