import FrontEnd.Source.Cursor
import FrontEnd.Source.Lexeme

/-!
# The tokens of a source text

A cursor gives one token after the other (`Cursor.next`): it skips the space before a lexeme
and stops behind it. The end of the text is a token too, which can be read again and again
without moving. `Cursor.drain` reads up to it, `tokenize` does so for a whole text.

* `rest_next_lt`: reading a token shortens what is left, unless the end is reached.
-/

namespace FrontEnd

/-- A token as it was found, with what is wrong with it. -/
structure Scan where
  token : Token
  anomaly? : Option Anomaly
  deriving DecidableEq, Repr

/-- A lexeme at its place. -/
def Lexeme.at (line column : Nat) (x : Lexeme) : Scan :=
  ⟨⟨x.kind, x.literal, x.value?, line, column⟩, x.anomaly?⟩

namespace Cursor

/-- Behind the space at the cursor. -/
def skipSpace (c : Cursor) : Cursor := c.advanceBy (c.rest.takeWhile isSpace).length

/-- What a reader of characters finds at the cursor, and the cursor behind it. -/
def reading (read : List Char → Reading) (c : Cursor) : Except ScanError Scan × Cursor :=
  let found := read c.rest
  (found.result.map (Lexeme.at c.line c.column), c.advanceBy found.length)

/-- **The next token**, and the cursor behind it. -/
def next (c : Cursor) : Except ScanError Scan × Cursor := c.skipSpace.reading Lexeme.read

/-- The end of a text, as a token at the cursor. -/
def finish (c : Cursor) : Scan := Lexeme.atEnd.at c.line c.column

theorem rest_skipSpace (c : Cursor) : c.skipSpace.rest = c.rest.dropWhile isSpace := by
  rw [skipSpace, rest_advanceBy]
  induction c.rest with
  | nil => rfl
  | cons x r ih => cases h : isSpace x <;> simp [h, ih]

theorem length_rest_skipSpace (c : Cursor) : c.skipSpace.rest.length ≤ c.rest.length := by
  rw [skipSpace, rest_advanceBy]
  simp

/-- **A token shortens what is left.** -/
theorem rest_next_lt {c : Cursor} (h : c.skipSpace.rest ≠ []) :
    c.next.2.rest.length < c.rest.length := by
  have h1 := Lexeme.pos_length_read h
  have h2 := length_rest_skipSpace c
  have h3 := List.length_pos_iff.mpr h
  simp only [next, reading, rest_advanceBy, List.length_drop]
  omega

/-- The end is a fixed point. -/
theorem next_of_end {c : Cursor} (h : c.skipSpace.rest = []) :
    c.next = (.ok c.skipSpace.finish, c.skipSpace) := by
  simp [next, reading, h, Lexeme.read, Except.map, finish, advanceBy]

end Cursor

/-- Tokens read one after the other: those found, the error that stopped the reading, and the
place where it stopped. -/
structure Drained where
  scans : List Scan
  error? : Option ScanError
  stop : Cursor

namespace Drained

/-- One more token before the others. -/
def push (s : Scan) (d : Drained) : Drained := { d with scans := s :: d.scans }

/-- The tokens, when no error stopped the reading. -/
def tokens (d : Drained) : Except ScanError (List Token) :=
  match d.error? with
  | some e => .error e
  | none => .ok (d.scans.map Scan.token)

end Drained

/-- All tokens from the cursor on, up to and with the end of the text. -/
def Cursor.drain (c : Cursor) : Drained :=
  if _h : c.skipSpace.rest = [] then ⟨[c.skipSpace.finish], none, c.skipSpace⟩
  else
    match c.next with
    | (.ok s, _) => (c.next.2.drain).push s
    | (.error e, stop) => ⟨[], some e, stop⟩
termination_by c.rest.length
decreasing_by exact Cursor.rest_next_lt _h

/-- **The tokens of a source text**, the last of which is its end. -/
def tokenize (source : String) : Except ScanError (List Token) :=
  (Cursor.ofText source).drain.tokens

/-! ## The scans ahead of a reader -/

/-- All that can still be read: what is found up to the end, errors included, and the end. -/
structure Stream where
  pending : List (Except ScanError Scan)
  finish : Scan

namespace Stream

/-- What can be read from a cursor on. -/
def ofCursor (c : Cursor) : Stream :=
  if _h : c.skipSpace.rest = [] then ⟨[], c.skipSpace.finish⟩
  else
    let later := ofCursor c.next.2
    ⟨c.next.1 :: later.pending, later.finish⟩
termination_by c.rest.length
decreasing_by exact Cursor.rest_next_lt _h

/-- The next scan, and the stream behind it. The end comes again and again. -/
def next (s : Stream) : Except ScanError Scan × Stream :=
  match s.pending with
  | [] => (.ok s.finish, s)
  | found :: later => (found, ⟨later, s.finish⟩)

end Stream

end FrontEnd
