import FrontEnd.Layout.Cells
import FrontEnd.Text.Blank

/-!
# Lines of a text

A text is shown in a box as lines of a given width. Its width is that of its widest line, where
every sign that separates lines counts (`widest`). It is broken at line feeds only, though, and
a tab fills up to the next stop, so a line may still be too wide; then it is broken between
words (`wrapped?`). A word that is wider than the box is broken or cut, as the box asks for
(`Overflow`).
-/

namespace FrontEnd.Layout

open Text (isBlank)

/-- A control sign that is left out on the screen: bell, backspace, vertical tab, form feed or
carriage return. -/
def isDropped (c : Char) : Bool :=
  c.toNat == 7 || c.toNat == 8 || c.toNat == 11 || c.toNat == 12 || c.toNat == 13

/-- A text without the signs that are left out. -/
def visible (s : String) : List Char := s.toList.filter fun c => !isDropped c

/-- Separates lines where a text is measured. -/
def separatesLines (c : Char) : Bool :=
  c == '\n' || (0x1C ≤ c.toNat && c.toNat ≤ 0x1E) || c.toNat == 0x85 || c.toNat == 0x2028 ||
    c.toNat == 0x2029

/-- The pieces of a text between separators. -/
def pieces (separates : Char → Bool) : List Char → List (List Char)
  | [] => [[]]
  | c :: r =>
    if separates c then [] :: pieces separates r
    else
      match pieces separates r with
      | [] => [[c]]
      | p :: ps => (c :: p) :: ps

/-- **The cells of the widest line.** -/
def widest (cs : List Char) : Nat := ((pieces separatesLines cs).map cells).foldl max 0

/-! ## Tabs -/

/-- The cells between tab stops. -/
def tabWidth : Nat := 8

/-- The pieces between tabs, each but the last filled with spaces up to the next stop behind it.
One space stands in place of the tab already. -/
def fillTabs (position : Nat) : List (List Char) → List Char
  | [] => []
  | [p] => p
  | p :: ps =>
    let piece := p ++ [' ']
    let reached := position + cells piece
    let stop := (reached + tabWidth - 1) / tabWidth * tabWidth
    piece ++ List.replicate (stop - reached) ' ' ++ fillTabs stop ps

/-- A line with spaces for its tabs. -/
def expandTabs (line : List Char) : List Char := fillTabs 0 (pieces (· == '\t') line)

/-! ## Words -/

/-- Is no blank. -/
def isInk (c : Char) : Bool := !isBlank c

/-- The first word of a line, without blanks. -/
def firstWord (line : List Char) : List Char := (line.dropWhile isBlank).takeWhile isInk

/-- A line behind its first word. -/
def behindWord (line : List Char) : List Char := (line.dropWhile isBlank).dropWhile isInk

theorem length_behindWord_lt {line : List Char} (h : firstWord line ≠ []) :
    ((behindWord line).dropWhile isBlank).length < line.length := by
  have h1 : (line.dropWhile isBlank).length ≤ line.length := (List.dropWhile_sublist _).length_le
  have h2 : ((behindWord line).dropWhile isBlank).length ≤ (behindWord line).length :=
    (List.dropWhile_sublist _).length_le
  have h3 : (firstWord line).length + (behindWord line).length =
      (line.dropWhile isBlank).length := by
    rw [← List.length_append, firstWord, behindWord, List.takeWhile_append_dropWhile]
  have h4 := List.length_pos_iff.mpr h
  omega

/-- The words of a line, with the blanks around them. Blanks after a word belong to it; blanks
alone are no word. -/
def words (line : List Char) : List (List Char) :=
  if _h : firstWord line = [] then []
  else
    (line.takeWhile isBlank ++ firstWord line ++ (behindWord line).takeWhile isBlank) ::
      words ((behindWord line).dropWhile isBlank)
termination_by line.length
decreasing_by exact length_behindWord_lt _h

/-- A text without the blanks at its end. -/
def trimmedEnd (cs : List Char) : List Char := (cs.reverse.dropWhile isBlank).reverse

/-- What becomes of a word that is wider than the box. -/
inductive Overflow
  /-- It is broken into pieces. -/
  | fold
  /-- It is cut, and an ellipsis stands for the rest. -/
  | ellipsis
  deriving DecidableEq, Repr

/-- A word in pieces that fit a width: `begun` is the piece begun already, and `size` its cells. -/
def folded (width : Nat) (begun : List Char) (size : Nat) : List Cluster → List (List Char)
  | [] => [begun]
  | k :: ks =>
    if width < size + k.cells then begun :: folded width k.chars k.cells ks
    else folded width (begun ++ k.chars) (size + k.cells) ks

/-- Words set one after the other: `line` is the line begun, and `offset` its cells. -/
def setWords (overflow : Overflow) (width : Nat) (line : List Char) (offset : Nat) :
    List (List Char) → List (List Char)
  | [] => [line]
  | word :: later =>
    let size := cells (trimmedEnd word)
    if offset + size ≤ width then
      setWords overflow width (line ++ word) (offset + cells word) later
    else
      let begun := if line.isEmpty then [] else [line]
      let parts :=
        if overflow = .fold ∧ width < size then folded width [] 0 (clusters word) else [word]
      let last := parts.getLastD []
      begun ++ parts.dropLast ++ setWords overflow width last (cells last) later

/-- A line without blanks at its end that have no room. -/
def trimmedTo (width : Nat) (line : List Char) : List Char :=
  let excess := line.length - width
  let blanks := line.length - (trimmedEnd line).length
  line.take (line.length - min excess blanks)

/-- A line that is not too wide, or its beginning and an ellipsis. -/
def shortened? (width : Nat) (line : List Char) : Option (List Char) :=
  if cells line ≤ width then some line
  else (sized? (width - 1) line).map (· ++ ['…'])

/-- A line that has room, or as much of it as has. Where an ellipsis stands for the rest, the line
is also filled up, and shortened once more if that has left it too wide. -/
def cropped? (overflow : Overflow) (width : Nat) (line : List Char) : Option (List Char) :=
  match overflow with
  | .fold => if cells line ≤ width then some line else sized? width line
  | .ellipsis =>
    if cells line ≤ width then some (padded width line)
    else (shortened? width line).bind (shortened? width)

/-- One line broken into lines that fit a width. -/
def wrappedLine? (overflow : Overflow) (width : Nat) (line : List Char) :
    Option (List (List Char)) :=
  let expanded := expandTabs line
  let set := match words expanded with
    | [] => [expanded]
    | ws => setWords overflow width [] 0 ws
  set.mapM fun l => cropped? overflow width (trimmedTo width l)

/-- **A text as lines that fit a width.** There are none where a line cannot be cut. -/
def wrapped? (overflow : Overflow) (width : Nat) (cs : List Char) : Option (List (List Char)) :=
  ((pieces (· == '\n') cs).mapM (wrappedLine? overflow width)).map List.flatten

end FrontEnd.Layout
