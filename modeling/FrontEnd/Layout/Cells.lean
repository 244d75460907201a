import FrontEnd.Layout.CellTable
import FrontEnd.Text.Emoji.Selector

/-!
# Cells

On a screen of fixed-width cells a character takes no cell, one or two (`charCells`). Two signs
change that for their neighbours: the joiner shows the next character together with the one
before it, and the picture selector asks for the character before it as a picture.

* `cells`: the cells of a text.
* `clusters`: a text cut where it may be cut, between characters that are not shown together.
* `sized?`: a text cut or filled to a number of cells.
* `between?`: a line of a box, cut or filled to a number of cells.
-/

namespace FrontEnd.Layout

open Text.Emoji (asPicture)

/-- The cells of a character on its own. -/
def charCells (c : Char) : Nat :=
  if zeroWidth.contains c then 0 else if doubleWidth.contains c then 2 else 1

/-- The sign that joins the characters on its sides. -/
def joiner : Char := '\u200d'

/-- The cells that a picture of a character takes more than the character. -/
def pictureCells : Option Char → Nat
  | some c => if drawable.contains c then 1 else 0
  | none => 0

/-- The cells of a text. The picture selector works once on `last`, the last character before it
that takes a cell; a joined character takes none. -/
def cellsBehind (last : Option Char) : List Char → Nat
  | [] => 0
  | c :: r =>
    if c = joiner then
      match r with
      | [] => 0
      | _ :: r' => cellsBehind last r'
    else if c = asPicture then pictureCells last + cellsBehind none r
    else if charCells c = 0 then cellsBehind last r
    else charCells c + cellsBehind (some c) r

/-- **The cells of a text.** -/
def cells (cs : List Char) : Nat := cellsBehind none cs

/-! ## Clusters -/

/-- Characters that are shown together, and their cells. -/
structure Cluster where
  chars : List Char
  cells : Nat
  deriving DecidableEq, Repr

namespace Cluster

/-- A character on its own. -/
def ofChar (c : Char) : Cluster := ⟨[c], charCells c⟩

/-- More characters are shown together with those of a cluster. -/
def join (k : Cluster) (cs : List Char) (extra : Nat) : Cluster := ⟨k.chars ++ cs, k.cells + extra⟩

end Cluster

/-- The last character that takes a cell, behind a further character. -/
def lastBehind (last : Option Char) (c : Char) : Option Char :=
  if charCells c = 0 then last else some c

/-- The cluster begun already, with the characters that are shown with it, and the clusters
behind it. -/
def clustersFrom (k : Cluster) (last : Option Char) : List Char → List Cluster
  | [] => [k]
  | c :: r =>
    if c = joiner then
      match r with
      | [] => [k.join [c] 0]
      | d :: r' => clustersFrom (k.join [c, d] 0) last r'
    else if c = asPicture then clustersFrom (k.join [c] (pictureCells last)) none r
    else if charCells c = 0 then clustersFrom (k.join [c] 0) last r
    else k :: clustersFrom (.ofChar c) (some c) r

/-- **The clusters of a text.** A sign at its beginning has nothing to work on. -/
def clusters : List Char → List Cluster
  | [] => []
  | c :: r => clustersFrom (.ofChar c) (lastBehind none c) r

/-! ## Texts of a given size -/

/-- A text with spaces behind it, up to a number of cells. -/
def padded (width : Nat) (cs : List Char) : List Char :=
  cs ++ List.replicate (width - cells cs) ' '

/-- A text in the middle of a number of cells, which are filled; an odd one goes to the right. -/
def centred (filler : Char) (width : Nat) (cs : List Char) : List Char :=
  let free := width - cells cs
  List.replicate (free / 2) filler ++ cs ++ List.replicate (free - free / 2) filler

/-- The clusters that have room; half of one leaves a space. There is no answer where the clusters
end before the room does. -/
def fitting? : Nat → List Cluster → Option (List Char)
  | 0, _ => some []
  | _ + 1, [] => none
  | room + 1, k :: ks =>
    if k.cells ≤ room + 1 then (fitting? (room + 1 - k.cells) ks).map (k.chars ++ ·)
    else some [' ']

/-- **A text of a given size**: cut where it is too wide, filled with spaces where it is not wide
enough. Nothing at all fits no cell. A text that begins with two joiners can take more cells than
its clusters; such a text cannot always be cut. -/
def sized? (width : Nat) (cs : List Char) : Option (List Char) :=
  if width = 0 then some []
  else if cells cs ≤ width then some (padded width cs)
  else fitting? width (clusters cs)

/-! ## Lines of several pieces -/

/-- The pieces of a line that have room. The one that fills the line is cut, and the last. -/
def fittingPieces? (room : Nat) : List (List Char) → Option (List (List Char))
  | [] => some []
  | p :: ps =>
    if cells p < room then (fittingPieces? (room - cells p) ps).map (p :: ·)
    else (sized? room p).map ([·])

/-- A line of pieces of a given size. Each piece is measured on its own. -/
def sizedPieces? (width : Nat) (ps : List (List Char)) : Option (List (List Char)) :=
  let size := (ps.map cells).foldl (· + ·) 0
  if size = width then some ps
  else if size < width then some (ps ++ [List.replicate (width - size) ' '])
  else fittingPieces? width ps

/-- **A line between two spaces**, which counts as `width` cells and these. A line that is too wide
takes the second space to itself. -/
def between? (width : Nat) (line : List Char) : Option (List (List Char)) := do
  let inner ← sizedPieces? width [line]
  sizedPieces? (width + 2) ([' '] :: inner ++ [[' ']])

end FrontEnd.Layout
