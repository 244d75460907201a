import FrontEnd.Layout.Wrap
import FrontEnd.Node.Outline

/-!
# Boxes and trees

* `panel?`: a text in a frame with a title.
* `Table.lines?`: rows of texts in columns, with a title and a heading.
* `treeLines`: an outline with guides from each label to those below it.

There is no panel and no table where a line in it cannot be cut.
-/

namespace FrontEnd.Layout

/-- A text of lines, each with its line feed. -/
def unlines (lines : List (List Char)) : String :=
  String.ofList (lines.flatMap fun l => l ++ ['\n'])

/-! ## Panels -/

/-- **A text in a frame.** The frame is as wide as the text or the title needs. -/
def panel? (title : String) (text : String) : Option (List (List Char)) := do
  let shown := visible text
  let heading := ' ' :: title.toList ++ [' ']
  let width := max (widest shown) (cells heading)
  let lines ← (← wrapped? .fold width shown).mapM (between? width)
  return ("╭─".toList ++ centred '─' width heading ++ "─╮".toList) ::
    lines.map (fun ps => '│' :: ps.flatten ++ ['│']) ++
    ["╰─".toList ++ List.replicate width '─' ++ "─╯".toList]

/-! ## Tables -/

/-- Texts in columns. Each row has a text for each header. -/
structure Table where
  title : String
  headers : List String
  rows : List (List String)

namespace Table

/-- The cells of each column: those of its widest text. -/
def widths (t : Table) : List Nat :=
  t.rows.foldl (fun ws row => List.zipWith max ws (row.map fun s => widest (visible s)))
    (t.headers.map fun s => widest (visible s))

/-- A rule between rows: its ends, the crossings with the columns, and the line itself. -/
def rule (left crossing right line : Char) (widths : List Nat) : List Char :=
  left :: [crossing].intercalate (widths.map fun w => List.replicate (w + 2) line) ++ [right]

/-- A text as the lines of a cell of the table, with a space on either side. The pieces of a line
are brought to their size once more: cutting may have left them too narrow. -/
def cellLines? (width : Nat) (s : String) : Option (List (List Char)) := do
  (← wrapped? .ellipsis width (visible s)).mapM fun l => do
    return (← sizedPieces? (width + 2) (← between? width l)).flatten

/-- The lines of a row, between the given signs. A text of several lines makes the row as high;
the other columns are blank there. -/
def rowLines? (edge : Char) (widths : List Nat) (row : List String) :
    Option (List (List Char)) := do
  let blocks ← (widths.zip row).mapM fun p => do return (p.1, ← cellLines? p.1 p.2)
  let height := (blocks.map fun b => b.2.length).foldl max 0
  return (List.range height).map fun i =>
    let parts := blocks.map fun b => b.2.getD i (List.replicate (b.1 + 2) ' ')
    edge :: [edge].intercalate parts ++ [edge]

/-- **The lines of a table.** -/
def lines? (t : Table) : Option (List (List Char)) := do
  let ws := t.widths
  let whole := (ws.map (· + 3)).foldl (· + ·) 1
  let heading ← rowLines? '┃' ws t.headers
  let body ← t.rows.mapM (rowLines? '│' ws)
  return centred ' ' whole t.title.toList ::
    rule '┏' '┳' '┓' '━' ws ::
    heading ++
    rule '┡' '╇' '┩' '━' ws ::
    body.flatten ++
    [rule '└' '┴' '┘' '─' ws]

end Table

/-! ## Trees -/

/-- A label as it is shown. -/
def shownLabel (label : String) : List Char := visible (Text.Markup.shown label)

mutual

/-- **The lines of an outline.** The first line stands behind `first`, the others behind
`others`. -/
def treeLines (first others : List Char) : Outline → List (List Char)
  | .node label branches => (first ++ shownLabel label) :: branchLines others branches

/-- The lines of branches; a guide leads to each of them, and on to the next. -/
def branchLines (indent : List Char) : List Outline → List (List Char)
  | [] => []
  | [o] => treeLines (indent ++ "└── ".toList) (indent ++ "    ".toList) o
  | o :: p :: os =>
    treeLines (indent ++ "├── ".toList) (indent ++ "│   ".toList) o ++
      branchLines indent (p :: os)

end

end FrontEnd.Layout
