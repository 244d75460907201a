import FrontEnd.Node.Basic
import FrontEnd.Text.Markup
import FrontEnd.Text.Quoted

/-!
# Outlines of trees

An outline is a tree of marked-up labels. The outline of a syntax tree has a branch for each
part of a node, in order: a node hangs below the branch that names it, the items of a list each
below a branch of their own, a plain value stands on its branch. It grows from its root, one node
after the other, the node put aside last first (`Outline.growAll`).
-/

namespace FrontEnd

/-- A labelled tree. -/
inductive Outline
  | node (label : String) (branches : List Outline)
  deriving Repr

namespace Outline

/-- A label with nothing below it. -/
def leaf (label : String) : Outline := .node label []

/-- Adds branches below the place that an address names: the branch to take at each step. An
address that leaves the tree changes nothing. -/
def addAt (added : List Outline) : List Nat → Outline → Outline
  | [], .node label branches => .node label (branches ++ added)
  | i :: address, .node label branches => .node label (branches.modify i (addAt added address))

mutual

/-- The labels from the top down, each with its depth below the root. -/
def preorder (depth : Nat) : Outline → List (Nat × String)
  | .node label branches => (depth, label) :: preorderList (depth + 1) branches

/-- The labels of several outlines, one after the other. -/
def preorderList (depth : Nat) : List Outline → List (Nat × String)
  | [] => []
  | o :: os => preorder depth o ++ preorderList depth os

end

end Outline

namespace Node

/-- A part of a node: a node, a list of nodes, or a plain value in one line of text. -/
inductive Part
  | node (n : Node)
  | nodes (ns : List Node)
  | value (text : String)

/-- The parts of a node with their names, in order. -/
def parts : Node → List (String × Part)
  | .program statements => [("statements", .nodes statements)]
  | .letStmt name value => [("name", .node name), ("value", .node value)]
  | .returnStmt value => [("return_value", .node value)]
  | .exprStmt expression => [("expression", .node expression)]
  | .identifier name => [("value", .value (Text.quote name))]
  | .integer value => [("value", .value (toString value))]
  | .string value => [("value", .value (Text.quote value))]
  | .unary operator right =>
    [("operator", .value (Text.quote operator)), ("right", .node right)]
  | .binary left operator right =>
    [("left", .node left), ("operator", .value (Text.quote operator)), ("right", .node right)]
  | .blank | .bare _ => []

/-- The nodes in a part. -/
def Part.nodesIn : Part → List Node
  | .node n => [n]
  | .nodes ns => ns
  | .value _ => []

/-- **The parts of a node are smaller by the node itself.** -/
theorem size_parts (n : Node) :
    sizeList (n.parts.flatMap fun part => part.2.nodesIn) + 1 = n.size := by
  cases n <;> simp [parts, Part.nodesIn, sizeList, size]

/-- A plain value as marked-up text. -/
def markedValue (text : String) : String :=
  s!"[green]{String.ofList (Text.Markup.escape text.toList)}[/green]"

/-- The branch of a part, with nothing below the nodes that it names. -/
def branch (name : String) : Part → Outline
  | .node n => .leaf s!"[cyan]{name}[/cyan]: {n.typeName}"
  | .nodes ns => .node s!"[cyan]{name}[/cyan]" (ns.map fun n => .leaf n.typeName)
  | .value text => .leaf s!"[cyan]{name}[/cyan]: {markedValue text}"

/-- The nodes that a part names, with the addresses of their branches below the part's own. -/
def Part.addressed (address : List Nat) : Part → List (Node × List Nat)
  | .node n => [(n, address)]
  | .nodes ns => ns.zipIdx.map fun entry => (entry.1, address ++ [entry.2])
  | .value _ => []

/-- The nodes that the parts of a node name, with their addresses in the outline. -/
def addressedParts (address : List Nat) (n : Node) : List (Node × List Nat) :=
  n.parts.zipIdx.flatMap fun entry => entry.1.2.addressed (address ++ [entry.2])

theorem fst_addressed (address : List Nat) (part : Part) :
    (part.addressed address).map Prod.fst = part.nodesIn := by
  cases part with
  | node n => rfl
  | nodes ns =>
    simp only [Part.addressed, Part.nodesIn, List.map_map]
    exact List.zipIdx_map_fst 0 ns
  | value text => rfl

theorem fst_addressedParts (address : List Nat) (n : Node) :
    (n.addressedParts address).map Prod.fst = n.parts.flatMap fun part => part.2.nodesIn := by
  have key : ∀ (k : Nat) (ps : List (String × Part)),
      ((ps.zipIdx k).flatMap fun entry => entry.1.2.addressed (address ++ [entry.2])).map
        Prod.fst = ps.flatMap fun part => part.2.nodesIn := by
    intro k ps
    induction ps generalizing k with
    | nil => rfl
    | cons part ps ih => simp [List.zipIdx_cons, fst_addressed, ih]
  exact key 0 n.parts

/-- Adds the branches of each node put aside, and puts its parts aside on top of the others. -/
def growAll (pending : List (Node × List Nat)) (outline : Outline) : Outline :=
  match pending with
  | [] => outline
  | (n, address) :: rest =>
    growAll ((n.addressedParts address).reverse ++ rest)
      (outline.addAt (n.parts.map fun part => branch part.1 part.2) address)
termination_by sizeList (pending.map Prod.fst)
decreasing_by
  have := size_parts n
  rw [← fst_addressedParts address n, ← sizeList_reverse, ← List.map_reverse] at this
  simp only [List.map_append, List.map_cons, sizeList_append, sizeList]
  omega

/-- **The outline of a tree**, below a label. -/
def outline (label : String) (n : Node) : Outline := growAll [(n, [])] (.leaf label)

end Node

end FrontEnd
