import FrontEnd.Node.Basic
import FrontEnd.Text.Quoted

/-!
# Printing a tree as source text

Each node prints as texts and parts (`Node.pieces`). An operator's operand stands in parentheses
only where the text would read as another tree without them. The printer keeps a stack of what
is still to be printed (`renderPieces`), so the depth of a tree does not matter. A tree cannot be
printed if it holds an operator that binds at no level or a node of a bare class.
-/

namespace FrontEnd

/-- Why a tree cannot be printed. -/
inductive PrintError
  | unknownOperator (operator : String)
  | unprintable (base : Bare)
  deriving DecidableEq, Repr

namespace Node

/-- A text, or a node that is still to be printed. -/
inductive Piece
  | text (s : String)
  | node (n : Node)

/-- The level of an operator. -/
def level (operator : String) : Except PrintError Nat :=
  match bindingOf? operator with
  | some k => .ok k
  | none => .error (.unknownOperator operator)

/-- A node in parentheses. -/
def parenthesized (n : Node) : List Piece := [.text "(", .node n, .text ")"]

/-- An operand of a binary operator, in parentheses if it is a binary expression of a level that
is too loose. -/
def operandPieces (isLoose : Nat → Bool) (n : Node) : Except PrintError (List Piece) :=
  match n with
  | .binary _ operator _ => do
    let k ← level operator
    return if isLoose k then parenthesized n else [.node n]
  | _ => .ok [.node n]

/-- A character as it stands in a string literal. -/
def escapeChar : Char → List Char
  | '\\' => ['\\', '\\']
  | '"' => ['\\', '"']
  | '\n' => ['\\', 'n']
  | '\t' => ['\\', 't']
  | '\r' => ['\\', 'r']
  | c => [c]

/-- A string literal that reads as the text. -/
def stringLiteral (s : String) : String :=
  String.ofList ('"' :: s.toList.flatMap escapeChar ++ ['"'])

/-- Nodes with a text between them. -/
def separated (separator : String) : List Node → List Piece
  | [] => []
  | [n] => [.node n]
  | n :: ns => .node n :: .text separator :: separated separator ns

/-- **What a node prints as.** An operator before its operand binds tighter than any between
two. Operators of one level group to the left, so only the right operand of the same level
needs parentheses. -/
def pieces : Node → Except PrintError (List Piece)
  | .program statements => .ok (separated "\n" statements)
  | .blank => .ok [.text ";"]
  | .letStmt name value => .ok [.text "let ", .node name, .text " = ", .node value, .text ";"]
  | .returnStmt value => .ok [.text "return ", .node value, .text ";"]
  | .exprStmt expression => .ok [.node expression, .text ";"]
  | .identifier name => .ok [.text name]
  | .integer value => .ok [.text (toString value)]
  | .string value => .ok [.text (stringLiteral value)]
  | .unary operator right =>
    match right with
    | .binary _ _ _ => .ok (.text operator :: parenthesized right)
    | _ => .ok [.text operator, .node right]
  | .binary left operator right => do
    let k ← level operator
    let leftPieces ← operandPieces (· < k) left
    let rightPieces ← operandPieces (· ≤ k) right
    return leftPieces ++ .text s!" {operator} " :: rightPieces
  | .bare base => .error (.unprintable base)

/-- The nodes in a list of pieces. -/
def nodesOf : List Piece → List Node
  | [] => []
  | .text _ :: ps => nodesOf ps
  | .node n :: ps => n :: nodesOf ps

theorem nodesOf_append (ps qs : List Piece) : nodesOf (ps ++ qs) = nodesOf ps ++ nodesOf qs := by
  induction ps with
  | nil => rfl
  | cons p ps ih => cases p <;> simp [nodesOf, ih]

theorem nodesOf_separated (s : String) (ns : List Node) : nodesOf (separated s ns) = ns := by
  fun_induction separated s ns with
  | case1 => rfl
  | case2 n => rfl
  | case3 n ns _ ih => simp [nodesOf, ih]

theorem nodesOf_operandPieces {isLoose : Nat → Bool} {n : Node} {ps : List Piece}
    (h : operandPieces isLoose n = .ok ps) : nodesOf ps = [n] := by
  unfold operandPieces at h
  split at h
  · rename_i l o r
    cases hk : level o with
    | error e => simp [hk, bind, Except.bind] at h
    | ok k =>
      simp only [hk, bind, Except.bind, pure, Except.pure, Except.ok.injEq] at h
      subst h
      split <;> rfl
  · cases h
    rfl

/-- **The parts of a node are smaller by the node itself.** -/
theorem size_pieces {n : Node} {ps : List Piece} (h : n.pieces = .ok ps) :
    sizeList (nodesOf ps) + 1 = n.size := by
  cases n with
  | program statements =>
    cases h
    simp [nodesOf_separated, size]
  | blank | identifier name | integer value | string value | letStmt name value
  | returnStmt value | exprStmt expression =>
    cases h
    simp [nodesOf, sizeList, size]
  | unary operator right =>
    simp only [pieces] at h
    split at h <;> cases h <;> simp [nodesOf, parenthesized, sizeList, size]
  | binary left operator right =>
    simp only [pieces, bind, Except.bind, pure, Except.pure] at h
    split at h
    · cases h
    · split at h
      · cases h
      · rename_i k _ _ lp hl
        split at h
        · cases h
        · rename_i rp hr
          cases h
          simp [nodesOf_append, nodesOf, nodesOf_operandPieces hl, nodesOf_operandPieces hr,
            sizeList, size]
  | bare base => cases h

/-- Prints the pieces on a stack, the first on top, after what is printed already. -/
def renderPieces (out : String) (stack : List Piece) : Except PrintError String :=
  match stack with
  | [] => .ok out
  | .text s :: rest => renderPieces (out ++ s) rest
  | .node n :: rest =>
    match _h : n.pieces with
    | .ok ps => renderPieces out (ps ++ rest)
    | .error e => .error e
termination_by (sizeList (nodesOf stack), stack.length)
decreasing_by
  · simp only [nodesOf, List.length_cons]
    exact Prod.Lex.right _ (Nat.lt_succ_self _)
  · have := size_pieces _h
    apply Prod.Lex.left
    simp only [nodesOf, nodesOf_append, sizeList_append, sizeList]
    omega

/-- **The source text of a tree.** -/
def print (n : Node) : Except PrintError String := renderPieces "" [.node n]

end Node

/-- The wording of a print error. -/
def PrintError.message : PrintError → String
  | unknownOperator operator => Text.quote operator
  | unprintable base => s!"{base.name} cannot be printed"

end FrontEnd
