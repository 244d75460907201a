import FrontEnd.Token.Kind

/-!
# Nodes of the syntax tree

A program is a list of statements, and statements hold expressions. The type of nodes does not
ask for more than that each node has its parts: a tree made by hand may have a statement where
an expression is due, an operator of any text, or a node of a bare base class, which has no parts
and cannot be printed. Trees that the parser builds are singled out by predicates elsewhere.

* `Node.size`: the number of nodes in a tree, the measure of all traversals with a stack.
-/

namespace FrontEnd

/-- A class of nodes that says nothing of what the node is. -/
inductive Bare
  | node | statement | expression
  deriving DecidableEq, Repr

/-- The name of a bare class. -/
def Bare.name : Bare → String
  | node => "Node"
  | statement => "Statement"
  | expression => "Expression"

/-- A syntax tree. Its integers are meant to have no more digits than can be turned into a text, which
are 4300. -/
inductive Node
  | program (statements : List Node)
  | blank
  | letStmt (name value : Node)
  | returnStmt (value : Node)
  | exprStmt (expression : Node)
  | identifier (name : String)
  | integer (value : Int)
  | string (value : String)
  | unary (operator : String) (right : Node)
  | binary (left : Node) (operator : String) (right : Node)
  | bare (base : Bare)
  deriving Repr

instance : Inhabited Node := ⟨.blank⟩

namespace Node

/-- The name of the class of a node. -/
def typeName : Node → String
  | program _ => "Program"
  | blank => "BlankStatement"
  | letStmt _ _ => "LetStatement"
  | returnStmt _ => "ReturnStatement"
  | exprStmt _ => "ExpressionStatement"
  | identifier _ => "Identifier"
  | integer _ => "IntegerLiteral"
  | string _ => "StringLiteral"
  | unary _ _ => "PrefixExpression"
  | binary _ _ _ => "InfixExpression"
  | bare b => b.name

/-- The class of a node is one of expressions. -/
def isExpression : Node → Bool
  | identifier _ | integer _ | string _ | unary _ _ | binary _ _ _ | bare .expression => true
  | _ => false

mutual

/-- How many nodes a tree has. -/
def size : Node → Nat
  | program statements => sizeList statements + 1
  | letStmt name value => size name + size value + 1
  | returnStmt value => size value + 1
  | exprStmt expression => size expression + 1
  | unary _ right => size right + 1
  | binary left _ right => size left + size right + 1
  | blank | identifier _ | integer _ | string _ | bare _ => 1

/-- How many nodes the trees of a list have. -/
def sizeList : List Node → Nat
  | [] => 0
  | n :: ns => size n + sizeList ns

end

theorem sizeList_append (xs ys : List Node) :
    sizeList (xs ++ ys) = sizeList xs + sizeList ys := by
  induction xs with
  | nil => simp [sizeList]
  | cons x xs ih => simp only [List.cons_append, sizeList, ih]; omega

theorem sizeList_reverse (xs : List Node) : sizeList xs.reverse = sizeList xs := by
  induction xs with
  | nil => rfl
  | cons x xs ih => simp only [List.reverse_cons, sizeList_append, sizeList, ih]; omega

end Node

end FrontEnd
