import FrontEnd.Parser.State

/-!
# Reading expressions

An expression is an operand, and then operators with their right operands as long as they bind
tighter than the operator before the expression. Operands and right operands are read by a
reader of expressions that is handed on (`inner`), so each rule below stands for itself. The
reader calls itself at most to a given depth (`expression`).
-/

namespace FrontEnd.Parser

/-- The reader of the expressions inside another, by the level they have to bind tighter than. -/
abbrev Inner := Int → Step Node

/-- A token that is no valid token is refused, for what its text shows. -/
def illegal : Step Node := do
  let t := (← get).current
  if t.literal ≠ "" ∧ t.literal.toList.all Text.isDigit then refuse t (.outOfRange t.literal)
  else if t.literal.toList.head? = some '"' then refuse t .unterminated
  else refuse t (.illegal t.literal)

/-- A token that begins no operand is refused. -/
def missingOperand : Step Node := do
  let t := (← get).current
  if t.kind = .eof then refuse t .endOfInput else refuse t (.noOperand t.kind)

/-- An operator before its operand. -/
def unary (inner : Inner) : Step Node := do
  let operator := (← get).current.kind.text
  advance
  let right ← inner Precedence.unary
  return .unary operator right

/-- An expression in parentheses, from the opening one on. -/
def grouped (inner : Inner) : Step Node := do
  advance
  let expression ← inner Precedence.lowest
  expect Kind.rparen.text (.expected Kind.rparen.text)
  return expression

/-- What stands before the first operator. The token of an integer carries its value: the scan
makes none without (`Token.Valid`), so the value that is put in for one does not matter. -/
def operand (inner : Inner) : Step Node := do
  let t := (← get).current
  match t.kind with
  | .ident => return .identifier t.literal
  | .int => return .integer (t.value?.getD 0)
  | .string => return .string t.literal
  | .bang | .plus | .minus => unary inner
  | .lparen => grouped inner
  | .illegal => illegal
  | _ => missingOperand

/-- An operator and its right operand, behind the left one. -/
def binary (inner : Inner) (left : Node) : Step Node := do
  let operator := (← get).current.kind
  advance
  let right ← inner operator.precedence
  return .binary left operator.text right

/-- Operators and their right operands, for at most some rounds, while they bind tighter than
`precedence`. -/
def chain (inner : Inner) (precedence : Int) : Nat → Node → Step Node
  | 0, left => return left
  | rounds + 1, left => do
    let next := (← get).peek.kind
    if next.binding?.isSome ∧ precedence < next.precedence then
      advance
      let longer ← binary inner left
      chain inner precedence rounds longer
    else return left

/-- **An expression** that binds tighter than `precedence`, read with at most `depth` readers at
work one inside the other. Where the depth is used up, the next reader fails before it does anything.
On a real stack a call inside a reader can be the one that does not fit. If that is the call for
the next token, the tokens are left halfway: the one in sight has become the current one and is still
in sight. Such states do not come up here. -/
def expression (depth : Nat) (precedence : Int) : Step Node :=
  match depth with
  | 0 => throw .tooDeep
  | depth + 1 => do
    let left ← operand fun p => expression depth p
    chain (fun p => expression depth p) precedence (← get).remaining left

end FrontEnd.Parser
