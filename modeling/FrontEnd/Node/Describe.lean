import FrontEnd.Node.Basic
import FrontEnd.Text.Quoted

/-!
# Describing a tree

A tree in one line that names the class of each node and its parts. Unlike the text that a tree
prints as, it is put together by calls one inside the other, and there must be room on the stack for
all that are at work at a time. A node takes two: one to describe it, and one for the method of its
class that does so. A list of nodes, a text and the digits of an integer take one each.
-/

namespace FrontEnd

/-- Which call there was no room for. -/
inductive DescribeError
  /-- The call that describes a node, a list or a text. -/
  | part
  /-- The method of a class. -/
  | method
  /-- The call for the digits of an integer. -/
  | digits
  deriving DecidableEq, Repr

/-- The wording of a describe error. -/
def DescribeError.message : DescribeError → String
  | part => "maximum recursion depth exceeded while getting the repr of an object"
  | method => "maximum recursion depth exceeded"
  | digits => "maximum recursion depth exceeded while getting the str of an object"

namespace Node

/-- A text between quotes. -/
def describeText (s : String) : Nat → Except DescribeError String
  | 0 => .error .part
  | _ + 1 => .ok (Text.quote s)

/-- The digits of an integer. -/
def describeInteger (value : Int) : Nat → Except DescribeError String
  | 0 => .error .digits
  | _ + 1 => .ok (toString value)

mutual

/-- **A tree in constructor notation**, described with room for some calls. -/
def describe (n : Node) (room : Nat) : Except DescribeError String :=
  match room with
  | 0 => .error .part
  | 1 => .error .method
  | room + 2 =>
    match n with
    | .program statements =>
      match room with
      | 0 => .error .part
      | room + 1 => do
        let items ← describeItems statements room
        return s!"Program(statements=[{items}])"
    | .letStmt name value => do
      let nameText ← describe name room
      let valueText ← describe value room
      return s!"LetStatement(name={nameText}, value={valueText})"
    | .returnStmt value => do
      let valueText ← describe value room
      return s!"ReturnStatement(return_value={valueText})"
    | .exprStmt expression => do
      let text ← describe expression room
      return s!"ExpressionStatement(expression={text})"
    | .identifier name => do
      let nameText ← describeText name room
      return s!"Identifier({nameText})"
    | .integer value => do
      let valueText ← describeInteger value room
      return s!"IntegerLiteral({valueText})"
    | .string value => do
      let valueText ← describeText value room
      return s!"StringLiteral({valueText})"
    | .unary operator right => do
      let operatorText ← describeText operator room
      let rightText ← describe right room
      return s!"PrefixExpression(operator={operatorText}, right={rightText})"
    | .binary left operator right => do
      let leftText ← describe left room
      let operatorText ← describeText operator room
      let rightText ← describe right room
      return s!"InfixExpression(left={leftText}, operator={operatorText}, right={rightText})"
    | .blank => return "BlankStatement()"
    | .bare base => return s!"{base.name}()"

/-- The trees of a list, with commas between them. -/
def describeItems (ns : List Node) (room : Nat) : Except DescribeError String :=
  match ns with
  | [] => return ""
  | [n] => describe n room
  | n :: m :: ns => do
    let first ← describe n room
    let later ← describeItems (m :: ns) room
    return s!"{first}, {later}"

end

end Node

/-- **The room that there is for a description.** The stack of a run has room for 1000 calls. How
many of them are at work around a description depends on who asks for it; here they are six. -/
def stackRoom : Nat := 994

end FrontEnd
