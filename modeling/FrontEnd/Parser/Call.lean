import FrontEnd.Parser.Statement

/-!
# Using a parser

All that can be asked of a parser, in any order: to read a program, a statement or an expression
from the current token on, to follow one of the rules for expressions, to move on, to look, and to
record diagnostics (`Call.run`). A call may be refused; then its diagnostic is recorded, and the
next call goes on from where it stopped (`Call.after`), also if the call has failed.
-/

namespace FrontEnd.Parser

/-- One use of a parser. -/
inductive Call
  | program | statement
  | letStatement | returnStatement | exprStatement
  | expression (precedence : Int)
  | identifier | integer | string | illegal
  | unary | binary (left : Node) | grouped
  | advance | skipToSemicolon | recover
  | expect (wanted : String) (reason? : Option String)
  | currentIs (kind : String) | peekIs (kind : String)
  | currentPrecedence | peekPrecedence
  | peekError (wanted : String) (reason? : Option String)
  | currentError (message : String)
  | operandError
  | errorAt (t : Token) (message : String)
  | operandErrorAt (t : Token)
  | check

/-- What a call gives back. -/
inductive Reply
  | nothing
  | node (n? : Option Node)
  /-- An integer without a value, of a token that has none. No tree has one in it. -/
  | valueless
  | truth (b : Bool)
  | level (n : Nat)
  | report (r? : Option ErrorReport)

/-- The cause of a wrong token in sight, with a reason in the words of a caller if there is one. -/
def wrongToken (wanted : String) (reason? : Option String) (found : Kind) : Cause :=
  match reason? with
  | some reason => .expectedAs reason found
  | none => .expected wanted found

namespace Call

/-- Gives back the node that a step may find. -/
def giving (step : Step (Option Node)) : Step Reply := Reply.node <$> step

/-- Gives back nothing. -/
def silently (step : Step Unit) : Step Reply := do
  step
  return .nothing

/-- Gives back what the state shows. -/
def showing (look : Parser → Reply) : Step Reply := look <$> get

/-- **The reply to a call.** -/
def run (depth : Nat) : Call → Step Reply
  | program => giving (some <$> Parser.program depth)
  | statement => giving (Parser.statement depth)
  | letStatement => giving (orRecover (Parser.letStatement depth))
  | returnStatement => giving (orRecover (Parser.returnStatement depth))
  | exprStatement => giving (orRecover (Parser.exprStatement depth))
  | expression precedence => giving (recorded (Parser.expression depth precedence))
  | identifier => showing fun p => .node (some (.identifier p.current.literal))
  | integer => showing fun p =>
    match p.current.value? with
    | some value => .node (some (.integer value))
    | none => .valueless
  | string => showing fun p => .node (some (.string p.current.literal))
  | illegal => giving (recorded Parser.illegal)
  | unary => giving (recorded (Parser.unary (Parser.expression depth)))
  | binary left => giving (recorded (Parser.binary (Parser.expression depth) left))
  | grouped => giving (recorded (Parser.grouped (Parser.expression depth)))
  | advance => silently Parser.advance
  | skipToSemicolon => silently Parser.skipToSemicolon
  | recover => silently Parser.recover
  | expect wanted reason? => do
    let found ← recorded (Parser.expect wanted (wrongToken wanted reason?))
    return .truth found.isSome
  | currentIs kind => showing fun p => .truth (p.current.kind.text = kind)
  | peekIs kind => showing fun p => .truth (p.peek.kind.text = kind)
  | currentPrecedence => showing fun p => .level p.current.kind.precedence
  | peekPrecedence => showing fun p => .level p.peek.kind.precedence
  | peekError wanted reason? => silently do
    let t := (← get).peek
    report ⟨t.line, t.column, wrongToken wanted reason? t.kind⟩
  | currentError message => silently do
    let t := (← get).current
    report ⟨t.line, t.column, .remark message⟩
  | operandError => giving (recorded missingOperand)
  | errorAt t message => silently (report ⟨t.line, t.column, .remark message⟩)
  | operandErrorAt t =>
    silently (report ⟨t.line, t.column, if t.kind = .eof then .endOfInput else .noOperand t.kind⟩)
  | check => showing fun p => .report p.report?

/-- The parser after a call. -/
def after (depth : Nat) (p : Parser) (call : Call) : Parser :=
  match call.run depth p with
  | .ok _ q | .error _ q => q

/-- The parser after calls one after the other. -/
def afterAll (depth : Nat) (p : Parser) (calls : List Call) : Parser :=
  calls.foldl (after depth) p

end Call

end FrontEnd.Parser
