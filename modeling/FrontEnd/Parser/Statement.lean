import FrontEnd.Parser.Expression

/-!
# Reading statements and programs

A statement that is refused leaves one diagnostic, and the parser goes on behind the next
semicolon. So a program is always read to its end, whatever is wrong with its statements
(`program`), unless the text cannot be scanned.
-/

namespace FrontEnd

namespace Parser

/-- A definition, up to the semicolon behind it. -/
def letStatement (depth : Nat) : Step Node := do
  expect Kind.ident.text .missingName
  let name := (← get).current.literal
  expect Kind.assign.text (.missingAssign name)
  advance
  let value ← expression depth Precedence.lowest
  skipToSemicolon
  note .verbose s!"let {name}"
  return .letStmt (.identifier name) value

/-- A result, up to the semicolon behind it. -/
def returnStatement (depth : Nat) : Step Node := do
  advance
  let value ← expression depth Precedence.lowest
  skipToSemicolon
  return .returnStmt value

/-- An expression, with the semicolon behind it if there is one. -/
def exprStatement (depth : Nat) : Step Node := do
  let expression ← expression depth Precedence.lowest
  if (← get).peek.kind = .semicolon then advance
  return .exprStmt expression

/-- The statement at the current token; none if it is refused. -/
def attempt (depth : Nat) : Step (Option Node) := do
  match (← get).current.kind with
  | .letWord => orRecover (letStatement depth)
  | .returnWord => orRecover (returnStatement depth)
  | .semicolon => return some .blank
  | _ => orRecover (exprStatement depth)

/-- **The statement at the current token**; none if it is refused or nested too deeply. -/
def statement (depth : Nat) : Step (Option Node) := do
  let first := (← get).current
  tryCatch (attempt depth) fun
    | .tooDeep => do
      report ⟨first.line, first.column, .tooDeep⟩
      recover
      return none
    | failure => throw failure

/-- The statements up to the end, for at most some of them, behind those read already. -/
def statements (depth : Nat) : Nat → Array Node → Step (Array Node)
  | 0, done => return done
  | rounds + 1, done => do
    if (← get).current.kind = .eof then return done
    let found ← statement depth
    advance
    statements depth rounds (done ++ found.toArray)

/-- **The program from the current token to the end.** -/
def program (depth : Nat) : Step Node := do
  let found ← statements depth (← get).remaining #[]
  let p ← get
  note .minimal s!"Parsed {found.size} statements, {p.diagnostics.size} errors"
  return .program found.toList

/-- The whole text. -/
def parse (depth : Nat) : Step Node := do
  start
  program depth

end Parser

/-- **How many readers of expressions may be at work one inside the other.** The stack of a run has
room for 1000 calls, and a level of nesting takes two of them: the reader, and the rule by which it
reads the expression inside. The 490 levels leave room for the calls around the first reader and for
those that the last one makes. These are not counted, so a nest within a few levels of the limit may
be too deep here and not on a stack, or the other way round. -/
def nestingLimit : Nat := 490

/-- **Reads a source text**, with the settings for its journal. -/
def parseSource (depth : Nat) (settings : Settings) (filename source : String) :
    EStateM.Result Failure Parser Node :=
  (Parser.parse depth).run (.fresh filename (.empty settings) source)

end FrontEnd
