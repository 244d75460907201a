import FrontEnd.Diagnostic
import FrontEnd.Journal
import FrontEnd.Node.Basic

/-!
# The state of a parser

A parser sees the current token and the one after it, and the stream behind them. It records
diagnostics and keeps a journal. A step of it may change the state, and may fail (`Failure`);
what it did to the state stays done. A refusal carries its diagnostic, which is recorded by the
step that goes on after it (`recorded`, `orRecover`).
-/

namespace FrontEnd

/-- A parser at work on a text. -/
structure Parser where
  filename : String
  current : Token
  peek : Token
  ahead : Stream
  diagnostics : Array Diagnostic
  journal : Journal

/-- Why a step does not end as it should. -/
inductive Failure
  /-- The text is refused; the diagnostic is not recorded yet. -/
  | refused (d : Diagnostic)
  /-- Expressions are nested too deeply. -/
  | tooDeep
  /-- The text cannot be scanned. -/
  | fault (e : ScanError)
  deriving DecidableEq, Repr

/-- A step of a parser. -/
abbrev Step := EStateM Failure Parser

namespace Parser

/-- A parser that has not looked at its text. -/
def fresh (filename : String) (journal : Journal) (source : String) : Parser :=
  let stream := Stream.ofCursor (Cursor.ofText source)
  ⟨filename, stream.finish.token, stream.finish.token, stream, #[], journal⟩

/-- How many tokens can still come before the end. -/
def remaining (p : Parser) : Nat := p.ahead.pending.length + 2

/-- **One token further.** What is wrong with the token that comes into sight is noted. If there
is none to read, the token in sight stays there. -/
def advance : Step Unit := fun p =>
  match p.ahead.next with
  | (.ok s, later) =>
    .ok () { p with
      current := p.peek, peek := s.token, ahead := later
      journal := p.journal.noteScan p.filename s }
  | (.error e, later) => .error (.fault e) { p with current := p.peek, ahead := later }

/-- Brings the first two tokens of the text into sight. -/
def start : Step Unit := do
  advance
  advance

/-- Notes a message. -/
def note (level : Level) (message : String) : Step Unit :=
  modify fun p => { p with journal := p.journal.note ⟨.parsing, level, message⟩ }

/-- Records a diagnostic, and notes it. -/
def report (d : Diagnostic) : Step Unit := do
  modify fun p => { p with diagnostics := p.diagnostics.push d }
  note .normal d.message

/-- Refuses the text at a token. -/
def refuse {α : Type} (t : Token) (cause : Cause) : Step α :=
  throw (.refused ⟨t.line, t.column, cause⟩)

/-- Goes one token further if the token in sight is of the wanted kind, and refuses it if not. -/
def expect (wanted : String) (cause : Kind → Cause) : Step Unit := do
  let p ← get
  if p.peek.kind.text = wanted then advance else refuse p.peek (cause p.peek.kind)

/-- Records a refusal. -/
def recorded {α : Type} (step : Step α) : Step (Option α) :=
  tryCatch (some <$> step) fun
    | .refused d => do
      report d
      return none
    | failure => throw failure

/-- Goes on to the next semicolon or the end, for at most some tokens. -/
def skip : Nat → Step Unit
  | 0 => pure ()
  | rounds + 1 => do
    let p ← get
    if p.current.kind = .semicolon ∨ p.current.kind = .eof then return ()
    advance
    skip rounds

/-- Goes on to the next semicolon or the end, unless the parser stands there. -/
def skipToSemicolon : Step Unit := do
  skip (← get).remaining

/-- Leaves out the rest of a statement. -/
def recover : Step Unit := do
  let skipped := (← get).current
  skipToSemicolon
  let found := (← get).current.kind.text
  note .verbose s!"Recovered from line {skipped.line}:{skipped.column} to {found}"

/-- Records a refusal and leaves out the rest of the statement. -/
def orRecover {α : Type} (step : Step α) : Step (Option α) := do
  let result ← recorded step
  if result.isNone then recover
  return result

/-- The messages of all diagnostics. -/
def errors (p : Parser) : List String := p.diagnostics.toList.map Diagnostic.message

/-- All diagnostics as one failure, if there are any. -/
def report? (p : Parser) : Option ErrorReport :=
  if p.errors.isEmpty then none else some ⟨p.errors, p.filename⟩

end Parser

end FrontEnd
