import FrontEnd.Token.Kind

/-!
# Diagnostics

A diagnostic is the place of a token and the reason why the text is refused there (`Cause`).
`Cause.message` holds all the wordings. An `ErrorReport` is a list of messages about one file.
-/

namespace FrontEnd

/-- Why a text is refused at a token. -/
inductive Cause
  /-- Another token was due. -/
  | expected (wanted : String) (found : Kind)
  /-- Another token was due, for a reason that is given. -/
  | expectedAs (reason : String) (found : Kind)
  /-- A definition has no name. -/
  | missingName (found : Kind)
  /-- A definition has no sign after its name. -/
  | missingAssign (name : String) (found : Kind)
  /-- The text ends where an operand is due. -/
  | endOfInput
  /-- No operand begins with such a token. -/
  | noOperand (found : Kind)
  /-- An integer is too large. -/
  | outOfRange (digits : String)
  /-- A string has no closing quote. -/
  | unterminated
  /-- A character that begins no token. -/
  | illegal (literal : String)
  /-- Expressions are nested too deeply. -/
  | tooDeep
  /-- A reason in the words of a caller. -/
  | remark (message : String)
  deriving DecidableEq, Repr

/-- The wording of a cause. -/
def Cause.message : Cause → String
  | expected wanted found => s!"expected next token to be {wanted}, got {found.text} instead"
  | expectedAs reason found => s!"{reason}, got {found.text} instead"
  | missingName found => s!"expected identifier after 'let', got {found.text} instead"
  | missingAssign name found => s!"expected '=' after '{name}', got {found.text} instead"
  | endOfInput => "unexpected end of input"
  | noOperand found => s!"no prefix parse function for {found.text} found"
  | outOfRange digits => s!"Could not parse {digits} as a 64-bit integer"
  | unterminated => "Unterminated string literal"
  | illegal literal => s!"Illegal token '{literal}'"
  | tooDeep => "expression nested too deeply"
  | remark message => message

/-- A cause at its place. -/
structure Diagnostic where
  line : Nat
  column : Nat
  cause : Cause
  deriving DecidableEq, Repr

/-- The wording of a diagnostic: its place, then its cause. -/
def Diagnostic.message (d : Diagnostic) : String :=
  s!"Line {d.line}:{d.column} - {d.cause.message}"

/-- Messages about one file, for a caller that takes them as one failure. -/
structure ErrorReport where
  errors : List String
  filename : String
  deriving DecidableEq, Repr

/-- The whole report: a heading with the number of messages, then a line for each. -/
def ErrorReport.message (r : ErrorReport) : String :=
  "\n".intercalate (s!"{r.filename}: parser has {r.errors.length} error(s)" ::
    r.errors.map fun e => s!"  parser error: {e}")

end FrontEnd
