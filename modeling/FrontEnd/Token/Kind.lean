/-!
# Kinds of tokens

A token is of one of twenty-eight kinds. Each has a text, by which diagnostics and operators
of the tree name it (`Kind.text`), and the texts tell the kinds apart (`ofText?_text`). A word
is of the kind of its keyword or an identifier (`Kind.ofWord`). Eight kinds are binary
operators, which bind at four levels of precedence (`Kind.binding?`).
-/

namespace FrontEnd

/-- What a token is. -/
inductive Kind
  | illegal | eof
  | ident | int | string
  | assign | plus | minus | bang | asterisk | slash
  | lt | gt | eq | notEq
  | comma | semicolon | lparen | rparen | lbrace | rbrace
  | fnWord | letWord | trueWord | falseWord | ifWord | elseWord | returnWord
  deriving DecidableEq, Repr

namespace Kind

/-- The text of a kind: its own sign, or a name in capitals. -/
def text : Kind → String
  | illegal => "ILLEGAL"
  | eof => "EOF"
  | ident => "IDENT"
  | int => "INT"
  | string => "STRING"
  | assign => "="
  | plus => "+"
  | minus => "-"
  | bang => "!"
  | asterisk => "*"
  | slash => "/"
  | lt => "<"
  | gt => ">"
  | eq => "=="
  | notEq => "!="
  | comma => ","
  | semicolon => ";"
  | lparen => "("
  | rparen => ")"
  | lbrace => "\x7b"
  | rbrace => "\x7d"
  | fnWord => "FUNCTION"
  | letWord => "LET"
  | trueWord => "TRUE"
  | falseWord => "FALSE"
  | ifWord => "IF"
  | elseWord => "ELSE"
  | returnWord => "RETURN"

/-- The kinds and their constant names, in the order of the names. -/
def constants : List (String × Kind) := [
  ("ASSIGN", assign), ("ASTERISK", asterisk), ("BANG", bang), ("COMMA", comma), ("ELSE", elseWord),
  ("EOF", eof), ("EQ", eq), ("FALSE", falseWord), ("FUNCTION", fnWord), ("GT", gt),
  ("IDENT", ident), ("IF", ifWord), ("ILLEGAL", illegal), ("INT", int), ("LBRACE", lbrace),
  ("LET", letWord), ("LPAREN", lparen), ("LT", lt), ("MINUS", minus), ("NOT_EQ", notEq),
  ("PLUS", plus), ("RBRACE", rbrace), ("RETURN", returnWord), ("RPAREN", rparen),
  ("SEMICOLON", semicolon), ("SLASH", slash), ("STRING", string), ("TRUE", trueWord)]

/-- The kind with a text. -/
def ofText? (s : String) : Option Kind :=
  (constants.find? fun entry => entry.2.text == s).map (·.2)

/-- **A kind is known by its text.** -/
theorem ofText?_text (k : Kind) : ofText? k.text = some k := by
  cases k <;> decide

theorem text_injective {k l : Kind} (h : k.text = l.text) : k = l := by
  have := congrArg ofText? h
  rwa [ofText?_text, ofText?_text, Option.some.injEq] at this

/-- The words that are no identifiers, in the order of their letters. -/
def keywords : List (String × Kind) := [
  ("else", elseWord), ("false", falseWord), ("fn", fnWord), ("if", ifWord), ("let", letWord),
  ("return", returnWord), ("true", trueWord)]

/-- The kind of a word. -/
def ofWord (word : String) : Kind := (keywords.lookup word).getD ident

/-- The kind of a sign that stands for itself. -/
def ofSign? : Char → Option Kind
  | '=' => some assign
  | '!' => some bang
  | '+' => some plus
  | '-' => some minus
  | '*' => some asterisk
  | '/' => some slash
  | '<' => some lt
  | '>' => some gt
  | ',' => some comma
  | ';' => some semicolon
  | '(' => some lparen
  | ')' => some rparen
  | '{' => some lbrace
  | '}' => some rbrace
  | _ => none

end Kind

/-! ## Levels of precedence, the loosest first -/

namespace Precedence

/-- Below every operator. -/
def lowest : Nat := 1
/-- Equality and inequality. -/
def equality : Nat := 2
/-- Less and greater. -/
def comparison : Nat := 3
/-- Sum and difference. -/
def sum : Nat := 4
/-- Product and quotient. -/
def product : Nat := 5
/-- An operator before its operand. -/
def unary : Nat := 6
/-- Above every operator. -/
def call : Nat := 7

/-- All levels. -/
def all : List Nat := [lowest, equality, comparison, sum, product, unary, call]

end Precedence

namespace Kind

/-- How tightly a binary operator binds. -/
def binding? : Kind → Option Nat
  | eq | notEq => some Precedence.equality
  | lt | gt => some Precedence.comparison
  | plus | minus => some Precedence.sum
  | asterisk | slash => some Precedence.product
  | _ => none

/-- The level at which a token continues an expression; the lowest if it does not. -/
def precedence (k : Kind) : Nat := k.binding?.getD Precedence.lowest

/-- Stands before an operand. -/
def isUnary : Kind → Bool
  | bang | plus | minus => true
  | _ => false

/-- The binary operators with their levels, in the order of their texts. -/
def operators : List (String × Nat) :=
  [notEq, asterisk, plus, minus, slash, lt, eq, gt].filterMap fun k =>
    k.binding?.map fun level => (k.text, level)

end Kind

/-- How tightly the binary operator with a text binds. -/
def bindingOf? (operator : String) : Option Nat := (Kind.ofText? operator).bind Kind.binding?

theorem bindingOf?_text (k : Kind) : bindingOf? k.text = k.binding? := by
  rw [bindingOf?, Kind.ofText?_text, Option.bind_some]

end FrontEnd
