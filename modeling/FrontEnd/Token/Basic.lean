import FrontEnd.Text.Quoted
import FrontEnd.Token.Kind

/-!
# Tokens

A token is a kind, the text that it stands for, and the place of its first character. Two
tokens are the same when kind and text agree, wherever they stand (`Token.same`).
-/

namespace FrontEnd

/-- A lexical unit of a source text. The literal is what the source says, for a string its
decoded contents; only integers have a value. Lines and columns count from one. -/
structure Token where
  kind : Kind
  literal : String
  value? : Option Int
  line : Nat
  column : Nat
  deriving DecidableEq, Repr

namespace Token

/-- All that tokens are compared by. -/
def key (t : Token) : Kind × String := (t.kind, t.literal)

/-- Kind and text agree. -/
def same (a b : Token) : Bool := a.key == b.key

theorem same_iff {a b : Token} : a.same b = true ↔ a.kind = b.kind ∧ a.literal = b.literal := by
  simp [same, key]

/-- How many different tokens there are in a list. -/
def distinct (ts : List Token) : Nat := (ts.map key).eraseDups.length

/-- The value in decimal digits, or that there is none. -/
def valueText (t : Token) : String :=
  match t.value? with
  | some n => toString n
  | none => "None"

/-- A token in one line of text: an integer by its value, a token whose literal is not fixed by
its kind with that literal. -/
def describe (t : Token) : String :=
  match t.kind with
  | .int => s!"Token({t.kind.text}, {t.valueText})"
  | .ident | .string | .illegal => s!"Token({t.kind.text}, {Text.quote t.literal})"
  | _ => s!"Token({t.kind.text})"

end Token

end FrontEnd
