import FrontEnd.Parser.Statement

/-!
# The parser as a reader of token lists

What a parser makes of its tokens does not depend on its journal, its settings or the diagnostics
it has recorded. Here its rules stand once more, as functions of the tokens from the current one
on and of the token `last` that stands for the end. They take the same cases in the same order,
but a refusal names its token, a failure leaves the tokens that are still to be read, and no
rule of statements counts rounds.

* `rest_expression`: reading never goes back.
* `length_rest_statement`: after a statement no more tokens are left than before.
-/

namespace FrontEnd

/-- A cause and the token that is refused for it. -/
structure Refusal where
  token : Token
  cause : Cause
  deriving DecidableEq

/-- A cause at the place of its token. -/
def Refusal.diagnostic (r : Refusal) : Diagnostic := ⟨r.token.line, r.token.column, r.cause⟩

/-- How reading ends, with the tokens from the current one on. -/
inductive Ending (α : Type)
  | done (a : α) (rest : List Token)
  | refused (r : Refusal) (rest : List Token)
  | tooDeep (rest : List Token)

namespace Ending

variable {α β γ : Type}

/-- The tokens from the current one on. -/
def rest : Ending α → List Token
  | done _ rest => rest
  | refused _ rest => rest
  | tooDeep rest => rest

/-- Goes on behind a result. -/
def andThen (o : Ending α) (f : α → List Token → Ending β) : Ending β :=
  match o with
  | done a rest => f a rest
  | refused r rest => .refused r rest
  | tooDeep rest => .tooDeep rest

/-- Nesting was not too deep. -/
def IsShallow : Ending α → Prop
  | tooDeep _ => False
  | _ => True

theorem andThen_assoc (o : Ending α) (f : α → List Token → Ending β)
    (g : β → List Token → Ending γ) :
    (o.andThen f).andThen g = o.andThen fun a rest => (f a rest).andThen g := by
  cases o <;> rfl

theorem andThen_eq_done {o : Ending α} {f : α → List Token → Ending β} {b : β}
    {r : List Token} (h : o.andThen f = done b r) :
    ∃ a r', o = done a r' ∧ f a r' = done b r := by
  cases o with
  | done a r' => exact ⟨a, r', rfl, h⟩
  | refused e r' => cases h
  | tooDeep r' => cases h

end Ending

namespace Reader

variable (last : Token)

/-- The current token. -/
def current (ts : List Token) : Token := ts.headD last

/-- The token in sight, the one after the current one. -/
def peek (ts : List Token) : Token := ts.tail.headD last

@[simp] theorem current_cons (t : Token) (ts : List Token) : current last (t :: ts) = t := rfl

@[simp] theorem peek_cons_cons (x y : Token) (ts : List Token) :
    peek last (x :: y :: ts) = y := rfl

/-! ## Expressions -/

/-- A reader of the expressions inside another. -/
abbrev Inner := Int → List Token → Ending Node

/-- An operator continues an expression that has to bind tighter than `p`. -/
def Continues (p : Int) (k : Kind) : Prop := k.binding?.isSome ∧ p < k.precedence

instance (p : Int) (k : Kind) : Decidable (Continues p k) := inferInstanceAs (Decidable (_ ∧ _))

/-- What the text of a token shows that is no valid token. -/
def illegalCause (literal : String) : Cause :=
  if literal ≠ "" ∧ literal.toList.all Text.isDigit then .outOfRange literal
  else if literal.toList.head? = some '"' then .unterminated
  else .illegal literal

/-- Why a token begins no operand. -/
def missingCause (k : Kind) : Cause := if k = .eof then .endOfInput else .noOperand k

/-- An operator before its operand. -/
def unary (inner : Inner) (ts : List Token) : Ending Node :=
  (inner Precedence.unary ts.tail).andThen fun right rest =>
    .done (.unary (current last ts).kind.text right) rest

/-- An expression in parentheses, from the opening one on. -/
def grouped (inner : Inner) (ts : List Token) : Ending Node :=
  (inner Precedence.lowest ts.tail).andThen fun expression rest =>
    if (peek last rest).kind = .rparen then .done expression rest.tail
    else .refused ⟨peek last rest, .expected Kind.rparen.text (peek last rest).kind⟩ rest

/-- What stands before the first operator. -/
def operand (inner : Inner) (ts : List Token) : Ending Node :=
  let t := current last ts
  match t.kind with
  | .ident => .done (.identifier t.literal) ts
  | .int => .done (.integer (t.value?.getD 0)) ts
  | .string => .done (.string t.literal) ts
  | .bang | .plus | .minus => unary last inner ts
  | .lparen => grouped last inner ts
  | .illegal => .refused ⟨t, illegalCause t.literal⟩ ts
  | k => .refused ⟨t, missingCause k⟩ ts

/-- Operators and their right operands, for at most some rounds. -/
def chain (inner : Inner) (p : Int) : Nat → Node → List Token → Ending Node
  | 0, left, ts => .done left ts
  | rounds + 1, left, ts =>
    let operator := (peek last ts).kind
    if Continues p operator then
      (inner operator.precedence ts.tail.tail).andThen fun right rest =>
        chain inner p rounds (.binary left operator.text right) rest
    else .done left ts

/-- How many tokens can still come before the end. -/
def remaining (ts : List Token) : Nat := (ts.drop 2).length + 2

theorem length_le_remaining (ts : List Token) : ts.length ≤ remaining ts := by
  rw [remaining, List.length_drop]
  omega

/-- **An expression** that binds tighter than `p`, with at most `depth` readers at work. -/
def expression : Nat → Inner
  | 0, _, ts => .tooDeep ts
  | depth + 1, p, ts =>
    (operand last (expression depth) ts).andThen fun left rest =>
      chain last (expression depth) p (remaining rest) left rest

/-! ## Statements -/

/-- Goes on to the next semicolon or the end. -/
def skip (ts : List Token) : List Token := ts.dropWhile fun t => t.kind ≠ .semicolon

/-- A definition, up to the semicolon behind it. -/
def letStatement (depth : Nat) (ts : List Token) : Ending Node :=
  let name := peek last ts
  if name.kind ≠ .ident then .refused ⟨name, .missingName name.kind⟩ ts
  else
    let sign := peek last ts.tail
    if sign.kind ≠ .assign then .refused ⟨sign, .missingAssign name.literal sign.kind⟩ ts.tail
    else
      (expression last depth Precedence.lowest ts.tail.tail.tail).andThen fun value rest =>
        .done (.letStmt (.identifier name.literal) value) (skip rest)

/-- A result, up to the semicolon behind it. -/
def returnStatement (depth : Nat) (ts : List Token) : Ending Node :=
  (expression last depth Precedence.lowest ts.tail).andThen fun value rest =>
    .done (.returnStmt value) (skip rest)

/-- An expression, with the semicolon behind it if there is one. -/
def exprStatement (depth : Nat) (ts : List Token) : Ending Node :=
  (expression last depth Precedence.lowest ts).andThen fun e rest =>
    .done (.exprStmt e) (if (peek last rest).kind = .semicolon then rest.tail else rest)

/-- The statement at the current token. -/
def attempt (depth : Nat) (ts : List Token) : Ending Node :=
  match (current last ts).kind with
  | .letWord => letStatement last depth ts
  | .returnWord => returnStatement last depth ts
  | .semicolon => .done .blank ts
  | _ => exprStatement last depth ts

/-- What becomes of a statement: it is read or refused, and the reader stands behind it. -/
structure Found where
  node? : Option Node
  refusal? : Option Refusal
  rest : List Token

/-- Leaves out the rest of a statement that is refused. One that is nested too deeply is refused
at its first token. -/
def settle (first : Token) : Ending Node → Found
  | .done n rest => ⟨some n, none, rest⟩
  | .refused r rest => ⟨none, some r, skip rest⟩
  | .tooDeep rest => ⟨none, some ⟨first, .tooDeep⟩, skip rest⟩

/-- **The statement at the current token**; none if it is refused or nested too deeply. -/
def statement (depth : Nat) (ts : List Token) : Found :=
  settle (current last ts) (attempt last depth ts)

variable {last} {inner : Inner} {p : Int} {depth : Nat} {ts : List Token}

theorem operand_of_isUnary {t : Token} (h : t.kind.isUnary) (us : List Token) :
    operand last inner (t :: us) = unary last inner (t :: us) := by
  unfold operand
  rw [current_cons]
  dsimp only
  split <;> first | rfl | simp_all [Kind.isUnary]

/-! ## Reading never goes back -/

theorem rest_andThen {α β : Type} {o : Ending α} {f : α → List Token → Ending β}
    (ho : o.rest <:+ ts) (hf : ∀ a r, r <:+ ts → (f a r).rest <:+ ts) :
    (o.andThen f).rest <:+ ts := by
  cases o with
  | done a r => exact hf a r ho
  | refused e r => exact ho
  | tooDeep r => exact ho

theorem rest_unary (h : ∀ p us, (inner p us).rest <:+ us) (ts : List Token) :
    (unary last inner ts).rest <:+ ts :=
  rest_andThen ((h _ _).trans (List.tail_suffix ts)) fun _ _ hr => hr

theorem rest_grouped (h : ∀ p us, (inner p us).rest <:+ us) (ts : List Token) :
    (grouped last inner ts).rest <:+ ts := by
  refine rest_andThen ((h _ _).trans (List.tail_suffix ts)) fun e r hr => ?_
  split
  · exact (List.tail_suffix r).trans hr
  · exact hr

theorem rest_operand (h : ∀ p us, (inner p us).rest <:+ us) (ts : List Token) :
    (operand last inner ts).rest <:+ ts := by
  unfold operand
  dsimp only
  split
  case h_4 | h_5 | h_6 => exact rest_unary h ts
  case h_7 => exact rest_grouped h ts
  all_goals exact List.suffix_refl ts

theorem rest_chain (h : ∀ p us, (inner p us).rest <:+ us) (n : Nat) (left : Node)
    (ts : List Token) : (chain last inner p n left ts).rest <:+ ts := by
  induction n generalizing left ts with
  | zero => exact List.suffix_refl ts
  | succ n ih =>
    unfold chain
    dsimp only
    split
    · have ht : ts.tail.tail <:+ ts := (List.tail_suffix _).trans (List.tail_suffix ts)
      exact rest_andThen ((h _ _).trans ht) fun a r hr => (ih _ r).trans hr
    · exact List.suffix_refl ts

/-- **Reading an expression never goes back.** -/
theorem rest_expression (depth : Nat) (p : Int) (ts : List Token) :
    (expression last depth p ts).rest <:+ ts := by
  induction depth generalizing p ts with
  | zero => exact List.suffix_refl ts
  | succ d ih =>
    exact rest_andThen (rest_operand ih ts) fun a r hr => (rest_chain ih _ a r).trans hr

theorem suffix_of_done {T : Node} {out : List Token}
    (h : expression last depth p ts = .done T out) : out <:+ ts := by
  have hs : (expression last depth p ts).rest <:+ ts := rest_expression depth p ts
  rwa [h] at hs

theorem suffix_of_chain {n : Nat} {left T : Node} {out : List Token}
    (h : chain last (expression last depth) p n left ts = .done T out) : out <:+ ts := by
  have hs : (chain last (expression last depth) p n left ts).rest <:+ ts :=
    rest_chain (rest_expression depth) n left ts
  rwa [h] at hs

theorem skip_suffix (ts : List Token) : skip ts <:+ ts := List.dropWhile_suffix _

variable (last)

theorem rest_attempt (depth : Nat) (ts : List Token) : (attempt last depth ts).rest <:+ ts := by
  have h1 := List.tail_suffix ts
  have h2 := (List.tail_suffix ts.tail).trans h1
  have h3 := (List.tail_suffix ts.tail.tail).trans h2
  unfold attempt
  split
  · unfold letStatement
    dsimp only
    split
    · exact List.suffix_refl ts
    · split
      · exact h1
      · exact rest_andThen ((rest_expression ..).trans h3) fun a r hr => (skip_suffix r).trans hr
  · exact rest_andThen ((rest_expression ..).trans h1) fun a r hr => (skip_suffix r).trans hr
  · exact List.suffix_refl ts
  · refine rest_andThen (rest_expression ..) fun a r hr => ?_
    dsimp only [Ending.rest]
    split
    · exact (List.tail_suffix r).trans hr
    · exact hr

theorem rest_statement (depth : Nat) (ts : List Token) :
    (statement last depth ts).rest <:+ ts := by
  have h := rest_attempt last depth ts
  unfold statement
  cases ha : attempt last depth ts with rw [ha] at h
  | done n r => exact h
  | refused e r => exact (skip_suffix r).trans h
  | tooDeep r => exact (skip_suffix r).trans h

/-- After a statement no more tokens are left than before. -/
theorem length_rest_statement (depth : Nat) (ts : List Token) :
    (statement last depth ts).rest.length ≤ ts.length :=
  (rest_statement last depth ts).length_le

/-- **The statements of a program** and the refusals on the way, in order. -/
def program (depth : Nat) (ts : List Token) : List Node × List Refusal :=
  if _h : ts = [] then ([], [])
  else
    let found := statement last depth ts
    let later := program depth found.rest.tail
    (found.node?.toList ++ later.1, found.refusal?.toList ++ later.2)
termination_by ts.length
decreasing_by
  have h1 := length_rest_statement last depth ts
  have h2 := List.length_pos_iff.mpr _h
  simp only [List.length_tail]
  omega

end Reader

end FrontEnd
