import FrontEnd.Parser.Call

/-!
# What the rules of the parser are made of

All rules of the parser are made of a few elementary steps: to look at the state, to take a token
from the stream, to note a message, to record a diagnostic, and to fail. So a property of steps that
these steps have, and that passes from the parts of a step to the whole (`Parser.Inherited`), is a
property of all rules, and of each call of a parser. The rules look at anything but the journal.

* `Inherited.expression`, `Inherited.statement`, `Inherited.program`: the rules.
* `Inherited.call`: everything that can be asked of a parser.
-/

namespace FrontEnd

/-- The failure is an error of the stream. -/
def Failure.IsFault : Failure → Prop
  | fault _ => True
  | _ => False

namespace Parser

variable {α β : Type}

/-- **A property that steps inherit** from the steps that they are made of. What is seen of a state
does not depend on its journal, and a handler passes the errors of the stream on. -/
structure Inherited (P : (α : Type) → Step α → Prop) : Prop where
  pure : ∀ {α : Type} (a : α), P α (pure a)
  bind : ∀ {α β : Type} {m : Step α} {g : α → Step β}, P α m → (∀ a, P β (g a)) → P β (m >>= g)
  look : ∀ {β : Type} {g : Parser → Step β}, (∀ p, P β (g p)) →
    (∀ (p : Parser) (j : Journal), g { p with journal := j } = g p) → P β (get >>= g)
  failure : ∀ {α : Type} {e : Failure}, ¬e.IsFault → P α (throw e)
  handler : ∀ {α : Type} {m : Step α} {g : Failure → Step α}, P α m →
    (∀ e, ¬e.IsFault → P α (g e)) → (∀ e, g (.fault e) = throw (.fault e)) → P α (tryCatch m g)
  advance : P Unit advance
  verbose : ∀ message : String, P Unit (note .verbose message)
  report : ∀ d : Diagnostic, P Unit (report d)

namespace Inherited

variable {P : (α : Type) → Step α → Prop}

/-! ## Elementary rules -/

theorem map (h : Inherited P) {m : Step α} (hm : P α m) (f : α → β) : P β (f <$> m) :=
  h.bind hm fun a => h.pure (f a)

theorem ite {p : Prop} [Decidable p] {m m' : Step α} (hm : P α m) (hm' : P α m') :
    P α (if p then m else m') := by
  split
  · exact hm
  · exact hm'

theorem refuse (h : Inherited P) (t : Token) (c : Cause) : P α (Parser.refuse t c) :=
  h.failure not_false

theorem expect (h : Inherited P) (wanted : String) (cause : Kind → Cause) :
    P Unit (Parser.expect wanted cause) := by
  refine h.look (fun p => ?_) fun _ _ => rfl
  exact ite h.advance (h.refuse _ _)

/-- A refusal is recorded, and an error of the stream is passed on. -/
theorem recorded (h : Inherited P) {step : Step α} (hm : P α step) :
    P (Option α) (Parser.recorded step) := by
  refine h.handler (h.map hm some) (fun e he => ?_) fun e => rfl
  cases e with
  | refused d =>
    apply h.bind (h.report d)
    intro _
    exact h.pure none
  | tooDeep => exact h.failure he
  | fault e => exact absurd trivial he

/-! ## Expressions -/

variable {inner : Parser.Inner}

theorem unary (h : Inherited P) (hi : ∀ p, P Node (inner p)) : P Node (Parser.unary inner) := by
  refine h.look (fun p => ?_) fun _ _ => rfl
  apply h.bind h.advance
  intro _
  apply h.bind (hi _)
  intro right
  exact h.pure _

theorem grouped (h : Inherited P) (hi : ∀ p, P Node (inner p)) :
    P Node (Parser.grouped inner) := by
  apply h.bind h.advance
  intro _
  apply h.bind (hi _)
  intro e
  apply h.bind (h.expect _ _)
  intro _
  exact h.pure e

theorem illegal (h : Inherited P) : P Node Parser.illegal := by
  refine h.look (fun p => ?_) fun _ _ => rfl
  exact ite (h.refuse _ _) (ite (h.refuse _ _) (h.refuse _ _))

theorem missingOperand (h : Inherited P) : P Node Parser.missingOperand := by
  refine h.look (fun p => ?_) fun _ _ => rfl
  exact ite (h.refuse _ _) (h.refuse _ _)

theorem operand (h : Inherited P) (hi : ∀ p, P Node (inner p)) :
    P Node (Parser.operand inner) := by
  refine h.look (fun p => ?_) fun _ _ => rfl
  dsimp only
  cases p.current.kind
  case ident | int | string => exact h.pure _
  case bang | plus | minus => exact h.unary hi
  case lparen => exact h.grouped hi
  case illegal => exact h.illegal
  all_goals exact h.missingOperand

theorem binary (h : Inherited P) (hi : ∀ p, P Node (inner p)) (left : Node) :
    P Node (Parser.binary inner left) := by
  refine h.look (fun p => ?_) fun _ _ => rfl
  apply h.bind h.advance
  intro _
  apply h.bind (hi _)
  intro right
  exact h.pure _

theorem chain (h : Inherited P) (hi : ∀ p, P Node (inner p)) (p : Int) (n : Nat) (left : Node) :
    P Node (Parser.chain inner p n left) := by
  induction n generalizing left with
  | zero => exact h.pure left
  | succ n ih =>
    refine h.look (fun q => ?_) fun _ _ => rfl
    refine ite ?_ (h.pure left)
    apply h.bind h.advance
    intro _
    apply h.bind (h.binary hi left)
    intro longer
    exact ih longer

/-- **Reading an expression** inherits the property. -/
theorem expression (h : Inherited P) (depth : Nat) (p : Int) :
    P Node (Parser.expression depth p) := by
  induction depth generalizing p with
  | zero => exact h.failure not_false
  | succ d ih =>
    apply h.bind (h.operand ih)
    intro left
    refine h.look (fun q => ?_) fun _ _ => rfl
    exact h.chain ih p _ left

/-! ## Statements and programs -/

theorem skip (h : Inherited P) (n : Nat) : P Unit (Parser.skip n) := by
  induction n with
  | zero => exact h.pure ()
  | succ n ih =>
    refine h.look (fun p => ?_) fun _ _ => rfl
    refine ite (h.pure ()) ?_
    apply h.bind h.advance
    intro _
    exact ih

theorem skipToSemicolon (h : Inherited P) : P Unit Parser.skipToSemicolon := by
  refine h.look (fun p => ?_) fun _ _ => rfl
  exact h.skip _

theorem recover (h : Inherited P) : P Unit Parser.recover := by
  refine h.look (fun p => ?_) fun _ _ => rfl
  apply h.bind h.skipToSemicolon
  intro _
  refine h.look (fun q => ?_) fun _ _ => rfl
  exact h.verbose _

theorem orRecover (h : Inherited P) {step : Step α} (hm : P α step) :
    P (Option α) (Parser.orRecover step) := by
  apply h.bind (h.recorded hm)
  intro result
  refine ite ?_ (h.pure result)
  apply h.bind h.recover
  intro _
  exact h.pure result

theorem letStatement (h : Inherited P) (depth : Nat) : P Node (Parser.letStatement depth) := by
  apply h.bind (h.expect _ _)
  intro _
  refine h.look (fun p => ?_) fun _ _ => rfl
  apply h.bind (h.expect _ _)
  intro _
  apply h.bind h.advance
  intro _
  apply h.bind (h.expression depth _)
  intro value
  apply h.bind h.skipToSemicolon
  intro _
  apply h.bind (h.verbose _)
  intro _
  exact h.pure _

theorem returnStatement (h : Inherited P) (depth : Nat) :
    P Node (Parser.returnStatement depth) := by
  apply h.bind h.advance
  intro _
  apply h.bind (h.expression depth _)
  intro value
  apply h.bind h.skipToSemicolon
  intro _
  exact h.pure _

theorem exprStatement (h : Inherited P) (depth : Nat) : P Node (Parser.exprStatement depth) := by
  apply h.bind (h.expression depth _)
  intro e
  refine h.look (fun p => ?_) fun _ _ => rfl
  refine ite ?_ (h.pure _)
  apply h.bind h.advance
  intro _
  exact h.pure _

theorem attempt (h : Inherited P) (depth : Nat) : P (Option Node) (Parser.attempt depth) := by
  refine h.look (fun p => ?_) fun _ _ => rfl
  cases p.current.kind
  case letWord => exact h.orRecover (h.letStatement depth)
  case returnWord => exact h.orRecover (h.returnStatement depth)
  case semicolon => exact h.pure _
  all_goals exact h.orRecover (h.exprStatement depth)

/-- **Reading a statement** inherits the property: what it recovers from is no error of the
stream. -/
theorem statement (h : Inherited P) (depth : Nat) : P (Option Node) (Parser.statement depth) := by
  refine h.look (fun p => ?_) fun _ _ => rfl
  refine h.handler (h.attempt depth) (fun e he => ?_) fun e => rfl
  cases e with
  | refused d => exact h.failure he
  | tooDeep =>
    apply h.bind (h.report _)
    intro _
    apply h.bind h.recover
    intro _
    exact h.pure none
  | fault e => exact absurd trivial he

theorem statements (h : Inherited P) (depth n : Nat) (done : Array Node) :
    P (Array Node) (Parser.statements depth n done) := by
  induction n generalizing done with
  | zero => exact h.pure done
  | succ n ih =>
    refine h.look (fun p => ?_) fun _ _ => rfl
    refine ite (h.pure done) ?_
    apply h.bind (h.statement depth)
    intro found
    apply h.bind h.advance
    intro _
    exact ih _

theorem start (h : Inherited P) : P Unit Parser.start := by
  apply h.bind h.advance
  intro _
  exact h.advance

/-- **Reading a program** inherits the property, if the message that closes it has it too. -/
theorem program (h : Inherited P) (hn : ∀ message, P Unit (note .minimal message)) (depth : Nat) :
    P Node (Parser.program depth) := by
  refine h.look (fun p => ?_) fun _ _ => rfl
  apply h.bind (h.statements depth _ _)
  intro found
  refine h.look (fun q => ?_) fun _ _ => rfl
  apply h.bind (hn _)
  intro _
  exact h.pure _

/-! ## Calls -/

theorem giving (h : Inherited P) {step : Step (Option Node)} (hm : P (Option Node) step) :
    P Reply (Call.giving step) :=
  h.map hm _

theorem silently (h : Inherited P) {step : Step Unit} (hm : P Unit step) :
    P Reply (Call.silently step) := by
  apply h.bind hm
  intro _
  exact h.pure _

theorem showing (h : Inherited P) {look : Parser → Reply}
    (hl : ∀ (p : Parser) (j : Journal), look { p with journal := j } = look p) :
    P Reply (Call.showing look) := by
  refine h.look (fun p => h.pure (look p)) fun p j => ?_
  rw [hl]

/-- **Each call of a parser** inherits the property. -/
theorem call (h : Inherited P) (hn : ∀ message, P Unit (note .minimal message)) (depth : Nat)
    (call : Call) : P Reply (call.run depth) := by
  have hi : ∀ p, P Node (Parser.expression depth p) := h.expression depth
  cases call with
  | program => exact h.giving (h.map (h.program hn depth) some)
  | statement => exact h.giving (h.statement depth)
  | letStatement => exact h.giving (h.orRecover (h.letStatement depth))
  | returnStatement => exact h.giving (h.orRecover (h.returnStatement depth))
  | exprStatement => exact h.giving (h.orRecover (h.exprStatement depth))
  | expression p => exact h.giving (h.recorded (hi p))
  | illegal => exact h.giving (h.recorded h.illegal)
  | unary => exact h.giving (h.recorded (h.unary hi))
  | binary left => exact h.giving (h.recorded (h.binary hi left))
  | grouped => exact h.giving (h.recorded (h.grouped hi))
  | advance => exact h.silently h.advance
  | skipToSemicolon => exact h.silently h.skipToSemicolon
  | recover => exact h.silently h.recover
  | expect wanted reason? =>
    apply h.bind (h.recorded (h.expect wanted _))
    intro found
    exact h.pure _
  | peekError | currentError =>
    apply h.silently
    refine h.look (fun p => ?_) fun _ _ => rfl
    exact h.report _
  | operandError => exact h.giving (h.recorded h.missingOperand)
  | errorAt | operandErrorAt => exact h.silently (h.report _)
  | identifier | integer | string | currentIs | peekIs | currentPrecedence | peekPrecedence
  | check => exact h.showing fun _ _ => rfl

end Inherited

end Parser

end FrontEnd
