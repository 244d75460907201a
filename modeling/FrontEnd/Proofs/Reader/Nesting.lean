import FrontEnd.Proofs.Grammar.Climbing
import FrontEnd.Proofs.Reader.Depth

/-!
# Readers at work one inside the other

While an expression is read, others begin in it (`Opens`): what stands in parentheses, the operand
behind a sign, and the right operand of an operator. A right operand has a higher level to beat than
the expression around it, so there are at most four of them one inside the other until the next
parenthesis opens. The bound on nested readers is about such chains (`Nested`) and nothing else:
operators that follow each other on one level are read in a loop.

* `Nested.length_lt`: how many readers are nested, by open parentheses and signs.
* `isShallow_iff_nested`: the bound is reached exactly by chains of its length.
* `statement_of_nested`: the bound does not matter for a statement without long chains.
-/

namespace FrontEnd.Reader

variable {last : Token} {d d' : Nat} {p q : Int} {ts us rest : List Token} {T : Node}

/-! ## Chains of readers -/

/-- A reader of an expression at work: the level to beat, and the tokens from the first one on. -/
structure Work where
  level : Int
  tokens : List Token

/-- Where an expression stands in another one: in parentheses, behind a sign, or on the right of
an operator. -/
inductive Via
  | group | sign | operator
  deriving DecidableEq

/-- Reading with the level `p` to beat comes to `rest`: it has read an operand and then some
operators, each with its right operand, and stands on the last token of these. -/
inductive Rounds (last : Token) (p : Int) (ts : List Token) : List Token → Prop
  | operand {d : Nat} {left : Node} {rest : List Token} :
      operand last (expression last d) ts = .done left rest → Rounds last p ts rest
  | operator {d : Nat} {right : Node} {rest later : List Token} :
      Rounds last p ts rest → Continues p (peek last rest).kind →
      expression last d (peek last rest).kind.precedence rest.tail.tail = .done right later →
      Rounds last p ts later

/-- **While a reader is at work, another one begins** inside it. -/
inductive Opens (last : Token) : Work → Via → Work → Prop
  | group {p : Int} {t : Token} {us : List Token} :
      t.kind = .lparen → Opens last ⟨p, t :: us⟩ .group ⟨Precedence.lowest, us⟩
  | sign {p : Int} {t : Token} {us : List Token} :
      t.kind.isUnary → Opens last ⟨p, t :: us⟩ .sign ⟨Precedence.unary, us⟩
  | operator {p : Int} {ts rest : List Token} :
      Rounds last p ts rest → Continues p (peek last rest).kind →
      Opens last ⟨p, ts⟩ .operator ⟨(peek last rest).kind.precedence, rest.tail.tail⟩

/-- **A chain of readers** at work one inside the other, from the outermost to the innermost one. -/
inductive Nested (last : Token) : Work → List Via → Work → Prop
  | here {a : Work} : Nested last a [] a
  | inside {a b c : Work} {via : Via} {vs : List Via} :
      Opens last a via b → Nested last b vs c → Nested last a (via :: vs) c

/-! ## How long a chain can be -/

/-- How many levels of operators are above a level. -/
def higher (p : Int) : Nat := ((Precedence.product : Int) - max p Precedence.lowest).toNat

theorem higher_le (p : Int) : higher p ≤ 4 := by
  have : (Precedence.product : Int) = 5 := rfl
  have : (Precedence.lowest : Int) = 1 := rfl
  unfold higher
  omega

/-- An operator that binds tighter has fewer levels above it. -/
theorem higher_lt_of_continues {k : Kind} (h : Continues p k) : higher k.precedence < higher p := by
  obtain ⟨b, hb, hp⟩ := continues_iff.mp h
  obtain ⟨hlow, hhigh⟩ := Kind.binding?_bounds hb
  have : Precedence.unary = Precedence.product + 1 := rfl
  rw [precedence_of_binding? hb]
  unfold higher
  omega

/-- **The levels of operators in a chain rise** up to the next parenthesis that opens. -/
theorem Nested.operators_le {a b : Work} {vs : List Via} (h : Nested last a vs b) :
    vs.count .operator + higher b.level ≤ higher a.level + 4 * vs.count .group := by
  induction h with
  | here => exact Nat.le_of_eq (Nat.zero_add _)
  | inside hopens _ ih =>
    cases hopens with
    | group =>
      -- a parenthesis makes way for the operators of all levels
      have hlevels := higher_le (Precedence.lowest : Nat)
      rw [List.count_cons_of_ne (by decide), List.count_cons_self]
      dsimp only at ih ⊢
      omega
    | sign =>
      have hlevels : higher (Precedence.unary : Nat) = 0 := rfl
      rw [List.count_cons_of_ne (by decide), List.count_cons_of_ne (by decide)]
      dsimp only at ih ⊢
      omega
    | operator _ hc =>
      have hlevels := higher_lt_of_continues hc
      rw [List.count_cons_self, List.count_cons_of_ne (by decide)]
      dsimp only at ih ⊢
      omega

theorem length_eq_counts (vs : List Via) :
    vs.length = vs.count .group + vs.count .sign + vs.count .operator := by
  induction vs with
  | nil => rfl
  | cons via vs ih =>
    rw [List.length_cons, ih]
    cases via with
    | group | sign | operator =>
      simp only [List.count_cons_self, ne_eq, reduceCtorEq, not_false_eq_true,
        List.count_cons_of_ne]
      omega

/-- **At most five readers for each open parenthesis** and one more five at the outside, and one for
each sign. -/
theorem Nested.length_lt {a b : Work} {vs : List Via} (h : Nested last a vs b) :
    vs.length < 5 * (vs.count .group + 1) + vs.count .sign := by
  have hoperators := h.operators_le
  have hlevels := higher_le a.level
  have hlength := length_eq_counts vs
  omega

/-! ## Each reader has fewer tokens than the one around it -/

/-- Only an operator continues an expression, so the end does not. -/
theorem exists_of_continues (hl : last.kind = .eof) (h : Continues p (peek last ts).kind) :
    ∃ x op us, ts = x :: op :: us := by
  match ts with
  | [] | [_] => exact absurd h (not_continues_of_none (hl ▸ rfl))
  | x :: op :: us => exact ⟨x, op, us, rfl⟩

theorem Rounds.suffix (h : Rounds last p ts rest) : rest <:+ ts := by
  induction h with
  | @operand d left rest hr =>
    have hsuf : (FrontEnd.Reader.operand last (expression last d) ts).rest <:+ ts :=
      rest_operand (rest_expression d) ts
    rwa [hr] at hsuf
  | @operator d right rest later _ _ hr ih =>
    have hlater : later <:+ rest.tail.tail := suffix_of_done hr
    exact hlater.trans ((List.tail_suffix _).trans ((List.tail_suffix _).trans ih))

/-- A reader begins behind the first token of the one around it. -/
theorem Opens.exists_cons (hl : last.kind = .eof) {a b : Work} {via : Via}
    (h : Opens last a via b) : ∃ t us, a.tokens = t :: us ∧ b.tokens <:+ us := by
  cases h with
  | group | sign => exact ⟨_, _, rfl, List.suffix_refl _⟩
  | @operator p ts rest hr hc =>
    obtain ⟨x, op, us, rfl⟩ := exists_of_continues hl hc
    obtain ⟨front, rfl⟩ := hr.suffix
    cases front with
    | nil => exact ⟨x, op :: us, rfl, List.suffix_cons op us⟩
    | cons t front => exact ⟨t, front ++ x :: op :: us, rfl, front ++ [x, op], by simp⟩

/-- **A chain is no longer than the tokens.** -/
theorem Nested.length_le (hl : last.kind = .eof) {a b : Work} {vs : List Via}
    (h : Nested last a vs b) : vs.length ≤ a.tokens.length := by
  induction h with
  | here => exact Nat.zero_le _
  | inside hopens _ ih =>
    obtain ⟨t, us, ha, hus⟩ := hopens.exists_cons hl
    rw [ha]
    exact Nat.succ_le_succ (Nat.le_trans ih hus.length_le)

/-- **A chain has no more readers of a sort** than there are tokens with which these begin. -/
theorem Nested.count_le (hl : last.kind = .eof) {via : Via} {isFirst : Token → Bool}
    (hfirst : ∀ {a b : Work}, Opens last a via b → ∀ t ∈ a.tokens.head?, isFirst t = true)
    {a b : Work} {vs : List Via} (h : Nested last a vs b) :
    vs.count via ≤ a.tokens.countP isFirst := by
  induction h with
  | here => exact Nat.zero_le _
  | @inside a b c v vs hopens _ ih =>
    obtain ⟨t, us, ha, hus⟩ := hopens.exists_cons hl
    have hlater := Nat.le_trans ih hus.countP_le
    rw [ha]
    by_cases hv : v = via
    · subst hv
      have ht : isFirst t = true := hfirst hopens t (by rw [ha]; rfl)
      rw [List.count_cons_self, List.countP_cons_of_pos ht]
      exact Nat.succ_le_succ hlater
    · rw [List.count_cons_of_ne hv]
      exact Nat.le_trans hlater (List.suffix_cons t us).countP_le

/-- The parentheses and signs among the tokens are bounds for those of each chain. -/
theorem Nested.counts_le (hl : last.kind = .eof) {a b : Work} {vs : List Via}
    (h : Nested last a vs b) :
    5 * (vs.count .group + 1) + vs.count .sign ≤
      5 * (a.tokens.countP (fun t => t.kind = .lparen) + 1) +
        a.tokens.countP (fun t => t.kind.isUnary) := by
  have hgroups : vs.count .group ≤ a.tokens.countP fun t => t.kind = .lparen := by
    refine h.count_le hl fun hopens t ht => ?_
    cases hopens with
    | group hk =>
      cases ht
      exact decide_eq_true hk
  have hsigns : vs.count .sign ≤ a.tokens.countP fun t => t.kind.isUnary := by
    refine h.count_le hl fun hopens t ht => ?_
    cases hopens with
    | sign hk =>
      cases ht
      exact hk
  omega

/-! ## The bound is reached by chains of its length -/

theorem isShallow_of_andThen {α β : Type} {o : Ending α} {f : α → List Token → Ending β}
    (h : (o.andThen f).IsShallow) : o.IsShallow := by
  cases o with
  | tooDeep => exact h
  | done | refused => trivial

/-- An expression that is read within one bound is read within each other that is not reached. -/
theorem expression_of_done {out : List Token} (hs : (expression last d p ts).IsShallow)
    (h : expression last d' p ts = .done T out) : expression last d p ts = .done T out := by
  rcases Nat.le_total d d' with hd | hd
  · rw [← h]
    exact (expression_below hd p ts hs).symm
  · exact (expression_below hd p ts (h ▸ trivial)).trans h

theorem operand_of_done {out : List Token} (hs : (operand last (expression last d) ts).IsShallow)
    (h : operand last (expression last d') ts = .done T out) :
    operand last (expression last d) ts = .done T out := by
  rcases Nat.le_total d d' with hd | hd
  · rw [← h]
    exact (operand_below (expression_below hd) ts hs).symm
  · exact (operand_below (expression_below hd) ts (h ▸ trivial)).trans h

/-- An operator that continues an expression is read in a round of the loop. -/
theorem exists_chain_of_continues (hl : last.kind = .eof) (hc : Continues p (peek last ts).kind)
    (inner : Inner) (left : Node) {n : Nat} (hn : ts.length ≤ n) :
    ∃ m, ts.tail.tail.length ≤ m ∧ chain last inner p n left ts =
      (inner (peek last ts).kind.precedence ts.tail.tail).andThen fun right later =>
        chain last inner p m (.binary left (peek last ts).kind.text right) later := by
  obtain ⟨x, op, us, rfl⟩ := exists_of_continues hl hc
  obtain ⟨m, rfl⟩ : ∃ m, n = m + 1 := ⟨n - 1, by simp at hn; omega⟩
  refine ⟨m, by simp at hn ⊢; omega, ?_⟩
  rw [chain, if_pos hc]

/-- Unless the bound is reached, reading comes to each point that it comes to within another one. -/
theorem Rounds.exists_chain (hl : last.kind = .eof) (hs : (expression last (d + 1) p ts).IsShallow)
    (h : Rounds last p ts rest) :
    ∃ left n, rest.length ≤ n ∧
      expression last (d + 1) p ts = chain last (expression last d) p n left rest := by
  -- the parts were read within bounds of their own, which agree with `d` as it is not reached
  induction h with
  | @operand d' left rest hr =>
    have hop : FrontEnd.Reader.operand last (expression last d) ts = .done left rest :=
      operand_of_done (isShallow_of_andThen hs) hr
    exact ⟨left, remaining rest, length_le_remaining rest, by rw [expression, hop]; rfl⟩
  | @operator d' right rest later _ hc hr ih =>
    obtain ⟨left, n, hn, he⟩ := ih
    obtain ⟨m, hm, hchain⟩ := exists_chain_of_continues hl hc (expression last d) left hn
    rw [hchain] at he
    rw [expression_of_done (isShallow_of_andThen (he ▸ hs)) hr] at he
    exact ⟨_, m, Nat.le_trans (suffix_of_done hr).length_le hm, he⟩

/-- **A reader that reaches a bound** makes the one around it reach the next one. -/
theorem Opens.isShallow (hl : last.kind = .eof) {via : Via} (h : Opens last ⟨p, ts⟩ via ⟨q, us⟩)
    (hs : (expression last (d + 1) p ts).IsShallow) : (expression last d q us).IsShallow := by
  cases h with
  | group ht =>
    have hop := isShallow_of_andThen hs
    simp only [operand, current_cons, ht] at hop
    exact isShallow_of_andThen hop
  | sign ht =>
    have hop := isShallow_of_andThen hs
    rw [operand_of_isUnary ht] at hop
    exact isShallow_of_andThen hop
  | @operator _ _ rest hr hc =>
    obtain ⟨left, n, hn, he⟩ := hr.exists_chain hl hs
    obtain ⟨m, -, hchain⟩ := exists_chain_of_continues hl hc (expression last d) left hn
    rw [hchain] at he
    exact isShallow_of_andThen (he ▸ hs)

theorem exists_opens_of_operand (hl : last.kind = .eof) (p : Int)
    (hs : ¬(operand last (expression last d) ts).IsShallow) :
    ∃ via q us, Opens last ⟨p, ts⟩ via ⟨q, us⟩ ∧ ¬(expression last d q us).IsShallow := by
  cases ts with
  | nil =>
    have hk : (current last []).kind = .eof := hl
    simp only [operand, hk] at hs
    exact absurd trivial hs
  | cons t us =>
    have hsign : t.kind.isUnary → ∃ via q vs, Opens last ⟨p, t :: us⟩ via ⟨q, vs⟩ ∧
        ¬(expression last d q vs).IsShallow := by
      intro hk
      rw [operand_of_isUnary hk, unary] at hs
      cases ho : expression last d (Precedence.unary : Nat) us with rw [List.tail_cons, ho] at hs
      | done | refused => exact absurd trivial hs
      | tooDeep => exact ⟨.sign, _, us, .sign hk, by rw [ho]; exact not_false⟩
    simp only [operand, current_cons] at hs
    split at hs
    case h_4 hk | h_5 hk | h_6 hk => exact hsign (by rw [hk]; rfl)
    case h_7 hk =>
      rw [grouped] at hs
      cases ho : expression last d (Precedence.lowest : Nat) us with rw [List.tail_cons, ho] at hs
      | done T r =>
        rw [Ending.andThen] at hs
        split at hs <;> exact absurd trivial hs
      | refused => exact absurd trivial hs
      | tooDeep => exact ⟨.group, _, us, .group hk, by rw [ho]; exact not_false⟩
    all_goals exact absurd trivial hs

theorem exists_opens_of_chain {n : Nat} {left : Node} (hr : Rounds last p ts rest)
    (hs : ¬(chain last (expression last d) p n left rest).IsShallow) :
    ∃ via q us, Opens last ⟨p, ts⟩ via ⟨q, us⟩ ∧ ¬(expression last d q us).IsShallow := by
  induction n generalizing left rest with
  | zero => exact absurd trivial hs
  | succ n ih =>
    rw [chain] at hs
    split at hs
    · rename_i hc
      cases ho : expression last d (peek last rest).kind.precedence rest.tail.tail with
        rw [ho] at hs
      | done right later => exact ih (.operator hr hc ho) hs
      | refused => exact absurd trivial hs
      | tooDeep => exact ⟨.operator, _, _, .operator hr hc, by rw [ho]; exact not_false⟩
    · exact absurd trivial hs

/-- **A reader that reaches a bound** has one at work inside it that reaches the bound below. -/
theorem exists_opens (hl : last.kind = .eof) (hs : ¬(expression last (d + 1) p ts).IsShallow) :
    ∃ via q us, Opens last ⟨p, ts⟩ via ⟨q, us⟩ ∧ ¬(expression last d q us).IsShallow := by
  rw [expression] at hs
  cases ho : operand last (expression last d) ts with rw [ho] at hs
  | done left rest => exact exists_opens_of_chain (.operand ho) hs
  | refused => exact absurd trivial hs
  | tooDeep => exact exists_opens_of_operand hl p (by rw [ho]; exact not_false)

/-- **The bound is reached** exactly if as many readers are nested, one more than it admits. -/
theorem isShallow_iff_nested (hl : last.kind = .eof) (d : Nat) (p : Int) (ts : List Token) :
    (expression last d p ts).IsShallow ↔ ∀ vs b, Nested last ⟨p, ts⟩ vs b → vs.length ≠ d := by
  induction d generalizing p ts with
  | zero => exact ⟨False.elim, fun h => absurd rfl (h [] _ .here)⟩
  | succ d ih =>
    constructor
    · rintro hs vs b hn hlen
      cases hn with
      | here => cases hlen
      | inside hopens hn =>
        have hinner := hopens.isShallow hl hs
        exact (ih _ _).mp hinner _ _ hn (Nat.succ.inj hlen)
    · intro h
      by_contra hs
      obtain ⟨via, q, us, hopens, hinner⟩ := exists_opens hl hs
      refine hinner ((ih q us).mpr fun vs b hn hlen => ?_)
      exact h (via :: vs) b (.inside hopens hn) (congrArg Nat.succ hlen)

/-! ## Statements -/

/-- The tokens from the expression of a statement on, if the statement comes to one. -/
def expressionTokens? (last : Token) (ts : List Token) : Option (List Token) :=
  match (current last ts).kind with
  | .letWord =>
    if (peek last ts).kind = .ident ∧ (peek last ts.tail).kind = .assign then
      some ts.tail.tail.tail
    else none
  | .returnWord => some ts.tail
  | .semicolon => none
  | _ => some ts

/-- At some point of the statement at the current token, readers are at work in one another, each
but the outermost one begun in this way. -/
def AtWork (last : Token) (ts : List Token) (vs : List Via) : Prop :=
  ∃ us ∈ expressionTokens? last ts, ∃ b, Nested last ⟨(Precedence.lowest : Nat), us⟩ vs b

/-- Nothing is refused for its nesting. -/
def Grounded {α : Type} : Ending α → Prop
  | .refused r _ => r.cause ≠ .tooDeep
  | _ => True

theorem grounded_andThen {α β : Type} {o : Ending α} {f : α → List Token → Ending β}
    (ho : Grounded o) (hf : ∀ a r, Grounded (f a r)) : Grounded (o.andThen f) := by
  cases o with
  | done a r => exact hf a r
  | refused e r => exact ho
  | tooDeep r => trivial

theorem grounded_operand {inner : Inner} (hi : ∀ p us, Grounded (inner p us)) (ts : List Token) :
    Grounded (operand last inner ts) := by
  have hmissing (k : Kind) : missingCause k ≠ .tooDeep := by
    unfold missingCause
    split <;> exact nofun
  have hillegal (literal : String) : illegalCause literal ≠ .tooDeep := by
    unfold illegalCause
    repeat' split
    all_goals exact nofun
  unfold operand
  dsimp only
  split
  case h_1 | h_2 | h_3 => trivial
  case h_4 | h_5 | h_6 => exact grounded_andThen (hi _ _) fun _ _ => trivial
  case h_7 =>
    refine grounded_andThen (hi _ _) fun T rest => ?_
    split
    · trivial
    · exact nofun
  case h_8 => exact hillegal _
  all_goals exact hmissing _

theorem grounded_chain {inner : Inner} (hi : ∀ p us, Grounded (inner p us)) (p : Int) (n : Nat)
    (left : Node) (ts : List Token) : Grounded (chain last inner p n left ts) := by
  induction n generalizing left ts with
  | zero => trivial
  | succ n ih =>
    rw [chain]
    split
    · exact grounded_andThen (hi _ _) fun right rest => ih _ rest
    · trivial

theorem grounded_expression (d : Nat) (p : Int) (ts : List Token) :
    Grounded (expression last d p ts) := by
  induction d generalizing p ts with
  | zero => trivial
  | succ d ih =>
    exact grounded_andThen (grounded_operand ih ts) fun a r => grounded_chain ih p _ a r

/-- Nothing is refused for nesting, and nesting is not too deep. -/
def Free {α : Type} (o : Ending α) : Prop := o.IsShallow ∧ Grounded o

theorem free_andThen {α β : Type} {o : Ending α} {f : α → List Token → Ending β} (ho : Free o)
    (hf : ∀ a r, Free (f a r)) : Free (o.andThen f) := by
  cases o with
  | done a r => exact hf a r
  | refused e r => exact ho
  | tooDeep r => exact ho.1.elim

/-- Only its expression can make a statement reach the bound. -/
theorem free_attempt (h : ∀ us ∈ expressionTokens? last ts,
      (expression last d (Precedence.lowest : Nat) us).IsShallow) :
    Free (attempt last d ts) := by
  have hdone {α : Type} (a : α) (r : List Token) : Free (.done a r) := ⟨trivial, trivial⟩
  have hrefused {c : Cause} (t : Token) (r : List Token) (hc : c ≠ .tooDeep) :
      Free (.refused ⟨t, c⟩ r : Ending Node) := ⟨trivial, hc⟩
  have hvalue {us : List Token} (hus : expressionTokens? last ts = some us)
      {f : Node → List Token → Ending Node} (hf : ∀ a r, Free (f a r)) :
      Free ((expression last d (Precedence.lowest : Nat) us).andThen f) :=
    free_andThen ⟨h us hus, grounded_expression d _ us⟩ hf
  unfold expressionTokens? at hvalue
  unfold attempt
  split
  case h_1 hk =>
    unfold letStatement
    dsimp only
    split
    · exact hrefused _ _ nofun
    · split
      · exact hrefused _ _ nofun
      · rename_i hname hsign
        rw [hk, if_pos ⟨not_not.mp hname, not_not.mp hsign⟩] at hvalue
        exact hvalue rfl fun _ _ => hdone _ _
  case h_2 hk =>
    rw [hk] at hvalue
    exact hvalue rfl fun _ _ => hdone _ _
  case h_3 => exact hdone _ _
  case h_4 hlet hreturn hsemicolon =>
    refine hvalue ?_ fun _ _ => hdone _ _
    split
    · contradiction
    · contradiction
    · contradiction
    · rfl

theorem AtWork.length_lt {vs : List Via} (h : AtWork last ts vs) :
    vs.length < 5 * (vs.count .group + 1) + vs.count .sign := by
  obtain ⟨us, -, b, hn⟩ := h
  exact hn.length_lt

/-- **A statement without long chains** of readers is read in the same way with each larger bound,
and not refused for its nesting. -/
theorem statement_of_nested (hl : last.kind = .eof) (hd : d ≤ d')
    (h : ∀ vs, AtWork last ts vs → vs.length < d) :
    statement last d' ts = statement last d ts ∧
      ∀ r ∈ (statement last d ts).refusal?, r.cause ≠ .tooDeep := by
  have hfree : Free (attempt last d ts) := free_attempt fun us hus =>
    (isShallow_iff_nested hl d _ us).mpr fun vs b hn => Nat.ne_of_lt (h vs ⟨us, hus, b, hn⟩)
  have hcause : ∀ r ∈ (statement last d ts).refusal?, r.cause ≠ .tooDeep := by
    intro r hr
    unfold statement at hr
    cases ha : attempt last d ts with rw [ha] at hr hfree
    | done n rest => cases hr
    | refused e rest =>
      cases hr
      exact hfree.2
    | tooDeep rest => exact hfree.1.elim
  exact ⟨statement_of_le hd hcause, hcause⟩

/-- **The bound on nested readers is about real nesting.** Let a parser have the tokens `ts` before
it. Along any chain of readers of expressions at work one inside the other, there are at most five
for each parenthesis that is open and five more, and one for each sign whose operand is read. No
more are nested in the outermost than there are tokens. The bound is reached exactly by such chains,
so one that is larger than the number of tokens is none. If a bound serves for all readers at work
at any point of a statement, counted in this way, then with this bound the parser makes the same of
the statement as with each larger one, records the same diagnostics, none of them for nesting that
is too deep, and comes to the same tokens. -/
theorem nesting_bound {s : Parser} (h : s.Shows last ts) :
    (∀ p vs b, Nested last ⟨p, ts⟩ vs b →
      vs.length + 1 ≤ 5 * (vs.count .group + 1) + vs.count .sign ∧ vs.length ≤ ts.length) ∧
    (∀ d p, (∃ s', Parser.expression d p s = .error .tooDeep s') ↔
      ∃ vs b, Nested last ⟨p, ts⟩ vs b ∧ vs.length = d) ∧
    ∀ N, (∀ vs, AtWork last ts vs → 5 * (vs.count .group + 1) + vs.count .sign ≤ N) →
      ∀ d, N ≤ d → ∃ found s₁ s₂ rest new,
        Parser.statement N s = .ok found s₁ ∧ Parser.statement d s = .ok found s₂ ∧
        s₁.Shows last rest ∧ s₂.Shows last rest ∧
        s₁.diagnostics.toList = s.diagnostics.toList ++ new ∧ s₂.diagnostics = s₁.diagnostics ∧
        ∀ x ∈ new, x.cause ≠ .tooDeep := by
  have hl := h.isEnd
  refine ⟨fun p vs b hn => ⟨hn.length_lt, hn.length_le hl⟩, fun d p => ?_, fun N hN d hd => ?_⟩
  · have hreached := not_congr ((isShallow_iff h).symm.trans (isShallow_iff_nested hl d p ts))
    push Not at hreached
    exact hreached
  · obtain ⟨hsame, hcause⟩ := statement_of_nested hl hd fun vs hvs =>
      Nat.lt_of_lt_of_le hvs.length_lt (hN vs hvs)
    obtain ⟨s₁, hr₁, h₁, hd₁⟩ := statement_run h N
    obtain ⟨s₂, hr₂, h₂, hd₂⟩ := statement_run h d
    rw [hsame] at hr₂ h₂ hd₂
    refine ⟨_, s₁, s₂, _, _, hr₁, hr₂, h₁, h₂, hd₁, ?_, fun x hx => ?_⟩
    · exact Array.toList_inj.mp (hd₂.trans hd₁.symm)
    · obtain ⟨r, hr, rfl⟩ := List.mem_map.mp hx
      exact hcause r (Option.mem_toList.mp hr)

/-- Operators of all four levels, and a parenthesis behind the last one. -/
theorem nesting_bound_levels :
    let t (k : Kind) (literal : String) : Token := ⟨k, literal, none, 1, 1⟩
    let last := t .eof ""
    let ts := [t .ident "a", t .eq "==", t .ident "b", t .lt "<", t .ident "c", t .plus "+",
      t .ident "d", t .asterisk "*", t .lparen "(", t .ident "e", t .rparen ")", t .semicolon ";"]
    let s := Parser.facing last ts
    s.Shows last ts ∧
      (∀ vs, AtWork last ts vs → 5 * (vs.count .group + 1) + vs.count .sign ≤ 11) ∧
      ∃ found s₁ s₂ rest new,
        Parser.statement 11 s = .ok found s₁ ∧ Parser.statement nestingLimit s = .ok found s₂ ∧
        s₁.Shows last rest ∧ s₂.Shows last rest ∧
        s₁.diagnostics.toList = s.diagnostics.toList ++ new ∧ s₂.diagnostics = s₁.diagnostics ∧
        ∀ x ∈ new, x.cause ≠ .tooDeep := by
  intro t last ts s
  have h : s.Shows last ts := Parser.shows_facing rfl (by decide)
  have hN : ∀ vs, AtWork last ts vs → 5 * (vs.count .group + 1) + vs.count .sign ≤ 11 := by
    rintro vs ⟨us, hus, b, hn⟩
    obtain rfl : ts = us := Option.some.inj hus
    exact Nat.le_trans (hn.counts_le rfl) (by decide)
  exact ⟨h, hN, (nesting_bound h).2.2 11 hN nestingLimit (by decide)⟩

end FrontEnd.Reader
