import FrontEnd.Node.Printer
import FrontEnd.Proofs.Grammar.Statement
import FrontEnd.Proofs.Lexing.Valid

/-!
# Trees that a text can have

The trees of expressions that are read from a text are built of names, integers in range, strings
and operators (`Written`), and each of them can be spelled again: as tokens with parentheses only
where the tree would be another one without them (`Node.spelling`).

The text that was read may have had more parentheses, and each pair of them takes one more
reader. So the spelling of a tree needs no more readers than the text had it from
(`Node.need`).

* `Within.written`: trees that are read can be written.
* `Within.needAt_le`: the spelling of a tree needs no deeper nesting than any text of it.
* `within_spelling`: the spelling of a tree derives it.
-/

namespace FrontEnd

open Reader

/-- **A tree of an expression that a text can have.** -/
inductive Written : Node → Prop
  | identifier {s : String} : IsName s → Written (.identifier s)
  | integer {n : Nat} : n ≤ intMax → Written (.integer n)
  | string {s : String} : Written (.string s)
  | unary {k : Kind} {T : Node} : k.isUnary → Written T → Written (.unary k.text T)
  | binary {k : Kind} {b : Nat} {L R : Node} :
      k.binding? = some b → Written L → Written R → Written (.binary L k.text R)

/-- **A tree of a statement that a text can have.** -/
inductive WrittenStatement : Node → Prop
  | blank : WrittenStatement .blank
  | definition {s : String} {T : Node} :
      IsName s → Written T → WrittenStatement (.letStmt (.identifier s) T)
  | result {T : Node} : Written T → WrittenStatement (.returnStmt T)
  | expression {T : Node} : Written T → WrittenStatement (.exprStmt T)

variable {d k : Nat} {e rest : List Token} {n T : Node}

/-- **A tree that is read can be written.** -/
theorem Within.written (h : Within d k e T) (he : ∀ t ∈ e, t.Valid) : Written T := by
  induction h with
  | binary _ hb _ ihl ihr =>
    refine .binary hb (ihl fun t ht => he t ?_) (ihr fun t ht => he t ?_)
    · exact List.mem_append_left _ ht
    · exact List.mem_append_right _ (List.mem_cons_of_mem _ ht)
  | tighter _ _ ih => exact ih he
  | unary ho _ ih => exact .unary ho (ih fun t ht => he t (List.mem_cons_of_mem _ ht))
  | identifier ht => exact .identifier ((he _ List.mem_cons_self).ident ht)
  | integer ht =>
    obtain ⟨n, hn, hle⟩ := (he _ List.mem_cons_self).int ht
    rw [hn]
    exact .integer hle
  | string => exact .string
  | grouped _ _ _ ih => exact ih fun t ht => he t (by simp [ht])

theorem IsStatement.written (h : IsStatement (Within d k) e rest n) (he : ∀ t ∈ e, t.Valid) :
    WrittenStatement n := by
  cases h with
  | blank => exact .blank
  | definition _ hn _ hw _ =>
    exact .definition ((he _ (by simp)).ident hn) (hw.written fun t ht => he t (by simp [ht]))
  | result _ hw _ => exact .result (hw.written fun t ht => he t (by simp [ht]))
  | closed hw _ => exact .expression (hw.written fun t ht => he t (by simp [ht]))
  | opened hw _ _ => exact .expression (hw.written he)

/-! ## Levels and readers -/

namespace Node

/-- The level at which a tree stands without parentheses. -/
def rank : Node → Nat
  | binary _ operator _ => (bindingOf? operator).getD Precedence.unary
  | _ => Precedence.unary

/-- The level of a binary operator. -/
def operatorRank (operator : String) : Nat := (bindingOf? operator).getD Precedence.unary

/-- How many readers of expressions a tree needs at work one inside the other: one for each
operand, and one more for an operand in parentheses. -/
def need : Node → Nat
  | unary _ right => need right + (if right.rank < Precedence.unary then 1 else 0) + 1
  | binary left operator right =>
    max (need left + if left.rank < operatorRank operator then 1 else 0)
      (need right + (if right.rank < operatorRank operator + 1 then 1 else 0) + 1)
  | identifier _ | integer _ | string _ => 1
  | letStmt _ value | returnStmt value | exprStmt value => need value
  | blank | program _ | bare _ => 0

/-- How many readers a tree needs as an operand of a level. -/
def needAt (k : Nat) (T : Node) : Nat := need T + if T.rank < k then 1 else 0

end Node

/-- A list between two signs, if the condition holds. -/
def enclosed {α : Type} (p : Prop) [Decidable p] (opening closing : α) (xs : List α) : List α :=
  if p then opening :: xs ++ [closing] else xs

/-- A token at no place. -/
def Token.sign (k : Kind) : Token := ⟨k, k.text, none, 0, 0⟩

/-- The token of an operator. -/
def Token.operator (operator : String) : Token :=
  ⟨(Kind.ofText? operator).getD .illegal, operator, none, 0, 0⟩

namespace Node

/-- **The spelling of a tree**: its tokens, at no place, with parentheses around the operands that
bind too loosely. -/
def spelling : Node → List Token
  | identifier name => [⟨.ident, name, none, 0, 0⟩]
  | integer value => [⟨.int, toString value, some value, 0, 0⟩]
  | string value => [⟨.string, value, none, 0, 0⟩]
  | unary operator right =>
    .operator operator :: enclosed (right.rank < Precedence.unary) (.sign .lparen) (.sign .rparen)
      (spelling right)
  | binary left operator right =>
    enclosed (left.rank < operatorRank operator) (.sign .lparen) (.sign .rparen) (spelling left) ++
      .operator operator ::
        enclosed (right.rank < operatorRank operator + 1) (.sign .lparen) (.sign .rparen)
          (spelling right)
  | blank => [.sign .semicolon]
  | letStmt name value =>
    ⟨.letWord, "let", none, 0, 0⟩ :: spelling name ++
      .sign .assign :: (spelling value ++ [.sign .semicolon])
  | returnStmt value =>
    ⟨.returnWord, "return", none, 0, 0⟩ :: (spelling value ++ [.sign .semicolon])
  | exprStmt value => spelling value ++ [.sign .semicolon]
  | program _ | bare _ => []

/-- The spelling of a tree as an operand of a level. -/
def spellingAt (k : Nat) (T : Node) : List Token :=
  enclosed (T.rank < k) (.sign .lparen) (.sign .rparen) (spelling T)

end Node

open Node

theorem operatorRank_text {k : Kind} {b : Nat} (h : k.binding? = some b) :
    operatorRank k.text = b := by
  rw [operatorRank, bindingOf?_text, h]
  rfl

theorem rank_binary {k : Kind} {b : Nat} (h : k.binding? = some b) (L R : Node) :
    (Node.binary L k.text R).rank = b := operatorRank_text h

theorem need_unary (operator : String) (T : Node) :
    need (.unary operator T) = needAt Precedence.unary T + 1 := rfl

theorem need_binary {k : Kind} {b : Nat} (h : k.binding? = some b) (L R : Node) :
    need (.binary L k.text R) = max (needAt b L) (needAt (b + 1) R + 1) := by
  rw [need, operatorRank_text h]
  rfl

theorem operator_text (k : Kind) : Token.operator k.text = .sign k := by
  rw [Token.operator, Kind.ofText?_text]
  rfl

/-- Each written tree is an expression of some level of the grammar. -/
theorem Written.rank_bounds (h : Written T) :
    Precedence.equality ≤ T.rank ∧ T.rank ≤ Precedence.unary := by
  cases h with
  | binary hb =>
    rw [rank_binary hb]
    have := Kind.binding?_bounds hb
    exact ⟨this.1, Nat.le_of_lt this.2⟩
  | identifier | integer | string | unary =>
    exact ⟨show Precedence.equality ≤ Precedence.unary by decide, Nat.le_refl _⟩

/-! ## No deeper than before -/

theorem needAt_mono {j : Nat} (h : j ≤ k) (T : Node) : needAt j T ≤ needAt k T := by
  unfold needAt
  split <;> split <;> omega

theorem needAt_le_succ (k : Nat) (T : Node) : needAt k T ≤ need T + 1 := by
  unfold needAt
  split <;> omega

/-- **Parentheses that are left out cost no reader.** A tree needs no more readers than the text
had from which it was read. -/
theorem Within.needAt_le (h : Within d k e T) : needAt k T ≤ d := by
  induction h with
  | @binary d k l r L R op _ hb _ ihl ihr =>
    have hself : ¬(Node.binary L op.kind.text R).rank < k := by
      rw [rank_binary hb]
      exact Nat.lt_irrefl k
    rw [needAt, if_neg hself, need_binary hb]
    omega
  | @tighter d k e T _ _ ih => exact Nat.le_trans (needAt_mono (Nat.le_succ k) T) ih
  | @unary d op e T _ _ ih =>
    have hself : ¬(Node.unary op.kind.text T).rank < Precedence.unary := Nat.lt_irrefl _
    rw [needAt, if_neg hself, need_unary]
    omega
  | identifier | integer | string => exact Nat.le_add_left 1 _
  | @grouped d opening closing e T _ _ _ ih =>
    -- a reader for the parentheses, which the tree may need again as an operand
    have h1 : need T ≤ needAt Precedence.equality T := Nat.le_add_right _ _
    have h2 := needAt_le_succ Precedence.unary T
    omega

/-! ## The spelling of a tree derives it -/

/-- An operand that can be read without parentheses can be read as an operand of any level. -/
theorem within_spellingAt (hT : Written T) (h : Within (need T) T.rank (spelling T) T)
    (hk : k ≤ Precedence.unary) : Within (needAt k T) k (spellingAt k T) T := by
  obtain ⟨hlow, hhigh⟩ := hT.rank_bounds
  unfold needAt spellingAt enclosed
  by_cases hr : T.rank < k
  · rw [if_pos hr, if_pos hr]
    exact (Within.grouped rfl rfl (h.loosen hlow)).loosen hk
  · rw [if_neg hr, if_neg hr]
    exact h.loosen (by omega)

/-- **The spelling of a tree derives it**, with the readers that the tree needs. -/
theorem within_spelling (h : Written T) : Within (need T) T.rank (spelling T) T := by
  induction h with
  | identifier => exact .identifier rfl
  | integer => exact .integer rfl
  | string => exact .string rfl
  | @unary k T hk hT ih =>
    have hright := within_spellingAt hT ih (Nat.le_refl _)
    rw [need_unary, spelling, operator_text]
    exact Within.unary (show (Token.sign k).kind.isUnary from hk) hright
  | @binary k b L R hb hL hR ihl ihr =>
    have hbounds := Kind.binding?_bounds hb
    have hleft := within_spellingAt hL ihl (k := b) (Nat.le_of_lt hbounds.2)
    have hright := within_spellingAt hR ihr (k := b + 1) hbounds.2
    -- the right operand has one reader less than the left one, which is at work with the operator
    obtain ⟨d, hd⟩ : ∃ d, max (needAt b L) (needAt (b + 1) R + 1) = d + 1 :=
      ⟨max (needAt b L) (needAt (b + 1) R + 1) - 1, by omega⟩
    rw [need_binary hb, hd, rank_binary hb, spelling, operatorRank_text hb, operator_text]
    exact Within.binary (hleft.mono (by omega)) (show (Token.sign k).kind.binding? = some b from hb)
      (hright.mono (by omega))

/-! ## Statements -/

theorem need_le_of_within (h : Within d k e T) : need T ≤ d :=
  Nat.le_trans (Nat.le_add_right _ _) h.needAt_le

theorem IsStatement.need_le (h : IsStatement (Within d k) e rest n) : need n ≤ d := by
  cases h with
  | blank => exact Nat.zero_le d
  | definition _ _ _ hw _ | result _ hw _ | closed hw _ | opened hw _ _ =>
    have hneed := need_le_of_within hw
    exact hneed

theorem within_equality (h : Written T) (hd : need T ≤ d) :
    Within d Precedence.equality (spelling T) T :=
  ((within_spelling h).mono hd).loosen h.rank_bounds.1

/-- **The spelling of a statement is one of the grammar**, whatever follows it. -/
theorem isStatement_spelling (h : WrittenStatement n) (hd : need n ≤ d) (rest : List Token) :
    IsStatement (Within d Precedence.equality) (spelling n) rest n := by
  have htail : Tail ([] ++ [.sign .semicolon]) rest :=
    .semicolon (fun _ hu => nomatch hu) (fun _ hu => nomatch hu) rfl
  cases h with
  | blank => exact .blank rfl
  | definition hs hT => exact .definition rfl rfl rfl (within_equality hT hd) htail
  | result hT => exact .result rfl (within_equality hT hd) htail
  | expression hT => exact .closed (within_equality hT hd) rfl

/-- **The spellings of statements are a program**, within the bound that each of them needs. -/
theorem statements_spelling {ns : List Node} (h : ∀ n ∈ ns, WrittenStatement n ∧ need n ≤ d) :
    Statements (Within d Precedence.equality) (ns.flatMap spelling) ns := by
  induction ns with
  | nil => exact .nil
  | cons n ns ih =>
    obtain ⟨hw, hd⟩ := h n List.mem_cons_self
    rw [List.flatMap_cons]
    exact .cons (isStatement_spelling hw hd _) (ih fun m hm => h m (List.mem_cons_of_mem _ hm))

end FrontEnd
