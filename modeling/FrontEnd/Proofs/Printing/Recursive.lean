import FrontEnd.Node.Printer
import FrontEnd.Proofs.Node.Tree

/-!
# The printer and its recursion

The printer takes the pieces of a tree from a stack. It prints what a printer by recursion prints
(`Node.printed`), which puts the texts of a node's pieces together from left to right, and it fails
where this one fails. The nodes of a tree are expanded from the top down, each before the parts of
it (`Node.preorder`), so the first of them that cannot be expanded stops the printer. Whether a node
can be expanded is a matter of its own operator and of those of its operands (`Node.fault?`).

* `renderPieces_eq`: the stack and the recursion.
* `reports_pieces`: a node can be expanded, or it has a fault.
* `reports_renderPieces`: the error is the fault of the first node that has one.
* `print_recursive`: all of it for a tree.
-/

namespace FrontEnd

namespace Node

/-! ## Printing by recursion -/

mutual

/-- **A tree printed by recursion**: what its pieces print as, from left to right. -/
def printed (n : Node) : Except PrintError String :=
  match _h : n.pieces with
  | .ok ps => printedAll ps
  | .error e => .error e
termination_by (n.size, 0)
decreasing_by
  have := size_pieces _h
  exact Prod.Lex.left _ _ (by omega)

/-- What pieces print as, one after the other. -/
def printedAll (ps : List Piece) : Except PrintError String :=
  match ps with
  | [] => .ok ""
  | .text s :: rest => do
    let later ← printedAll rest
    return s ++ later
  | .node n :: rest => do
    let first ← printed n
    let later ← printedAll rest
    return first ++ later
termination_by (sizeList (nodesOf ps), ps.length + 1)
decreasing_by
  · simp only [nodesOf, List.length_cons]
    exact Prod.Lex.right _ (by omega)
  -- the other pieces may hold no nodes, and then they are only fewer
  · simp only [nodesOf, sizeList]
    by_cases h : sizeList (nodesOf rest) = 0
    · rw [h]
      exact Prod.Lex.right _ (by omega)
    · exact Prod.Lex.left _ _ (by omega)
  · simp only [nodesOf, sizeList, List.length_cons]
    by_cases h : n.size = 0
    · rw [h, Nat.zero_add]
      exact Prod.Lex.right _ (by omega)
    · exact Prod.Lex.left _ _ (by omega)

end

variable {n m : Node} {ps qs : List Piece} {e : PrintError}

theorem printed_of_ok (h : n.pieces = .ok ps) : n.printed = printedAll ps := by
  rw [printed]
  split
  · rename_i qs hq
    cases h.symm.trans hq
    rfl
  · rename_i e hq
    cases h.symm.trans hq

theorem printed_of_error (h : n.pieces = .error e) : n.printed = .error e := by
  rw [printed]
  split
  · rename_i qs hq
    cases h.symm.trans hq
  · rename_i e' hq
    cases h.symm.trans hq
    rfl

/-- Pieces behind others print behind them, unless one of the first ones fails. -/
theorem printedAll_append (ps qs : List Piece) :
    printedAll (ps ++ qs) = do
      let first ← printedAll ps
      let later ← printedAll qs
      return first ++ later := by
  induction ps with
  | nil =>
    rw [List.nil_append, printedAll]
    cases printedAll qs with
    | ok later => simp [bind, Except.bind, pure, Except.pure]
    | error e => rfl
  | cons p ps ih =>
    cases p with
    | text s =>
      rw [List.cons_append, printedAll, printedAll, ih]
      cases printedAll ps <;> cases printedAll qs <;>
        simp [bind, Except.bind, pure, Except.pure, String.append_assoc]
    | node n =>
      rw [List.cons_append, printedAll, printedAll, ih]
      cases printed n <;> cases printedAll ps <;> cases printedAll qs <;>
        simp [bind, Except.bind, pure, Except.pure, String.append_assoc]

/-- **The printer with its stack** prints what the recursion prints, behind what is printed
already. -/
theorem renderPieces_eq (out : String) (stack : List Piece) :
    renderPieces out stack = (printedAll stack).map (out ++ ·) := by
  fun_induction renderPieces out stack with
  | case1 out =>
    rw [printedAll]
    simp [Except.map]
  | case2 out s rest ih =>
    rw [ih, printedAll]
    cases printedAll rest <;>
      simp [Except.map, bind, Except.bind, pure, Except.pure, String.append_assoc]
  | case3 out n rest ps hps ih =>
    -- the pieces of the node take its place on the stack
    rw [ih, printedAll_append, printedAll, printed_of_ok hps]
  | case4 out n rest e he =>
    rw [printedAll, printed_of_error he]
    rfl

/-! ## Errors -/

theorem exists_of_bind_ok {α β : Type} {x : Except PrintError α} {f : α → Except PrintError β}
    {b : β} (h : x >>= f = .ok b) : ∃ a, x = .ok a ∧ f a = .ok b := by
  cases x with
  | ok a => exact ⟨a, rfl, h⟩
  | error e => cases h

/-- The result is an error exactly if there is a fault, and then it is that one. -/
def Reports {α : Type} (x : Except PrintError α) (why : Option PrintError) : Prop :=
  ∀ e, x = .error e ↔ why = some e

namespace Reports

variable {α β : Type} {x : Except PrintError α} {why later : Option PrintError}

theorem ok (a : α) : Reports (.ok a : Except PrintError α) none := by
  intro e
  constructor <;> intro h <;> cases h

theorem error (e : PrintError) : Reports (.error e : Except PrintError α) (some e) := by
  intro e'
  rw [Except.error.injEq, Option.some.injEq]

theorem eq_none (h : Reports x why) {a : α} (hx : x = .ok a) : why = none := by
  cases hf : why with
  | none => rfl
  | some e => cases hx.symm.trans ((h e).mpr hf)

theorem exists_ok (h : Reports x why) (hf : why = none) : ∃ a, x = .ok a := by
  cases hx : x with
  | ok a => exact ⟨a, rfl⟩
  | error e => cases hf.symm.trans ((h e).mp hx)

/-- What comes later counts only if nothing has failed before. -/
theorem bind {f : α → Except PrintError β} (h : Reports x why)
    (hf : ∀ a, x = .ok a → Reports (f a) later) : Reports (x >>= f) (why.or later) := by
  cases hx : x with
  | ok a =>
    rw [h.eq_none hx, Option.none_or]
    exact hf a hx
  | error e =>
    rw [(h e).mp hx, Option.some_or]
    exact error e

end Reports

/-! ## Nodes that cannot be expanded -/

/-- The error of the first operator that binds at no level. -/
def unknown? (operators : List String) : Option PrintError :=
  (operators.find? fun operator => (bindingOf? operator).isNone).map .unknownOperator

/-- The operator of a binary expression. -/
def directOperator : Node → List String
  | binary _ operator _ => [operator]
  | _ => []

/-- The operators that are looked up to expand a node, in this order: its own one, that of its left
operand and that of its right operand. -/
def lookedUp : Node → List String
  | binary left operator right => operator :: (directOperator left ++ directOperator right)
  | _ => []

/-- **Why a node cannot be expanded**, whatever is below its operands. -/
def fault? : Node → Option PrintError
  | bare base => some (.unprintable base)
  | n => unknown? n.lookedUp

theorem unknown?_append (xs ys : List String) :
    unknown? (xs ++ ys) = (unknown? xs).or (unknown? ys) := by
  unfold unknown?
  rw [List.find?_append]
  cases xs.find? fun operator => (bindingOf? operator).isNone <;> rfl

theorem reports_level (operator : String) : Reports (level operator) (unknown? [operator]) := by
  unfold level unknown?
  cases h : bindingOf? operator with
  | some k =>
    rw [List.find?_cons_of_neg (by simp [h])]
    exact .ok k
  | none =>
    rw [List.find?_cons_of_pos (by simp [h])]
    exact .error _

theorem reports_operandPieces (isLoose : Nat → Bool) (n : Node) :
    Reports (operandPieces isLoose n) (unknown? n.directOperator) := by
  unfold operandPieces
  split
  · rename_i left operator right
    have hlevel := reports_level operator
    have := hlevel.bind (β := List Piece) fun k _ => Reports.ok
      (if isLoose k then parenthesized (.binary left operator right)
        else [.node (.binary left operator right)])
    rwa [Option.or_none] at this
  · rename_i hn
    have hnone : n.directOperator = [] := by
      unfold directOperator
      split
      · rename_i left operator right
        exact absurd rfl (hn left operator right)
      · rfl
    rw [hnone]
    exact .ok _

/-- **A node is expanded, or it has a fault.** -/
theorem reports_pieces (n : Node) : Reports n.pieces n.fault? := by
  cases n with
  | program | blank | letStmt | returnStmt | exprStmt | identifier | integer | string =>
    exact .ok _
  | unary operator right =>
    unfold pieces
    dsimp only
    split <;> exact .ok _
  | binary left operator right =>
    have hfault : (binary left operator right).fault? = (unknown? [operator]).or
        ((unknown? left.directOperator).or ((unknown? right.directOperator).or none)) := by
      rw [Option.or_none, ← unknown?_append, ← unknown?_append]
      rfl
    rw [hfault, pieces]
    refine (reports_level operator).bind fun k _ => ?_
    refine (reports_operandPieces _ left).bind fun leftPieces _ => ?_
    refine (reports_operandPieces _ right).bind fun rightPieces _ => ?_
    exact .ok _
  | bare base => exact .error _

/-! ## The first node that cannot be expanded -/

/-- **The pieces of a node hold its children**, in order, also where these stand in parentheses. -/
theorem nodesOf_pieces (h : n.pieces = .ok ps) : nodesOf ps = n.children := by
  cases n with
  | program statements =>
    cases h
    simp [nodesOf_separated]
  | blank | identifier | integer | string | letStmt | returnStmt | exprStmt =>
    cases h
    rfl
  | unary operator right =>
    simp only [pieces] at h
    split at h <;> cases h <;> rfl
  | binary left operator right =>
    obtain ⟨k, -, h⟩ := exists_of_bind_ok h
    obtain ⟨leftPieces, hleft, h⟩ := exists_of_bind_ok h
    obtain ⟨rightPieces, hright, h⟩ := exists_of_bind_ok h
    cases h
    rw [nodesOf_append, nodesOf, nodesOf_operandPieces hleft, nodesOf_operandPieces hright]
    rfl
  | bare base => cases h

/-- **The printer fails with the fault of the first node** that has one, in the order in which the
stack holds them. -/
theorem reports_renderPieces (out : String) (stack : List Piece) :
    Reports (renderPieces out stack) ((preorderList (nodesOf stack)).findSome? fault?) := by
  fun_induction renderPieces out stack with
  | case1 out => exact .ok out
  | case2 out s rest ih => exact ih
  | case3 out n rest ps hps ih =>
    -- the node has no fault of its own, and its children are next
    have hnone := (reports_pieces n).eq_none hps
    rw [nodesOf_append, preorderList_append, nodesOf_pieces hps] at ih
    rw [nodesOf, preorderList, preorder_eq, List.cons_append, List.findSome?_cons, hnone]
    exact ih
  | case4 out n rest e he =>
    have hsome := (reports_pieces n e).mp he
    rw [nodesOf, preorderList, preorder_eq, List.cons_append, List.findSome?_cons, hsome]
    exact .error e

/-- The fault of a tree comes before all others in it. -/
theorem print_of_fault? (h : n.fault? = some e) : n.print = .error e := by
  refine (reports_renderPieces "" [.node n] e).mpr ?_
  rw [nodesOf, preorderList, preorder_eq, List.cons_append, List.findSome?_cons, h]

/-! ## Which nodes have faults -/

/-- **A node with which no tree can be printed**: it is of a bare class, or its own operator binds
at no level. -/
def IsUnprintable (n : Node) : Prop :=
  (∃ base, n = bare base) ∨ ∃ left operator right, n = binary left operator right ∧
    bindingOf? operator = none

theorem unknown?_eq_none_iff {operators : List String} :
    unknown? operators = none ↔ ∀ o ∈ operators, bindingOf? o ≠ none := by
  simp [unknown?]

theorem exists_of_unknown? {operators : List String} (h : unknown? operators = some e) :
    ∃ o ∈ operators, bindingOf? o = none := by
  obtain ⟨o, hfind, -⟩ := Option.map_eq_some_iff.mp h
  have hnone := List.find?_some hfind
  exact ⟨o, List.mem_of_find?_eq_some hfind, Option.isNone_iff_eq_none.mp hnone⟩

theorem eq_binary_of_mem_directOperator {o : String} (h : o ∈ n.directOperator) :
    ∃ left right, n = binary left o right := by
  unfold directOperator at h
  split at h
  · rename_i left operator right
    obtain rfl := List.mem_singleton.mp h
    exact ⟨left, right, rfl⟩
  · cases h

/-- A node that cannot be printed has a fault. -/
theorem IsUnprintable.exists_fault? (h : n.IsUnprintable) : ∃ e, n.fault? = some e := by
  rcases h with ⟨base, rfl⟩ | ⟨left, operator, right, rfl, hb⟩
  · exact ⟨_, rfl⟩
  · refine Option.ne_none_iff_exists'.mp fun hnone => ?_
    exact unknown?_eq_none_iff.mp hnone operator List.mem_cons_self hb

/-- Where a node has a fault, it cannot be printed or one of its operands cannot. -/
theorem exists_isUnprintable (h : n.fault? = some e) : ∃ m, n.Holds m ∧ m.IsUnprintable := by
  cases n with
  | bare base => exact ⟨_, .self, .inl ⟨base, rfl⟩⟩
  | binary left operator right =>
    obtain ⟨o, ho, hb⟩ := exists_of_unknown? h
    rcases List.mem_cons.mp ho with rfl | ho
    · exact ⟨_, .self, .inr ⟨left, o, right, rfl, hb⟩⟩
    · have hchild : ∃ c ∈ [left, right], o ∈ c.directOperator := by
        rcases List.mem_append.mp ho with ho | ho
        · exact ⟨left, List.mem_cons_self, ho⟩
        · exact ⟨right, List.mem_cons_of_mem _ List.mem_cons_self, ho⟩
      obtain ⟨c, hc, hoc⟩ := hchild
      obtain ⟨l, r, rfl⟩ := eq_binary_of_mem_directOperator hoc
      exact ⟨_, .child hc .self, .inr ⟨l, o, r, rfl, hb⟩⟩
  | program | blank | letStmt | returnStmt | exprStmt | identifier | integer | string | unary =>
    cases h

/-! ## Whole trees -/

theorem print_eq_printed (n : Node) : n.print = n.printed := by
  have hprint := renderPieces_eq "" [.node n]
  rw [printedAll, printedAll] at hprint
  rw [print, hprint]
  cases n.printed <;> simp [Except.map, bind, Except.bind, pure, Except.pure]

theorem reports_print (n : Node) : Reports n.print (n.preorder.findSome? fault?) := by
  have h := reports_renderPieces "" [.node n]
  rwa [nodesOf, preorderList, nodesOf, preorderList, List.append_nil] at h

/-- Printing fails exactly if the tree holds a node with which no tree can be printed. -/
theorem exists_print_error_iff (n : Node) :
    (∃ e, n.print = .error e) ↔ ∃ m, n.Holds m ∧ m.IsUnprintable := by
  constructor
  · rintro ⟨e, he⟩
    obtain ⟨m, hm, hfault⟩ := List.exists_of_findSome?_eq_some ((reports_print n e).mp he)
    obtain ⟨c, hc, hbad⟩ := exists_isUnprintable hfault
    exact ⟨c, (mem_preorder_iff.mp hm).trans hc, hbad⟩
  · rintro ⟨m, hm, hbad⟩
    obtain ⟨e, hfault⟩ := hbad.exists_fault?
    have hsome : n.preorder.findSome? fault? ≠ none := by
      rw [ne_eq, List.findSome?_eq_none_iff]
      intro hnone
      cases (hnone m (mem_preorder_iff.mpr hm)).symm.trans hfault
    obtain ⟨e', he'⟩ := Option.ne_none_iff_exists'.mp hsome
    exact ⟨e', (reports_print n e').mpr he'⟩

/-- **The error is that of the first node**, from the top down, that cannot be expanded. -/
theorem print_error_iff_first (n : Node) (e : PrintError) :
    n.print = .error e ↔ ∃ before m after, n.preorder = before ++ m :: after ∧
      (∀ x ∈ before, ∃ ps, x.pieces = .ok ps) ∧ m.pieces = .error e := by
  rw [reports_print, List.findSome?_eq_some_iff]
  constructor
  · rintro ⟨before, m, after, hsplit, hfault, hbefore⟩
    refine ⟨before, m, after, hsplit, fun x hx => ?_, (reports_pieces m e).mpr hfault⟩
    exact (reports_pieces x).exists_ok (hbefore x hx)
  · rintro ⟨before, m, after, hsplit, hbefore, he⟩
    refine ⟨before, m, after, hsplit, (reports_pieces m e).mp he, fun x hx => ?_⟩
    obtain ⟨ps, hps⟩ := hbefore x hx
    exact (reports_pieces x).eq_none hps

/-- **The operator of a right operand** is looked up before anything below the left one. -/
theorem print_error_right {left l r : Node} {operator o : String}
    (hknown : ∀ x ∈ operator :: left.directOperator, bindingOf? x ≠ none)
    (ho : bindingOf? o = none) :
    (binary left operator (binary l o r)).print = .error (.unknownOperator o) := by
  refine print_of_fault? ?_
  have hnone : unknown? (operator :: left.directOperator) = none :=
    unknown?_eq_none_iff.mpr hknown
  have hfault : (binary left operator (binary l o r)).fault? =
      unknown? (operator :: left.directOperator ++ [o]) := rfl
  rw [hfault, unknown?_append, hnone, Option.none_or]
  simp [unknown?, ho]

/-- **The printer prints what the recursion prints**, errors included. It fails exactly if the tree
holds a node of a bare class or a binary expression whose operator binds at no level.

The error is that of the first node, from the top down and each node before its children, that cannot
be expanded. A node of a bare class cannot be expanded, and a binary expression cannot if one of the
operators that it looks up is unknown: its own one, then that of a left operand that is a binary
expression, then that of such a right operand. So the operator of the right operand counts before
everything that is deeper in the left one. -/
theorem print_recursive (n : Node) :
    n.print = n.printed ∧
    ((∃ e, n.print = .error e) ↔ ∃ m, n.Holds m ∧ m.IsUnprintable) ∧
    (∀ e, n.print = .error e ↔ ∃ before m after, n.preorder = before ++ m :: after ∧
      (∀ x ∈ before, ∃ ps, x.pieces = .ok ps) ∧ m.pieces = .error e) ∧
    (∀ m : Node, ∀ e, m.pieces = .error e ↔ m.fault? = some e) ∧
    ∀ left operator l o r, (∀ x ∈ operator :: left.directOperator, bindingOf? x ≠ none) →
      bindingOf? o = none →
      (binary left operator (binary l o r)).print = .error (.unknownOperator o) := by
  refine ⟨print_eq_printed n, exists_print_error_iff n, print_error_iff_first n, ?_, ?_⟩
  · exact reports_pieces
  · intro left operator l o r hknown ho
    exact print_error_right hknown ho

end Node

end FrontEnd
