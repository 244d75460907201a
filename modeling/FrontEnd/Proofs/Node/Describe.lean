import FrontEnd.Node.Describe
import FrontEnd.Proofs.Node.Comparison
import FrontEnd.Proofs.Node.Tree
import FrontEnd.Proofs.Text.Quoted

/-!
# The description of a tree tells the tree

A description names the class of its node first, and what follows it is known by the class: texts
between quotes, integers before their bracket, and the descriptions of parts. Each of them says
where it ends, so nothing in a text can be taken for a part of the tree around it. This holds of the
descriptions of all trees (`Node.wording`). To get one, there must be room on the stack for as many
calls as are at work one inside the other (`Node.reach`).

* `oneClass_of_wording`: a description tells the class of its node.
* `told_of_children`: a description tells its node if those of the children do.
* `wording_delimits`: a description tells its tree, whatever comes behind it.
* `describedIf_reach`: a tree is described exactly if there is room for its calls.
* `describe_eq_iff`: trees have one description exactly if they are the same.
-/

namespace FrontEnd.Node

open Text

mutual

/-- The description of a tree, however deep it is. -/
def wording : Node → String
  | .program statements => s!"Program(statements=[{wordingList statements}])"
  | .letStmt name value => s!"LetStatement(name={wording name}, value={wording value})"
  | .returnStmt value => s!"ReturnStatement(return_value={wording value})"
  | .exprStmt expression => s!"ExpressionStatement(expression={wording expression})"
  | .identifier name => s!"Identifier({quote name})"
  | .integer value => s!"IntegerLiteral({value})"
  | .string value => s!"StringLiteral({quote value})"
  | .unary operator right =>
    s!"PrefixExpression(operator={quote operator}, right={wording right})"
  | .binary left operator right =>
    s!"InfixExpression(left={wording left}, operator={quote operator}, right={wording right})"
  | .blank => "BlankStatement()"
  | .bare base => s!"{base.name}()"

/-- The descriptions of the trees of a list, with commas between them. -/
def wordingList : List Node → String
  | [] => ""
  | [n] => wording n
  | n :: m :: ns => s!"{wording n}, {wordingList (m :: ns)}"

end

mutual

/-- How many calls are at work one inside the other, at most, while a tree is described. -/
def reach : Node → Nat
  | program statements => reachItems statements + 3
  | letStmt name value => max (reach name) (reach value) + 2
  | returnStmt value => reach value + 2
  | exprStmt expression => reach expression + 2
  | unary _ right => reach right + 2
  | binary left _ right => max (reach left) (reach right) + 2
  | identifier _ | integer _ | string _ => 3
  | blank | bare _ => 2

/-- The same for a list of trees. -/
def reachItems : List Node → Nat
  | [] => 0
  | n :: ns => max (reach n) (reachItems ns)

end

variable {a b n : Node} {ns : List Node} {r r' : List Char} {room : Nat}

/-! ## The descriptions of the classes -/

theorem wording_program (statements : List Node) :
    (program statements).wording = "Program(statements=[" ++ wordingList statements ++ "])" := rfl

theorem wording_letStmt (name value : Node) : (letStmt name value).wording =
    "LetStatement(name=" ++ name.wording ++ ", value=" ++ value.wording ++ ")" := rfl

theorem wording_returnStmt (value : Node) :
    (returnStmt value).wording = "ReturnStatement(return_value=" ++ value.wording ++ ")" := rfl

theorem wording_exprStmt (expression : Node) : (exprStmt expression).wording =
    "ExpressionStatement(expression=" ++ expression.wording ++ ")" := rfl

theorem wording_identifier (name : String) :
    (identifier name).wording = "Identifier(" ++ quote name ++ ")" := rfl

theorem wording_integer (value : Int) :
    (integer value).wording = "IntegerLiteral(" ++ value.repr ++ ")" := rfl

theorem wording_string (value : String) :
    (string value).wording = "StringLiteral(" ++ quote value ++ ")" := rfl

theorem wording_unary (operator : String) (right : Node) : (unary operator right).wording =
    "PrefixExpression(operator=" ++ quote operator ++ ", right=" ++ right.wording ++ ")" := rfl

theorem wording_binary (left : Node) (operator : String) (right : Node) :
    (binary left operator right).wording =
      "InfixExpression(left=" ++ left.wording ++ ", operator=" ++ quote operator ++ ", right=" ++
        right.wording ++ ")" := rfl

theorem wording_blank : blank.wording = "BlankStatement()" := rfl

theorem wording_bare (base : Bare) : (bare base).wording = base.name ++ "()" := rfl

/-- What stands behind a description in a list of them. -/
def listTail : List Node → String
  | [] => ""
  | n :: ns => ", " ++ wordingList (n :: ns)

theorem wordingList_cons (n : Node) (ns : List Node) :
    wordingList (n :: ns) = n.wording ++ listTail ns := by
  cases ns with
  | nil => exact (String.append_empty).symm
  | cons m ns =>
    rw [listTail, ← String.append_assoc]
    rfl

/-! ## Classes -/

/-- A text before the first `c` ends there. -/
theorem eq_of_append_cons {c : Char} {x y : List Char} (hx : c ∉ x) (hy : c ∉ y)
    (h : x ++ c :: r = y ++ c :: r') : x = y ∧ r = r' := by
  induction x generalizing y with
  | nil =>
    cases y with
    | nil => exact ⟨rfl, (List.cons.inj h).2⟩
    | cons d y => exact absurd (List.mem_cons.mpr (Or.inl (List.cons.inj h).1)) hy
  | cons e x ih =>
    cases y with
    | nil => exact absurd (List.mem_cons.mpr (Or.inl (List.cons.inj h).1.symm)) hx
    | cons d y =>
      obtain ⟨rfl, hlater⟩ := List.cons.inj h
      obtain ⟨rfl, rfl⟩ := ih (fun hc => hx (List.mem_cons_of_mem _ hc))
        (fun hc => hy (List.mem_cons_of_mem _ hc)) hlater
      exact ⟨rfl, rfl⟩

theorem bracket_notMem_typeName (n : Node) : '(' ∉ n.typeName.toList := by
  cases n with
  | bare base => cases base <;> simp [typeName, Bare.name]
  | _ => simp [typeName]

theorem exists_wording (n : Node) : ∃ w, n.wording.toList = n.typeName.toList ++ '(' :: w := by
  cases n with
  | program => simp [wording_program, typeName]
  | blank => simp [wording_blank, typeName]
  | letStmt => simp [wording_letStmt, typeName]
  | returnStmt => simp [wording_returnStmt, typeName]
  | exprStmt => simp [wording_exprStmt, typeName]
  | identifier => simp [wording_identifier, typeName]
  | integer => simp [wording_integer, typeName]
  | string => simp [wording_string, typeName]
  | unary => simp [wording_unary, typeName]
  | binary => simp [wording_binary, typeName]
  | bare => simp [wording_bare, typeName]

/-- **A description tells the class of its node.** -/
theorem oneClass_of_wording (h : a.wording.toList ++ r = b.wording.toList ++ r') :
    OneClass a b := by
  obtain ⟨w, hw⟩ := exists_wording a
  obtain ⟨x, hx⟩ := exists_wording b
  rw [hw, hx, List.append_assoc, List.append_assoc] at h
  have hname := eq_of_append_cons (bracket_notMem_typeName a) (bracket_notMem_typeName b) h
  exact oneClass_of_typeName (String.toList_inj.mp hname.1)

/-! ## Integers -/

theorem bracket_notMem_repr (v : Int) : ')' ∉ v.repr.toList := by
  have hnat (n : Nat) : ')' ∉ n.repr.toList := by
    intro h
    rw [Nat.toList_repr] at h
    have := Nat.isDigit_of_mem_toDigits (by decide) (by decide) h
    revert this
    decide
  rw [Int.repr_eq_if]
  split
  · exact hnat _
  · simpa using hnat _

/-- An integer ends before its bracket. -/
theorem eq_of_repr {v w : Int} (h : v.repr.toList ++ ')' :: r = w.repr.toList ++ ')' :: r') :
    v = w ∧ r = r' := by
  obtain ⟨hrepr, hr⟩ := eq_of_append_cons (bracket_notMem_repr v) (bracket_notMem_repr w) h
  exact ⟨Int.repr_inj.mp (String.toList_inj.mp hrepr), hr⟩

/-! ## Trees -/

/-- The description tells that the tree is `a`, and where it ends. -/
def Told (a : Node) : Prop :=
  ∀ ⦃b : Node⦄ ⦃r r' : List Char⦄,
    a.wording.toList ++ r = b.wording.toList ++ r' → a = b ∧ r = r'

/-- No description begins with the bracket that closes a list. -/
theorem wording_ne_bracket (n : Node) (r r' : List Char) :
    ']' :: r ≠ n.wording.toList ++ r' := by
  intro h
  obtain ⟨w, hw⟩ := exists_wording n
  have hname : n.typeName.toList.head? ≠ some ']' ∧ n.typeName.toList ≠ [] := by
    cases n with
    | bare base => cases base <;> simp [typeName, Bare.name]
    | _ => simp [typeName]
  obtain ⟨c, x, hx⟩ := List.exists_cons_of_ne_nil hname.2
  rw [hw, hx] at h
  rw [hx] at hname
  exact hname.1 (congrArg some (List.cons.inj h).1.symm)

/-- **A list of descriptions** ends at its bracket, and tells its trees if each description does. -/
theorem told_list (hns : ∀ n ∈ ns, Told n) {ms : List Node}
    (h : (wordingList ns).toList ++ ']' :: r = (wordingList ms).toList ++ ']' :: r') :
    ns = ms ∧ r = r' := by
  induction ns generalizing ms with
  | nil =>
    cases ms with
    | nil => exact ⟨rfl, (List.cons.inj h).2⟩
    | cons m ms =>
      rw [wordingList_cons, String.toList_append, List.append_assoc] at h
      exact absurd h (wording_ne_bracket m r _)
  | cons n ns ih =>
    cases ms with
    | nil =>
      rw [wordingList_cons, String.toList_append, List.append_assoc] at h
      exact absurd h.symm (wording_ne_bracket n r' _)
    | cons m ms =>
      simp only [wordingList_cons, String.toList_append, List.append_assoc] at h
      obtain ⟨rfl, htail⟩ := hns n List.mem_cons_self h
      -- a comma goes on with the list, and a bracket ends it
      cases ns with
      | nil =>
        cases ms with
        | nil => exact ⟨rfl, (List.cons.inj htail).2⟩
        | cons => simp [listTail] at htail
      | cons n' ns =>
        cases ms with
        | nil => simp [listTail] at htail
        | cons m' ms =>
          simp only [listTail, String.toList_append, List.append_assoc,
            List.append_cancel_left_eq] at htail
          obtain ⟨he, rfl⟩ := ih (fun x hx => hns x (List.mem_cons_of_mem _ hx)) htail
          exact ⟨by rw [he], rfl⟩

/-- **A description tells its node** if those of the children do. -/
theorem told_of_children (n : Node) (hn : ∀ c ∈ n.children, Told c) : Told n := by
  intro b r r' h
  cases oneClass_of_wording h with
  | @program xs ys =>
    simp only [wording_program, String.toList_append, List.append_assoc,
      List.append_cancel_left_eq] at h
    have hxs : ∀ x ∈ xs, Told x := by simpa using hn
    obtain ⟨rfl, hr⟩ := told_list hxs h
    exact ⟨rfl, (List.cons.inj hr).2⟩
  | blank => exact ⟨rfl, List.append_cancel_left h⟩
  | @letStmt m n v w =>
    simp only [wording_letStmt, String.toList_append, List.append_assoc,
      List.append_cancel_left_eq] at h
    obtain ⟨hname, hvalue⟩ : Told m ∧ Told v := by
      simpa using hn
    obtain ⟨rfl, hafter⟩ := hname h
    obtain ⟨rfl, hr⟩ := hvalue (List.append_cancel_left hafter)
    exact ⟨rfl, List.append_cancel_left hr⟩
  | @returnStmt v w =>
    simp only [wording_returnStmt, String.toList_append, List.append_assoc,
      List.append_cancel_left_eq] at h
    have hv : Told v := by simpa using hn
    obtain ⟨rfl, hr⟩ := hv h
    exact ⟨rfl, List.append_cancel_left hr⟩
  | @exprStmt v w =>
    simp only [wording_exprStmt, String.toList_append, List.append_assoc,
      List.append_cancel_left_eq] at h
    have hv : Told v := by simpa using hn
    obtain ⟨rfl, hr⟩ := hv h
    exact ⟨rfl, List.append_cancel_left hr⟩
  | identifier =>
    simp only [wording_identifier, String.toList_append, List.append_assoc,
      List.append_cancel_left_eq] at h
    obtain ⟨rfl, hr⟩ := quote_delimits h
    exact ⟨rfl, List.append_cancel_left hr⟩
  | integer =>
    simp only [wording_integer, String.toList_append, List.append_assoc,
      List.append_cancel_left_eq] at h
    obtain ⟨rfl, hr⟩ := eq_of_repr h
    exact ⟨rfl, hr⟩
  | string =>
    simp only [wording_string, String.toList_append, List.append_assoc,
      List.append_cancel_left_eq] at h
    obtain ⟨rfl, hr⟩ := quote_delimits h
    exact ⟨rfl, List.append_cancel_left hr⟩
  | @unary s t v w =>
    simp only [wording_unary, String.toList_append, List.append_assoc,
      List.append_cancel_left_eq] at h
    have hv : Told v := by simpa using hn
    obtain ⟨rfl, hafter⟩ := quote_delimits h
    obtain ⟨rfl, hr⟩ := hv (List.append_cancel_left hafter)
    exact ⟨rfl, List.append_cancel_left hr⟩
  | @binary l m v w s t =>
    simp only [wording_binary, String.toList_append, List.append_assoc,
      List.append_cancel_left_eq] at h
    obtain ⟨hl, hv⟩ : Told l ∧ Told v := by
      simpa using hn
    obtain ⟨rfl, hoperator⟩ := hl h
    obtain ⟨rfl, hright⟩ := quote_delimits (List.append_cancel_left hoperator)
    obtain ⟨rfl, hr⟩ := hv (List.append_cancel_left hright)
    exact ⟨rfl, List.append_cancel_left hr⟩
  | bare => exact ⟨rfl, List.append_cancel_left h⟩

/-- **A description tells its tree**, whatever comes behind it. -/
theorem wording_delimits : Delimits fun n : Node => n.wording.toList :=
  fun a => children_induction told_of_children a

/-! ## Room for the calls -/

/-- What comes of a call that describes a part: its text if the condition holds, and else an
error. -/
structure DescribedIf (p : Prop) (text : String) (r : Except DescribeError String) : Prop where
  ok : p → r = .ok text
  error : ¬p → ∃ e, r = .error e

namespace DescribedIf

variable {p q : Prop} {text text' : String} {r : Except DescribeError String}

theorem pure (text : String) : DescribedIf True text (pure text) :=
  ⟨fun _ => rfl, fun h => absurd trivial h⟩

/-- Where there is no room, there is no text. -/
theorem never {e : DescribeError} (hp : ¬p) (text : String) : DescribedIf p text (.error e) :=
  ⟨fun h => absurd h hp, fun _ => ⟨e, rfl⟩⟩

/-- The last part, and the text around it. -/
theorem map {f : String → String} (h : DescribedIf p text r) (hf : f text = text') :
    DescribedIf p text' (r >>= fun s => Pure.pure (f s)) where
  ok hp := by
    rw [h.ok hp, ← hf]
    rfl
  error hp := by
    obtain ⟨e, he⟩ := h.error hp
    rw [he]
    exact ⟨e, rfl⟩

/-- One part after the other. -/
theorem bind {f : String → Except DescribeError String} (h : DescribedIf p text r)
    (hf : DescribedIf q text' (f text)) : DescribedIf (p ∧ q) text' (r >>= f) where
  ok hpq := by
    rw [h.ok hpq.1]
    exact hf.ok hpq.2
  error hpq := by
    by_cases hp : p
    · rw [h.ok hp]
      exact hf.error fun hq => hpq ⟨hp, hq⟩
    · obtain ⟨e, he⟩ := h.error hp
      rw [he]
      exact ⟨e, rfl⟩

theorem of_iff (hpq : p ↔ q) (h : DescribedIf p text r) : DescribedIf q text r :=
  ⟨fun hq => h.ok (hpq.mpr hq), fun hq => h.error fun hp => hq (hpq.mp hp)⟩

theorem exists_ok_iff (h : DescribedIf p text r) : (∃ s, r = .ok s) ↔ p := by
  constructor
  · rintro ⟨s, hs⟩
    by_contra hp
    obtain ⟨e, he⟩ := h.error hp
    cases hs.symm.trans he
  · exact fun hp => ⟨_, h.ok hp⟩

theorem exists_error_iff (h : DescribedIf p text r) : (∃ e, r = .error e) ↔ ¬p := by
  refine ⟨fun ⟨e, he⟩ hp => ?_, h.error⟩
  cases he.symm.trans (h.ok hp)

theorem eq_of_ok (h : DescribedIf p text r) {s : String} (hs : r = .ok s) : text = s :=
  Except.ok.inj ((h.ok (h.exists_ok_iff.mp ⟨s, hs⟩)).symm.trans hs)

end DescribedIf

theorem two_le_reach (n : Node) : 2 ≤ n.reach := by
  cases n <;> simp [reach]

theorem describedIf_text (s : String) (room : Nat) :
    DescribedIf (1 ≤ room) (quote s) (describeText s room) := by
  cases room with
  | zero => exact .never (Nat.not_succ_le_zero 0) _
  | succ room => exact (DescribedIf.pure _).of_iff (by simp)

theorem describedIf_integer (value : Int) (room : Nat) :
    DescribedIf (1 ≤ room) (toString value) (describeInteger value room) := by
  cases room with
  | zero => exact .never (Nat.not_succ_le_zero 0) _
  | succ room => exact (DescribedIf.pure _).of_iff (by simp)

theorem describedIf_items
    (h : ∀ n ∈ ns, DescribedIf (n.reach ≤ room) n.wording (n.describe room)) :
    DescribedIf (reachItems ns ≤ room) (wordingList ns) (describeItems ns room) := by
  induction ns with
  | nil => exact (DescribedIf.pure _).of_iff (by simp [reachItems])
  | cons n ns ih =>
    have hn := h n List.mem_cons_self
    have hns := ih fun m hm => h m (List.mem_cons_of_mem n hm)
    cases ns with
    | nil => exact hn.of_iff (by simp [reachItems])
    | cons m ns =>
      rw [describeItems]
      exact (hn.bind (hns.map rfl)).of_iff (by simp [reachItems])

/-- **A tree is described** exactly if there is room for all its calls. -/
theorem describedIf_reach (n : Node) (room : Nat) :
    DescribedIf (n.reach ≤ room) n.wording (n.describe room) := by
  induction n using children_induction generalizing room with
  | h n ih =>
    have htwo := n.two_le_reach
    match room with
    | 0 | 1 =>
      -- every node takes two calls
      rw [describe]
      exact .never (by omega) _
    | room + 2 =>
      -- in each class the parts come one after the other, and the room must do for each of them
      have hchild {c : Node} (hc : c ∈ n.children) := ih c hc
      cases n with
      | program statements =>
        cases room with
        | zero =>
          rw [describe]
          exact .never (by simp [reach]) _
        | succ room =>
          have hs : ∀ c ∈ statements, DescribedIf (c.reach ≤ room) c.wording (c.describe room) :=
            fun c hc => hchild (by simpa using hc) room
          rw [describe]
          refine ((describedIf_items hs).map ?_).of_iff ?_
          · rfl
          · simp [reach]
      | letStmt name value =>
        have hname := hchild (c := name) (by simp) room
        have hvalue := hchild (c := value) (by simp) room
        rw [describe]
        refine (hname.bind (hvalue.map ?_)).of_iff ?_
        · rfl
        · simp [reach]
      | binary left operator right =>
        have hleft := hchild (c := left) (by simp) room
        have hright := hchild (c := right) (by simp) room
        have hlow := left.two_le_reach
        rw [describe]
        refine (hleft.bind ((describedIf_text operator room).bind (hright.map ?_))).of_iff ?_
        · rfl
        · simp only [reach]
          omega
      | returnStmt value | exprStmt value =>
        rw [describe]
        refine ((hchild (c := value) (by simp) room).map ?_).of_iff ?_
        · rfl
        · simp [reach]
      | unary operator right =>
        have hright := hchild (c := right) (by simp) room
        have hlow := right.two_le_reach
        rw [describe]
        refine ((describedIf_text operator room).bind (hright.map ?_)).of_iff ?_
        · rfl
        · simp only [reach]
          omega
      | identifier s | string s =>
        rw [describe]
        refine ((describedIf_text s room).map ?_).of_iff ?_
        · rfl
        · simp only [reach]
          omega
      | integer value =>
        rw [describe]
        refine ((describedIf_integer value room).map ?_).of_iff ?_
        · rfl
        · simp only [reach]
          omega
      | blank | bare =>
        rw [describe]
        exact (DescribedIf.pure _).of_iff (by simp [reach])

example : (unary "-" (string "')), x")).describe 5 =
    .ok "PrefixExpression(operator='-', right=StringLiteral(\"')), x\"))" := by
  decide +kernel

/-! ## Trees that there is no room for -/

/-- A sum of names, one more of them than `k`. -/
def sumOf : Nat → Node
  | 0 => identifier "a"
  | k + 1 => binary (sumOf k) "+" (identifier "a")

theorem reach_sumOf (k : Nat) : (sumOf k).reach = 2 * k + 3 := by
  induction k with
  | zero => rfl
  | succ k ih => simp only [sumOf, reach, ih]; omega

end FrontEnd.Node
