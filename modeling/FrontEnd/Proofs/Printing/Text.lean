import FrontEnd.Proofs.Lexing.Strings
import FrontEnd.Proofs.Printing.Written

/-!
# The text of a tree

A tree that a text can have prints as a text (`Node.text`), and this text has the spelling of the
tree as its tokens, whatever follows that does not go on with a word.

* `renders_written`, `renders_statement`: the printer with its stack prints the text of a tree.
* `lexes_text`, `lexes_statement`: the tokens of the text.
* `print_program`, `lexes_lines`: the text of a program and its tokens.
-/

namespace FrontEnd

namespace Node

/-- **The text of a tree**, with parentheses around the operands that bind too loosely. -/
def text : Node → List Char
  | identifier name => name.toList
  | integer value => (toString value).toList
  | string value => (stringLiteral value).toList
  | unary operator right =>
    operator.toList ++ enclosed (right.rank < Precedence.unary) '(' ')' (text right)
  | binary left operator right =>
    enclosed (left.rank < operatorRank operator) '(' ')' (text left) ++
      (' ' :: operator.toList ++
        ' ' :: enclosed (right.rank < operatorRank operator + 1) '(' ')' (text right))
  | blank => [';']
  | letStmt name value =>
    ['l', 'e', 't', ' '] ++ (text name ++ ([' ', '=', ' '] ++ (text value ++ [';'])))
  | returnStmt value => ['r', 'e', 't', 'u', 'r', 'n', ' '] ++ (text value ++ [';'])
  | exprStmt value => text value ++ [';']
  | program _ | bare _ => []

/-- The texts of statements, each on its line. -/
def lines : List Node → List Char
  | [] => []
  | [n] => text n
  | n :: ns => text n ++ '\n' :: lines ns

end Node

open Node

variable {k : Nat} {cs : List Char} {ts : List Token} {n T : Node}

/-! ## It is what the printer prints -/

/-- The printer turns the pieces into these characters, whatever it has printed and has still to
print. -/
def Renders (ps : List Piece) (w : List Char) : Prop :=
  ∀ out rest, renderPieces out (ps ++ rest) = renderPieces (out ++ String.ofList w) rest

namespace Renders

variable {ps qs : List Piece} {w v : List Char}

theorem nil : Renders [] [] := by
  intro out rest
  rw [String.ofList_nil, String.append_empty]
  rfl

theorem text (s : String) : Renders [.text s] s.toList := by
  intro out rest
  rw [List.singleton_append, renderPieces, String.ofList_toList]

theorem append (hp : Renders ps w) (hq : Renders qs v) : Renders (ps ++ qs) (w ++ v) := by
  intro out rest
  rw [List.append_assoc, hp, hq, String.append_assoc, ← String.ofList_append]

theorem node (h : n.pieces = .ok ps) (hp : Renders ps w) : Renders [.node n] w := by
  intro out rest
  rw [List.singleton_append, ← hp, renderPieces]
  split
  · rename_i qs hq
    cases h.symm.trans hq
    rfl
  · rename_i e hq
    cases h.symm.trans hq

theorem parenthesized (h : Renders [.node T] w) :
    Renders (parenthesized T) ('(' :: w ++ [')']) :=
  ((text "(").append h).append (text ")")

/-- A node alone on the stack is printed to the end. -/
theorem print (h : Renders [.node n] w) : n.print = .ok (String.ofList w) := by
  have hp := h "" []
  rw [List.append_nil, String.empty_append] at hp
  rw [Node.print, hp, renderPieces]

end Renders

/-- The pieces of an operand of a level. -/
def piecesAt (k : Nat) (T : Node) : List Piece := if T.rank < k then parenthesized T else [.node T]

theorem renders_piecesAt (h : Renders [.node T] (text T)) (k : Nat) :
    Renders (piecesAt k T) (enclosed (T.rank < k) '(' ')' (text T)) := by
  unfold piecesAt enclosed
  split
  · exact h.parenthesized
  · exact h

theorem level_text {op : Kind} {b : Nat} (h : op.binding? = some b) : level op.text = .ok b := by
  rw [level, bindingOf?_text, h]

/-- The pieces of an operand are those of its level, which is at most the tightest one. -/
theorem operandPieces_eq (h : Written T) {isLoose : Nat → Bool}
    (hl : ∀ j, isLoose j = decide (j < k)) (hk : k ≤ Precedence.unary) :
    operandPieces isLoose T = .ok (piecesAt k T) := by
  cases h with
  | @binary op b L R hb _ _ =>
    rw [operandPieces, level_text hb, piecesAt, rank_binary hb]
    simp only [bind, Except.bind, pure, Except.pure, hl, decide_eq_true_eq]
  | identifier | integer | string | unary =>
    rw [operandPieces, piecesAt, if_neg]
    · exact Nat.not_lt.mpr hk
    · intro l o r h
      cases h

theorem pieces_unary (h : Written T) (operator : String) :
    (Node.unary operator T).pieces = .ok (.text operator :: piecesAt Precedence.unary T) := by
  cases h with
  | @binary op b L R hb _ _ =>
    rw [pieces, piecesAt, rank_binary hb, if_pos (Kind.binding?_bounds hb).2]
  | identifier | integer | string | unary =>
    rw [pieces, piecesAt, if_neg]
    · exact Nat.lt_irrefl _
    · intro l o r h
      cases h

theorem pieces_binary {op : Kind} {b : Nat} {L R : Node} (hb : op.binding? = some b)
    (hL : Written L) (hR : Written R) :
    (Node.binary L op.text R).pieces =
      .ok (piecesAt b L ++ .text s!" {op.text} " :: piecesAt (b + 1) R) := by
  have hbounds := Kind.binding?_bounds hb
  have hnext (j : Nat) : decide (j ≤ b) = decide (j < b + 1) :=
    decide_eq_decide.mpr Nat.lt_succ_iff.symm
  rw [pieces, level_text hb]
  simp only [bind, Except.bind, pure, Except.pure]
  rw [operandPieces_eq hL (k := b) (fun j => rfl) (Nat.le_of_lt hbounds.2)]
  rw [operandPieces_eq hR hnext hbounds.2]

/-- **The printer prints the text of an expression.** -/
theorem renders_written (h : Written T) : Renders [.node T] (text T) := by
  induction h with
  | @identifier s _ => exact .node rfl (.text s)
  | @integer n _ => exact .node rfl (.text (toString (n : Int)))
  | @string s => exact .node rfl (.text (stringLiteral s))
  | @unary k T _ hT ih =>
    exact .node (pieces_unary hT k.text) ((Renders.text k.text).append (renders_piecesAt ih _))
  | @binary k b L R hb hL hR ihl ihr =>
    have hsign : s!" {k.text} ".toList = ' ' :: (k.text.toList ++ [' ']) := by
      change (" " ++ k.text ++ " ").toList = _
      simp [String.toList_append]
    have hmid := (Renders.text s!" {k.text} ").append (renders_piecesAt ihr (b + 1))
    have hall := (renders_piecesAt ihl b).append hmid
    refine .node (pieces_binary hb hL hR) ?_
    rw [hsign] at hall
    rw [text, operatorRank_text hb]
    simpa using hall

/-- **The printer prints the text of a statement.** -/
theorem renders_statement (h : WrittenStatement n) : Renders [.node n] (text n) := by
  cases h with
  | blank => exact .node rfl (.text ";")
  | @definition s T hs hT =>
    have hname : Renders [.node (.identifier s)] s.toList := renders_written (.identifier hs)
    have hvalue := (renders_written hT).append (.text ";")
    have hsign := (Renders.text " = ").append hvalue
    exact .node rfl ((Renders.text "let ").append (hname.append hsign))
  | @result T hT =>
    have hvalue := (renders_written hT).append (.text ";")
    exact .node rfl ((Renders.text "return ").append hvalue)
  | @expression T hT => exact .node rfl ((renders_written hT).append (.text ";"))

theorem renders_lines {ns : List Node} (h : ∀ n ∈ ns, WrittenStatement n) :
    Renders (separated "\n" ns) (lines ns) := by
  fun_induction lines ns with
  | case1 => exact .nil
  | case2 n => exact renders_statement (h n List.mem_cons_self)
  | case3 n ns hns ih =>
    have hlater := ih fun m hm => h m (List.mem_cons_of_mem _ hm)
    have hfirst := renders_statement (h n List.mem_cons_self)
    have hall := hfirst.append ((Renders.text "\n").append hlater)
    rw [separated]
    · exact hall
    · exact hns

/-- **The printer prints the text of a program**, each statement on its line. -/
theorem print_program {ns : List Node} (h : ∀ n ∈ ns, WrittenStatement n) :
    (Node.program ns).print = .ok (String.ofList (lines ns)) :=
  (Renders.node rfl (renders_lines h)).print

/-! ## Its tokens -/

theorem separates_of_space {c : Char} (h : isSpace c = true) : Separates (c :: cs) := by
  rw [separates_cons]
  rcases Lexes.isSpace_cases h with rfl | rfl | rfl | rfl <;> decide

theorem Lexes.quoted (s : String) (h : Lexes cs ts) :
    Lexes ((stringLiteral s).toList ++ cs) (⟨.string, s, none, 0, 0⟩ :: ts) := by
  have hbody := body_of_units (units_escape s.toList) cs
  have hread : Lexeme.read ('"' :: (s.toList.flatMap escapeChar ++ ['"']) ++ cs) =
      ⟨('"' :: (s.toList.flatMap escapeChar ++ ['"'])).length, .ok (Lexeme.plain .string s)⟩ := by
    rw [List.cons_append, Lexeme.read_of_quote, Lexeme.readString, List.tail_cons,
      List.append_assoc, List.singleton_append, hbody]
    simp
  rw [toList_stringLiteral]
  refine lexeme (by simp) (fun a ha => ?_) hread h
  cases ha
  decide

theorem Lexes.parentheses {p : Prop} [Decidable p] {w : List Char} {us : List Token}
    (hw : ∀ cs ts, Separates cs → Lexes cs ts → Lexes (w ++ cs) (us ++ ts)) (hcs : Separates cs)
    (h : Lexes cs ts) :
    Lexes (enclosed p '(' ')' w ++ cs)
      (enclosed p (.sign .lparen) (.sign .rparen) us ++ ts) := by
  unfold enclosed
  split
  · have hclose : Lexes (')' :: cs) (.sign .rparen :: ts) :=
      Lexes.sign (k := .rparen) rfl (fun hd => absurd rfl hd) h
    have hin := hw _ _ (separates_cons.mpr (by decide)) hclose
    have hopen : Lexes ('(' :: (w ++ ')' :: cs)) (.sign .lparen :: (us ++ .sign .rparen :: ts)) :=
      Lexes.sign (k := .lparen) rfl (fun hd => absurd rfl hd) hin
    simpa using hopen
  · exact hw cs ts hcs h

/-- A binary operator with a space behind it. -/
theorem Lexes.operator {k : Kind} (hk : k.binding?.isSome) (h : Lexes cs ts) :
    Lexes (k.text.toList ++ ' ' :: cs) (.sign k :: ts) := by
  have hspace : Lexes (' ' :: cs) ts := .space rfl h
  -- two of the operators have two characters, the others are signs of their own
  cases k <;> cases hk
  case eq => exact Lexes.lexeme (w := ['=', '=']) (by simp) (by simp; decide) rfl hspace
  case notEq => exact Lexes.lexeme (w := ['!', '=']) (by simp) (by simp; decide) rfl hspace
  all_goals exact Lexes.sign rfl (fun hd => absurd rfl hd) hspace

/-- An operator before its operand, which does not begin with an equals sign. -/
theorem Lexes.unary {k : Kind} (hk : k.isUnary = true) (hcs : cs.head? ≠ some '=')
    (h : Lexes cs ts) : Lexes (k.text.toList ++ cs) (.sign k :: ts) := by
  cases k <;> cases hk
  all_goals exact Lexes.sign rfl (fun _ => hcs) h

/-- The character begins an expression: it is no space, and it makes no sign before it longer. -/
def BeginsText (c : Char) : Prop := isSpace c = false ∧ c ≠ '='

instance (c : Char) : Decidable (BeginsText c) := inferInstanceAs (Decidable (_ ∧ _))

theorem beginsText_of_wordChar {c : Char} (h : isWordChar c = true) : BeginsText c := by
  refine ⟨Lexes.isSpace_of_wordChar h, ?_⟩
  rintro rfl
  cases h

theorem exists_enclosed {p : Prop} [Decidable p] {w : List Char}
    (h : ∃ c r, w = c :: r ∧ BeginsText c) :
    ∃ c r, enclosed p '(' ')' w = c :: r ∧ BeginsText c := by
  unfold enclosed
  split
  · exact ⟨'(', w ++ [')'], rfl, by decide⟩
  · exact h

/-- No text of an expression begins with a space or with an equals sign, so none makes a sign before
it longer. -/
theorem Written.text_head (h : Written T) : ∃ c r, text T = c :: r ∧ BeginsText c := by
  induction h with
  | identifier hs =>
    obtain ⟨c, r, hcr, hc⟩ := hs.letter
    exact ⟨c, r, hcr, beginsText_of_wordChar (by simp [isWordChar, hc])⟩
  | @integer n _ =>
    obtain ⟨c, r, hcr⟩ := List.exists_cons_of_ne_nil (Nat.toDigits_ne_nil (n := n) (b := 10))
    have hc : Text.isDigit c = true :=
      Lexes.isDigit_of_mem_toDigits (n := n) (by rw [hcr]; exact List.mem_cons_self)
    refine ⟨c, r, ?_, beginsText_of_wordChar (by simp [isWordChar, hc])⟩
    rw [← hcr]
    exact Nat.toList_repr
  | string => exact ⟨'"', _, String.toList_ofList, by decide⟩
  | @unary k T hk _ _ =>
    cases k <;> cases hk
    all_goals exact ⟨_, _, rfl, by decide⟩
  | @binary k b L R _ _ _ ihl _ =>
    obtain ⟨c, r, hcr, hc⟩ := exists_enclosed (p := L.rank < operatorRank k.text) ihl
    exact ⟨c, _, by rw [text, hcr, List.cons_append], hc⟩

/-- **The text of an expression has its spelling as tokens**, before anything that does not go on
with its last word. -/
theorem lexes_text (h : Written T) (cs : List Char) (ts : List Token) (hcs : Separates cs)
    (ht : Lexes cs ts) : Lexes (text T ++ cs) (spelling T ++ ts) := by
  induction h generalizing cs ts with
  | @identifier s hs =>
    have := Lexes.word hs.letter hs.word hcs ht
    rwa [hs.ident] at this
  | @integer n hn =>
    have hs : toString (n : Int) = toString n := rfl
    rw [text, spelling, hs]
    exact Lexes.number hn hcs ht
  | @string s => exact Lexes.quoted s ht
  | @unary k T hk hT ih =>
    have hright := Lexes.parentheses (p := T.rank < Precedence.unary) ih hcs ht
    obtain ⟨c, r, hcr, hc⟩ := exists_enclosed (p := T.rank < Precedence.unary) hT.text_head
    have hhead :
        (enclosed (T.rank < Precedence.unary) '(' ')' (text T) ++ cs).head? ≠ some '=' := by
      rw [hcr, List.cons_append, List.head?_cons]
      exact fun he => hc.2 (Option.some.inj he)
    rw [text, spelling, operator_text, List.append_assoc]
    exact Lexes.unary hk hhead hright
  | @binary k b L R hb _ _ ihl ihr =>
    have hright := Lexes.parentheses (p := R.rank < operatorRank k.text + 1) ihr hcs ht
    have hoperator := Lexes.operator (k := k) (by rw [hb]; rfl) hright
    have hleft := Lexes.parentheses (p := L.rank < operatorRank k.text) ihl
      (separates_of_space rfl) (.space (c := ' ') rfl hoperator)
    rw [text, spelling, operator_text]
    simpa using hleft

/-- **The text of a statement has its spelling as tokens**, whatever follows it. -/
theorem lexes_statement (h : WrittenStatement n) (cs : List Char) (ts : List Token)
    (ht : Lexes cs ts) : Lexes (text n ++ cs) (spelling n ++ ts) := by
  have hend : Lexes (';' :: cs) (.sign .semicolon :: ts) :=
    Lexes.sign (k := .semicolon) rfl (fun hd => absurd rfl hd) ht
  have hsep : Separates (';' :: cs) := separates_cons.mpr (by decide)
  have hword (s : String) (hl : ∃ c r, s.toList = c :: r ∧ isLetter c = true)
      (hw : ∀ c ∈ s.toList, isWordChar c = true) {cs : List Char} {ts : List Token}
      (h : Lexes cs ts) :
      Lexes (s.toList ++ ' ' :: cs) (⟨Kind.ofWord s, s, none, 0, 0⟩ :: ts) :=
    Lexes.word hl hw (separates_of_space rfl) (.space rfl h)
  cases h with
  | blank => exact hend
  | @definition s T hs hT =>
    have hvalue := lexes_text hT _ _ hsep hend
    have hsign : Lexes ('=' :: ' ' :: (text T ++ ';' :: cs))
        (.sign .assign :: (spelling T ++ .sign .semicolon :: ts)) :=
      Lexes.sign (k := .assign) rfl (fun _ => by simp) (.space rfl hvalue)
    have hname := hword s hs.letter hs.word hsign
    rw [hs.ident] at hname
    have hlet := hword "let" ⟨'l', ['e', 't'], rfl, rfl⟩ (List.all_eq_true.mp rfl) hname
    rw [show Kind.ofWord "let" = .letWord from rfl] at hlet
    simpa [text, spelling] using hlet
  | @result T hT =>
    have hvalue := lexes_text hT _ _ hsep hend
    have hreturn :=
      hword "return" ⟨'r', ['e', 't', 'u', 'r', 'n'], rfl, rfl⟩ (List.all_eq_true.mp rfl) hvalue
    rw [show Kind.ofWord "return" = .returnWord from rfl] at hreturn
    simpa [text, spelling] using hreturn
  | @expression T hT =>
    have hvalue := lexes_text hT _ _ hsep hend
    simpa [text, spelling] using hvalue

theorem lexes_lines {ns : List Node} (h : ∀ n ∈ ns, WrittenStatement n) :
    Lexes (lines ns) (ns.flatMap spelling) := by
  fun_induction lines ns with
  | case1 => exact .nil
  | case2 n =>
    have := lexes_statement (h n List.mem_cons_self) [] [] .nil
    simpa using this
  | case3 n ns hns ih =>
    have hlater := ih fun m hm => h m (List.mem_cons_of_mem _ hm)
    have := lexes_statement (h n List.mem_cons_self) _ _ (.space (c := '\n') rfl hlater)
    simpa using this

end FrontEnd
