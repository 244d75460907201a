import FrontEnd.Proofs.Grammar.Statement
import FrontEnd.Proofs.Node.Strings

/-!
# Where the strings of a program come from

The tokens of an expression that are strings become the string literals of its tree, one by one. A
statement leaves out those behind its expression, and a refused one has none. So the strings of a
program are some of those among its tokens, in their order.

* `Within.strings_eq`: expressions.
* `IsStatement.strings_sublist`: statements.
* `program_strings`: programs, refusals or not.
-/

namespace FrontEnd

open Node Reader

/-- What the strings among tokens say. -/
def stringLiterals (ts : List Token) : List String :=
  (ts.filter fun t => t.kind = .string).map Token.literal

variable {d k : Nat} {last t : Token} {e ts us rest : List Token} {n T : Node}

@[simp] theorem stringLiterals_nil : stringLiterals [] = [] := rfl

@[simp] theorem stringLiterals_append (ts us : List Token) :
    stringLiterals (ts ++ us) = stringLiterals ts ++ stringLiterals us := by
  rw [stringLiterals, List.filter_append, List.map_append]
  rfl

theorem stringLiterals_cons_of_ne (h : t.kind ≠ .string) (ts : List Token) :
    stringLiterals (t :: ts) = stringLiterals ts := by
  rw [stringLiterals, List.filter_cons_of_neg (by simpa using h)]
  rfl

theorem stringLiterals_singleton (h : t.kind = .string) : stringLiterals [t] = [t.literal] := by
  simp [stringLiterals, h]

theorem stringLiterals_sublist (h : us.Sublist ts) :
    (stringLiterals us).Sublist (stringLiterals ts) :=
  (h.filter _).map _

/-- **The strings of an expression** are those among its tokens. -/
theorem Within.strings_eq (h : Within d k e T) : T.strings = stringLiterals e := by
  induction h with
  | @binary d k l r L R op _ hb _ ihl ihr =>
    have hop : op.kind ≠ .string := fun hk => by rw [hk] at hb; cases hb
    rw [strings, ihl, ihr, stringLiterals_append, stringLiterals_cons_of_ne hop]
  | tighter _ _ ih => exact ih
  | @unary d op e T ho _ ih =>
    have hop : op.kind ≠ .string := fun hk => by rw [hk] at ho; cases ho
    rw [strings, ih, stringLiterals_cons_of_ne hop]
  | identifier ht | integer ht =>
    rw [strings, stringLiterals_cons_of_ne (by rw [ht]; decide), stringLiterals_nil]
  | string ht => rw [strings, stringLiterals_singleton ht]
  | grouped ho hc _ ih =>
    rw [ih, List.cons_append, stringLiterals_cons_of_ne (by rw [ho]; decide),
      stringLiterals_append, stringLiterals_cons_of_ne (by rw [hc]; decide), stringLiterals_nil,
      List.append_nil]

/-- **The strings of a statement** are those up to the end of its expression. -/
theorem IsStatement.strings_sublist (h : IsStatement (Within d k) e rest n) :
    n.strings.Sublist (stringLiterals e) := by
  cases h with
  | blank => exact List.nil_sublist _
  | @definition word name sign e tail _ T _ _ _ he =>
    rw [strings, strings, List.nil_append, he.strings_eq]
    refine stringLiterals_sublist ?_
    exact (List.sublist_append_left e tail).trans (List.sublist_append_right [word, name, sign] _)
  | @result word e tail _ T _ he =>
    rw [strings, he.strings_eq]
    refine stringLiterals_sublist ?_
    exact (List.sublist_append_left e tail).trans (List.sublist_append_right [word] _)
  | closed he =>
    rw [strings, he.strings_eq]
    exact stringLiterals_sublist (List.sublist_append_left _ _)
  | opened he => rw [strings, he.strings_eq]

/-- **The strings of a program** are some of those among its tokens, in their order. -/
theorem Reader.program_strings (hl : last.kind = .eof) (d : Nat) (ts : List Token) :
    (stringsList (program last d ts).1).Sublist (stringLiterals ts) := by
  fun_induction program last d ts with
  | case1 => exact List.nil_sublist _
  | case2 ts hts found later ih =>
    have hf : found = settle (current last ts) (attempt last d ts) := rfl
    have hlater : (stringsList later.1).Sublist (stringLiterals found.rest.tail) := ih
    have hrest : found.rest.tail <:+ ts :=
      (List.tail_suffix _).trans (rest_statement last d ts)
    generalize later = later at hlater ⊢
    cases ha : attempt last d ts with rw [ha] at hf
    | done n r =>
      obtain ⟨e, hte, hs⟩ := isStatement_of_attempt hl hts ha
      rw [hf] at hlater ⊢
      rw [hte, stringLiterals_append]
      exact hs.strings_sublist.append hlater
    | refused x r | tooDeep r =>
      have hsub := hlater.trans (stringLiterals_sublist hrest.sublist)
      rw [hf]
      exact hsub

end FrontEnd
