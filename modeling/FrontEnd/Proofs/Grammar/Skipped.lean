import FrontEnd.Command.Answer
import FrontEnd.Proofs.Grammar.Statement
import FrontEnd.Proofs.Reader.Fault

/-!
# What a program leaves unread

A definition and a result may have a tail that is skipped, whatever its tokens are. All other tokens
of a program that is read without a diagnostic are seen by the grammar, which has no place for a
token that is no valid token. So such a token stands in a tail (`Skipped`), or the program has a
diagnostic.

* `skipped_of_illegal`: in the statements of a program.
* `parseSource_skips_illegal`: in a source text, and in one that is checked.
-/

namespace FrontEnd

open Reader

/-- A definition or a result, up to and with its expression. -/
inductive Opening (E : List Token → Node → Prop) : List Token → Node → Prop
  | definition {word name sign : Token} {e : List Token} {T : Node} :
      word.kind = .letWord → name.kind = .ident → sign.kind = .assign → E e T →
      Opening E (word :: name :: sign :: e) (.letStmt (.identifier name.literal) T)
  | result {word : Token} {e : List Token} {T : Node} :
      word.kind = .returnWord → E e T → Opening E (word :: e) (.returnStmt T)

/-- **The tokens that a program skips.** `Skipped E ts before`: behind `before` comes a token of the
tail of a definition or of a result, which is not the semicolon of the tail. -/
inductive Skipped (E : List Token → Node → Prop) : List Token → List Token → Prop
  | here {head run more rest : List Token} {t : Token} {n : Node} :
      Opening E head n → Tail (run ++ t :: more) rest → t.kind ≠ .semicolon →
      Skipped E (head ++ (run ++ t :: more) ++ rest) (head ++ run)
  | later {e rest before : List Token} {n : Node} :
      IsStatement E e rest n → Skipped E rest before → Skipped E (e ++ rest) (e ++ before)

variable {E : List Token → Node → Prop} {ts e head before behind : List Token} {t : Token}
  {n : Node} {ns : List Node} {k : Nat}

/-! ## Only what is skipped may be invalid -/

/-- No expression has a place for a token that is no valid token. -/
theorem Derives.kind_ne_illegal {T : Node} (h : Derives k e T) : ∀ t ∈ e, t.kind ≠ .illegal := by
  obtain ⟨d, hd⟩ := h.exists_within
  intro t ht hk
  have hin := hd.inExpression t ht
  rw [hk] at hin
  exact absurd hin (by decide)

theorem Opening.kind_ne_illegal (h : Opening (Derives k) head n) :
    ∀ t ∈ head, t.kind ≠ .illegal := by
  cases h with
  | definition hw hn hs he =>
    intro t ht
    rcases List.mem_cons.mp ht with rfl | ht
    · rw [hw]; decide
    rcases List.mem_cons.mp ht with rfl | ht
    · rw [hn]; decide
    rcases List.mem_cons.mp ht with rfl | ht
    · rw [hs]; decide
    · exact he.kind_ne_illegal t ht
  | result hw he =>
    intro t ht
    rcases List.mem_cons.mp ht with rfl | ht
    · rw [hw]; decide
    · exact he.kind_ne_illegal t ht

/-- An element of two lists is one of the first, or of the second. -/
theorem append_eq_append_cons {α : Type} {as bs xs ys : List α} {a : α}
    (h : as ++ bs = xs ++ a :: ys) :
    (∃ us, as = xs ++ a :: us ∧ ys = us ++ bs) ∨ ∃ us, xs = as ++ us ∧ bs = us ++ a :: ys := by
  rcases List.append_eq_append_iff.mp h with ⟨us, rfl, hbs⟩ | ⟨us, rfl, hys⟩
  · exact Or.inr ⟨us, rfl, hbs⟩
  · cases us with
    | nil => exact Or.inr ⟨[], by simp, hys.symm⟩
    | cons u us =>
      obtain ⟨rfl, rfl⟩ := List.cons.inj hys
      exact Or.inl ⟨us, rfl, rfl⟩

/-- An invalid token of a definition or of a result stands in its tail. -/
theorem skipped_of_opening {tail rest more : List Token} (hh : Opening (Derives k) head n)
    (htail : Tail tail rest) (ht : t.kind = .illegal) (he : head ++ tail = before ++ t :: more) :
    Skipped (Derives k) (head ++ tail ++ rest) before := by
  rcases append_eq_append_cons he with ⟨us, rfl, -⟩ | ⟨run, rfl, rfl⟩
  · exact absurd ht (hh.kind_ne_illegal t (by simp))
  · exact .here hh htail (by rw [ht]; decide)

/-- An invalid token of a statement stands in its tail. -/
theorem skipped_of_statement {rest more : List Token} (hs : IsStatement (Derives k) e rest n)
    (ht : t.kind = .illegal) (he : e = before ++ t :: more) :
    Skipped (Derives k) (e ++ rest) before := by
  have hmem : t ∈ e := by simp [he]
  cases hs with
  | blank hk =>
    obtain rfl := List.mem_singleton.mp hmem
    cases hk.symm.trans ht
  | definition hw hn hs hx htail => exact skipped_of_opening (.definition hw hn hs hx) htail ht he
  | result hw hx htail => exact skipped_of_opening (.result hw hx) htail ht he
  | closed hx hk =>
    rcases List.mem_append.mp hmem with hmem | hmem
    · exact absurd ht (hx.kind_ne_illegal t hmem)
    · obtain rfl := List.mem_singleton.mp hmem
      cases hk.symm.trans ht
  | opened hx => exact absurd ht (hx.kind_ne_illegal t hmem)

/-- **An invalid token of a program is skipped.** -/
theorem skipped_of_illegal (h : Statements (Derives k) ts ns) (ht : t.kind = .illegal)
    (hts : ts = before ++ t :: behind) : Skipped (Derives k) ts before := by
  induction h generalizing before with
  | nil => cases before <;> cases hts
  | cons hs _ ih =>
    rcases append_eq_append_cons hts with ⟨more, he, -⟩ | ⟨later, rfl, hrest⟩
    · exact skipped_of_statement hs ht he
    · exact .later hs (ih hrest)

/-! ## Source texts -/

/-- **No invalid token passes unseen, unless it is skipped.** Let a text be read without a
diagnostic. Then the text is checked as valid, it has tokens, and each of them that is no valid
token, such as an illegal character, an integer out of range or a string without its closing quote,
stands in the tail of a definition or of a result: behind its expression and before the next
semicolon.
Wherever else such a token stands, there is a diagnostic. -/
theorem parseSource_skips_illegal {source filename : String} {depth : Nat} {settings : Settings}
    {p : Node} {s : Parser} (h : parseSource depth settings filename source = .ok p s)
    (hs : s.diagnostics = #[]) :
    (depth = nestingLimit → performCheck settings filename source =
      ⟨0, s!"Syntax is valid! ({p.statementCount} statements)\n", s.journal.entries.toList, none⟩) ∧
    ∃ us last ns, tokenize source = .ok (us ++ [last]) ∧ last.kind = .eof ∧ p = .program ns ∧
      Statements (Derives Precedence.equality) us ns ∧
      ∀ before t behind, us = before ++ t :: behind → t.kind = .illegal →
        Skipped (Derives Precedence.equality) us before := by
  obtain ⟨us, last, hts⟩ := exists_tokens_of_ok h
  obtain ⟨hl, -⟩ := ends_of_tokenize hts
  obtain ⟨s', hr, hd⟩ := parseSource_run hts depth settings filename
  cases h.symm.trans hr
  refine ⟨fun hdepth => ?_, us, last, _, hts, hl, rfl, ?_⟩
  · subst hdepth
    rw [performCheck, Interface.performCheck, h]
    simp [hs]
  · have hnone : (program last depth us).2 = [] := by
      rw [hs] at hd
      exact List.map_eq_nil_iff.mp hd.symm
    have hns : Statements (Derives Precedence.equality) us (program last depth us).1 :=
      (statements_of_program hl hnone).mono fun e T he => he.derives
    exact ⟨hns, fun before t behind hus ht => skipped_of_illegal hns ht hus⟩

/-- The parser of `let x = 1 @;` skips a token that is no valid token, and records nothing. -/
theorem exists_run_of_stray_tail :
    ∃ us last p s, tokenize "let x = 1 @;" = .ok (us ++ [last]) ∧
      us.map Token.kind = [.letWord, .ident, .assign, .int, .illegal, .semicolon] ∧
      parseSource nestingLimit .quiet "<stdin>" "let x = 1 @;" = .ok p s ∧
      s.diagnostics = #[] := by
  let t (k : Kind) (literal : String) (value? : Option Int) (column : Nat) : Token :=
    ⟨k, literal, value?, 1, column⟩
  let us := [t .letWord "let" none 1, t .ident "x" none 5, t .assign "=" none 7,
    t .int "1" (some 1) 9, t .illegal "@" none 11, t .semicolon ";" none 12]
  let last := t .eof "" none 13
  have hts : tokenize "let x = 1 @;" = .ok (us ++ [last]) := by cbv
  have hnone : (program last nestingLimit us).2 = [] := by cbv
  obtain ⟨s, hr, hd⟩ := parseSource_run hts nestingLimit .quiet "<stdin>"
  rw [hnone] at hd
  exact ⟨us, last, _, s, hts, rfl, hr, Array.toList_eq_nil_iff.mp hd⟩

/-- The character `@` behind the expression of a definition. -/
theorem parseSource_skips_illegal_stray :
    ∃ p s, parseSource nestingLimit .quiet "<stdin>" "let x = 1 @;" = .ok p s ∧
      s.diagnostics = #[] ∧
      ∃ us last ns, tokenize "let x = 1 @;" = .ok (us ++ [last]) ∧ last.kind = .eof ∧
        p = .program ns ∧ Statements (Derives Precedence.equality) us ns ∧
        ∀ before t behind, us = before ++ t :: behind → t.kind = .illegal →
          Skipped (Derives Precedence.equality) us before := by
  obtain ⟨_, _, p, s, -, -, hr, hs⟩ := exists_run_of_stray_tail
  exact ⟨p, s, hr, hs, (parseSource_skips_illegal hr hs).2⟩

/-- **Not every invalid token is reported**: this text has one, and is read without a diagnostic. -/
theorem exists_illegal_unreported :
    ∃ p s ts, parseSource nestingLimit .quiet "<stdin>" "let x = 1 @;" = .ok p s ∧
      s.diagnostics = #[] ∧ tokenize "let x = 1 @;" = .ok ts ∧ ∃ t ∈ ts, t.kind = .illegal := by
  obtain ⟨us, last, p, s, hts, hkinds, hr, hs⟩ := exists_run_of_stray_tail
  have hmem : Kind.illegal ∈ us.map Token.kind := by rw [hkinds]; decide
  obtain ⟨t, ht, hk⟩ := List.mem_map.mp hmem
  exact ⟨p, s, _, hr, hs, hts, t, List.mem_append_left _ ht, hk⟩

end FrontEnd
