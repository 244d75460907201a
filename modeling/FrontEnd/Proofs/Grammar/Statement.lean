import FrontEnd.Proofs.Grammar.Climbing
import FrontEnd.Proofs.Reader.Source
import Mathlib

/-!
# The grammar of statements

A statement is a semicolon, a definition or a result with a tail, or an expression with a
semicolon or without one (`IsStatement`), and a program is one statement after the other
(`Statements`). Both take the expressions as a parameter, so they serve for the grammar and for
the bounded grammar.

* `attempt_of_isStatement`: a statement of the grammar is read.
* `isStatement_of_attempt`: what is read is a statement of the grammar.
* `program_eq_iff`: a program is read without refusals exactly if its tokens are its statements.
* `statements_unique`: tokens are the statements of one program at most.
* `parseSource_iff_statements`: source texts.
-/

namespace FrontEnd

open Reader

/-- No binary operator stands at the head. -/
def NoOperator (ts : List Token) : Prop := ∀ t ∈ ts.head?, t.kind.binding? = none

/-- The tail of a statement, with the tokens behind it: any tokens but semicolons, no operator in
front, up to and with a semicolon or up to the end. -/
inductive Tail : List Token → List Token → Prop
  | semicolon {run rest : List Token} {t : Token} :
      NoOperator run → (∀ u ∈ run, u.kind ≠ .semicolon) → t.kind = .semicolon →
      Tail (run ++ [t]) rest
  | input {run : List Token} :
      NoOperator run → (∀ u ∈ run, u.kind ≠ .semicolon) → Tail run []

/-- **The grammar of statements**: the tokens `e`, with `rest` behind them, are the statement `n`
with an expression of `E`. -/
inductive IsStatement (E : List Token → Node → Prop) : List Token → List Token → Node → Prop
  | blank {t : Token} {rest : List Token} : t.kind = .semicolon → IsStatement E [t] rest .blank
  | definition {word name sign : Token} {e tail rest : List Token} {T : Node} :
      word.kind = .letWord → name.kind = .ident → sign.kind = .assign → E e T → Tail tail rest →
      IsStatement E (word :: name :: sign :: (e ++ tail)) rest
        (.letStmt (.identifier name.literal) T)
  | result {word : Token} {e tail rest : List Token} {T : Node} :
      word.kind = .returnWord → E e T → Tail tail rest →
      IsStatement E (word :: (e ++ tail)) rest (.returnStmt T)
  | closed {e rest : List Token} {t : Token} {T : Node} :
      E e T → t.kind = .semicolon → IsStatement E (e ++ [t]) rest (.exprStmt T)
  | opened {e rest : List Token} {T : Node} :
      E e T → NoOperator rest → (∀ t ∈ rest.head?, t.kind ≠ .semicolon) →
      IsStatement E e rest (.exprStmt T)

/-- **The grammar of programs**: the tokens are the statements, in order. -/
inductive Statements (E : List Token → Node → Prop) : List Token → List Node → Prop
  | nil : Statements E [] []
  | cons {e rest : List Token} {n : Node} {ns : List Node} :
      IsStatement E e rest n → Statements E rest ns → Statements E (e ++ rest) (n :: ns)

variable {E E' : List Token → Node → Prop} {last : Token} {d k : Nat}
  {e ts rest tail : List Token} {n T : Node} {ns : List Node}

/-- More expressions give more statements. -/
theorem IsStatement.mono (hE : ∀ e T, E e T → E' e T) (h : IsStatement E e rest n) :
    IsStatement E' e rest n := by
  cases h with
  | blank ht => exact .blank ht
  | definition hw hn hs he ht => exact .definition hw hn hs (hE _ _ he) ht
  | result hw he ht => exact .result hw (hE _ _ he) ht
  | closed he ht => exact .closed (hE _ _ he) ht
  | opened he ho hs => exact .opened (hE _ _ he) ho hs

theorem Statements.mono (hE : ∀ e T, E e T → E' e T) (h : Statements E ts ns) :
    Statements E' ts ns := by
  induction h with
  | nil => exact .nil
  | cons hs _ ih => exact .cons (hs.mono hE) ih

theorem IsStatement.exists_within (h : IsStatement (Derives k) e rest n) :
    ∃ d, IsStatement (Within d k) e rest n := by
  cases h with
  | blank ht => exact ⟨0, .blank ht⟩
  | definition hw hn hs he ht =>
    obtain ⟨d, hd⟩ := he.exists_within
    exact ⟨d, .definition hw hn hs hd ht⟩
  | result hw he ht =>
    obtain ⟨d, hd⟩ := he.exists_within
    exact ⟨d, .result hw hd ht⟩
  | closed he ht =>
    obtain ⟨d, hd⟩ := he.exists_within
    exact ⟨d, .closed hd ht⟩
  | opened he ho hs =>
    obtain ⟨d, hd⟩ := he.exists_within
    exact ⟨d, .opened hd ho hs⟩

/-- Each program is read within some bound. -/
theorem Statements.exists_within (h : Statements (Derives k) ts ns) :
    ∃ d, Statements (Within d k) ts ns := by
  induction h with
  | nil => exact ⟨0, .nil⟩
  | cons hs _ ih =>
    obtain ⟨d1, h1⟩ := hs.exists_within
    obtain ⟨d2, h2⟩ := ih
    refine ⟨max d1 d2, .cons (h1.mono fun e T he => he.mono (Nat.le_max_left ..)) ?_⟩
    exact h2.mono fun e T he => he.mono (Nat.le_max_right ..)

/-! ## Tokens of expressions -/

/-- Tokens of this kind stand in expressions. -/
def Kind.InExpression (k : Kind) : Prop :=
  k.binding?.isSome ∨ k.isUnary ∨ k ∈ [.ident, .int, .string, .lparen, .rparen]

instance (k : Kind) : Decidable k.InExpression := inferInstanceAs (Decidable (_ ∨ _ ∨ _))

theorem Within.inExpression (h : Within d k e T) : ∀ t ∈ e, t.kind.InExpression := by
  induction h with
  | @binary d k l r L R op _ hb _ ihl ihr =>
    intro t ht
    rcases List.mem_append.mp ht with ht | ht
    · exact ihl t ht
    · rcases List.mem_cons.mp ht with rfl | ht
      · exact Or.inl (by rw [hb]; rfl)
      · exact ihr t ht
  | tighter _ _ ih => exact ih
  | unary ho _ ih => exact List.forall_mem_cons.mpr ⟨Or.inr (Or.inl ho), ih⟩
  | identifier ht | integer ht | string ht =>
    exact List.forall_mem_singleton.mpr (by rw [ht]; decide)
  | grouped ho hc _ ih =>
    refine List.forall_mem_cons.mpr ⟨by rw [ho]; decide, List.forall_mem_append.mpr ⟨ih, ?_⟩⟩
    exact List.forall_mem_singleton.mpr (by rw [hc]; decide)

theorem Within.ne_nil (h : Within d k e T) : e ≠ [] := by
  induction h with
  | tighter _ _ ih => exact ih
  | binary | unary | identifier | integer | string | grouped => simp

/-! ## Tails -/

theorem stops_lowest : Stops Precedence.lowest rest ↔ NoOperator rest := by
  have h (t : Token) : ¬Continues Precedence.lowest t.kind ↔ t.kind.binding? = none := by
    rw [continues_iff]
    cases hb : t.kind.binding? with
    | none => simp
    | some b => simpa using (Kind.binding?_bounds hb).1
  simp only [Stops, NoOperator, h]

namespace Reader

theorem skip_cons {x : Token} (hx : x.kind ≠ .semicolon) : skip (x :: ts) = skip ts := by
  simp [skip, hx]

/-- What is skipped holds no semicolon. -/
theorem skip_append (hts : ∀ u ∈ ts, u.kind ≠ .semicolon) : skip (ts ++ rest) = skip rest := by
  induction ts with
  | nil => rfl
  | cons t ts ih =>
    rw [List.cons_append, skip_cons (hts t (by simp)), ih fun u hu => hts u (by simp [hu])]

theorem exists_skip (ts : List Token) :
    ∃ run, ts = run ++ skip ts ∧ (∀ u ∈ run, u.kind ≠ .semicolon) ∧
      ∀ t ∈ (skip ts).head?, t.kind = .semicolon := by
  induction ts with
  | nil => exact ⟨[], rfl, by simp, by simp [skip]⟩
  | cons t ts ih =>
    by_cases ht : t.kind = .semicolon
    · have hs : skip (t :: ts) = t :: ts := by simp [skip, ht]
      exact ⟨[], by rw [hs]; rfl, by simp, by simp [hs, ht]⟩
    · obtain ⟨run, hts, hrun, hhead⟩ := ih
      rw [skip_cons ht]
      exact ⟨t :: run, by rw [List.cons_append, ← hts], List.forall_mem_cons.mpr ⟨ht, hrun⟩, hhead⟩

end Reader

/-- What is skipped behind an expression, and the semicolon there, is a tail. -/
theorem exists_tail (h : NoOperator ts) :
    ∃ tail, ts = tail ++ (skip ts).tail ∧ Tail tail (skip ts).tail := by
  obtain ⟨run, hts, hrun, hhead⟩ := exists_skip ts
  cases hs : skip ts with
  | nil =>
    rw [hs, List.append_nil] at hts
    subst hts
    exact ⟨ts, by simp, .input h hrun⟩
  | cons t rest =>
    rw [hs] at hts hhead
    have ho : NoOperator run := by
      intro u hu
      refine h u ?_
      rw [hts, List.head?_append]
      simp only [Option.mem_def] at hu
      rw [hu]
      rfl
    exact ⟨run ++ [t], by simpa using hts, .semicolon ho hrun (hhead t rfl)⟩

/-- Behind an expression a tail is skipped. -/
theorem Tail.skip_eq (h : Tail tail rest) :
    NoOperator (tail ++ rest) ∧ (skip (tail ++ rest)).tail = rest := by
  cases h with
  | @semicolon run rest t ho hrun ht =>
    rw [List.append_assoc, skip_append hrun]
    refine ⟨fun u hu => ?_, by simp [skip, ht]⟩
    cases run with
    | nil =>
      cases hu
      rw [ht]
      rfl
    | cons v us =>
      cases hu
      exact ho u rfl
  | input ho hrun =>
    rw [skip_append hrun, List.append_nil]
    exact ⟨ho, rfl⟩

namespace Reader

/-! ## A statement is read -/

/-- An expression with a token behind it that does not continue it is read. -/
theorem done_of_noOperator (hl : last.kind = .eof) (h : Within d Precedence.equality e T)
    (ho : NoOperator rest) :
    ∃ x, x.kind ≠ .semicolon ∧
      expression last d Precedence.lowest (e ++ rest) = .done T (x :: rest) := by
  obtain ⟨x, hx⟩ := done_of_within hl (p := Precedence.lowest) h (stops_lowest.mpr ho)
  refine ⟨x, ?_, hx⟩
  -- the reader stands on a token of the expression
  obtain ⟨us, hus⟩ := suffix_of_done hx
  have hmem : x ∈ e := by
    have he : us ++ [x] = e :=
      List.append_cancel_right (show us ++ [x] ++ rest = e ++ rest by simpa using hus)
    rw [← he]
    simp
  intro hk
  exact absurd (hk ▸ h.inExpression x hmem) (by decide)

theorem letStatement_of_kinds {word name sign : Token} (hn : name.kind = .ident)
    (hs : sign.kind = .assign) :
    letStatement last d (word :: name :: sign :: ts) =
      (expression last d Precedence.lowest ts).andThen fun value rest =>
        .done (.letStmt (.identifier name.literal) value) (skip rest) := by
  unfold letStatement
  dsimp only [peek, List.tail_cons, List.headD_cons]
  simp only [hn, hs, ne_eq, not_true_eq_false, if_false]

theorem attempt_of_inExpression {t : Token} (ht : t.kind.InExpression) :
    attempt last d (t :: ts) = exprStatement last d (t :: ts) := by
  unfold attempt
  rw [current_cons]
  split
  case h_4 => rfl
  all_goals
    rename_i hk
    rw [hk] at ht
    exact absurd ht (by decide)

theorem attempt_of_within (hl : last.kind = .eof) (h : Within d Precedence.equality e T)
    (ho : NoOperator rest) :
    ∃ x, attempt last d (e ++ rest) = .done (.exprStmt T)
      (if (peek last (x :: rest)).kind = .semicolon then rest else x :: rest) := by
  obtain ⟨t, es, rfl⟩ := List.exists_cons_of_ne_nil h.ne_nil
  obtain ⟨x, -, hx⟩ := done_of_noOperator hl h ho
  refine ⟨x, ?_⟩
  rw [List.cons_append] at hx ⊢
  rw [attempt_of_inExpression (h.inExpression t (by simp)), exprStatement, hx]
  rfl

/-- **A statement of the grammar is read**, and the reader stops on its last token. -/
theorem attempt_of_isStatement (hl : last.kind = .eof)
    (h : IsStatement (Within d Precedence.equality) e rest n) :
    ∃ r, attempt last d (e ++ rest) = .done n r ∧ r.tail = rest := by
  cases h with
  | @blank t rest ht =>
    refine ⟨t :: rest, ?_, rfl⟩
    rw [attempt, List.singleton_append, current_cons, ht]
  | @definition word name sign e tail rest T hw hn hs he ht =>
    obtain ⟨ho, hskip⟩ := ht.skip_eq
    obtain ⟨x, hk, hx⟩ := done_of_noOperator hl he ho
    refine ⟨skip (x :: (tail ++ rest)), ?_, by rwa [skip_cons hk]⟩
    have hts : word :: name :: sign :: (e ++ tail) ++ rest =
        word :: name :: sign :: (e ++ (tail ++ rest)) := by simp
    rw [hts, attempt, current_cons, hw]
    dsimp only
    rw [letStatement_of_kinds hn hs, hx]
    rfl
  | @result word e tail rest T hw he ht =>
    obtain ⟨ho, hskip⟩ := ht.skip_eq
    obtain ⟨x, hk, hx⟩ := done_of_noOperator hl he ho
    refine ⟨skip (x :: (tail ++ rest)), ?_, by rwa [skip_cons hk]⟩
    have hts : word :: (e ++ tail) ++ rest = word :: (e ++ (tail ++ rest)) := by simp
    rw [hts, attempt, current_cons, hw]
    dsimp only
    rw [returnStatement, List.tail_cons, hx]
    rfl
  | @closed e rest t T he ht =>
    have ho : NoOperator (t :: rest) := by
      intro u hu
      cases hu
      rw [ht]
      rfl
    obtain ⟨x, hx⟩ := attempt_of_within hl he ho
    refine ⟨t :: rest, ?_, rfl⟩
    rw [List.append_assoc, List.singleton_append, hx,
      if_pos (show (peek last (x :: t :: rest)).kind = .semicolon from ht)]
  | opened he ho hs =>
    obtain ⟨x, hx⟩ := attempt_of_within hl he ho
    refine ⟨x :: rest, ?_, rfl⟩
    rw [hx, if_neg ?_]
    cases rest with
    | nil =>
      intro hs
      cases hs.symm.trans hl
    | cons t rest => exact hs t rfl

/-! ## What is read is a statement -/

/-- What is read by an expression, as the grammar has it. -/
theorem exists_of_done (hl : last.kind = .eof) {out : List Token}
    (h : expression last d Precedence.lowest ts = .done T out) :
    ∃ e x rest, ts = e ++ rest ∧ out = x :: rest ∧ x.kind ≠ .semicolon ∧
      Within d Precedence.equality e T ∧ NoOperator rest := by
  obtain ⟨⟨e, x, rest, rfl, rfl, hw⟩, hs⟩ := within_of_done hl d _ _ _ _ h
  refine ⟨e ++ [x], x, rest, by simp, rfl, ?_, hw, stops_lowest.mp hs⟩
  intro hk
  exact absurd (hk ▸ hw.inExpression x (by simp)) (by decide)

theorem isStatement_of_letStatement (hl : last.kind = .eof) {word : Token} {us r : List Token}
    (hw : word.kind = .letWord) (h : letStatement last d (word :: us) = .done n r) :
    ∃ e, word :: us = e ++ r.tail ∧ IsStatement (Within d Precedence.equality) e r.tail n := by
  unfold letStatement at h
  dsimp only at h
  split at h
  · cases h
  rename_i hn
  split at h
  · cases h
  rename_i hs
  have hn := not_not.mp hn
  have hs := not_not.mp hs
  obtain ⟨T, out, hx, hd⟩ := Ending.andThen_eq_done h
  cases hd
  -- the name and the sign are not the end, so both are tokens of the list
  match us, hn, hs, hx with
  | [], hn, _, _ => cases hn.symm.trans hl
  | [name], _, hs, _ =>
    cases hs.symm.trans hl
  | name :: sign :: us, hn, hs, hx =>
    obtain ⟨e, x, rest, rfl : us = _, rfl, hk, hw', ho⟩ := exists_of_done hl hx
    obtain ⟨tail, htail, ht⟩ := exists_tail ho
    rw [skip_cons hk]
    refine ⟨word :: name :: sign :: (e ++ tail), ?_, .definition hw hn hs hw' ht⟩
    rw [List.cons_append, List.cons_append, List.cons_append, List.append_assoc, ← htail]

theorem isStatement_of_returnStatement (hl : last.kind = .eof) {word : Token}
    {us r : List Token} (hw : word.kind = .returnWord)
    (h : returnStatement last d (word :: us) = .done n r) :
    ∃ e, word :: us = e ++ r.tail ∧ IsStatement (Within d Precedence.equality) e r.tail n := by
  obtain ⟨T, out, hx, hd⟩ := Ending.andThen_eq_done h
  cases hd
  obtain ⟨e, x, rest, rfl : us = _, rfl, hk, hw', ho⟩ := exists_of_done hl hx
  obtain ⟨tail, htail, ht⟩ := exists_tail ho
  rw [skip_cons hk]
  refine ⟨word :: (e ++ tail), ?_, .result hw hw' ht⟩
  rw [List.cons_append, List.append_assoc, ← htail]

theorem isStatement_of_exprStatement (hl : last.kind = .eof) {r : List Token}
    (h : exprStatement last d ts = .done n r) :
    ∃ e, ts = e ++ r.tail ∧ IsStatement (Within d Precedence.equality) e r.tail n := by
  obtain ⟨T, out, hx, hd⟩ := Ending.andThen_eq_done h
  cases hd
  obtain ⟨e, x, rest, hts, rfl, -, hw, ho⟩ := exists_of_done hl hx
  split
  · rename_i hs
    cases rest with
    | nil => cases hs.symm.trans hl
    | cons u rest => exact ⟨e ++ [u], by simpa using hts, .closed hw hs⟩
  · rename_i hs
    refine ⟨e, hts, .opened hw ho fun u hu => ?_⟩
    cases rest with
    | nil => cases hu
    | cons v rest => cases hu; exact hs

/-- **A statement that is read is one of the grammar**, and the reader stops on its last token. -/
theorem isStatement_of_attempt (hl : last.kind = .eof) (hts : ts ≠ []) {r : List Token}
    (h : attempt last d ts = .done n r) :
    ∃ e, ts = e ++ r.tail ∧ IsStatement (Within d Precedence.equality) e r.tail n := by
  obtain ⟨t, us, rfl⟩ := List.exists_cons_of_ne_nil hts
  unfold attempt at h
  split at h
  case h_1 hw => exact isStatement_of_letStatement hl hw h
  case h_2 hw => exact isStatement_of_returnStatement hl hw h
  case h_3 hw =>
    cases h
    exact ⟨[t], rfl, .blank hw⟩
  case h_4 => exact isStatement_of_exprStatement hl h

theorem IsStatement.ne_nil (h : IsStatement (Within d k) e rest n) : e ≠ [] := by
  cases h with
  | opened he => exact he.ne_nil
  | blank | definition | result | closed => simp

theorem statements_of_program (hl : last.kind = .eof) (h : (program last d ts).2 = []) :
    Statements (Within d Precedence.equality) ts (program last d ts).1 := by
  fun_induction program last d ts with
  | case1 => exact .nil
  | case2 ts hts found later ih =>
    obtain ⟨hr, hlater⟩ := List.append_eq_nil_iff.mp h
    have hf : found = settle (current last ts) (attempt last d ts) := rfl
    cases ha : attempt last d ts with rw [ha] at hf
    | done n r =>
      obtain ⟨e, hte, hs⟩ := isStatement_of_attempt hl hts ha
      have hrest : Statements (Within d Precedence.equality) found.rest.tail later.1 := ih hlater
      generalize later = later at hrest ⊢
      rw [hf] at hrest ⊢
      rw [hte]
      exact .cons hs hrest
    | refused a r =>
      rw [hf] at hr
      cases hr
    | tooDeep r =>
      rw [hf] at hr
      cases hr

/-- Each statement of a program is one of the grammar, also if others are refused. -/
theorem isStatement_of_mem (hl : last.kind = .eof) (h : n ∈ (program last d ts).1) :
    ∃ e rest, e ++ rest <:+ ts ∧ IsStatement (Within d Precedence.equality) e rest n := by
  fun_induction program last d ts with
  | case1 => cases h
  | case2 ts hts found later ih =>
    have hf : found = settle (current last ts) (attempt last d ts) := rfl
    rcases List.mem_append.mp h with h | h
    · cases ha : attempt last d ts with rw [ha] at hf
      | done m r =>
        rw [hf] at h
        obtain rfl := List.mem_singleton.mp h
        obtain ⟨e, hte, hs⟩ := isStatement_of_attempt hl hts ha
        exact ⟨e, r.tail, hte ▸ List.suffix_refl _, hs⟩
      | refused e r => rw [hf] at h; cases h
      | tooDeep r => rw [hf] at h; cases h
    · obtain ⟨e, rest, hsuf, hs⟩ := ih h
      exact ⟨e, rest, hsuf.trans ((List.tail_suffix _).trans (rest_statement last d ts)), hs⟩

/-- **A program is read without refusals** exactly if its tokens are its statements. -/
theorem program_eq_iff (hl : last.kind = .eof) :
    program last d ts = (ns, []) ↔ Statements (Within d Precedence.equality) ts ns := by
  constructor
  · intro h
    have := statements_of_program hl (congrArg Prod.snd h)
    rwa [h] at this
  · intro h
    induction h with
    | nil => exact program_nil last d
    | @cons e rest n ns hs _ ih =>
      obtain ⟨r, ha, rfl⟩ := attempt_of_isStatement hl hs
      have hne : e ++ r.tail ≠ [] := by simp [IsStatement.ne_nil hs]
      rw [program_of_ne_nil hne, statement, ha]
      dsimp only [settle]
      rw [ih]
      rfl

/-- Tokens are the statements of one program at most. -/
theorem statements_unique {ns' : List Node} (h : Statements (Derives Precedence.equality) ts ns)
    (h' : Statements (Derives Precedence.equality) ts ns') : ns = ns' := by
  -- reading decides between them, with any token for the end and a bound that serves for both
  have hl : (⟨.eof, "", none, 1, 1⟩ : Token).kind = .eof := rfl
  obtain ⟨d1, h1⟩ := h.exists_within
  obtain ⟨d2, h2⟩ := h'.exists_within
  have h1 := (program_eq_iff hl).mpr (h1.mono fun e T he => he.mono (Nat.le_max_left d1 d2))
  have h2 := (program_eq_iff hl).mpr (h2.mono fun e T he => he.mono (Nat.le_max_right d1 d2))
  exact (Prod.mk.inj (h1.symm.trans h2)).1

/-- A program in which nothing is nested too deeply is read without refusals exactly if the
grammar, which knows no bound, derives it. -/
theorem program_eq_iff_derives (hl : last.kind = .eof)
    (hd : ∀ r ∈ (program last d ts).2, r.cause ≠ .tooDeep) :
    program last d ts = (ns, []) ↔ Statements (Derives Precedence.equality) ts ns := by
  constructor
  · intro h
    exact ((program_eq_iff hl).mp h).mono fun e T he => he.derives
  · intro h
    obtain ⟨d', h'⟩ := h.exists_within
    have hm := (program_eq_iff hl).mpr (h'.mono fun e T he => he.mono (Nat.le_max_right d d'))
    rwa [program_of_le (Nat.le_max_left d d') hd] at hm

/-- **A source text is accepted exactly if the grammar derives it.** Let the text have the tokens
`ts`, and let nothing in it be nested too deeply. Then it is read as the program `p` without a
diagnostic exactly if its tokens, the end apart, are the statements of `p`, one after the other,
and they are the statements of no other program. -/
theorem parseSource_iff_statements {source : String} (h : tokenize source = .ok ts) {depth : Nat}
    {settings : Settings} {filename : String}
    (hd : ∀ p s, parseSource depth settings filename source = .ok p s →
      ∀ x ∈ s.diagnostics, x.cause ≠ .tooDeep) (p : Node) :
    ((∃ s, parseSource depth settings filename source = .ok p s ∧ s.diagnostics = #[]) ↔
      ∃ ns, p = .program ns ∧ Statements (Derives Precedence.equality) ts.dropLast ns) ∧
    ∀ ns ns', Statements (Derives Precedence.equality) ts.dropLast ns →
      Statements (Derives Precedence.equality) ts.dropLast ns' → ns = ns' := by
  refine ⟨?_, fun ns ns' => statements_unique⟩
  obtain ⟨us, last, rfl⟩ := exists_concat_of_tokenize h
  rw [List.dropLast_concat]
  obtain ⟨hl, -⟩ := ends_of_tokenize h
  obtain ⟨s, hr, hs⟩ := parseSource_run h depth settings filename
  have hdeep : ∀ r ∈ (program last depth us).2, r.cause ≠ .tooDeep := by
    intro r hmem
    have : r.diagnostic ∈ s.diagnostics.toList := hs ▸ List.mem_map_of_mem hmem
    exact hd _ _ hr r.diagnostic (Array.mem_toList_iff.mp this)
  constructor
  · rintro ⟨s', hr', hs'⟩
    cases hr.symm.trans hr'
    rw [hs'] at hs
    refine ⟨_, rfl, (program_eq_iff_derives hl hdeep).mp (Prod.ext rfl ?_)⟩
    exact List.map_eq_nil_iff.mp hs.symm
  · rintro ⟨ns, rfl, hns⟩
    have hp := (program_eq_iff_derives hl hdeep).mpr hns
    rw [hp] at hr hs
    exact ⟨s, hr, Array.toList_eq_nil_iff.mp hs⟩

/-- In `let x = 1 2; a` the definition has a tail, and the expression no semicolon. -/
theorem parseSource_iff_statements_tail :
    let source := "let x = 1 2; a"
    let ns := [.letStmt (.identifier "x") (.integer 1), .exprStmt (.identifier "a")]
    (∃ ts, tokenize source = .ok ts) ∧
      (∀ p s, parseSource nestingLimit .quiet "<stdin>" source = .ok p s →
        ∀ x ∈ s.diagnostics, x.cause ≠ .tooDeep) ∧
      ∃ s, parseSource nestingLimit .quiet "<stdin>" source = .ok (.program ns) s ∧
        s.diagnostics = #[] := by
  intro source ns
  let t (k : Kind) (literal : String) (value? : Option Int) (column : Nat) : Token :=
    ⟨k, literal, value?, 1, column⟩
  let us := [t .letWord "let" none 1, t .ident "x" none 5, t .assign "=" none 7,
    t .int "1" (some 1) 9, t .int "2" (some 2) 11, t .semicolon ";" none 12, t .ident "a" none 14]
  have h : tokenize source = .ok (us ++ [t .eof "" none 15]) := by cbv
  have hrefusals : (program (t .eof "" none 15) nestingLimit us).2 = [] := by cbv
  have hd : ∀ p s, parseSource nestingLimit .quiet "<stdin>" source = .ok p s →
      ∀ x ∈ s.diagnostics, x.cause ≠ .tooDeep := by
    intro p s hr x hx
    obtain ⟨s', hr', hs'⟩ := parseSource_run h nestingLimit .quiet "<stdin>"
    cases hr.symm.trans hr'
    rw [hrefusals, diagnostics, List.map_nil, Array.toList_eq_nil_iff] at hs'
    rw [hs'] at hx
    exact absurd hx (Array.not_mem_empty x)
  have hone : Derives Precedence.equality [t .int "1" (some 1) 9] (.integer 1) :=
    Derives.loosen (.integer rfl) (by decide)
  have ha : Derives Precedence.equality [t .ident "a" none 14] (.identifier "a") :=
    Derives.loosen (.identifier rfl) (by decide)
  have htail : Tail ([t .int "2" (some 2) 11] ++ [t .semicolon ";" none 12])
      ([t .ident "a" none 14] ++ []) :=
    .semicolon (by simp [NoOperator, t, Kind.binding?]) (by simp [t]) rfl
  have hlast : Statements (Derives Precedence.equality) ([t .ident "a" none 14] ++ [])
      [.exprStmt (.identifier "a")] :=
    .cons (.opened ha (by simp [NoOperator]) (by simp)) .nil
  have hfirst : IsStatement (Derives Precedence.equality)
      (t .letWord "let" none 1 :: t .ident "x" none 5 :: t .assign "=" none 7 ::
        ([t .int "1" (some 1) 9] ++ ([t .int "2" (some 2) 11] ++ [t .semicolon ";" none 12])))
      ([t .ident "a" none 14] ++ []) (.letStmt (.identifier "x") (.integer 1)) :=
    .definition rfl rfl rfl hone htail
  have hns : Statements (Derives Precedence.equality) _ ns := .cons hfirst hlast
  exact ⟨⟨_, h⟩, hd, (parseSource_iff_statements h hd _).1.mpr ⟨ns, rfl, hns⟩⟩

end Reader

end FrontEnd
