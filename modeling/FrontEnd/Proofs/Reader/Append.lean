import FrontEnd.Proofs.Lexing.Append
import FrontEnd.Proofs.Reader.Places
import FrontEnd.Proofs.Reader.Source
import Mathlib

/-!
# A semicolon separates

No rule reads past a semicolon, whether it succeeds or not. So what is read from tokens with a
semicolon as the last one does not depend on what follows (`Ending.Carries`), and a program that
ends with a semicolon is read on its own, whatever is wrong with its statements.

* `expression_carries`: expressions.
* `program_append`: programs.
* `parseSource_append`: source texts, one below the other.
-/

namespace FrontEnd

/-- The last token is a semicolon. -/
def Closed (ts : List Token) : Prop := ∃ us t, ts = us ++ [t] ∧ t.kind = .semicolon

namespace Closed

variable {t : Token} {ts r : List Token}

theorem ne_nil (h : Closed ts) : ts ≠ [] := by
  obtain ⟨us, t, rfl, -⟩ := h
  simp

theorem exists_cons (h : Closed ts) : ∃ t us, ts = t :: us := List.exists_cons_of_ne_nil h.ne_nil

theorem suffix (h : Closed ts) (hr : r <:+ ts) (hne : r ≠ []) : Closed r := by
  obtain ⟨us, t, rfl, ht⟩ := h
  rcases List.suffix_concat_iff.mp hr with rfl | ⟨vs, rfl, -⟩
  · exact absurd rfl hne
  · exact ⟨vs, t, rfl, ht⟩

/-- Behind another token there are more. -/
theorem of_cons (h : Closed (t :: ts)) (ht : t.kind ≠ .semicolon) : Closed ts := by
  refine h.suffix (List.suffix_cons t ts) ?_
  rintro rfl
  obtain ⟨us, u, he, hu⟩ := h
  obtain ⟨-, he⟩ := List.append_inj' (show [] ++ [t] = us ++ [u] from he) rfl
  cases he
  exact ht hu

end Closed

/-- Behind the current token comes a semicolon at last. -/
def Ahead (ts : List Token) : Prop := Closed ts.tail

theorem Ahead.exists_cons {ts : List Token} (h : Ahead ts) :
    ∃ t us, ts = t :: us ∧ Closed us := by
  cases ts with
  | nil => exact absurd rfl h.ne_nil
  | cons t us => exact ⟨t, us, rfl, h⟩

theorem Ahead.ne_nil {ts : List Token} (h : Ahead ts) : ts ≠ [] := by
  obtain ⟨t, us, rfl, -⟩ := h.exists_cons
  simp

/-- **Nothing behind is seen.** The other ending is the same with more tokens behind it. The
semicolon is still to be read, and a result leaves tokens of which `P` holds. -/
def Ending.Carries {α : Type} (P : List Token → Prop) (more : List Token) (o o' : Ending α) :
    Prop :=
  match o with
  | .done a r => o' = .done a (r ++ more) ∧ P r
  | .refused e r => o' = .refused e (r ++ more) ∧ Closed r
  | .tooDeep r => o' = .tooDeep (r ++ more) ∧ Closed r

namespace Reader

variable {α β : Type} {last last' : Token} {inner inner' : Inner} {more ts : List Token} {d : Nat}

theorem Carries.andThen {P : List Token → Prop} {o o' : Ending α}
    {f f' : α → List Token → Ending β} (ho : o.Carries Ahead more o')
    (hf : ∀ a r, o = .done a r → Ahead r → (f a r).Carries P more (f' a (r ++ more))) :
    (o.andThen f).Carries P more (o'.andThen f') := by
  cases o with
  | done a r => rw [ho.1]; exact hf a r rfl ho.2
  | refused e r => rw [ho.1]; exact ⟨rfl, ho.2⟩
  | tooDeep r => rw [ho.1]; exact ⟨rfl, ho.2⟩

/-- A reader of inner expressions sees nothing behind a semicolon, and never goes back. -/
structure Local (more : List Token) (inner inner' : Inner) : Prop where
  carries : ∀ p ts, Closed ts → (inner p ts).Carries Ahead more (inner' p (ts ++ more))
  rest : ∀ p ts, (inner p ts).rest <:+ ts

theorem current_append (last last' : Token) (h : Closed ts) :
    current last' (ts ++ more) = current last ts := by
  obtain ⟨t, us, rfl⟩ := h.exists_cons
  rfl

theorem peek_append (last last' : Token) (h : Ahead ts) :
    peek last' (ts ++ more) = peek last ts := by
  obtain ⟨t, us, rfl, hus⟩ := h.exists_cons
  exact current_append last last' hus

theorem tail_append (h : ts ≠ []) : (ts ++ more).tail = ts.tail ++ more := by
  cases ts with
  | nil => exact absurd rfl h
  | cons t us => rfl

theorem unary_carries (hi : Local more inner inner') (h : Ahead ts) :
    (unary last inner ts).Carries Ahead more (unary last' inner' (ts ++ more)) := by
  obtain ⟨t, us, rfl, hus⟩ := h.exists_cons
  exact Carries.andThen (hi.carries _ us hus) fun right r _ hr => ⟨rfl, hr⟩

theorem grouped_carries (hi : Local more inner inner') (h : Ahead ts) :
    (grouped last inner ts).Carries Ahead more (grouped last' inner' (ts ++ more)) := by
  obtain ⟨t, us, rfl, hus⟩ := h.exists_cons
  refine Carries.andThen (hi.carries _ us hus) fun e r hdone hr => ?_
  rw [peek_append last last' hr]
  by_cases hk : (peek last r).kind = .rparen
  · rw [if_pos hk, if_pos hk]
    refine ⟨by rw [tail_append hr.ne_nil], ?_⟩
    -- what closes the parentheses is not the semicolon, so that one is behind it
    obtain ⟨x, r, rfl, hx⟩ := hr.exists_cons
    obtain ⟨y, rest, rfl⟩ := hx.exists_cons
    exact hx.of_cons (by rw [show y = peek last (x :: y :: rest) from rfl, hk]; decide)
  · rw [if_neg hk, if_neg hk]
    refine ⟨rfl, hus.suffix ?_ hr.ne_nil⟩
    have := hi.rest Precedence.lowest us
    rwa [show inner Precedence.lowest us = .done e r from hdone] at this

theorem operand_carries (hi : Local more inner inner') (h : Closed ts) :
    (operand last inner ts).Carries Ahead more (operand last' inner' (ts ++ more)) := by
  obtain ⟨t, us, rfl⟩ := h.exists_cons
  unfold operand
  rw [current_append last last' h]
  rw [current_cons]
  dsimp only
  split
  case h_1 hk | h_2 hk | h_3 hk => exact ⟨rfl, h.of_cons (by rw [hk]; decide)⟩
  case h_4 hk | h_5 hk | h_6 hk => exact unary_carries hi (h.of_cons (by rw [hk]; decide))
  case h_7 hk => exact grouped_carries hi (h.of_cons (by rw [hk]; decide))
  all_goals exact ⟨rfl, h⟩

/-- The chain of operators ends before the semicolon, so any two numbers of rounds that serve for
the tokens give the same. -/
theorem chain_carries (hi : Local more inner inner') (p : Int) {n m : Nat} (left : Node)
    (h : Ahead ts) (hn : ts.length ≤ n) (hm : ts.length ≤ m) :
    (chain last inner p n left ts).Carries Ahead more
      (chain last' inner' p m left (ts ++ more)) := by
  -- the two readings count their rounds on their own: the other one has more tokens before it
  induction n generalizing m left ts with
  | zero =>
    have : ts = [] := List.length_eq_zero_iff.mp (by omega)
    subst this
    exact absurd rfl h.ne_nil
  | succ n ih =>
    obtain ⟨x, us, rfl, hus⟩ := h.exists_cons
    obtain ⟨y, rest, rfl⟩ := hus.exists_cons
    obtain ⟨m, rfl⟩ : ∃ m', m = m' + 1 := ⟨m - 1, by simp at hm; omega⟩
    rw [chain, chain, peek_append last last' h]
    by_cases hc : Continues p (peek last (x :: y :: rest)).kind
    · rw [if_pos hc, if_pos hc]
      have hrest : Closed rest := by
        refine hus.of_cons fun hk => ?_
        rw [peek_cons_cons, hk] at hc
        cases hc.1
      refine Carries.andThen (hi.carries _ rest hrest) fun right r hdone hr => ?_
      have hlen : r.length ≤ rest.length := by
        have := (hi.rest (peek last (x :: y :: rest)).kind.precedence rest).length_le
        rwa [show inner _ rest = .done right r from hdone] at this
      simp only [List.length_cons] at hn hm
      exact ih _ hr (by omega) (by omega)
    · rw [if_neg hc, if_neg hc]
      exact ⟨rfl, h⟩

/-- **An expression does not see what is behind the semicolon.** -/
theorem expression_carries (last last' : Token) (more : List Token) (d : Nat) :
    Local more (expression last d) (expression last' d) := by
  refine ⟨?_, rest_expression d⟩
  induction d with
  | zero => exact fun p ts h => ⟨rfl, h⟩
  | succ d ih =>
    intro p ts h
    have hi : Local more (expression last d) (expression last' d) := ⟨ih, rest_expression d⟩
    refine Carries.andThen (operand_carries hi h) fun left r _ hr => ?_
    have hlen : r.length ≤ remaining (r ++ more) := by
      have := length_le_remaining (r ++ more)
      rw [List.length_append] at this
      omega
    exact chain_carries hi p left hr (length_le_remaining r) hlen

/-! ## Statements and programs -/

theorem skip_closed (h : Closed ts) (more : List Token) :
    skip (ts ++ more) = skip ts ++ more ∧ Closed (skip ts) := by
  obtain ⟨us, t, rfl, ht⟩ := h
  induction us with
  | nil => exact ⟨by simp [skip, ht], ⟨[], t, by simp [skip, ht], ht⟩⟩
  | cons u us ih =>
    by_cases hu : u.kind = .semicolon
    · exact ⟨by simp [skip, hu], ⟨u :: us, t, by simp [skip, hu], ht⟩⟩
    · simpa [skip, hu] using ih

theorem skip_ahead (h : Ahead ts) (more : List Token) :
    skip (ts ++ more) = skip ts ++ more ∧ skip ts ≠ [] := by
  obtain ⟨t, us, rfl, vs, u, rfl, hu⟩ := h.exists_cons
  have := skip_closed ⟨t :: vs, u, rfl, hu⟩ more
  exact ⟨this.1, this.2.ne_nil⟩

theorem attempt_carries (h : Closed ts) :
    (attempt last d ts).Carries (· ≠ []) more (attempt last' d (ts ++ more)) := by
  have he := (expression_carries last last' more d).carries
  obtain ⟨t, us, rfl⟩ := h.exists_cons
  unfold attempt
  rw [current_append last last' h]
  split
  case h_1 hk =>
    have hus : Closed us := h.of_cons (by rw [show t.kind = .letWord from hk]; decide)
    unfold letStatement
    dsimp only
    rw [peek_append last last' (show Ahead (t :: us) from hus)]
    split
    · exact ⟨rfl, h⟩
    · rename_i hname
      obtain ⟨name, vs, rfl⟩ := hus.exists_cons
      have hvs : Closed vs := hus.of_cons (by
        rw [show name.kind = .ident from not_not.mp hname]; decide)
      rw [show (t :: name :: vs ++ more).tail = name :: vs ++ more from rfl,
        show (t :: name :: vs).tail = name :: vs from rfl,
        peek_append last last' (show Ahead (name :: vs) from hvs)]
      split
      · exact ⟨rfl, hus⟩
      · rename_i hsign
        obtain ⟨sign, ws, rfl⟩ := hvs.exists_cons
        have hws : Closed ws := hvs.of_cons (by
          rw [show sign.kind = .assign from not_not.mp hsign]; decide)
        exact Carries.andThen (he _ ws hws) fun value r _ hr =>
          ⟨by rw [(skip_ahead hr more).1], (skip_ahead hr more).2⟩
  case h_2 hk =>
    have hus : Closed us := h.of_cons (by rw [show t.kind = .returnWord from hk]; decide)
    exact Carries.andThen (he _ us hus) fun value r _ hr =>
      ⟨by rw [(skip_ahead hr more).1], (skip_ahead hr more).2⟩
  case h_3 => exact ⟨rfl, h.ne_nil⟩
  case h_4 =>
    refine Carries.andThen (he _ _ h) fun e r _ hr => ?_
    rw [peek_append last last' hr]
    split
    · exact ⟨by rw [tail_append hr.ne_nil], Closed.ne_nil hr⟩
    · exact ⟨rfl, hr.ne_nil⟩

/-- **A statement ends before what is behind the semicolon**, whether it is read or refused. -/
theorem statement_append (last last' : Token) (d : Nat) (h : Closed ts) (more : List Token) :
    statement last' d (ts ++ more) =
        { statement last d ts with rest := (statement last d ts).rest ++ more } ∧
      (statement last d ts).rest ≠ [] := by
  have hs : (attempt last d ts).Carries _ more (attempt last' d (ts ++ more)) := attempt_carries h
  rw [statement, statement, current_append last last' h]
  cases ha : attempt last d ts with rw [ha] at hs
  | done n r => rw [hs.1]; exact ⟨rfl, hs.2⟩
  | refused e r =>
    rw [hs.1]
    exact ⟨by rw [settle, settle, (skip_closed hs.2 more).1],
      (skip_closed hs.2 more).2.ne_nil⟩
  | tooDeep r =>
    rw [hs.1]
    exact ⟨by rw [settle, settle, (skip_closed hs.2 more).1],
      (skip_closed hs.2 more).2.ne_nil⟩

/-- **A semicolon separates programs**, whatever is wrong with the statements before it. -/
theorem program_append (last last' : Token) (d : Nat) (h : ts = [] ∨ Closed ts)
    (more : List Token) :
    program last' d (ts ++ more) =
      ((program last d ts).1 ++ (program last' d more).1,
        (program last d ts).2 ++ (program last' d more).2) := by
  fun_induction program last d ts with
  | case1 => rfl
  | case2 ts hts found later ih =>
    have hc : Closed ts := h.resolve_left hts
    obtain ⟨hs, hne⟩ := statement_append last last' d hc more
    -- what a statement leaves of the first tokens still ends with their semicolon
    have hrest : found.rest.tail = [] ∨ Closed found.rest.tail := by
      by_cases hnil : found.rest.tail = []
      · exact Or.inl hnil
      · have hsuf : found.rest.tail <:+ ts :=
          (List.tail_suffix _).trans (rest_statement last d ts)
        exact Or.inr (hc.suffix hsuf hnil)
    have hmore : ts ++ more ≠ [] := by simp [hts]
    rw [program_of_ne_nil hmore, hs]
    dsimp only
    rw [tail_append hne, ih hrest]
    simp only [List.append_assoc]
    rfl

/-! ## Source texts -/

theorem places_lower (n : Nat) : Places (Token.lower n) :=
  ⟨fun _ => rfl, fun _ => rfl, fun _ => rfl⟩

end Reader

/-- The diagnostic some lines lower. -/
def Diagnostic.lower (lines : Nat) (d : Diagnostic) : Diagnostic :=
  { d with line := d.line + lines }

namespace Reader

theorem diagnostics_map_lower (n : Nat) (rs : List Refusal) :
    diagnostics (rs.map (Refusal.map (Token.lower n))) =
      (diagnostics rs).map (Diagnostic.lower n) := by
  rw [diagnostics, diagnostics, List.map_map, List.map_map]
  rfl

end Reader

end FrontEnd
