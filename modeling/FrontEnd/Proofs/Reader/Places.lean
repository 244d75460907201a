import FrontEnd.Proofs.Node.Strings
import FrontEnd.Proofs.Reader.Program

/-!
# Reading does not depend on places

What is read is decided by the kinds, literals and values of tokens. Tokens at other places are
read in the same way (`Places`), and a refusal names the token at its other place. What a string
literal says decides nothing but the contents of its node: tokens that say something else in their
strings are read in the same way too, with these contents (`Recasts`).

* `expression_recast`, `program_recast`: expressions and programs with other strings.
* `expression_map`, `program_map`: expressions and programs at other places.
-/

namespace FrontEnd

/-- **Tokens are changed in their places and their strings only**: what the string literals say is
changed by `g`. An invalid token keeps the reason for which it is refused. -/
structure Recasts (g : String → String) (f : Token → Token) : Prop where
  kind : ∀ t, (f t).kind = t.kind
  value? : ∀ t, (f t).value? = t.value?
  ident : ∀ t, t.kind = .ident → (f t).literal = t.literal
  string : ∀ t, t.kind = .string → (f t).literal = g t.literal
  illegal : ∀ t, t.kind = .illegal →
    Reader.illegalCause (f t).literal = Reader.illegalCause t.literal

/-- Tokens are changed in their places only. -/
structure Places (f : Token → Token) : Prop where
  kind : ∀ t, (f t).kind = t.kind
  literal : ∀ t, (f t).literal = t.literal
  value? : ∀ t, (f t).value? = t.value?

theorem Places.recasts {f : Token → Token} (hf : Places f) : Recasts id f where
  kind := hf.kind
  value? := hf.value?
  ident t _ := hf.literal t
  string t _ := hf.literal t
  illegal t _ := by rw [hf.literal]

/-- The refusal of another token. -/
def Refusal.map (f : Token → Token) (r : Refusal) : Refusal := ⟨f r.token, r.cause⟩

namespace Ending

variable {α α' β β' : Type}

/-- The ending with another result and other tokens. -/
def map (k : α → β) (f : Token → Token) : Ending α → Ending β
  | done a rest => done (k a) (rest.map f)
  | refused r rest => refused (r.map f) (rest.map f)
  | tooDeep rest => tooDeep (rest.map f)

theorem map_andThen {k : α → α'} {m : β → β'} {f : Token → Token} (o : Ending α)
    {u : α → List Token → Ending β} {u' : α' → List Token → Ending β'}
    (hu : ∀ a r, u' (k a) (r.map f) = (u a r).map m f) :
    (o.map k f).andThen u' = (o.andThen u).map m f := by
  cases o with
  | done a r => exact hu a r
  | refused e r => rfl
  | tooDeep r => rfl

end Ending

namespace Reader

open Node

variable {g : String → String} {f : Token → Token} {last : Token} {inner inner' : Inner} {d : Nat}

theorem current_map (f : Token → Token) (last : Token) (ts : List Token) :
    current (f last) (ts.map f) = f (current last ts) := by
  cases ts <;> rfl

theorem peek_map (f : Token → Token) (last : Token) (ts : List Token) :
    peek (f last) (ts.map f) = f (peek last ts) := by
  rw [peek, ← List.map_tail]
  exact current_map f last ts.tail

/-! ## Other strings -/

theorem unary_recast (hf : Recasts g f)
    (hi : ∀ p us, inner' p (us.map f) = (inner p us).map (mapStrings g) f) (ts : List Token) :
    unary (f last) inner' (ts.map f) = (unary last inner ts).map (mapStrings g) f := by
  rw [unary, ← List.map_tail, hi]
  refine Ending.map_andThen _ fun right r => ?_
  rw [current_map, hf.kind, Ending.map, mapStrings]

theorem grouped_recast (hf : Recasts g f)
    (hi : ∀ p us, inner' p (us.map f) = (inner p us).map (mapStrings g) f) (ts : List Token) :
    grouped (f last) inner' (ts.map f) = (grouped last inner ts).map (mapStrings g) f := by
  rw [grouped, ← List.map_tail, hi]
  refine Ending.map_andThen _ fun e r => ?_
  rw [peek_map, hf.kind]
  split
  · rw [← List.map_tail]; rfl
  · rfl

theorem operand_recast (hf : Recasts g f)
    (hi : ∀ p us, inner' p (us.map f) = (inner p us).map (mapStrings g) f) (ts : List Token) :
    operand (f last) inner' (ts.map f) = (operand last inner ts).map (mapStrings g) f := by
  unfold operand
  rw [current_map]
  dsimp only
  rw [hf.kind, hf.value?]
  split
  case h_1 hk => rw [hf.ident _ hk, Ending.map, mapStrings]
  case h_2 => rw [Ending.map, mapStrings]
  case h_3 hk => rw [hf.string _ hk, Ending.map, mapStrings]
  case h_4 | h_5 | h_6 => exact unary_recast hf hi ts
  case h_7 => exact grouped_recast hf hi ts
  case h_8 hk => rw [hf.illegal _ hk, Ending.map, Refusal.map]
  case h_9 => rfl

theorem chain_recast (hf : Recasts g f)
    (hi : ∀ p us, inner' p (us.map f) = (inner p us).map (mapStrings g) f) (p : Int) (n : Nat)
    (left : Node) (ts : List Token) :
    chain (f last) inner' p n (left.mapStrings g) (ts.map f) =
      (chain last inner p n left ts).map (mapStrings g) f := by
  induction n generalizing left ts with
  | zero => rfl
  | succ n ih =>
    rw [chain, peek_map, hf.kind, chain]
    split
    · rw [← List.map_tail, ← List.map_tail, hi]
      refine Ending.map_andThen _ fun right r => ?_
      rw [← ih, mapStrings]
    · rfl

/-- **Expressions with other strings** are read in the same way, with these strings. -/
theorem expression_recast (hf : Recasts g f) (last : Token) (d : Nat) (p : Int)
    (ts : List Token) :
    expression (f last) d p (ts.map f) = (expression last d p ts).map (mapStrings g) f := by
  induction d generalizing p ts with
  | zero => rfl
  | succ d ih =>
    rw [expression, operand_recast hf ih]
    refine Ending.map_andThen _ fun left r => ?_
    have hr : remaining (r.map f) = remaining r := by
      rw [remaining, remaining, ← List.map_drop, List.length_map]
    rw [hr]
    exact chain_recast hf ih p _ left r

theorem skip_recast (hf : Recasts g f) (ts : List Token) :
    skip (ts.map f) = (skip ts).map f := by
  induction ts with
  | nil => rfl
  | cons t ts ih =>
    by_cases ht : t.kind = .semicolon
    · simp [skip, hf.kind, ht]
    · simpa [skip, hf.kind, ht] using ih

theorem letStatement_recast (hf : Recasts g f) (last : Token) (d : Nat) (ts : List Token) :
    letStatement (f last) d (ts.map f) =
      (letStatement last d ts).map (mapStrings g) f := by
  unfold letStatement
  dsimp only
  rw [peek_map, hf.kind, ← List.map_tail, peek_map, hf.kind]
  split
  · rfl
  · rename_i hname
    rw [hf.ident _ (not_not.mp hname)]
    split
    · rfl
    · rw [← List.map_tail, ← List.map_tail, expression_recast hf]
      refine Ending.map_andThen _ fun value r => ?_
      rw [skip_recast hf, Ending.map, mapStrings, mapStrings]

theorem attempt_recast (hf : Recasts g f) (last : Token) (d : Nat) (ts : List Token) :
    attempt (f last) d (ts.map f) = (attempt last d ts).map (mapStrings g) f := by
  unfold attempt
  rw [current_map, hf.kind]
  split
  · exact letStatement_recast hf last d ts
  · rw [returnStatement, ← List.map_tail, expression_recast hf]
    refine Ending.map_andThen _ fun value r => ?_
    rw [skip_recast hf, Ending.map, mapStrings]
  · rfl
  · rw [exprStatement, expression_recast hf]
    refine Ending.map_andThen _ fun e r => ?_
    rw [peek_map, hf.kind, ← List.map_tail, Ending.map, mapStrings]
    split <;> rfl

/-- What is found, with other strings and other tokens. -/
def Found.map (g : String → String) (f : Token → Token) (x : Found) : Found :=
  ⟨x.node?.map (mapStrings g), x.refusal?.map (Refusal.map f), x.rest.map f⟩

theorem statement_recast (hf : Recasts g f) (last : Token) (d : Nat) (ts : List Token) :
    statement (f last) d (ts.map f) = (statement last d ts).map g f := by
  rw [statement, statement, attempt_recast hf, current_map]
  cases attempt last d ts with
  | done n r => rfl
  | refused e r => simp [settle, Ending.map, Found.map, skip_recast hf]
  | tooDeep r => simp [settle, Ending.map, Found.map, Refusal.map, skip_recast hf]

/-- **Programs with other strings** are read in the same way, with these strings. -/
theorem program_recast (hf : Recasts g f) (last : Token) (d : Nat) (ts : List Token) :
    program (f last) d (ts.map f) =
      ((program last d ts).1.map (mapStrings g), (program last d ts).2.map (Refusal.map f)) := by
  fun_induction program last d ts with
  | case1 => exact program_nil _ d
  | case2 ts hts found later ih =>
    have hne : ts.map f ≠ [] := fun h => hts (List.map_eq_nil_iff.mp h)
    have hfound : statement (f last) d (ts.map f) = found.map g f := statement_recast hf last d ts
    have hlater : program (f last) d (found.map g f).rest.tail =
        (later.1.map (mapStrings g), later.2.map (Refusal.map f)) := by
      rw [Found.map, ← List.map_tail]
      exact ih
    rw [program_of_ne_nil hne, hfound, hlater]
    cases hn : found.node? <;> cases hr : found.refusal? <;> simp [Found.map, hn, hr]

/-! ## Other places -/

/-- **Expressions at other places** are read in the same way. -/
theorem expression_map (hf : Places f) (last : Token) (d : Nat) (p : Int) (ts : List Token) :
    expression (f last) d p (ts.map f) = (expression last d p ts).map id f := by
  rw [expression_recast hf.recasts, mapStrings_id_eq]

/-- **Programs at other places** are read in the same way. -/
theorem program_map (hf : Places f) (last : Token) (d : Nat) (ts : List Token) :
    program (f last) d (ts.map f) =
      ((program last d ts).1, (program last d ts).2.map (Refusal.map f)) := by
  rw [program_recast hf.recasts, mapStrings_id_eq, List.map_id]

end Reader

end FrontEnd
