import FrontEnd.Proofs.Reader.Program

/-!
# The bound on nested readers

The bound can only make reading fail: with a larger one, whatever ends without reaching the bound
ends in the same way (`Ending.Below`).

* `expression_below`: expressions.
* `program_of_le`: a program in which nothing is nested too deeply is the same for each larger
  bound.
-/

namespace FrontEnd

/-- Unless nesting was too deep, the other ending is the same. -/
def Ending.Below {α : Type} (o o' : Ending α) : Prop := o.IsShallow → o' = o

namespace Reader

variable {α β : Type} {last : Token} {inner inner' : Inner} {d d' : Nat}

theorem below_refl (o : Ending α) : o.Below o := fun _ => rfl

theorem below_andThen {o o' : Ending α} {f f' : α → List Token → Ending β} (ho : o.Below o')
    (hf : ∀ a r, (f a r).Below (f' a r)) : (o.andThen f).Below (o'.andThen f') := by
  intro hs
  cases o with
  | done a r => rw [ho trivial]; exact hf a r hs
  | refused e r => rw [ho trivial]; rfl
  | tooDeep r => exact hs.elim

theorem operand_below (hi : ∀ p us, (inner p us).Below (inner' p us)) (ts : List Token) :
    (operand last inner ts).Below (operand last inner' ts) := by
  unfold operand
  dsimp only
  split
  case h_4 | h_5 | h_6 => exact below_andThen (hi _ _) fun a r => below_refl _
  case h_7 => exact below_andThen (hi _ _) fun a r => below_refl _
  all_goals exact below_refl _

theorem chain_below (hi : ∀ p us, (inner p us).Below (inner' p us)) (p : Int) (n : Nat)
    (left : Node) (ts : List Token) :
    (chain last inner p n left ts).Below (chain last inner' p n left ts) := by
  induction n generalizing left ts with
  | zero => exact below_refl _
  | succ n ih =>
    unfold chain
    dsimp only
    split
    · exact below_andThen (hi _ _) fun a r => ih _ r
    · exact below_refl _

theorem expression_below_succ (d : Nat) (p : Int) (ts : List Token) :
    (expression last d p ts).Below (expression last (d + 1) p ts) := by
  induction d generalizing p ts with
  | zero => exact fun hs => hs.elim
  | succ d ih => exact below_andThen (operand_below ih ts) fun a r => chain_below ih p _ a r

/-- **A larger bound changes nothing** for an expression that is not nested too deeply. -/
theorem expression_below (h : d ≤ d') (p : Int) (ts : List Token) :
    (expression last d p ts).Below (expression last d' p ts) := by
  induction h with
  | refl => exact below_refl _
  | step _ ih =>
    intro hs
    -- both readings end as the first one does, so the one between them is not too deep either
    have h1 := ih hs
    have h2 := expression_below_succ _ p ts (h1 ▸ hs)
    exact h2.trans h1

theorem attempt_below (last : Token) (h : d ≤ d') (ts : List Token) :
    (attempt last d ts).Below (attempt last d' ts) := by
  unfold attempt
  split
  · unfold letStatement
    dsimp only
    split
    · exact below_refl _
    · split
      · exact below_refl _
      · exact below_andThen (expression_below h _ _) fun a r => below_refl _
  · exact below_andThen (expression_below h _ _) fun a r => below_refl _
  · exact below_refl _
  · exact below_andThen (expression_below h _ _) fun a r => below_refl _

/-- A statement that is not refused for its nesting is the same for each larger bound. -/
theorem statement_of_le (h : d ≤ d') {ts : List Token}
    (hc : ∀ r ∈ (statement last d ts).refusal?, r.cause ≠ .tooDeep) :
    statement last d' ts = statement last d ts := by
  have hb := attempt_below last h ts
  unfold statement at hc ⊢
  cases ha : attempt last d ts with
  | done n r => rw [hb (ha ▸ trivial), ha]
  | refused e r => rw [hb (ha ▸ trivial), ha]
  | tooDeep r => rw [ha] at hc; exact absurd rfl (hc _ rfl)

/-- **A program in which nothing is nested too deeply** is the same for each larger bound. -/
theorem program_of_le (h : d ≤ d') {ts : List Token}
    (hc : ∀ r ∈ (program last d ts).2, r.cause ≠ .tooDeep) :
    program last d' ts = program last d ts := by
  fun_induction program last d ts with
  | case1 => exact program_nil last d'
  | case2 ts hts found later ih =>
    have hs : statement last d' ts = found := statement_of_le h fun r hr =>
      hc r (List.mem_append_left _ (Option.mem_toList.mpr hr))
    rw [program_of_ne_nil hts, hs, ih fun r hr => hc r (List.mem_append_right _ hr)]

end Reader

end FrontEnd
