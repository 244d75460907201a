import FrontEnd.Proofs.Reader.Basic

/-!
# The grammar of expressions

Expressions stand at levels, one for each precedence of binary operators and a tightest one for
operators before their operand, names, literals and parentheses (`Derives`). A binary operator
of a level has an operand of that level on its left and a tighter one on its right, so operators
of one level group to the left.

`Within` is the same grammar with a bound on how many readers are at work one inside the other:
an operand in parentheses, one behind its operator and the right one of a binary operator
each take one more.

* `Within.mono`, `Within.loosen`: larger bounds and looser levels.
* `Derives.exists_within`: each expression is read within some bound.
* `Stops`: the token behind an expression does not continue it.
-/

namespace FrontEnd

open Reader

/-- The level of the expressions whose operators all bind tighter than `p`. -/
def Precedence.above (p : Nat) : Nat := min (p + 1) Precedence.unary

/-- **The stratified grammar.** `Derives k e T`: the tokens `e` are an expression of level `k`,
and `T` is its tree. -/
inductive Derives : Nat → List Token → Node → Prop
  | binary {k : Nat} {l r : List Token} {L R : Node} {op : Token} :
      Derives k l L → op.kind.binding? = some k → Derives (k + 1) r R →
      Derives k (l ++ op :: r) (.binary L op.kind.text R)
  | tighter {k : Nat} {e : List Token} {T : Node} :
      k < Precedence.unary → Derives (k + 1) e T → Derives k e T
  | unary {op : Token} {e : List Token} {T : Node} :
      op.kind.isUnary → Derives Precedence.unary e T →
      Derives Precedence.unary (op :: e) (.unary op.kind.text T)
  | identifier {t : Token} :
      t.kind = .ident → Derives Precedence.unary [t] (.identifier t.literal)
  | integer {t : Token} :
      t.kind = .int → Derives Precedence.unary [t] (.integer (t.value?.getD 0))
  | string {t : Token} :
      t.kind = .string → Derives Precedence.unary [t] (.string t.literal)
  | grouped {opening closing : Token} {e : List Token} {T : Node} :
      opening.kind = .lparen → closing.kind = .rparen → Derives Precedence.equality e T →
      Derives Precedence.unary (opening :: e ++ [closing]) T

/-- **The grammar with readers counted.** `Within d k e T`: as `Derives k e T`, with at most `d`
readers at work one inside the other. -/
inductive Within : Nat → Nat → List Token → Node → Prop
  | binary {d k : Nat} {l r : List Token} {L R : Node} {op : Token} :
      Within (d + 1) k l L → op.kind.binding? = some k → Within d (k + 1) r R →
      Within (d + 1) k (l ++ op :: r) (.binary L op.kind.text R)
  | tighter {d k : Nat} {e : List Token} {T : Node} :
      k < Precedence.unary → Within d (k + 1) e T → Within d k e T
  | unary {d : Nat} {op : Token} {e : List Token} {T : Node} :
      op.kind.isUnary → Within d Precedence.unary e T →
      Within (d + 1) Precedence.unary (op :: e) (.unary op.kind.text T)
  | identifier {d : Nat} {t : Token} :
      t.kind = .ident → Within (d + 1) Precedence.unary [t] (.identifier t.literal)
  | integer {d : Nat} {t : Token} :
      t.kind = .int → Within (d + 1) Precedence.unary [t] (.integer (t.value?.getD 0))
  | string {d : Nat} {t : Token} :
      t.kind = .string → Within (d + 1) Precedence.unary [t] (.string t.literal)
  | grouped {d : Nat} {opening closing : Token} {e : List Token} {T : Node} :
      opening.kind = .lparen → closing.kind = .rparen → Within d Precedence.equality e T →
      Within (d + 1) Precedence.unary (opening :: e ++ [closing]) T

/-- The token behind an expression, if there is one, is no operator that binds tighter than `p`. -/
def Stops (p : Nat) (rest : List Token) : Prop := ∀ t ∈ rest.head?, ¬Continues p t.kind

/-! ## Levels -/

theorem Kind.binding?_bounds {k : Kind} {b : Nat} (h : k.binding? = some b) :
    Precedence.lowest < b ∧ b < Precedence.unary := by
  cases k <;> cases h <;> decide

theorem continues_iff {p : Int} {k : Kind} :
    Continues p k ↔ ∃ b, k.binding? = some b ∧ p < b := by
  unfold Continues Kind.precedence
  cases hb : k.binding? with
  | none => simp
  | some b => simp

theorem not_continues_of_none {p : Int} {k : Kind} (h : k.binding? = none) : ¬Continues p k := by
  rw [continues_iff, h]
  exact fun ⟨_, hb, _⟩ => nomatch hb

theorem precedence_of_binding? {k : Kind} {b : Nat} (h : k.binding? = some b) :
    k.precedence = b := by
  rw [Kind.precedence, h]
  rfl

/-- The level above an operator's own is the next one. -/
theorem above_binding {k : Kind} {b : Nat} (h : k.binding? = some b) :
    Precedence.above b = b + 1 := by
  have := (Kind.binding?_bounds h).2
  unfold Precedence.above
  omega

/-- An operator of a level that stands above `p` binds tighter than `p`. -/
theorem lt_of_above_le {p b : Nat} {k : Kind} (h : k.binding? = some b)
    (hp : Precedence.above p ≤ b) : p < b := by
  have := (Kind.binding?_bounds h).2
  unfold Precedence.above at hp
  omega

theorem above_le_unary (p : Nat) : Precedence.above p ≤ Precedence.unary := Nat.min_le_right ..

theorem stops_nil (p : Nat) : Stops p [] := fun _ ht => nomatch ht

theorem stops_cons {p : Nat} {t : Token} {rest : List Token} :
    Stops p (t :: rest) ↔ ¬Continues p t.kind := by
  simp [Stops]

theorem Stops.mono {p q : Nat} {rest : List Token} (h : Stops p rest) (hpq : p ≤ q) :
    Stops q rest := by
  intro t ht hc
  obtain ⟨b, hb, hlt⟩ := continues_iff.mp hc
  exact h t ht (continues_iff.mpr ⟨b, hb, by omega⟩)

/-- Nothing binds tighter than the tightest level. -/
theorem stops_unary (rest : List Token) : Stops Precedence.unary rest := by
  intro t _ hc
  obtain ⟨b, hb, hlt⟩ := continues_iff.mp hc
  have := (Kind.binding?_bounds hb).2
  omega

theorem Stops.above {p : Nat} {rest : List Token} (h : Stops p rest) :
    Stops (Precedence.above p) rest := by
  rcases Nat.le_total (p + 1) Precedence.unary with hp | hp
  · exact h.mono (by unfold Precedence.above; omega)
  · rw [show Precedence.above p = Precedence.unary from Nat.min_eq_right hp]
    exact stops_unary rest

/-! ## The bounded grammar -/

variable {d d' k j : Nat} {e : List Token} {T : Node}

theorem Within.level_le (h : Within d k e T) : k ≤ Precedence.unary := by
  induction h with
  | binary _ hb => exact Nat.le_of_lt (Kind.binding?_bounds hb).2
  | tighter hk => exact Nat.le_of_lt hk
  | unary | identifier | integer | string | grouped => exact Nat.le_refl _

/-- An expression of a level is one of each looser level. -/
theorem Within.loosen (h : Within d k e T) (hj : j ≤ k) : Within d j e T := by
  obtain ⟨n, rfl⟩ := Nat.exists_eq_add_of_le hj
  clear hj
  induction n with
  | zero => exact h
  | succ n ih => exact ih (.tighter h.level_le h)

theorem Within.succ (h : Within d k e T) : Within (d + 1) k e T := by
  induction h with
  | binary _ hb _ ihl ihr => exact .binary ihl hb ihr
  | tighter hk _ ih => exact .tighter hk ih
  | unary ho _ ih => exact .unary ho ih
  | identifier ht => exact .identifier ht
  | integer ht => exact .integer ht
  | string ht => exact .string ht
  | grouped ho hc _ ih => exact .grouped ho hc ih

theorem Within.mono (h : Within d k e T) (hd : d ≤ d') : Within d' k e T := by
  induction hd with
  | refl => exact h
  | step _ ih => exact ih.succ

theorem Within.derives (h : Within d k e T) : Derives k e T := by
  induction h with
  | binary _ hb _ ihl ihr => exact .binary ihl hb ihr
  | tighter hk _ ih => exact .tighter hk ih
  | unary ho _ ih => exact .unary ho ih
  | identifier ht => exact .identifier ht
  | integer ht => exact .integer ht
  | string ht => exact .string ht
  | grouped ho hc _ ih => exact .grouped ho hc ih

/-- **Each expression is read within some bound.** -/
theorem Derives.exists_within (h : Derives k e T) : ∃ d, Within d k e T := by
  induction h with
  | binary _ hb _ ihl ihr =>
    obtain ⟨d1, h1⟩ := ihl
    obtain ⟨d2, h2⟩ := ihr
    exact ⟨max d1 d2 + 1, .binary (h1.mono (by omega)) hb (h2.mono (by omega))⟩
  | tighter hk _ ih =>
    obtain ⟨d, hd⟩ := ih
    exact ⟨d, .tighter hk hd⟩
  | unary ho _ ih =>
    obtain ⟨d, hd⟩ := ih
    exact ⟨d + 1, .unary ho hd⟩
  | identifier ht => exact ⟨1, .identifier ht⟩
  | integer ht => exact ⟨1, .integer ht⟩
  | string ht => exact ⟨1, .string ht⟩
  | grouped ho hc _ ih =>
    obtain ⟨d, hd⟩ := ih
    exact ⟨d + 1, .grouped ho hc hd⟩

theorem Derives.loosen (h : Derives k e T) (hj : j ≤ k) : Derives j e T := by
  obtain ⟨d, hd⟩ := h.exists_within
  exact (hd.loosen hj).derives

end FrontEnd
