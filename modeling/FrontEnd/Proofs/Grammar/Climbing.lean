import FrontEnd.Proofs.Grammar.Expression
import FrontEnd.Proofs.Reader.Depth

/-!
# Precedence climbing reads the grammar

Reading an expression with a level to beat finds the expression of the grammar that begins at the
current token and is not continued behind it, and stops on its last token.

* `within_of_done`: what is read is an expression, within the bound of the reader.
* `done_of_within`: an expression within the bound is read if nothing continues it.
* `length_le_of_done`: no expression that begins there is longer than the one read.
-/

namespace FrontEnd.Reader

variable {last : Token} {inner : Inner} {d : Nat}

/-! ## Sound: what is read is an expression -/

/-- What was read of `ts`, the current token included, is an expression of level `k`. -/
def Reads (d k : Nat) (ts : List Token) (T : Node) (out : List Token) : Prop :=
  ∃ e x rest, ts = e ++ x :: rest ∧ out = x :: rest ∧ Within d k (e ++ [x]) T

/-- A reader of inner expressions finds expressions that are not continued. -/
def Sound (d : Nat) (inner : Inner) : Prop :=
  ∀ (p : Nat) ts T out, inner p ts = .done T out →
    Reads d (Precedence.above p) ts T out ∧ Stops p out.tail

theorem reads_operand (hi : Sound d inner) (hl : last.kind = .eof) {ts out : List Token} {T : Node}
    (h : operand last inner ts = .done T out) :
    Reads (d + 1) Precedence.unary ts T out := by
  cases ts with
  | nil =>
    have hk : (current last []).kind = .eof := hl
    simp only [operand, hk] at h
    cases h
  | cons t us =>
    simp only [operand, current_cons] at h
    -- the three signs before an operand are read in one way
    have hu : t.kind.isUnary → unary last inner (t :: us) = .done T out →
        Reads (d + 1) Precedence.unary (t :: us) T out := by
      intro hk hun
      obtain ⟨R, r, hr, hd⟩ := Ending.andThen_eq_done hun
      obtain ⟨⟨e, x, rest, rfl : us = _, rfl, hw⟩, -⟩ := hi Precedence.unary us R r hr
      cases hd
      exact ⟨t :: e, x, rest, rfl, rfl, .unary hk hw⟩
    split at h
    case h_1 hk => cases h; exact ⟨[], t, us, rfl, rfl, .identifier hk⟩
    case h_2 hk => cases h; exact ⟨[], t, us, rfl, rfl, .integer hk⟩
    case h_3 hk => cases h; exact ⟨[], t, us, rfl, rfl, .string hk⟩
    case h_4 hk => exact hu (by rw [hk]; rfl) h
    case h_5 hk => exact hu (by rw [hk]; rfl) h
    case h_6 hk => exact hu (by rw [hk]; rfl) h
    case h_7 hk =>
      obtain ⟨E, r, hr, hd⟩ := Ending.andThen_eq_done h
      obtain ⟨⟨e, x, rest, rfl : us = _, rfl, hw⟩, -⟩ := hi Precedence.lowest us E r hr
      split at hd
      · rename_i hp
        cases hd
        cases rest with
        | nil => cases hp.symm.trans hl
        | cons c rest =>
          exact ⟨t :: e ++ [x], c, rest, by simp, rfl, .grouped hk hp hw⟩
      · cases hd
    all_goals cases h

theorem reads_chain (hi : Sound d inner) (hl : last.kind = .eof) {p k n : Nat} {x : Token}
    {e rest out : List Token} {left T : Node} (hk : Precedence.above p ≤ k)
    (hw : Within (d + 1) k (e ++ [x]) left) (hs : Stops k rest) (hn : rest.length ≤ n)
    (h : chain last inner p n left (x :: rest) = .done T out) :
    Reads (d + 1) (Precedence.above p) (e ++ x :: rest) T out ∧ Stops p out.tail := by
  -- the level of what is read so far falls with each operator: nothing behind binds tighter
  induction n generalizing k x e rest left with
  | zero =>
    cases h
    have : rest = [] := List.length_eq_zero_iff.mp (by omega)
    subst this
    exact ⟨⟨e, x, [], rfl, rfl, hw.loosen hk⟩, stops_nil p⟩
  | succ n ih =>
    cases rest with
    | nil =>
      have hc : ¬Continues p (peek last [x]).kind := not_continues_of_none (hl ▸ rfl)
      rw [chain, if_neg hc] at h
      cases h
      exact ⟨⟨e, x, [], rfl, rfl, hw.loosen hk⟩, stops_nil p⟩
    | cons op rest =>
      rw [chain, peek_cons_cons] at h
      by_cases hc : Continues p op.kind
      · rw [if_pos hc] at h
        obtain ⟨b, hb, hpb⟩ := continues_iff.mp hc
        -- the operator binds no tighter than the expression so far, so that one is its left operand
        have hbk : b ≤ k := by
          by_contra hlt
          exact stops_cons.mp hs (continues_iff.mpr ⟨b, hb, by omega⟩)
        rw [precedence_of_binding? hb] at h
        obtain ⟨R, r, hr, hd⟩ := Ending.andThen_eq_done h
        obtain ⟨⟨e2, y, rest2, rfl : rest = _, rfl, hw2⟩, hs2⟩ := hi b rest R r hr
        rw [above_binding hb] at hw2
        have hw' : Within (d + 1) b ((e ++ x :: op :: e2) ++ [y])
            (.binary left op.kind.text R) := by
          have := Within.binary (hw.loosen hbk) hb hw2
          simpa using this
        have hkb : Precedence.above p ≤ b := by unfold Precedence.above; omega
        have hlen : rest2.length ≤ n := by simp at hn; omega
        have := ih hkb hw' hs2 hlen hd
        simpa using this
      · rw [if_neg hc] at h
        cases h
        exact ⟨⟨e, x, op :: rest, rfl, rfl, hw.loosen hk⟩, stops_cons.mpr hc⟩

theorem le_remaining (x : Token) (rest : List Token) : rest.length ≤ remaining (x :: rest) :=
  Nat.le_trans (Nat.le_succ _) (length_le_remaining (x :: rest))

/-- **What is read is an expression** within the bound, and nothing continues it. -/
theorem within_of_done (hl : last.kind = .eof) (d : Nat) : Sound d (expression last d) := by
  induction d with
  | zero => intro p ts T out h; cases h
  | succ d ih =>
    intro p ts T out h
    obtain ⟨left, r, hr, hd⟩ := Ending.andThen_eq_done h
    obtain ⟨e, x, rest, rfl, rfl, hw⟩ := reads_operand ih hl hr
    exact reads_chain ih hl (above_le_unary p) hw (stops_unary rest) (le_remaining x rest) hd

/-! ## Complete: an expression is read -/

theorem chain_stops (hl : last.kind = .eof) {p : Nat} {rest : List Token} (hs : Stops p rest)
    (n : Nat) (left : Node) (x : Token) :
    chain last inner p n left (x :: rest) = .done left (x :: rest) := by
  cases n with
  | zero => rfl
  | succ n =>
    have hc : ¬Continues p (peek last (x :: rest)).kind := by
      cases rest with
      | nil => exact not_continues_of_none (hl ▸ rfl)
      | cons t rest => exact stops_cons.mp hs
    rw [chain, if_neg hc]

/-- An expression in parentheses is an operand. -/
theorem operand_of_grouped {t c x : Token} {us rest : List Token} {T : Node}
    (ht : t.kind = .lparen) (hc : c.kind = .rparen)
    (h : inner Precedence.lowest us = .done T (x :: c :: rest)) :
    operand last inner (t :: us) = .done T (c :: rest) := by
  simp only [operand, current_cons, ht]
  rw [grouped, List.tail_cons, h, Ending.andThen]
  rw [peek_cons_cons, if_pos hc]
  rfl

/-- A round of the chain takes an operator that binds tighter. -/
theorem chain_of_lt {p b n : Nat} {x op : Token} {left : Node} {ts : List Token}
    (hb : op.kind.binding? = some b) (hp : p < b) :
    chain last inner p (n + 1) left (x :: op :: ts) = (inner b ts).andThen fun right rest =>
      chain last inner p n (.binary left op.kind.text right) rest := by
  have hc : Continues p op.kind := continues_iff.mpr ⟨b, hb, by omega⟩
  rw [chain, peek_cons_cons, if_pos hc, precedence_of_binding? hb]
  rfl

/-- Reading has come to a chain of operators, with `T` as the left operand of whatever follows. -/
def ComesTo (last : Token) (d : Nat) (p : Nat) (ts : List Token) (T : Node)
    (rest : List Token) : Prop :=
  ∃ d' x n, d = d' + 1 ∧ rest.length ≤ n ∧
    expression last d p ts = chain last (expression last d') p n T (x :: rest)

/-- A reading of an operand comes to the chain of operators behind it. -/
theorem comesTo_of_operand {p : Nat} {ts rest : List Token} {T : Node} {x : Token}
    (h : operand last (expression last d) ts = .done T (x :: rest)) :
    ComesTo last (d + 1) p ts T rest := by
  refine ⟨d, x, remaining (x :: rest), rfl, le_remaining x rest, ?_⟩
  rw [expression, h]
  rfl

theorem ComesTo.done (hl : last.kind = .eof) {p : Nat} {ts rest : List Token} {T : Node}
    (h : ComesTo last d p ts T rest) (hs : Stops p rest) :
    ∃ x, expression last d p ts = .done T (x :: rest) := by
  obtain ⟨d', x, n, -, -, hr⟩ := h
  exact ⟨x, hr.trans (chain_stops hl hs n T x)⟩

/-- Reading an expression of level `k` comes to the point where its tree is the left operand of
whatever follows. -/
theorem comesTo_of_within (hl : last.kind = .eof) {k : Nat} {e : List Token} {T : Node}
    (h : Within d k e T) {p : Nat} (hp : Precedence.above p ≤ k) {rest : List Token}
    (hs : Stops k rest) : ComesTo last d p (e ++ rest) T rest := by
  -- a left operand keeps the level to beat, and all other operands begin a reading of their own
  induction h generalizing p rest with
  | @binary d k l r L R op _ hb _ ihl ihr =>
    have hnot : ¬Continues k op.kind := by rw [continues_iff]; simp [hb]
    obtain ⟨d1, x, n, hd1, hn, hleft⟩ :=
      ihl hp (show Stops k (op :: (r ++ rest)) from stops_cons.mpr hnot)
    obtain rfl : d = d1 := Nat.succ.inj hd1
    -- the right operand is read with the level of the operator to beat
    have hright := ihr (p := k) (Nat.le_of_eq (above_binding hb)) (hs.mono (Nat.le_succ k))
    obtain ⟨y, hright⟩ := hright.done hl hs
    obtain ⟨n, rfl⟩ : ∃ n', n = n' + 1 := ⟨n - 1, by simp at hn; omega⟩
    refine ⟨d, y, n, rfl, by simp at hn; omega, ?_⟩
    rw [List.append_assoc, List.cons_append, hleft, chain_of_lt hb (lt_of_above_le hb hp), hright]
    rfl
  | tighter hk _ ih => exact ih (by omega) (hs.mono (by omega))
  | @unary d op e T ho _ ih =>
    obtain ⟨x, hr⟩ := (ih (above_le_unary _) (stops_unary rest)).done hl (stops_unary rest)
    refine comesTo_of_operand (x := x) ?_
    rw [List.cons_append, operand_of_isUnary ho, unary, List.tail_cons, hr]
    rfl
  | identifier ht | integer ht | string ht =>
    apply comesTo_of_operand
    simp only [operand, current, List.singleton_append, List.headD_cons, ht]
    rfl
  | @grouped d opening closing e T ho hc _ ih =>
    have hcl : Stops Precedence.lowest (closing :: rest) :=
      stops_cons.mpr (not_continues_of_none (hc ▸ rfl))
    have hin := ih (p := Precedence.lowest) (by decide) (hcl.mono (by decide))
    obtain ⟨x, hr⟩ := hin.done hl hcl
    refine comesTo_of_operand (x := closing) ?_
    rw [List.append_assoc, List.cons_append]
    exact operand_of_grouped ho hc hr

/-- **An expression is read** to its last token if nothing continues it. -/
theorem done_of_within (hl : last.kind = .eof) {p : Nat} {e rest : List Token} {T : Node}
    (h : Within d (Precedence.above p) e T) (hs : Stops p rest) :
    ∃ x, expression last d p (e ++ rest) = .done T (x :: rest) := by
  exact (comesTo_of_within hl h (Nat.le_refl _) hs.above).done hl hs

/-! ## Greedy: no expression that begins there is longer -/

/-- Reading that succeeds goes at least as far as any expression that begins where it began. -/
theorem length_le_of_done (hl : last.kind = .eof) {k : Nat} {e : List Token} {T : Node}
    (h : Within d k e T) {p : Nat} (hp : Precedence.above p ≤ k) {rest out : List Token} {T' : Node}
    (hr : expression last d p (e ++ rest) = .done T' out) : out.length ≤ rest.length + 1 := by
  -- what follows `e` is any text, so only the parts of `e` that nothing continues are read as such
  induction h generalizing p rest T' out with
  | @binary d k l r L R op hw hb _ ihl ihr =>
    have hnot : ¬Continues k op.kind := by rw [continues_iff]; simp [hb]
    obtain ⟨d1, x, n, hd1, hn, hleft⟩ :=
      comesTo_of_within hl hw hp (show Stops k (op :: (r ++ rest)) from stops_cons.mpr hnot)
    obtain rfl : d = d1 := Nat.succ.inj hd1
    obtain ⟨n, rfl⟩ : ∃ n', n = n' + 1 := ⟨n - 1, by simp at hn; omega⟩
    rw [List.append_assoc, List.cons_append, hleft,
      chain_of_lt hb (lt_of_above_le hb hp)] at hr
    obtain ⟨R', out', hR, hchain⟩ := Ending.andThen_eq_done hr
    have h1 := ihr (p := k) (Nat.le_of_eq (above_binding hb)) hR
    exact Nat.le_trans (suffix_of_chain hchain).length_le h1
  | tighter hk _ ih => exact ih (by omega) hr
  | @unary d op e T ho _ ih =>
    obtain ⟨left, r, hop, hchain⟩ := Ending.andThen_eq_done hr
    rw [List.cons_append, operand_of_isUnary ho] at hop
    obtain ⟨R, r', hR, hdone⟩ := Ending.andThen_eq_done hop
    cases hdone
    exact Nat.le_trans (suffix_of_chain hchain).length_le (ih (above_le_unary _) hR)
  | @grouped d opening closing e T ho hc hw _ =>
    obtain ⟨left, r, hop, hchain⟩ := Ending.andThen_eq_done hr
    have hcl : Stops Precedence.lowest (closing :: rest) :=
      stops_cons.mpr (not_continues_of_none (hc ▸ rfl))
    obtain ⟨x, hx⟩ := done_of_within hl hw hcl
    rw [List.append_assoc, List.cons_append, List.singleton_append,
      operand_of_grouped ho hc hx] at hop
    cases hop
    exact (suffix_of_chain hchain).length_le
  | identifier | integer | string => exact (suffix_of_done hr).length_le

/-- **The longest expression.** Of all expressions that begin at the same token, one that nothing
continues is the longest, and no other has its length. -/
theorem longest_of_derives {p : Nat} {e rest e' rest' : List Token} {T T' : Node}
    (h : Derives (Precedence.above p) e T) (hs : Stops p rest)
    (h' : Derives (Precedence.above p) e' T') (heq : e' ++ rest' = e ++ rest) :
    e'.length ≤ e.length ∧ (e'.length = e.length → T' = T) := by
  -- the end of the text is a token that nothing here depends on
  let last : Token := ⟨.eof, "", none, 1, 1⟩
  have hl : last.kind = .eof := rfl
  obtain ⟨d1, h1⟩ := h.exists_within
  obtain ⟨d2, h2⟩ := h'.exists_within
  have h1' := h1.mono (Nat.le_max_left d1 d2)
  have h2' := h2.mono (Nat.le_max_right d1 d2)
  obtain ⟨x, hx⟩ := done_of_within hl h1' hs
  have hlen := congrArg List.length heq
  simp only [List.length_append] at hlen
  constructor
  · rw [← heq] at hx
    have := length_le_of_done hl h2' (Nat.le_refl _) hx
    simp only [List.length_cons] at this
    omega
  · intro hle
    obtain ⟨rfl, rfl⟩ := List.append_inj heq hle
    obtain ⟨y, hy⟩ := done_of_within hl h2' hs
    rw [hx] at hy
    cases hy
    rfl

/-! ## The parser -/

theorem done_of_ok {s s' : Parser} {ts : List Token} (h : s.Shows last ts) {p : Int} {T : Node}
    (hr : Parser.expression d p s = .ok T s') :
    ∃ out, expression last d p ts = .done T out ∧ s'.Shows last out ∧
      s'.diagnostics = s.diagnostics := by
  have hm := tracks_expression d p s ts h
  cases ho : expression last d p ts with rw [ho] at hm
  | done T' out =>
    obtain ⟨s1, hr1, h1, hd1⟩ := hm
    cases hr.symm.trans hr1
    exact ⟨out, rfl, h1, hd1⟩
  | refused e out =>
    obtain ⟨s1, hr1, -⟩ := hm
    cases hr.symm.trans hr1
  | tooDeep out =>
    obtain ⟨s1, hr1, -⟩ := hm
    cases hr.symm.trans hr1

/-- The parser comes to the bound exactly if reading the tokens does. -/
theorem isShallow_iff {s : Parser} {ts : List Token} (h : s.Shows last ts) {p : Int} :
    (expression last d p ts).IsShallow ↔ ∀ s', Parser.expression d p s ≠ .error .tooDeep s' := by
  have hm := tracks_expression d p s ts h
  cases ho : expression last d p ts with rw [ho] at hm
  | done T out =>
    obtain ⟨s1, hr1, -⟩ := hm
    exact ⟨fun _ s' he => (nomatch hr1.symm.trans he), fun _ => trivial⟩
  | refused e out =>
    obtain ⟨s1, hr1, -⟩ := hm
    exact ⟨fun _ s' he => (nomatch hr1.symm.trans he), fun _ => trivial⟩
  | tooDeep out =>
    obtain ⟨s1, hr1, -⟩ := hm
    exact ⟨False.elim, fun hd => absurd hr1 (hd s1)⟩

/-- **Precedence climbing is the stratified grammar.** Split the tokens from the current one on
into `e` and `rest`, in any way, and let nesting stay within the bound. Then reading with the
level `p` to beat gives `T`, stops on the last token of `e` and records nothing exactly if `e`
derives `T` with operators that bind tighter than `p`, and the token behind `e` is none of
these. Such an `e` is the longest expression of this level that begins there, and `T` its only
tree. -/
theorem expression_iff_derives {s : Parser} {last : Token} {e rest : List Token}
    (h : s.Shows last (e ++ rest)) {d p : Nat}
    (hd : ∀ s', Parser.expression d p s ≠ .error .tooDeep s') (T : Node) :
    ((∃ e₀ x s', e = e₀ ++ [x] ∧ Parser.expression d p s = .ok T s' ∧
        s'.Shows last (x :: rest) ∧ s'.diagnostics = s.diagnostics) ↔
      Derives (Precedence.above p) e T ∧ Stops p rest) ∧
    (Derives (Precedence.above p) e T → Stops p rest →
      ∀ e' rest' T', e' ++ rest' = e ++ rest → Derives (Precedence.above p) e' T' →
        e'.length ≤ e.length ∧ (e'.length = e.length → T' = T)) := by
  have hl := h.isEnd
  refine ⟨⟨?_, ?_⟩, fun hw hs e' rest' T' heq hw' => longest_of_derives hw hs hw' heq⟩
  · rintro ⟨e₀, x, s', rfl, hr, hs', -⟩
    obtain ⟨out, ho, hout, -⟩ := done_of_ok h hr
    obtain rfl := shows_unique hs' hout
    obtain ⟨⟨e', y, rest', heq, hyx, hw⟩, hs⟩ := within_of_done hl d p _ _ _ ho
    cases hyx
    have : e₀ ++ [x] = e' ++ [x] :=
      List.append_cancel_right (show e₀ ++ [x] ++ rest = e' ++ [x] ++ rest by simpa using heq)
    rw [this]
    exact ⟨hw.derives, hs⟩
  · rintro ⟨hw, hs⟩
    -- the bound that the derivation needs may be another one, but reading does not depend on it
    obtain ⟨d', hw'⟩ := hw.exists_within
    obtain ⟨x, hx⟩ := done_of_within hl (hw'.mono (Nat.le_max_right d d')) hs
    have hb := expression_below (Nat.le_max_left d d') p (e ++ rest) ((isShallow_iff h).mpr hd)
    have hm := tracks_expression d p s _ h
    rw [← hb, hx] at hm
    obtain ⟨s', hr, hs', hd'⟩ := hm
    obtain ⟨e₀, he⟩ := suffix_of_done hx
    refine ⟨e₀, x, s', ?_, hr, hs', hd'⟩
    exact List.append_cancel_right (show e ++ rest = e₀ ++ [x] ++ rest by simpa using he.symm)

/-- In `-a * b + c`, above the level of sums: the reading stops before the sign of the sum. -/
theorem expression_iff_derives_product :
    let t (k : Kind) (literal : String) : Token := ⟨k, literal, none, 1, 1⟩
    let e := [t .minus "-", t .ident "a", t .asterisk "*", t .ident "b"]
    let rest := [t .plus "+", t .ident "c"]
    let s := Parser.facing (t .eof "") (e ++ rest)
    let T := Node.binary (.unary "-" (.identifier "a")) "*" (.identifier "b")
    s.Shows (t .eof "") (e ++ rest) ∧
      (∀ s', Parser.expression 2 Precedence.sum s ≠ .error .tooDeep s') ∧
      ∃ e₀ x s', e = e₀ ++ [x] ∧ Parser.expression 2 Precedence.sum s = .ok T s' ∧
        s'.Shows (t .eof "") (x :: rest) ∧ s'.diagnostics = s.diagnostics := by
  intro t e rest s T
  have h : s.Shows (t .eof "") (e ++ rest) := Parser.shows_facing rfl (by decide)
  have hd : ∀ s', Parser.expression 2 Precedence.sum s ≠ .error .tooDeep s' :=
    (isShallow_iff h).mp trivial
  have hleft : Derives Precedence.product [t .minus "-", t .ident "a"]
      (.unary "-" (.identifier "a")) := .tighter (by decide) (.unary rfl (.identifier rfl))
  have hw : Derives Precedence.product e T := .binary hleft rfl (.identifier rfl)
  exact ⟨h, hd, (expression_iff_derives h hd T).1.mpr ⟨hw, stops_cons.mpr (by decide)⟩⟩

end FrontEnd.Reader
