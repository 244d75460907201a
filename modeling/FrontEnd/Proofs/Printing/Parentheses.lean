import FrontEnd.Proofs.Printing.RoundTrip
import Mathlib.Data.List.Forall2
import Mathlib.Logic.Relation

/-!
# The fewest parentheses

Any tokens that are read as an expression become its spelling when some of their parentheses are
left out, each with its match. So the text of an expression has the fewest parentheses of all texts
that are read as it, and none of them can be left out.

* `Derives.dropsTo`: parentheses are left out until the spelling is there.
* `parsesTo_iff`: what is read to the end, by the grammar.
* `print_fewest`: the parentheses of the text of an expression.
-/

namespace FrontEnd

open Node Reader

variable {d k : Nat} {ts us vs ws e : List Token} {o c t u last : Token} {T : Node}

/-! ## Matching parentheses -/

/-- Each parenthesis in the list has its match in it. -/
inductive Balanced : List Token → Prop
  | nil : Balanced []
  | cons {t : Token} {ts : List Token} :
      t.kind ∉ [Kind.lparen, .rparen] → Balanced ts → Balanced (t :: ts)
  | pair {o c : Token} {ts us : List Token} :
      o.kind = .lparen → c.kind = .rparen → Balanced ts → Balanced us →
      Balanced (o :: ts ++ c :: us)

namespace Balanced

theorem append (h : Balanced ts) (h' : Balanced us) : Balanced (ts ++ us) := by
  induction h with
  | nil => exact h'
  | cons ht _ ih => exact .cons ht ih
  | @pair o c ts ts' ho hc hts _ _ ih =>
    have := Balanced.pair ho hc hts ih
    simpa using this

theorem enclosed {p : Prop} [Decidable p] (ho : o.kind = .lparen) (hc : c.kind = .rparen)
    (h : Balanced ts) : Balanced (enclosed p o c ts) := by
  unfold FrontEnd.enclosed
  split
  · exact .pair ho hc h .nil
  · exact h

end Balanced

/-- A parenthesis and its match are left out. -/
inductive DropsPair : List Token → List Token → Prop
  | drop {o c : Token} {inside : List Token} (front back : List Token) :
      o.kind = .lparen → c.kind = .rparen → Balanced inside →
      DropsPair (front ++ (o :: inside ++ c :: back)) (front ++ (inside ++ back))

/-- Some parentheses are left out, one after the other, each with its match. -/
def DropsPairs : List Token → List Token → Prop := Relation.ReflTransGen DropsPair

/-- How many parentheses there are. -/
def parens (ts : List Token) : Nat := ts.countP fun t => t.kind = .lparen ∨ t.kind = .rparen

theorem DropsPair.within (h : DropsPair ts us) (front back : List Token) :
    DropsPair (front ++ (ts ++ back)) (front ++ (us ++ back)) := by
  obtain ⟨front', back', ho, hc, hin⟩ := h
  have := DropsPair.drop (front ++ front') (back' ++ back) ho hc hin
  simpa using this

theorem DropsPair.parens_eq (h : DropsPair ts us) : parens ts = parens us + 2 := by
  obtain ⟨front, back, ho, hc, -⟩ := h
  simp only [parens, List.countP_append, List.cons_append, List.countP_cons, ho, hc]
  simp
  omega

namespace DropsPairs

theorem within (h : DropsPairs ts us) (front back : List Token) :
    DropsPairs (front ++ (ts ++ back)) (front ++ (us ++ back)) :=
  Relation.ReflTransGen.lift (p := DropsPair) (fun ts => front ++ (ts ++ back))
    (fun _ _ hd => hd.within front back) _ _ h

theorem append (h : DropsPairs ts us) (h' : DropsPairs vs ws) :
    DropsPairs (ts ++ vs) (us ++ ws) := by
  have h1 := h.within [] vs
  have h2 := h'.within us []
  rw [List.append_nil, List.append_nil] at h2
  exact h1.trans h2

theorem cons (t : Token) (h : DropsPairs ts us) : DropsPairs (t :: ts) (t :: us) := by
  simpa using h.within [t] []

/-- The outermost parentheses can be left out. -/
theorem outer (ho : o.kind = .lparen) (hc : c.kind = .rparen) (h : Balanced ts) :
    DropsPairs (o :: ts ++ [c]) ts := by
  have := DropsPair.drop [] [] ho hc h
  exact .single (by simpa using this)

theorem of_enclosed {p : Prop} [Decidable p] (ho : o.kind = .lparen) (hc : c.kind = .rparen)
    (h : Balanced ts) : DropsPairs (enclosed p o c ts) ts := by
  unfold enclosed
  split
  · exact outer ho hc h
  · exact .refl

theorem to_enclosed {p : Prop} [Decidable p] (ho : o.kind = .lparen) (hc : c.kind = .rparen)
    (h : Balanced ts) : DropsPairs (o :: ts ++ [c]) (enclosed p o c ts) := by
  unfold enclosed
  split
  · exact .refl
  · exact outer ho hc h

theorem parens_le (h : DropsPairs ts us) : parens us ≤ parens ts := by
  induction h with
  | refl => exact Nat.le_refl _
  | tail _ hlast ih =>
    have := hlast.parens_eq
    omega

end DropsPairs

/-! ## Tokens that are read as the same -/

/-- The two tokens are read as the same: they are of one kind, and name or mean one thing. -/
structure Token.Alike (t u : Token) : Prop where
  kind : t.kind = u.kind
  literal : t.kind = .ident ∨ t.kind = .string → t.literal = u.literal
  value : t.kind = .int → t.value?.getD 0 = u.value?.getD 0

theorem parens_of_alike (h : List.Forall₂ Token.Alike ts us) : parens ts = parens us := by
  induction h with
  | nil => rfl
  | cons hkind _ ih =>
    unfold parens at ih ⊢
    rw [List.countP_cons, List.countP_cons, ih, hkind.kind]

/-- A sign has no spelling but its own. -/
theorem Token.alike_of_kind (h : t.kind = u.kind) (hk : t.kind ∉ [Kind.ident, .string, .int]) :
    t.Alike u := by
  simp only [List.mem_cons, List.not_mem_nil, or_false, not_or] at hk
  exact ⟨h, fun ht => ht.elim (fun ht => absurd ht hk.1) fun ht => absurd ht hk.2.1,
    fun ht => absurd ht hk.2.2⟩

theorem alike_enclosed {p : Prop} [Decidable p] (ho : o.kind = .lparen) (hc : c.kind = .rparen)
    (h : List.Forall₂ Token.Alike ts us) :
    List.Forall₂ Token.Alike (enclosed p o c ts)
      (enclosed p (.sign .lparen) (.sign .rparen) us) := by
  unfold enclosed
  split
  · have hclose : List.Forall₂ Token.Alike [c] [.sign .rparen] :=
      .cons (Token.alike_of_kind hc (by rw [hc]; decide)) .nil
    exact .cons (Token.alike_of_kind ho (by rw [ho]; decide)) (List.rel_append h hclose)
  · exact h

/-! ## Parentheses are left out until the spelling is there -/

theorem equality_le_rank (T : Node) : Precedence.equality ≤ T.rank := by
  have htop : Precedence.equality ≤ Precedence.unary := by decide
  cases T with
  | binary L operator R =>
    rw [rank, bindingOf?]
    cases hb : (Kind.ofText? operator).bind Kind.binding? with
    | none => exact htop
    | some b =>
      obtain ⟨k, -, hk⟩ := Option.bind_eq_some_iff.mp hb
      exact (Kind.binding?_bounds hk).1
  | _ => exact htop

/-- Parentheses can be left out until the tree is spelled as an operand of a level. -/
def DropsTo (k : Nat) (e : List Token) (T : Node) : Prop :=
  ∃ o c us, o.kind = .lparen ∧ c.kind = .rparen ∧ Balanced us ∧
    List.Forall₂ Token.Alike us (spelling T) ∧ DropsPairs e (enclosed (T.rank < k) o c us)

/-- A tree that needs no parentheses at a level. -/
theorem DropsTo.of_rank (hr : ¬T.rank < k) (hb : Balanced us)
    (ha : List.Forall₂ Token.Alike us (spelling T)) (hd : DropsPairs e us) : DropsTo k e T :=
  ⟨.sign .lparen, .sign .rparen, us, rfl, rfl, hb, ha, by rwa [enclosed, if_neg hr]⟩

/-- A tree of one token. -/
theorem DropsTo.of_token (ht : t.kind ∉ [Kind.lparen, .rparen]) (hr : ¬T.rank < Precedence.unary)
    (hu : spelling T = [u]) (ha : t.Alike u) : DropsTo Precedence.unary [t] T :=
  .of_rank hr (.cons ht .nil) (by rw [hu]; exact .cons ha .nil) .refl

theorem Kind.isSign_of_operator {k : Kind} (h : k.isUnary ∨ k.binding?.isSome) :
    k ∉ [Kind.lparen, .rparen] ∧ k ∉ [Kind.ident, .string, .int] := by
  cases k <;> first | decide | simp [Kind.isUnary, Kind.binding?] at h

/-- **Parentheses are left out** of an expression of a level until its tree is spelled as an operand
of this level, by tokens like the ones of its spelling. -/
theorem Derives.dropsTo (h : Derives k e T) : DropsTo k e T := by
  -- the spelling of each part is kept bare, so that a pair around it can be dropped at any level
  induction h with
  | @binary k l r L R op _ hb _ ihl ihr =>
    obtain ⟨ol, cl, ls, hol, hcl, hbl, hal, hdl⟩ := ihl
    obtain ⟨or, cr, rs, hor, hcr, hbr, har, hdr⟩ := ihr
    obtain ⟨hparen, hsign⟩ := Kind.isSign_of_operator (.inr (by rw [hb]; rfl))
    have hbalanced := (hbl.enclosed (p := L.rank < k) hol hcl).append
      (.cons hparen (hbr.enclosed (p := R.rank < k + 1) hor hcr))
    refine .of_rank ?_ hbalanced ?_ (hdl.append (hdr.cons op))
    · rw [rank_binary hb]
      exact Nat.lt_irrefl k
    · rw [spelling, operatorRank_text hb, operator_text]
      have hop : op.Alike (.sign op.kind) := Token.alike_of_kind rfl hsign
      exact List.rel_append (alike_enclosed hol hcl hal) (.cons hop (alike_enclosed hor hcr har))
  | @tighter k e T hk _ ih =>
    obtain ⟨o, c, us, ho, hc, hb, ha, hd⟩ := ih
    refine ⟨o, c, us, ho, hc, hb, ha, ?_⟩
    -- a pair that the tree needs at the tighter level only is dropped
    by_cases hr : T.rank < k
    · rw [enclosed, if_pos (Nat.lt_succ_of_lt hr)] at hd
      rwa [enclosed, if_pos hr]
    · rw [enclosed, if_neg hr]
      exact hd.trans (DropsPairs.of_enclosed ho hc hb)
  | @unary op e T ho _ ih =>
    obtain ⟨o, c, us, hop, hcl, hb, ha, hd⟩ := ih
    obtain ⟨hparen, hsign⟩ := Kind.isSign_of_operator (.inl ho)
    refine .of_rank (Nat.lt_irrefl _) (.cons hparen (hb.enclosed hop hcl)) ?_ (hd.cons op)
    rw [spelling, operator_text]
    exact .cons (Token.alike_of_kind rfl hsign) (alike_enclosed hop hcl ha)
  | identifier ht =>
    refine .of_token (by rw [ht]; decide) (Nat.lt_irrefl _) rfl ⟨ht, fun _ => rfl, fun h => ?_⟩
    cases ht.symm.trans h
  | integer ht =>
    refine .of_token (by rw [ht]; decide) (Nat.lt_irrefl _) rfl ⟨ht, fun h => ?_, fun _ => rfl⟩
    rcases h with h | h <;> cases ht.symm.trans h
  | string ht =>
    refine .of_token (by rw [ht]; decide) (Nat.lt_irrefl _) rfl ⟨ht, fun _ => rfl, fun h => ?_⟩
    cases ht.symm.trans h
  | @grouped opening closing e T ho hc _ ih =>
    obtain ⟨o, c, us, -, -, hb, ha, hd⟩ := ih
    have hloose : ¬T.rank < Precedence.equality := Nat.not_lt.mpr (equality_le_rank T)
    rw [enclosed, if_neg hloose] at hd
    have hinside : DropsPairs (opening :: e ++ [closing]) (opening :: us ++ [closing]) := by
      simpa using hd.within [opening] [closing]
    exact ⟨opening, closing, us, ho, hc, hb, ha, hinside.trans (DropsPairs.to_enclosed ho hc hb)⟩

/-! ## Reading to the end -/

/-- A parser with these tokens before it reads them as the tree, from the first to the last one. -/
def ParsesTo (d : Nat) (ts : List Token) (T : Node) : Prop :=
  ∃ last s s' x, s.Shows last ts ∧ Parser.expression d Precedence.lowest s = .ok T s' ∧
    s'.Shows last [x]

/-- The tokens of an expression are read to the last one. -/
theorem done_of_within_all (hl : last.kind = .eof) (hw : Within d Precedence.equality ts T) :
    ∃ x, expression last d (Precedence.lowest : Nat) ts = .done T [x] := by
  have hdone : ∃ x, expression last d (Precedence.lowest : Nat) (ts ++ []) = .done T [x] :=
    done_of_within hl hw (stops_nil _)
  rwa [List.append_nil] at hdone

theorem parsesTo_of_done (hl : last.kind = .eof) (hts : ∀ t ∈ ts, t.kind ≠ .eof) {x : Token}
    (h : expression last d (Precedence.lowest : Nat) ts = .done T [x]) : ParsesTo d ts T := by
  have hs := Parser.shows_facing hl hts
  have hm := tracks_expression d (Precedence.lowest : Nat) _ ts hs
  rw [h] at hm
  obtain ⟨s', hr, hs', -⟩ := hm
  exact ⟨last, _, s', x, hs, hr, hs'⟩

/-- **What is read to the end** is an expression of the grammar, and no token of it is the end. -/
theorem parsesTo_iff : ParsesTo d ts T ↔
    (∀ t ∈ ts, t.kind ≠ .eof) ∧ Within d Precedence.equality ts T := by
  constructor
  · rintro ⟨last, s, s', x, h, hr, hs'⟩
    obtain ⟨out, ho, hout, -⟩ := done_of_ok (p := Precedence.lowest) h hr
    obtain rfl := shows_unique hs' hout
    obtain ⟨⟨e, y, rest, rfl, hy, hw⟩, -⟩ := within_of_done h.isEnd d Precedence.lowest _ _ _ ho
    cases hy
    exact ⟨h.noEnd, hw⟩
  · rintro ⟨hts, hw⟩
    let last : Token := ⟨.eof, "", none, 1, 1⟩
    obtain ⟨x, hx⟩ := done_of_within_all (show last.kind = .eof from rfl) hw
    exact parsesTo_of_done rfl hts hx

/-- Tokens at other places than those of the spelling are read as it is. -/
theorem parsesTo_of_unplaced (hus : ∀ t ∈ us, t.kind ≠ .eof)
    (hw : Within d Precedence.equality (us.map Token.unplaced) T) : ParsesTo d us T := by
  let last : Token := ⟨.eof, "", none, 1, 1⟩
  obtain ⟨x, hx⟩ := done_of_within_all (show last.unplaced.kind = .eof from rfl) hw
  rw [expression_map places_unplaced] at hx
  cases ho : expression last d (Precedence.lowest : Nat) us with rw [ho] at hx
  | done T' out =>
    obtain ⟨rfl, hout⟩ := Ending.done.inj hx
    obtain ⟨y, rfl, -⟩ := List.map_eq_singleton_iff.mp hout
    exact parsesTo_of_done rfl hus ho
  | refused | tooDeep => cases hx

/-- **Parentheses can be left out of all tokens that are read as a tree** until these are like the
ones of its spelling. -/
theorem ParsesTo.exists_drops (h : ParsesTo d ts T) :
    ∃ vs, DropsPairs ts vs ∧ List.Forall₂ Token.Alike vs (spelling T) := by
  obtain ⟨-, hw⟩ := parsesTo_iff.mp h
  obtain ⟨o, c, vs, -, -, -, ha, hd⟩ := hw.derives.dropsTo
  rw [enclosed, if_neg (Nat.not_lt.mpr (equality_le_rank T))] at hd
  exact ⟨vs, hd, ha⟩

/-- **Printed parentheses are the necessary ones.** Let a text be able to have the tree `T`. Then
`T` prints as a text, whose tokens are read as `T` to the last one. Any tokens that are read as `T`
become the tokens of this text when some pairs of matching parentheses are left out, up to the
spelling of integers. So this text has the fewest parentheses, and it is read within the bound on
nested readers of the other tokens. If any of its pairs is left out, it is not read as `T`, within
no bound. -/
theorem print_fewest (hT : Written T) :
    ∃ text us last, T.print = .ok text ∧ tokenize text = .ok (us ++ [last]) ∧
      ParsesTo (need T) us T ∧
      (∀ d ts, ParsesTo d ts T → ParsesTo d us T ∧ parens us ≤ parens ts ∧
        ∃ vs, DropsPairs ts vs ∧ List.Forall₂ Token.Alike vs us) ∧
      ∀ d vs, DropsPair us vs → ¬ParsesTo d vs T := by
  have hlexes : Lexes (String.ofList (text T)).toList (spelling T) := by
    have := lexes_text hT [] [] (fun _ hc => nomatch hc) .nil
    rw [String.toList_ofList]
    simpa using this
  obtain ⟨us, last, htokens, hus⟩ := tokenize_of_lexes hlexes
  obtain ⟨-, hnoEnd⟩ := ends_of_tokenize htokens
  have hread {d : Nat} (hd : need T ≤ d) : ParsesTo d us T :=
    parsesTo_of_unplaced hnoEnd (hus ▸ within_equality hT hd)
  have hdrops {d : Nat} {ts : List Token} (h : ParsesTo d ts T) :
      ∃ vs, DropsPairs ts vs ∧ List.Forall₂ Token.Alike vs us := by
    obtain ⟨vs, hd, ha⟩ := h.exists_drops
    rw [← hus, List.forall₂_map_right_iff] at ha
    exact ⟨vs, hd, ha.imp fun _ _ ha => ⟨ha.kind, ha.literal, ha.value⟩⟩
  have hfewest {d : Nat} {ts : List Token} (h : ParsesTo d ts T) : parens us ≤ parens ts := by
    obtain ⟨vs, hd, ha⟩ := hdrops h
    exact parens_of_alike ha ▸ hd.parens_le
  refine ⟨_, us, last, (renders_written hT).print, htokens, hread (Nat.le_refl _), ?_, ?_⟩
  · intro d ts h
    have hneed := need_le_of_within (parsesTo_iff.mp h).2
    exact ⟨hread hneed, hfewest h, hdrops h⟩
  · intro d vs hdrop h
    -- what is left has two parentheses less than the fewest
    have hcount := hdrop.parens_eq
    have hle := hfewest h
    omega

/-- A product of a sum, with a pair that is needed, one that is not, and a zero too many. -/
theorem print_fewest_product :
    let t (k : Kind) (literal : String) (value? : Option Int) : Token := ⟨k, literal, value?, 1, 1⟩
    let T := Node.binary (.binary (.identifier "a") "+" (.integer 1)) "*" (.integer 2)
    let ts := [t .lparen "(" none, t .lparen "(" none, t .ident "a" none, t .rparen ")" none,
      t .plus "+" none, t .int "1" (some 1), t .rparen ")" none, t .asterisk "*" none,
      t .int "02" (some 2)]
    Written T ∧ ParsesTo 3 ts T ∧
      ∃ text us last, T.print = .ok text ∧ tokenize text = .ok (us ++ [last]) ∧
        ParsesTo 3 us T ∧ parens us ≤ 4 ∧
        (∃ vs, DropsPairs ts vs ∧ List.Forall₂ Token.Alike vs us) ∧
        ∀ d vs, DropsPair us vs → ¬ParsesTo d vs T := by
  intro t T ts
  have ha : IsName "a" := ⟨⟨'a', [], rfl, rfl⟩, List.all_eq_true.mp rfl, by cbv⟩
  have hsum : Written (.binary (.identifier "a") "+" (.integer 1)) :=
    .binary (k := .plus) rfl (.identifier ha) (.integer (n := 1) (by decide))
  have hT : Written T := .binary (k := .asterisk) rfl hsum (.integer (n := 2) (by decide))
  have hname : Within 2 Precedence.unary [t .lparen "(" none, t .ident "a" none, t .rparen ")" none]
      (.identifier "a") := .grouped rfl rfl (.loosen (.identifier rfl) (by decide))
  have hinside : Within 2 Precedence.sum [t .lparen "(" none, t .ident "a" none, t .rparen ")" none,
      t .plus "+" none, t .int "1" (some 1)] (.binary (.identifier "a") "+" (.integer 1)) :=
    .binary (hname.loosen (by decide)) rfl (.loosen (.integer rfl) (by decide))
  have hleft : Within 3 Precedence.product (ts.take 7)
      (.binary (.identifier "a") "+" (.integer 1)) :=
    .loosen (.grouped rfl rfl (hinside.loosen (by decide))) (by decide)
  have hw : Within 3 Precedence.product ts T :=
    .binary hleft rfl (.loosen (.integer rfl) (by decide))
  have hts : ParsesTo 3 ts T := parsesTo_iff.mpr ⟨by decide, hw.loosen (by decide)⟩
  obtain ⟨text, us, last, hprint, htokens, -, hall, hnone⟩ := print_fewest hT
  obtain ⟨hus, hle, hdrops⟩ := hall 3 ts hts
  exact ⟨hT, hts, text, us, last, hprint, htokens, hus, hle, hdrops, hnone⟩

end FrontEnd
