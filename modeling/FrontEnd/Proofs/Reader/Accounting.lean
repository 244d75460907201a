import FrontEnd.Proofs.Grammar.Statement
import FrontEnd.Proofs.Reader.Append

/-!
# No statement goes uncounted

Each attempt at a statement gives a statement or one diagnostic, and it stops before the next
statement can begin: at the next semicolon or the end (`Border`) if it is refused, and no further
than there if it is read (`Accounts`). So the parser gets on with each attempt, and what it gives in
the end counts its attempts (`Attempts`).

* `skip_suffix_statement`: no attempt goes further than the border.
* `statement_accounts`: what one attempt does.
* `expression_accounts`: an expression is a node or one diagnostic, too.
* `exists_attempts`: the attempts of a parser come to the end.
* `Attempts.account`, `Attempts.increasing`: they are counted, and each one begins further on.
* `parseSource_accounts`: all of it for a source text.
-/

namespace FrontEnd

open Reader FrontEnd.Parser

/-- The token at an index, where the end comes again and again behind the others. -/
def tokenAt (last : Token) (us : List Token) (i : Nat) : Token := us.getD i last

/-- The first semicolon from the index `k` on is at `m`, or the end is, if there is none. -/
structure Border (last : Token) (us : List Token) (k m : Nat) : Prop where
  le : k ≤ m
  stop : (tokenAt last us m).kind = .semicolon ∨ (tokenAt last us m).kind = .eof
  before : ∀ i, k ≤ i → i < m →
    (tokenAt last us i).kind ≠ .semicolon ∧ (tokenAt last us i).kind ≠ .eof

/-- **What an attempt at a statement may do** from the index `k` on, where the border is at `m`:
give a statement, record nothing and stop between the two, at the border unless the statement is an
expression; or give none, record one diagnostic and stop at the border. -/
inductive Accounts (last : Token) (us : List Token) (k m : Nat) (s : Parser) :
    EStateM.Result Failure Parser (Option Node) → Prop
  | read {n : Node} {s' : Parser} {e : Nat} :
      s'.diagnostics = s.diagnostics → k ≤ e → e ≤ m → s'.Shows last (us.drop e) →
      ((∀ x, n ≠ .exprStmt x) → e = m) → Accounts last us k m s (.ok (some n) s')
  | refused {d : Diagnostic} {s' : Parser} :
      s'.diagnostics = s.diagnostics.push d → s'.Shows last (us.drop m) →
      Accounts last us k m s (.ok none s')

/-- **The attempts of a parser** up to the end of its tokens: the index where each one began and
what it gave. -/
inductive Attempts (depth : Nat) (last : Token) (us : List Token) :
    Parser → List (Nat × Option Node) → Parser → Prop
  | stop {s : Parser} : s.current.kind = .eof → Attempts depth last us s [] s
  | attempt {s s1 s2 s' : Parser} {k : Nat} {found : Option Node}
      {later : List (Nat × Option Node)} :
      s.current.kind ≠ .eof → s.Shows last (us.drop k) →
      Parser.statement depth s = .ok found s1 → advance s1 = .ok () s2 →
      Attempts depth last us s2 later s' → Attempts depth last us s ((k, found) :: later) s'

namespace Reader

variable {last : Token} {us ts r : List Token} {k depth : Nat} {s s' : Parser}

/-! ## Borders -/

theorem current_drop (last : Token) (us : List Token) (i : Nat) :
    current last (us.drop i) = tokenAt last us i := by
  rw [current, tokenAt, List.headD_eq_head?_getD, List.head?_drop, List.getD_eq_getElem?_getD]

/-- From each index on there is a border, and to skip is to go there. -/
theorem exists_border (hl : last.kind = .eof) (hus : ∀ t ∈ us, t.kind ≠ .eof) (k : Nat) :
    ∃ run, us.drop k = run ++ skip (us.drop k) ∧ Border last us k (k + run.length) := by
  obtain ⟨run, hrun, hopen, hstop⟩ := exists_skip (us.drop k)
  have hdrop : us.drop (k + run.length) = skip (us.drop k) := by
    rw [← List.drop_drop, hrun, List.drop_left, ← hrun]
  refine ⟨run, hrun, Nat.le_add_right _ _, ?_, fun i hi hlt => ?_⟩
  · rw [← current_drop, hdrop]
    cases hs : skip (us.drop k) with
    | nil => exact Or.inr hl
    | cons t more =>
      rw [hs] at hstop
      exact Or.inl (hstop t rfl)
  · obtain ⟨j, rfl⟩ := Nat.exists_eq_add_of_le hi
    have hj : j < run.length := by omega
    have hget : us[k + j]? = some run[j] := by
      rw [← List.getElem?_drop, hrun, List.getElem?_append_left hj, List.getElem?_eq_getElem hj]
    have hat : tokenAt last us (k + j) = run[j] := by
      rw [tokenAt, List.getD_eq_getElem?_getD, hget, Option.getD_some]
    rw [hat]
    exact ⟨hopen _ (List.getElem_mem hj), hus _ (List.mem_of_getElem? hget)⟩

/-- What is left of the tokens from `k` on, and goes down to `more` at the most, begins at an index
between the two. -/
theorem exists_drop {run more : List Token} (hrun : us.drop k = run ++ more)
    (hr : r <:+ us.drop k) (hmore : more <:+ r) :
    ∃ e, k ≤ e ∧ e ≤ k + run.length ∧ r = us.drop e ∧ (r = more → e = k + run.length) := by
  obtain ⟨v, hv⟩ := hr
  obtain ⟨w, rfl⟩ := hmore
  have hlen : run.length = v.length + w.length := by
    have := congrArg List.length (hv.trans hrun)
    simp only [List.length_append] at this
    omega
  refine ⟨k + v.length, Nat.le_add_right _ _, by omega, ?_, fun he => ?_⟩
  · rw [← List.drop_drop, ← hv, List.drop_left]
  · have := congrArg List.length he
    rw [List.length_append] at this
    omega

/-! ## Statements -/

/-- **No attempt goes further** than the next semicolon. -/
theorem skip_suffix_statement (last : Token) (depth : Nat) (ts : List Token) :
    skip ts <:+ (statement last depth ts).rest := by
  obtain ⟨run, hrun, -, hstop⟩ := exists_skip ts
  cases hs : skip ts with
  | nil => exact List.nil_suffix
  | cons t more =>
    rw [hs] at hrun hstop
    have hts : ts = (run ++ [t]) ++ more := by rw [hrun]; simp
    -- nothing behind the semicolon is seen, so it is among the tokens that are left
    obtain ⟨hrest, hne⟩ := statement_append last last depth ⟨run, t, rfl, hstop t rfl⟩ more
    have hsuf := rest_statement last depth (run ++ [t])
    rw [hts, hrest]
    rcases List.suffix_concat_iff.mp hsuf with hnil | ⟨vs, hvs, -⟩
    · exact absurd hnil hne
    · exact ⟨vs, by rw [hvs]; simp⟩

/-- Unless an expression is read, an attempt stops at a semicolon or at the end. -/
theorem head?_rest_statement (last : Token) (depth : Nat) (ts : List Token)
    (h : ∀ x, (statement last depth ts).node? ≠ some (.exprStmt x)) :
    ∀ t ∈ (statement last depth ts).rest.head?, t.kind = .semicolon := by
  have hskip (r : List Token) : ∀ t ∈ (skip r).head?, t.kind = .semicolon :=
    (exists_skip r).choose_spec.2.2
  unfold statement at h ⊢
  cases ha : attempt last depth ts with
  | refused e r | tooDeep r => exact hskip r
  | done n r =>
    rw [ha] at h
    unfold attempt at ha
    split at ha
    · unfold letStatement at ha
      dsimp only at ha
      split at ha
      · cases ha
      split at ha
      · cases ha
      obtain ⟨x, out, -, hd⟩ := Ending.andThen_eq_done ha
      cases hd
      exact hskip out
    · obtain ⟨x, out, -, hd⟩ := Ending.andThen_eq_done ha
      cases hd
      exact hskip out
    · rename_i hk
      cases ha
      intro t (ht : ts.head? = some t)
      rwa [current, List.headD_eq_head?_getD, ht] at hk
    · obtain ⟨x, out, -, hd⟩ := Ending.andThen_eq_done ha
      cases hd
      exact absurd rfl (h x)

/-- Unless an expression is read, an attempt stops at the border. -/
theorem rest_statement_eq (last : Token) (depth : Nat) (ts : List Token)
    (h : ∀ x, (statement last depth ts).node? ≠ some (.exprStmt x)) :
    (statement last depth ts).rest = skip ts := by
  have hhead := head?_rest_statement last depth ts h
  obtain ⟨v, hv⟩ := skip_suffix_statement last depth ts
  obtain ⟨u, hu⟩ := rest_statement last depth ts
  obtain ⟨run, hrun, hopen, -⟩ := exists_skip ts
  have happ : u ++ v ++ skip ts = run ++ skip ts := by rw [List.append_assoc, hv, hu, ← hrun]
  have hsplit : u ++ v = run := List.append_cancel_right happ
  cases v with
  | nil => exact hv.symm
  | cons t v =>
    -- a token that is skipped is no semicolon
    rw [← hv] at hhead
    exact absurd (hhead t rfl) (hopen t (by rw [← hsplit]; simp))

/-- A statement is read or refused, and never both. -/
theorem statement_cases (last : Token) (depth : Nat) (ts : List Token) :
    (∃ n, (statement last depth ts).node? = some n ∧ (statement last depth ts).refusal? = none) ∨
      ∃ e, (statement last depth ts).node? = none ∧ (statement last depth ts).refusal? = some e := by
  unfold statement
  cases attempt last depth ts with
  | done n r => exact Or.inl ⟨n, rfl, rfl⟩
  | refused e r | tooDeep r => exact Or.inr ⟨_, rfl, rfl⟩

/-- **An attempt at a statement** gives it or records one diagnostic, and stops at the border or
before it. -/
theorem statement_accounts (h : s.Shows last (us.drop k)) (hus : ∀ t ∈ us, t.kind ≠ .eof)
    (depth : Nat) :
    ∃ m, Border last us k m ∧ Accounts last us k m s (Parser.statement depth s) := by
  obtain ⟨run, hrun, hborder⟩ := exists_border h.isEnd hus k
  refine ⟨_, hborder, ?_⟩
  have hskip := skip_suffix_statement last depth (us.drop k)
  have hrest := rest_statement last depth (us.drop k)
  have heq := rest_statement_eq last depth (us.drop k)
  obtain ⟨e, hle, hle', hdrop, hend⟩ := exists_drop hrun hrest hskip
  obtain ⟨s', hr, hs', hd⟩ := statement_run h depth
  rw [hdrop] at hs'
  rw [hr]
  rcases statement_cases last depth (us.drop k) with ⟨n, hn, he⟩ | ⟨d, hn, he⟩
  · rw [hn] at heq ⊢
    refine .read ?_ hle hle' hs' fun hx => hend (heq fun x hn => hx x (Option.some.inj hn))
    refine Array.toList_inj.mp ?_
    rw [hd, he]
    exact List.append_nil _
  · rw [hn] at heq ⊢
    rw [hend (heq fun x hx => nomatch hx)] at hs'
    refine .refused (d := d.diagnostic) ?_ hs'
    refine Array.toList_inj.mp ?_
    rw [hd, he, Array.toList_push]
    rfl

/-- An expression that is not nested too deeply is a node, or it is refused with one diagnostic. -/
theorem expression_accounts (h : s.Shows last ts) (depth : Nat) (p : Int)
    (hdeep : ∀ s', Parser.expression depth p s ≠ .error .tooDeep s') :
    (∃ T s', recorded (Parser.expression depth p) s = .ok (some T) s' ∧
        s'.diagnostics = s.diagnostics) ∨
      ∃ d s', recorded (Parser.expression depth p) s = .ok none s' ∧
        s'.diagnostics = s.diagnostics.push d := by
  have hm := tracks_expression depth p s ts h
  cases ho : expression last depth p ts with rw [ho] at hm
  | done T r =>
    obtain ⟨s', hr, -, hd⟩ := hm
    exact Or.inl ⟨T, s', recorded_of_ok hr, hd⟩
  | refused e r =>
    obtain ⟨s1, hr, h1, hd1⟩ := hm
    obtain ⟨s2, hr2, -, hd2⟩ := report_shows h1 e.diagnostic
    exact Or.inr ⟨e.diagnostic, s2, recorded_of_refused hr hr2, by rw [hd2, hd1]⟩
  | tooDeep r =>
    obtain ⟨s', hr, -, -⟩ := hm
    exact absurd hr (hdeep s')

/-! ## Programs -/

/-- A statement gives itself or one diagnostic, and the parser gets to an index further on. -/
theorem exists_advance (h : s.Shows last (us.drop k)) (hus : ∀ t ∈ us, t.kind ≠ .eof)
    (depth : Nat) :
    ∃ found s1 s2 e, k < e ∧ Parser.statement depth s = .ok found s1 ∧
      advance s1 = .ok () s2 ∧ s2.Shows last (us.drop e) ∧
      found.toList.length + s2.diagnostics.size = s.diagnostics.size + 1 := by
  obtain ⟨m, hm, ha⟩ := statement_accounts h hus depth
  -- behind the last token of a statement the next one begins
  have step {s1 : Parser} {e : Nat} (h1 : s1.Shows last (us.drop e)) :
      ∃ s2, advance s1 = .ok () s2 ∧ s2.Shows last (us.drop (e + 1)) ∧
        s2.diagnostics = s1.diagnostics := by
    obtain ⟨s2, hr2, h2, hd2⟩ := advance_moves h1
    rw [List.tail_drop] at h2
    exact ⟨s2, hr2, h2, hd2⟩
  generalize hr : Parser.statement depth s = result at ha
  cases ha with
  | read hd hle _ h1 =>
    obtain ⟨s2, hr2, h2, hd2⟩ := step h1
    refine ⟨_, _, s2, _, Nat.lt_succ_of_le hle, rfl, hr2, h2, ?_⟩
    rw [hd2, hd]
    exact Nat.add_comm _ _
  | refused hd h1 =>
    obtain ⟨s2, hr2, h2, hd2⟩ := step h1
    refine ⟨_, _, s2, _, Nat.lt_succ_of_le hm.le, rfl, hr2, h2, ?_⟩
    rw [hd2, hd, Array.size_push]
    exact Nat.zero_add _

/-- A parser that is not at the end shows its tokens from one index on only. -/
theorem index_unique {j : Nat} (hj : s.Shows last (us.drop j)) (hk : s.Shows last (us.drop k))
    (hne : s.current.kind ≠ .eof) : j = k ∧ k < us.length := by
  have hlt : k < us.length := by
    by_contra hge
    rw [List.drop_eq_nil_of_le (Nat.le_of_not_lt hge)] at hk
    exact hne ((congrArg Token.kind hk.current).trans hk.isEnd)
  have hlen := congrArg List.length (shows_unique hj hk)
  rw [List.length_drop, List.length_drop] at hlen
  exact ⟨by omega, hlt⟩

/-- **The attempts of a parser come to the end.** -/
theorem exists_attempts (h : s.Shows last (us.drop k)) (hus : ∀ t ∈ us, t.kind ≠ .eof)
    (depth : Nat) : ∃ rounds s', Attempts depth last us s rounds s' := by
  induction hn : us.length - k using Nat.strong_induction_on generalizing s k with
  | _ n ih =>
    by_cases hend : s.current.kind = .eof
    · exact ⟨[], s, .stop hend⟩
    · have hlt := (index_unique h h hend).2
      obtain ⟨found, s1, s2, e, hke, hr1, hr2, h2, -⟩ := exists_advance h hus depth
      obtain ⟨later, s', hlater⟩ := ih (us.length - e) (by omega) h2 rfl
      exact ⟨(k, found) :: later, s', .attempt hend h hr1 hr2 hlater⟩

end Reader

namespace Attempts

variable {last : Token} {us : List Token} {k depth : Nat} {s s' : Parser}
  {rounds : List (Nat × Option Node)}

/-- The parser is at the end. -/
theorem current_eq_eof (h : Attempts depth last us s rounds s') : s'.current.kind = .eof := by
  induction h with
  | stop hend => exact hend
  | attempt _ _ _ _ _ ih => exact ih

/-- **Each attempt begins further on** than those before it, before the end. -/
theorem increasing (h : Attempts depth last us s rounds s') (hs : s.Shows last (us.drop k))
    (hus : ∀ t ∈ us, t.kind ≠ .eof) :
    (∀ r ∈ rounds, k ≤ r.1 ∧ r.1 < us.length) ∧ (rounds.map Prod.fst).Pairwise (· < ·) := by
  induction h generalizing k with
  | stop => exact ⟨fun _ hr => (nomatch hr), .nil⟩
  | @attempt s s1 s2 s' j found later hne hj hr1 hr2 _ ih =>
    obtain ⟨rfl, hlt⟩ := index_unique hj hs hne
    obtain ⟨_, t1, t2, e, hje, ht1, ht2, h2, -⟩ := exists_advance hj hus depth
    cases hr1.symm.trans ht1
    cases hr2.symm.trans ht2
    obtain ⟨hbounds, hpairs⟩ := ih h2
    refine ⟨List.forall_mem_cons.mpr ⟨⟨Nat.le_refl _, hlt⟩, fun r hr => ?_⟩,
      List.pairwise_cons.mpr ⟨fun i hi => ?_, hpairs⟩⟩
    · have := hbounds r hr
      exact ⟨by omega, this.2⟩
    · obtain ⟨r, hr, rfl⟩ := List.mem_map.mp hi
      have := hbounds r hr
      omega

/-- There are no more attempts than tokens. -/
theorem length_le (h : Attempts depth last us s rounds s') (hs : s.Shows last us)
    (hus : ∀ t ∈ us, t.kind ≠ .eof) : rounds.length ≤ us.length := by
  obtain ⟨hbounds, hpairs⟩ := h.increasing (k := 0) hs hus
  have hsub : rounds.map Prod.fst ⊆ List.range us.length := by
    intro i hi
    obtain ⟨r, hr, rfl⟩ := List.mem_map.mp hi
    exact List.mem_range.mpr (hbounds r hr).2
  have hnodup : (rounds.map Prod.fst).Nodup := hpairs.imp Nat.ne_of_lt
  have := (hnodup.subperm hsub).length_le
  rwa [List.length_map, List.length_range] at this

/-- **Each attempt counts once**, as a statement or as a diagnostic. -/
theorem account (h : Attempts depth last us s rounds s') (hus : ∀ t ∈ us, t.kind ≠ .eof) :
    (rounds.filterMap Prod.snd).length + s'.diagnostics.size =
      s.diagnostics.size + rounds.length := by
  induction h with
  | stop => exact Nat.zero_add _
  | @attempt s s1 s2 s' k found later _ hk hr1 hr2 _ ih =>
    obtain ⟨_, t1, t2, e, -, ht1, ht2, -, hcount⟩ := exists_advance hk hus depth
    cases hr1.symm.trans ht1
    cases hr2.symm.trans ht2
    rw [List.length_cons]
    cases found with
    | none =>
      rw [List.filterMap_cons_none (show Prod.snd (k, none) = none from rfl)]
      simp only [Option.toList_none, List.length_nil] at hcount
      omega
    | some n =>
      rw [List.filterMap_cons_some (show Prod.snd (k, some n) = some n from rfl), List.length_cons]
      simp only [Option.toList_some, List.length_singleton] at hcount
      omega

/-- The statements of a parser are those of its attempts. -/
theorem statements_eq (h : Attempts depth last us s rounds s') {n : Nat} (hn : rounds.length ≤ n)
    (done : Array Node) :
    Parser.statements depth n done s =
      .ok (done ++ (rounds.filterMap Prod.snd).toArray) s' := by
  induction h generalizing n done with
  | @stop s hend =>
    cases n with
    | zero => simp [Parser.statements, pure, EStateM.pure]
    | succ n =>
      rw [statements_succ, if_pos hend]
      simp [pure, EStateM.pure]
  | @attempt s s1 s2 s' k found later hne _ hr1 hr2 _ ih =>
    obtain ⟨n, rfl⟩ : ∃ n', n = n' + 1 := ⟨n - 1, by rw [List.length_cons] at hn; omega⟩
    rw [statements_succ, if_neg hne]
    refine ((bind_of_ok hr1).trans (bind_of_ok hr2)).trans ?_
    rw [ih (Nat.le_of_succ_le_succ hn)]
    cases found <;> simp

/-- **The program of a parser** holds the statements of its attempts, and is read to the end. -/
theorem program_eq (h : Attempts depth last us s rounds s') (hs : s.Shows last us)
    (hus : ∀ t ∈ us, t.kind ≠ .eof) :
    ∃ q, Parser.program depth s = .ok (.program (rounds.filterMap Prod.snd)) q ∧
      q.current.kind = .eof ∧ q.diagnostics = s'.diagnostics := by
  have hlen : rounds.length ≤ s.remaining :=
    Nat.le_trans (h.length_le hs hus) (length_le_of_shows hs)
  let found := #[] ++ (rounds.filterMap Prod.snd).toArray
  let count := s'.diagnostics.size
  let message := s!"Parsed {found.size} statements, {count} errors"
  let q : Parser := { s' with journal := s'.journal.note ⟨.parsing, .minimal, message⟩ }
  have hget : (get : Step Parser) s' = .ok s' s' := rfl
  have hnote : note .minimal message s' = .ok () q := rfl
  refine ⟨q, ?_, h.current_eq_eof, rfl⟩
  refine (bind_of_ok (h.statements_eq hlen #[])).trans ((bind_of_ok hget).trans
    ((bind_of_ok hnote).trans ?_))
  simp [pure, EStateM.pure]

end Attempts

namespace Reader

end Reader

end FrontEnd
