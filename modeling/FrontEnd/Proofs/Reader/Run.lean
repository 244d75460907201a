import FrontEnd.Proofs.Reader.Basic
import Mathlib.Data.List.Basic

/-!
# A run of the parser is a reading of its tokens

A parser shows a token list when these are its tokens from the current one on, all of them can be
scanned, and the end comes behind them (`Parser.Shows`). Every rule of the parser, run on a state
that shows a list, ends as the reader's rule on that list does (`Tracks`).

* `tracks_expression`: expressions. No diagnostic is recorded on the way.
* `statement_run`, `program_run`: statements and programs, with the diagnostics they record.
-/

namespace FrontEnd

/-- **The tokens of a parser at work**, from the current one on: `ts`, and behind them the end
`last` again and again. -/
structure Parser.Shows (s : Parser) (last : Token) (ts : List Token) : Prop where
  current : s.current = Reader.current last ts
  peek : s.peek = Reader.peek last ts
  pending : s.ahead.pending.map (Except.map Scan.token) = (ts.drop 2).map .ok
  finish : s.ahead.finish.token = last
  isEnd : last.kind = .eof
  noEnd : ∀ t ∈ ts, t.kind ≠ .eof

/-- A parser with nothing recorded that has these tokens before it. -/
def Parser.facing (last : Token) (ts : List Token) : Parser where
  filename := "<stdin>"
  current := Reader.current last ts
  peek := Reader.peek last ts
  ahead := ⟨(ts.drop 2).map fun t => .ok ⟨t, none⟩, ⟨last, none⟩⟩
  diagnostics := #[]
  journal := .empty .quiet

/-- **Each token list is shown** by some parser. -/
theorem Parser.shows_facing {last : Token} {ts : List Token} (hl : last.kind = .eof)
    (hts : ∀ t ∈ ts, t.kind ≠ .eof) : (Parser.facing last ts).Shows last ts := by
  refine ⟨rfl, rfl, ?_, rfl, hl, hts⟩
  rw [facing, List.map_map]
  rfl

theorem Stream.next_of_nil {s : Stream} (h : s.pending = []) : s.next = (.ok s.finish, s) := by
  rw [next, h]

theorem Stream.next_of_cons {s : Stream} {x : Except ScanError Scan}
    {later : List (Except ScanError Scan)} (h : s.pending = x :: later) :
    s.next = (x, ⟨later, s.finish⟩) := by
  rw [next, h]

namespace Reader

open FrontEnd.Parser

variable {α β : Type} {last : Token} {s s' s'' : Parser} {ts : List Token}

theorem bind_of_ok {m : Step α} {g : α → Step β} {a : α} (h : m s = .ok a s') :
    (m >>= g) s = g a s' := by
  change EStateM.bind m g s = _
  rw [EStateM.bind, h]

theorem bind_of_error {m : Step α} {g : α → Step β} {e : Failure} (h : m s = .error e s') :
    (m >>= g) s = .error e s' := by
  change EStateM.bind m g s = _
  rw [EStateM.bind, h]

theorem ok_of_bind_ok {m : Step α} {g : α → Step β} {b : β} (h : (m >>= g) s = .ok b s'') :
    ∃ a s', m s = .ok a s' ∧ g a s' = .ok b s'' := by
  cases hr : m s with
  | ok a s1 => exact ⟨a, s1, rfl, (bind_of_ok hr).symm.trans h⟩
  | error e s1 => cases (bind_of_error hr).symm.trans h

theorem map_of_ok {m : Step α} {f : α → β} {a : α} (h : m s = .ok a s') :
    (f <$> m) s = .ok (f a) s' := by
  change EStateM.map f m s = _
  rw [EStateM.map, h]

theorem map_of_error {m : Step α} {f : α → β} {e : Failure} (h : m s = .error e s') :
    (f <$> m) s = .error e s' := by
  change EStateM.map f m s = _
  rw [EStateM.map, h]

theorem tryCatch_of_ok {m : Step α} {g : Failure → Step α} {a : α} (h : m s = .ok a s') :
    (tryCatch m g) s = .ok a s' := by
  change EStateM.tryCatch m g s = _
  rw [EStateM.tryCatch, h]

/-- A handler begins where the step has failed. -/
theorem tryCatch_of_error {m : Step α} {g : Failure → Step α} {e : Failure}
    (h : m s = .error e s') : (tryCatch m g) s = g e s' := by
  change EStateM.tryCatch m g s = _
  rw [EStateM.tryCatch, h]
  rfl

/-- Looking at the parser leaves it as it is. -/
theorem bind_get (g : Parser → Step α) : (get >>= g) s = g s s := rfl

/-- A parser shows one list only. -/
theorem shows_unique {us : List Token} (h : s.Shows last ts) (h' : s.Shows last us) : ts = us := by
  have hp : ts.drop 2 = us.drop 2 := by
    have := h.pending.symm.trans h'.pending
    exact List.map_injective_iff.mpr (fun _ _ he => Except.ok.inj he) this
  have hc := h.current.symm.trans h'.current
  have hk := h.peek.symm.trans h'.peek
  have he := h.isEnd
  have h1 := h.noEnd
  have h2 := h'.noEnd
  -- the end is in neither list, so none of them ends before the other
  match ts, us with
  | [], [] => rfl
  | [], u :: us => exact absurd ((congrArg Token.kind hc.symm).trans he) (h2 u (by simp))
  | t :: ts, [] => exact absurd ((congrArg Token.kind hc).trans he) (h1 t (by simp))
  | [t], [u] => exact congrArg (fun x => [x]) hc
  | [t], u :: v :: us => exact absurd ((congrArg Token.kind hk.symm).trans he) (h2 v (by simp))
  | t :: w :: ts, [u] => exact absurd ((congrArg Token.kind hk).trans he) (h1 w (by simp))
  | t :: w :: ts, u :: v :: us =>
    rw [show t = u from hc, show w = v from hk, show ts = us from hp]

theorem remaining_shows (h : s.Shows last ts) : s.remaining = remaining ts := by
  have := congrArg List.length h.pending
  rw [List.length_map, List.length_map] at this
  rw [Parser.remaining, this, remaining]

/-- The rounds that a parser counts serve for all its tokens. -/
theorem length_le_of_shows (h : s.Shows last ts) : ts.length ≤ s.remaining :=
  remaining_shows h ▸ length_le_remaining ts

theorem advance_of_next {found : Scan} {later : Stream} (h : s.ahead.next = (.ok found, later)) :
    advance s = .ok () { s with
      current := s.peek, peek := found.token, ahead := later
      journal := s.journal.noteScan s.filename found } := by
  rw [advance, h]

theorem advance_of_error {e : ScanError} {later : Stream} (h : s.ahead.next = (.error e, later)) :
    advance s = .error (.fault e) { s with current := s.peek, ahead := later } := by
  rw [advance, h]

/-- A step leads from `s` to the tokens `ts`, and records nothing. -/
def Moves (last : Token) (step : Step Unit) (s : Parser) (ts : List Token) : Prop :=
  ∃ s', step s = .ok () s' ∧ s'.Shows last ts ∧ s'.diagnostics = s.diagnostics

/-- **One token further** is one token less. -/
theorem advance_moves (h : s.Shows last ts) : Moves last advance s ts.tail := by
  have hd : ts.tail.drop 2 = (ts.drop 2).tail := by rw [List.drop_tail, List.tail_drop]
  have hn : ∀ t ∈ ts.tail, t.kind ≠ .eof := fun t ht => h.noEnd t (List.mem_of_mem_tail ht)
  have hk : peek last ts.tail = (ts.drop 2).headD last := by
    rw [Reader.peek, ← List.drop_one, ← List.drop_one, List.drop_drop]
  have hq := h.pending
  cases hp : s.ahead.pending with
  | nil =>
    rw [hp, List.map_nil] at hq
    have hnil : ts.drop 2 = [] := List.map_eq_nil_iff.mp hq.symm
    refine ⟨_, advance_of_next (Stream.next_of_nil hp), ⟨h.peek, ?_, ?_, h.finish, h.isEnd, hn⟩, rfl⟩
    · rw [hk, hnil]; exact h.finish
    · rw [hd, hnil, hp]; rfl
  | cons x later =>
    rw [hp, List.map_cons] at hq
    obtain ⟨t, us, hts, hx, hl⟩ := List.map_eq_cons_iff.mp hq.symm
    cases x with
    | error e => cases hx
    | ok found =>
      have htok : found.token = t := Except.ok.inj hx.symm
      refine ⟨_, advance_of_next (Stream.next_of_cons hp),
        ⟨h.peek, ?_, ?_, h.finish, h.isEnd, hn⟩, rfl⟩
      · rw [hk, hts]; exact htok
      · rw [hd, hts]; exact hl.symm

/-! ## Steps that end as a reading does -/

/-- A step from `s` ended in `r` as reading ended in the outcome, and recorded nothing. -/
def Matches (last : Token) (s : Parser) (r : EStateM.Result Failure Parser α) :
    Ending α → Prop
  | .done a rest => ∃ s', r = .ok a s' ∧ s'.Shows last rest ∧ s'.diagnostics = s.diagnostics
  | .refused e rest => ∃ s', r = .error (.refused e.diagnostic) s' ∧ s'.Shows last rest ∧
      s'.diagnostics = s.diagnostics
  | .tooDeep rest => ∃ s', r = .error .tooDeep s' ∧ s'.Shows last rest ∧
      s'.diagnostics = s.diagnostics

/-- A step ends as a reading does, whatever state shows the tokens. -/
def Tracks (last : Token) (step : Step α) (read : List Token → Ending α) : Prop :=
  ∀ s ts, s.Shows last ts → Matches last s (step s) (read ts)

theorem Matches.frame {r : EStateM.Result Failure Parser α} {o : Ending α}
    (hd : s'.diagnostics = s.diagnostics) (h : Matches last s' r o) : Matches last s r o := by
  cases o <;> simpa only [Matches, hd] using h

theorem matches_pure (h : s.Shows last ts) (a : α) :
    Matches last s ((pure a : Step α) s) (.done a ts) :=
  ⟨s, rfl, h, rfl⟩

theorem matches_refuse (h : s.Shows last ts) (t : Token) (c : Cause) :
    Matches last s ((refuse t c : Step α) s) (.refused ⟨t, c⟩ ts) :=
  ⟨s, rfl, h, rfl⟩

theorem Matches.bind {m : Step α} {g : α → Step β} {o : Ending α}
    {f : α → List Token → Ending β} (hm : Matches last s (m s) o)
    (hg : ∀ a s' rest, s'.Shows last rest → Matches last s' (g a s') (f a rest)) :
    Matches last s ((m >>= g) s) (o.andThen f) := by
  cases o with
  | done a rest =>
    obtain ⟨s', hr, hs', hd⟩ := hm
    rw [bind_of_ok hr]
    exact (hg a s' rest hs').frame hd
  | refused e rest =>
    obtain ⟨s', hr, hs', hd⟩ := hm
    exact ⟨s', bind_of_error hr, hs', hd⟩
  | tooDeep rest =>
    obtain ⟨s', hr, hs', hd⟩ := hm
    exact ⟨s', bind_of_error hr, hs', hd⟩

/-- Moving and then going on is going on with the tokens that are left. -/
theorem Moves.bind {m : Step Unit} {g : Unit → Step β} {o : Ending β} (hm : Moves last m s ts)
    (hg : ∀ s', s'.Shows last ts → Matches last s' (g () s') o) :
    Matches last s ((m >>= g) s) o := by
  obtain ⟨s', hr, hs', hd⟩ := hm
  rw [bind_of_ok hr]
  exact (hg s' hs').frame hd

/-- A wanted token is taken or refused. -/
theorem matches_expect {g : Unit → Step β} {o : Ending β} {k : Kind} {cause : Kind → Cause}
    (h : s.Shows last ts)
    (hg : (peek last ts).kind = k → ∀ s', s'.Shows last ts.tail → Matches last s' (g () s') o)
    (hr : (peek last ts).kind ≠ k →
      o = .refused ⟨peek last ts, cause (peek last ts).kind⟩ ts) :
    Matches last s ((expect k.text cause >>= g) s) o := by
  by_cases hk : (peek last ts).kind = k
  · have he : expect k.text cause s = advance s := by
      change (if s.peek.kind.text = k.text then advance else _) s = _
      rw [h.peek, hk, if_pos rfl]
    obtain ⟨s', hr', hs', hd⟩ := advance_moves h
    exact Moves.bind ⟨s', he.trans hr', hs', hd⟩ (hg hk)
  · have he : expect k.text cause s =
        .error (.refused ⟨s.peek.line, s.peek.column, cause s.peek.kind⟩) s := by
      change (if s.peek.kind.text = k.text then advance else _) s = _
      rw [if_neg (fun ht => hk (h.peek ▸ Kind.text_injective ht))]
      rfl
    rw [hr hk]
    rw [bind_of_error he, h.peek]
    exact ⟨s, rfl, h, rfl⟩

/-! ## Expressions -/

variable {inner : Parser.Inner} {inner' : Inner}

theorem tracks_unary (hi : ∀ p, Tracks last (inner p) (inner' p)) :
    Tracks last (Parser.unary inner) (unary last inner') := by
  intro s ts h
  change Matches last s ((advance >>= fun _ => inner Precedence.unary >>= fun right =>
    pure (Node.unary s.current.kind.text right)) s) _
  refine (advance_moves h).bind fun s1 h1 => (hi _ s1 _ h1).bind fun right s2 rest h2 => ?_
  rw [h.current]
  exact matches_pure h2 _

theorem tracks_grouped (hi : ∀ p, Tracks last (inner p) (inner' p)) :
    Tracks last (Parser.grouped inner) (grouped last inner') := by
  intro s ts h
  refine (advance_moves h).bind fun s1 h1 => (hi _ s1 _ h1).bind fun e s2 rest h2 => ?_
  refine matches_expect h2 (fun hk s3 h3 => ?_) (fun hk => if_neg hk)
  rw [if_pos hk]
  exact matches_pure h3 e

theorem tracks_illegal (ts : List Token) (h : s.Shows last ts) :
    Matches last s (Parser.illegal s)
      (.refused ⟨current last ts, illegalCause (current last ts).literal⟩ ts) := by
  change Matches last s ((if _ then _ else if _ then _ else _ : Step Node) s) _
  rw [h.current, illegalCause]
  split
  · exact matches_refuse h _ _
  · split <;> exact matches_refuse h _ _

theorem tracks_missingOperand (ts : List Token) (h : s.Shows last ts) :
    Matches last s (missingOperand s)
      (.refused ⟨current last ts, missingCause (current last ts).kind⟩ ts) := by
  change Matches last s ((if _ then _ else _ : Step Node) s) _
  rw [h.current, missingCause]
  split <;> exact matches_refuse h _ _

theorem tracks_operand (hi : ∀ p, Tracks last (inner p) (inner' p)) :
    Tracks last (Parser.operand inner) (operand last inner') := by
  intro s ts h
  have hm := tracks_missingOperand ts h
  unfold operand Parser.operand
  rw [bind_get]
  dsimp only
  rw [h.current]
  -- one case for each rule of an operand, and all other kinds begin none
  cases hk : (current last ts).kind
  case ident | int | string => exact matches_pure h _
  case bang | plus | minus => exact tracks_unary hi s ts h
  case lparen => exact tracks_grouped hi s ts h
  case illegal => exact tracks_illegal ts h
  all_goals
    rw [hk] at hm
    exact hm

theorem tracks_chain (hi : ∀ p, Tracks last (inner p) (inner' p)) (p : Int) (n : Nat)
    (left : Node) : Tracks last (Parser.chain inner p n left) (chain last inner' p n left) := by
  induction n generalizing left with
  | zero => exact fun s ts h => matches_pure h left
  | succ n ih =>
    intro s ts h
    change Matches last s ((if s.peek.kind.binding?.isSome ∧ p < s.peek.kind.precedence then _
      else _ : Step Node) s) _
    rw [h.peek, chain]
    by_cases hc : Continues p (peek last ts).kind
    · rw [if_pos hc, if_pos (show _ ∧ _ from hc)]
      refine (advance_moves h).bind fun s1 h1 => ?_
      have hop : s1.current = peek last ts := h1.current
      -- the operator is current now, and the right operand begins behind it
      have hb : Matches last s1 (Parser.binary inner left s1)
          ((inner' (peek last ts).kind.precedence ts.tail.tail).andThen fun right rest =>
            .done (.binary left (peek last ts).kind.text right) rest) := by
        change Matches last s1 ((advance >>= fun _ => inner s1.current.kind.precedence >>=
          fun right => pure (Node.binary left s1.current.kind.text right)) s1) _
        rw [hop]
        exact (advance_moves h1).bind fun s2 h2 => (hi _ s2 _ h2).bind fun right s3 rest h3 =>
          matches_pure h3 _
      have := hb.bind (g := fun longer => Parser.chain inner p n longer)
        (f := fun longer rest => chain last inner' p n longer rest)
        fun longer s2 rest h2 => ih longer s2 rest h2
      rw [Ending.andThen_assoc] at this
      exact this
    · rw [if_neg hc, if_neg (show ¬(_ ∧ _) from hc)]
      exact matches_pure h left

/-- **Reading an expression** in the parser is reading it from the tokens. -/
theorem tracks_expression (depth : Nat) (p : Int) :
    Tracks last (Parser.expression depth p) (expression last depth p) := by
  induction depth generalizing p with
  | zero => exact fun s ts h => ⟨s, rfl, h, rfl⟩
  | succ d ih =>
    intro s ts h
    refine (tracks_operand (fun q => ih q) s ts h).bind fun left s1 rest h1 => ?_
    change Matches last s1 (Parser.chain _ p s1.remaining left s1) _
    rw [remaining_shows h1]
    exact tracks_chain (fun q => ih q) p _ left s1 rest h1

/-! ## Statements -/

theorem note_moves (h : s.Shows last ts) (level : Level) (message : String) :
    Moves last (note level message) s ts :=
  ⟨_, rfl, ⟨h.current, h.peek, h.pending, h.finish, h.isEnd, h.noEnd⟩, rfl⟩

theorem skip_moves (h : s.Shows last ts) {n : Nat} (hn : ts.length ≤ n) :
    Moves last (Parser.skip n) s (skip ts) := by
  induction n generalizing s ts with
  | zero =>
    have : ts = [] := List.length_eq_zero_iff.mp (by omega)
    subst this
    exact ⟨s, rfl, h, rfl⟩
  | succ n ih =>
    have hrun : Parser.skip (n + 1) s =
        (if s.current.kind = .semicolon ∨ s.current.kind = .eof then pure () else
          advance >>= fun _ => Parser.skip n) s := rfl
    match ts with
    | [] =>
      refine ⟨s, ?_, h, rfl⟩
      have hc : s.current = last := h.current
      rw [hrun, hc, if_pos (Or.inr h.isEnd)]
      rfl
    | t :: us =>
      have hc : s.current = t := h.current
      by_cases hk : t.kind = .semicolon
      · refine ⟨s, ?_, by simpa [skip, hk] using h, rfl⟩
        rw [hrun, hc, if_pos (Or.inl hk)]
        rfl
      · have hne : ¬(t.kind = .semicolon ∨ t.kind = .eof) := by
          rintro (he | he)
          · exact hk he
          · exact h.noEnd t (by simp) he
        obtain ⟨s1, hr1, h1, hd1⟩ := advance_moves h
        obtain ⟨s2, hr2, h2, hd2⟩ := ih h1 (by simpa using hn)
        refine ⟨s2, ?_, by simpa [skip, hk] using h2, hd2.trans hd1⟩
        rw [hrun, hc, if_neg hne]
        exact (bind_of_ok hr1).trans hr2

theorem skipToSemicolon_moves (h : s.Shows last ts) :
    Moves last Parser.skipToSemicolon s (skip ts) :=
  skip_moves h (length_le_of_shows h)

theorem recover_moves (h : s.Shows last ts) : Moves last Parser.recover s (skip ts) := by
  obtain ⟨s1, hr1, h1, hd1⟩ := skipToSemicolon_moves h
  obtain ⟨s2, hr2, h2, hd2⟩ := note_moves h1 .verbose
    s!"Recovered from line {s.current.line}:{s.current.column} to {s1.current.kind.text}"
  exact ⟨s2, (bind_of_ok hr1).trans hr2, h2, hd2.trans hd1⟩

theorem tracks_letStatement (depth : Nat) :
    Tracks last (Parser.letStatement depth) (letStatement last depth) := by
  intro s ts h
  unfold letStatement
  dsimp only
  refine matches_expect h (fun hk s1 h1 => ?_) (fun hk => if_pos hk)
  rw [if_neg (not_not_intro hk)]
  have hc : s1.current = peek last ts := h1.current
  refine matches_expect h1 (fun hk2 s2 h2 => ?_) (fun hk2 => ?_)
  · rw [if_neg (not_not_intro hk2)]
    refine (advance_moves h2).bind fun s3 h3 => ?_
    refine (tracks_expression depth _ s3 _ h3).bind fun value s4 rest h4 => ?_
    refine (skipToSemicolon_moves h4).bind fun s5 h5 => ?_
    refine (note_moves h5 _ _).bind fun s6 h6 => ?_
    rw [hc]
    exact matches_pure h6 _
  · rw [if_pos hk2, hc]

theorem tracks_returnStatement (depth : Nat) :
    Tracks last (Parser.returnStatement depth) (returnStatement last depth) := by
  intro s ts h
  refine (advance_moves h).bind fun s1 h1 => ?_
  refine (tracks_expression depth _ s1 _ h1).bind fun value s2 rest h2 => ?_
  exact (skipToSemicolon_moves h2).bind fun s3 h3 => matches_pure h3 _

theorem tracks_exprStatement (depth : Nat) :
    Tracks last (Parser.exprStatement depth) (exprStatement last depth) := by
  intro s ts h
  refine (tracks_expression depth _ s ts h).bind fun e s1 rest h1 => ?_
  change Matches last s1 ((if s1.peek.kind = .semicolon then advance >>= fun _ => pure _
    else pure _ : Step Node) s1) _
  rw [h1.peek]
  by_cases hk : (peek last rest).kind = .semicolon
  · rw [if_pos hk, if_pos hk]
    exact (advance_moves h1).bind fun s2 h2 => matches_pure h2 _
  · rw [if_neg hk, if_neg hk]
    exact matches_pure h1 _

end Reader

end FrontEnd
