import FrontEnd.Proofs.Reader.Run

/-!
# Whole programs, read from their tokens

A statement that is refused records one diagnostic and leaves out what is left of it. So the
parser reads a program to its end whatever its tokens are, and what it makes of it is
`Reader.program` of the token list.

* `statement_run`: a statement of the parser is the reader's, refusals as diagnostics.
* `program_run`: from any state that shows a token list, the program and all its diagnostics.
-/

namespace FrontEnd.Reader

open FrontEnd.Parser

variable {α : Type} {last : Token} {s s' : Parser} {ts : List Token} {depth : Nat}

/-- The diagnostics of refusals, in order. -/
def diagnostics (rs : List Refusal) : List Diagnostic := rs.map Refusal.diagnostic

theorem report_shows (h : s.Shows last ts) (d : Diagnostic) :
    ∃ s', report d s = .ok () s' ∧ s'.Shows last ts ∧ s'.diagnostics = s.diagnostics.push d :=
  ⟨_, rfl, ⟨h.current, h.peek, h.pending, h.finish, h.isEnd, h.noEnd⟩, rfl⟩

theorem recorded_of_ok {step : Step α} {a : α} (hr : step s = .ok a s') :
    recorded step s = .ok (some a) s' :=
  tryCatch_of_ok (map_of_ok hr)

theorem recorded_of_refused {step : Step α} {d : Diagnostic} (hr : step s = .error (.refused d) s')
    {s2 : Parser} (h2 : report d s' = .ok () s2) : recorded step s = .ok none s2 :=
  (tryCatch_of_error (map_of_error hr)).trans (bind_of_ok h2)

theorem recorded_of_tooDeep {step : Step α} (hr : step s = .error .tooDeep s') :
    recorded step s = .error .tooDeep s' :=
  tryCatch_of_error (map_of_error hr)

/-- A statement ends in what is found, its refusal as the last diagnostic. -/
def Settles (last : Token) (s : Parser) (r : EStateM.Result Failure Parser (Option Node))
    (f : Found) : Prop :=
  ∃ s', r = .ok f.node? s' ∧ s'.Shows last f.rest ∧
    s'.diagnostics.toList = s.diagnostics.toList ++ diagnostics f.refusal?.toList

/-- A rule for statements ended as the reader's did: what it refused is recorded, and the rest of
the statement left out. -/
def Recovers (last : Token) (s : Parser) (r : EStateM.Result Failure Parser (Option Node)) :
    Ending Node → Prop
  | .done n rest => Settles last s r ⟨some n, none, rest⟩
  | .refused e rest => Settles last s r ⟨none, some e, skip rest⟩
  | .tooDeep rest => ∃ s', r = .error .tooDeep s' ∧ s'.Shows last rest ∧
      s'.diagnostics = s.diagnostics

theorem orRecover_run {step : Step Node} {o : Ending Node} (hm : Matches last s (step s) o) :
    Recovers last s (orRecover step s) o := by
  cases o with
  | done n rest =>
    obtain ⟨s1, hr, h1, hd⟩ := hm
    exact ⟨s1, bind_of_ok (recorded_of_ok hr), h1, by simp [diagnostics, hd]⟩
  | refused e rest =>
    obtain ⟨s1, hr, h1, hd1⟩ := hm
    obtain ⟨s2, hr2, h2, hd2⟩ := report_shows h1 e.diagnostic
    obtain ⟨s3, hr3, h3, hd3⟩ := recover_moves h2
    refine ⟨s3, ?_, h3, by simp [diagnostics, hd3, hd2, hd1]⟩
    exact (bind_of_ok (recorded_of_refused hr hr2)).trans (bind_of_ok hr3)
  | tooDeep rest =>
    obtain ⟨s1, hr, h1, hd⟩ := hm
    exact ⟨s1, bind_of_error (recorded_of_tooDeep hr), h1, hd⟩

theorem attempt_run (h : s.Shows last ts) (depth : Nat) :
    Recovers last s (Parser.attempt depth s) (attempt last depth ts) := by
  have hc : s.current = current last ts := h.current
  unfold attempt Parser.attempt
  rw [bind_get, hc]
  cases (current last ts).kind
  case letWord => exact orRecover_run (tracks_letStatement depth s ts h)
  case returnWord => exact orRecover_run (tracks_returnStatement depth s ts h)
  case semicolon => exact ⟨s, rfl, h, by simp [diagnostics]⟩
  all_goals exact orRecover_run (tracks_exprStatement depth s ts h)

theorem statement_of_ok {found : Option Node} (hr : Parser.attempt depth s = .ok found s') :
    Parser.statement depth s = .ok found s' :=
  tryCatch_of_ok hr

theorem statement_of_tooDeep (hr : Parser.attempt depth s = .error .tooDeep s') :
    Parser.statement depth s =
      (report ⟨s.current.line, s.current.column, .tooDeep⟩ >>= fun _ => recover >>= fun _ =>
        pure none) s' :=
  tryCatch_of_error hr

/-- **A statement** of the parser is the statement of its tokens. -/
theorem statement_run (h : s.Shows last ts) (depth : Nat) :
    Settles last s (Parser.statement depth s) (statement last depth ts) := by
  have hc : s.current = current last ts := h.current
  have ha := attempt_run h depth
  unfold statement
  -- what is refused is recorded already, and the handler is for nesting that is too deep
  cases ho : attempt last depth ts with rw [ho] at ha
  | done n rest | refused e rest =>
    obtain ⟨s1, hr, h1, hd⟩ := ha
    exact ⟨s1, statement_of_ok hr, h1, hd⟩
  | tooDeep rest =>
    obtain ⟨s1, hr, h1, hd1⟩ := ha
    obtain ⟨s2, hr2, h2, hd2⟩ := report_shows h1 ⟨s.current.line, s.current.column, .tooDeep⟩
    obtain ⟨s3, hr3, h3, hd3⟩ := recover_moves h2
    refine ⟨s3, ?_, h3, by simp [settle, diagnostics, Refusal.diagnostic, hd3, hd2, hd1, hc]⟩
    exact (statement_of_tooDeep hr).trans ((bind_of_ok hr2).trans (bind_of_ok hr3))

theorem program_nil (last : Token) (depth : Nat) : program last depth [] = ([], []) := by
  rw [program, dif_pos rfl]

theorem program_of_ne_nil (hts : ts ≠ []) :
    program last depth ts =
      ((statement last depth ts).node?.toList ++
          (program last depth (statement last depth ts).rest.tail).1,
        (statement last depth ts).refusal?.toList ++
          (program last depth (statement last depth ts).rest.tail).2) := by
  rw [program, dif_neg hts]

/-- A round reads a statement, and takes its last token. -/
theorem statements_succ (depth n : Nat) (done : Array Node) (s : Parser) :
    Parser.statements depth (n + 1) done s =
      (if s.current.kind = .eof then pure done else
        Parser.statement depth >>= fun found => advance >>= fun _ =>
          Parser.statements depth n (done ++ found.toArray)) s := rfl

/-- The statements up to the end, behind those read already. -/
theorem statements_run (depth : Nat) (h : s.Shows last ts) {n : Nat} (hn : ts.length ≤ n)
    (done : Array Node) :
    ∃ s', Parser.statements depth n done s =
        .ok (done ++ (program last depth ts).1.toArray) s' ∧ s'.Shows last [] ∧
      s'.diagnostics.toList =
        s.diagnostics.toList ++ diagnostics (program last depth ts).2 := by
  induction n generalizing s ts done with
  | zero =>
    have : ts = [] := List.length_eq_zero_iff.mp (by omega)
    subst this
    exact ⟨s, by simp [program_nil, Parser.statements, pure, EStateM.pure], h,
      by simp [program_nil, diagnostics]⟩
  | succ n ih =>
    rw [statements_succ]
    by_cases hts : ts = []
    · subst hts
      have hc : s.current = last := h.current
      rw [hc, if_pos h.isEnd]
      exact ⟨s, by simp [program_nil, pure, EStateM.pure], h, by simp [program_nil, diagnostics]⟩
    · have hc : s.current.kind ≠ .eof := by
        obtain ⟨t, us, rfl⟩ := List.exists_cons_of_ne_nil hts
        have hc : s.current = t := h.current
        exact hc ▸ h.noEnd t (by simp)
      rw [if_neg hc, program_of_ne_nil hts]
      obtain ⟨s1, hr1, h1, hd1⟩ := statement_run h depth
      obtain ⟨s2, hr2, h2, hd2⟩ := advance_moves h1
      have hlen : (statement last depth ts).rest.tail.length ≤ n := by
        have h1 := length_rest_statement last depth ts
        have h2 := List.length_pos_iff.mpr hts
        rw [List.length_tail]
        omega
      obtain ⟨s3, hr3, h3, hd3⟩ := ih h2 hlen (done ++ (statement last depth ts).node?.toArray)
      refine ⟨s3, ?_, h3, by simp [hd3, hd2, hd1, diagnostics]⟩
      refine ((bind_of_ok hr1).trans (bind_of_ok hr2)).trans (hr3.trans ?_)
      cases (statement last depth ts).node? <;> simp

/-- **A program** of the parser is the program of its tokens. -/
theorem program_run (h : s.Shows last ts) (depth : Nat) :
    ∃ s', Parser.program depth s = .ok (.program (program last depth ts).1) s' ∧
      s'.diagnostics.toList =
        s.diagnostics.toList ++ diagnostics (program last depth ts).2 := by
  obtain ⟨s1, hr1, h1, hd1⟩ := statements_run depth h (length_le_of_shows h) #[]
  let found := #[] ++ (program last depth ts).1.toArray
  obtain ⟨s2, hr2, h2, hd2⟩ := note_moves h1 .minimal
    s!"Parsed {found.size} statements, {s1.diagnostics.size} errors"
  refine ⟨s2, ?_, by rw [hd2, hd1]⟩
  have hg : (get : Step Parser) s1 = .ok s1 s1 := rfl
  refine (bind_of_ok hr1).trans ((bind_of_ok hg).trans ((bind_of_ok hr2).trans ?_))
  simp [pure, EStateM.pure]

end FrontEnd.Reader
