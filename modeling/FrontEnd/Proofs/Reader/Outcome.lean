import FrontEnd.Proofs.Lexing.Numbers
import FrontEnd.Proofs.Reader.Fault

/-!
# How the parser of a text ends

A refusal is recorded by the statement that it ends, and so is nesting that is too deep. Nothing but
an error of the stream is left for a program to fail with. So the parser of a text gives a program,
whatever its statements are, or it stops with the first number that is too long.

* `statement_fails`, `parse_fails`: what the rules fail with.
* `parseSource_of_error`: a text that has no tokens.
* `tokenize_numbers`: numbers of any length, and all that scanning and reading a text fail with.
-/

namespace FrontEnd

open Text FrontEnd.Parser

namespace Reader

variable {α β : Type} {P Q : Failure → Prop}

/-! ## What steps fail with -/

/-- A step fails for reasons of `P` only. -/
def Fails (P : Failure → Prop) (m : Step α) : Prop := ∀ s e s', m s = .error e s' → P e

theorem fails_of_ok {m : Step α} (h : ∀ s, ∃ a s', m s = .ok a s') : Fails P m := by
  intro s e s' he
  obtain ⟨a, t, ht⟩ := h s
  cases ht.symm.trans he

theorem Fails.mono {m : Step α} (h : Fails P m) (hPQ : ∀ e, P e → Q e) : Fails Q m :=
  fun s e s' he => hPQ e (h s e s' he)

theorem Fails.bind {m : Step α} {g : α → Step β} (hm : Fails P m) (hg : ∀ a, Fails P (g a)) :
    Fails P (m >>= g) := by
  intro s e s' he
  cases hr : m s with
  | ok a s1 => exact hg a s1 e s' ((bind_of_ok hr).symm.trans he)
  | error f s1 =>
    have hf := (bind_of_error hr).symm.trans he
    cases hf
    exact hm s e s' hr

theorem fails_ite {p : Prop} [Decidable p] {m m' : Step α} (hm : Fails P m) (hm' : Fails P m') :
    Fails P (if p then m else m') := by
  split
  · exact hm
  · exact hm'

theorem fails_pure (a : α) : Fails P (pure a : Step α) := fails_of_ok fun s => ⟨a, s, rfl⟩

theorem fails_get : Fails P (get : Step Parser) := fails_of_ok fun s => ⟨s, s, rfl⟩

theorem fails_note (level : Level) (message : String) : Fails P (note level message) :=
  fails_of_ok fun _ => ⟨(), _, rfl⟩

theorem fails_report (d : Diagnostic) : Fails P (report d) := fails_of_ok fun _ => ⟨(), _, rfl⟩

theorem fails_throw {e : Failure} (he : P e) : Fails P (throw e : Step α) := by
  intro s f s' hf
  cases hf
  exact he

/-- What is handled fails for the reasons of the handler. -/
theorem fails_handler {m : Step α} {g : Failure → Step α} (hm : Fails Q m)
    (hg : ∀ e, Q e → Fails P (g e)) : Fails P (tryCatch m g) := by
  intro s e s' he
  cases hr : m s with
  | ok a s1 => cases (tryCatch_of_ok hr).symm.trans he
  | error f s1 => exact hg f (hm s f s1 hr) s1 e s' ((tryCatch_of_error hr).symm.trans he)

theorem advance_fails : Fails Failure.IsFault advance := by
  intro s e s' he
  rw [advance] at he
  split at he
  · cases he
  · cases he
    trivial

/-! ## Statements and programs -/

theorem skip_fails (n : Nat) : Fails Failure.IsFault (Parser.skip n) := by
  induction n with
  | zero => exact fails_pure ()
  | succ n ih =>
    refine fails_get.bind fun p => ?_
    refine fails_ite (fails_pure ()) ?_
    refine advance_fails.bind fun _ => ?_
    exact ih

theorem skipToSemicolon_fails : Fails Failure.IsFault Parser.skipToSemicolon := by
  refine fails_get.bind fun p => ?_
  exact skip_fails _

theorem recover_fails : Fails Failure.IsFault Parser.recover := by
  refine fails_get.bind fun p => ?_
  refine skipToSemicolon_fails.bind fun _ => ?_
  refine fails_get.bind fun q => ?_
  exact fails_note _ _

/-- A refusal that is recorded is not passed on. -/
theorem recorded_fails (step : Step α) :
    Fails (fun e => e = .tooDeep ∨ e.IsFault) (recorded step) := by
  -- whatever the step fails with, the handler does not refuse
  have hstep : Fails (fun _ => True) (some <$> step) := fun _ _ _ _ => trivial
  refine fails_handler hstep fun e _ => ?_
  cases e with
  | refused d =>
    refine (fails_report d).bind fun _ => ?_
    exact fails_pure none
  | tooDeep => exact fails_throw (Or.inl rfl)
  | fault e => exact fails_throw (Or.inr trivial)

theorem orRecover_fails (step : Step α) :
    Fails (fun e => e = .tooDeep ∨ e.IsFault) (orRecover step) := by
  refine (recorded_fails step).bind fun result => ?_
  refine fails_ite ?_ (fails_pure result)
  refine (recover_fails.mono fun _ => Or.inr).bind fun _ => ?_
  exact fails_pure result

theorem attempt_fails (depth : Nat) :
    Fails (fun e => e = .tooDeep ∨ e.IsFault) (Parser.attempt depth) := by
  refine fails_get.bind fun p => ?_
  cases p.current.kind
  case semicolon => exact fails_pure _
  all_goals exact orRecover_fails _

/-- **A statement** fails with an error of the stream only. -/
theorem statement_fails (depth : Nat) : Fails Failure.IsFault (Parser.statement depth) := by
  refine fails_get.bind fun p => ?_
  refine fails_handler (attempt_fails depth) fun e he => ?_
  cases e with
  | refused d => rcases he with he | he <;> cases he
  | tooDeep =>
    refine (fails_report _).bind fun _ => ?_
    refine recover_fails.bind fun _ => ?_
    exact fails_pure none
  | fault e => exact fails_throw trivial

theorem statements_fails (depth n : Nat) (done : Array Node) :
    Fails Failure.IsFault (Parser.statements depth n done) := by
  induction n generalizing done with
  | zero => exact fails_pure done
  | succ n ih =>
    refine fails_get.bind fun p => ?_
    refine fails_ite (fails_pure done) ?_
    refine (statement_fails depth).bind fun found => ?_
    refine advance_fails.bind fun _ => ?_
    exact ih _

theorem program_fails (depth : Nat) : Fails Failure.IsFault (Parser.program depth) := by
  refine fails_get.bind fun p => ?_
  refine (statements_fails depth _ _).bind fun found => ?_
  refine fails_get.bind fun q => ?_
  refine (fails_note _ _).bind fun _ => ?_
  exact fails_pure _

/-- **A parser** fails with an error of the stream only. -/
theorem parse_fails (depth : Nat) : Fails Failure.IsFault (Parser.parse depth) := by
  refine Fails.bind ?_ fun _ => program_fails depth
  refine advance_fails.bind fun _ => ?_
  exact advance_fails

/-! ## Source texts -/

/-- **A text that has no tokens** is not read: the parser stops with the error that the scan stops
with. -/
theorem parseSource_of_error {source : String} {e : ScanError} (h : tokenize source = .error e)
    (depth : Nat) (settings : Settings) (filename : String) :
    ∃ s, parseSource depth settings filename source = .error (.fault e) s := by
  cases hr : parseSource depth settings filename source with
  | ok p s =>
    obtain ⟨us, last, hts⟩ := exists_tokens_of_ok hr
    cases h.symm.trans hts
  | error f s =>
    have hfault : f.IsFault := parse_fails depth _ _ _ hr
    cases f with
    | refused d => cases hfault
    | tooDeep => cases hfault
    | fault e' =>
      have hmeets : Ends Parser.Follows Meets (.fresh filename (.empty settings) source)
          (parseSource depth settings filename source) :=
        frame_follows.composes.bind frame_follows.start (fun _ => frame_follows.program depth) _
      rw [hr] at hmeets
      obtain ⟨xs, later, hpending⟩ := hmeets
      cases h.symm.trans (Cursor.tokens_drain_of_pending hpending)
      exact ⟨s, rfl⟩

end Reader

/-- Leading zeros do not change a number. -/
theorem decimal_zeros_append (n : Nat) (w : List Char) :
    decimal (List.replicate n '0' ++ w) = decimal w := by
  induction n with
  | zero => rfl
  | succ n ih => exact ih

/-- **Numbers of any length, and where scanning stops.** Wherever a lexeme begins with digits, the
number is the whole run of them, and scanning goes on behind it. If there are not too many of them,
they are one token that carries them, an integer with their value if it is in range, and no valid
token if not; leading zeros count for the number of digits only. If there are too many, they are not
converted. Everything that is no number gives a token.

So a text has tokens exactly if none of its numbers is too long, and these are the ones that its
cursor meets; if there is a number that is too long, scanning stops with the first one. A text that
has tokens is read as a program, whatever its tokens are and however deeply it is nested, and a text
that has none stops the parser with the error that stops the scan. -/
theorem tokenize_numbers (source : String) :
    (∀ i, let c := Cursor.behind i (.ofText source)
      (c.digits ≠ [] → c.skipSpace.rest = c.digits ++ c.next.2.rest ∧
        ∀ a ∈ c.next.2.rest.head?, isDigit a = false) ∧
      (c.digits ≠ [] → c.digits.length ≤ maxDigits →
        ∃ s, c.next.1 = .ok s ∧ s.token.literal = String.ofList c.digits ∧
          if decimal c.digits ≤ intMax then
            s.token.kind = .int ∧ s.token.value? = some (decimal c.digits : Int)
          else s.token.kind = .illegal ∧ s.token.value? = none) ∧
      (maxDigits < c.digits.length → c.next.1 = .error (.tooManyDigits c.digits.length)) ∧
      (c.digits = [] → ∃ s, c.next.1 = .ok s)) ∧
    (∀ n w, decimal (List.replicate n '0' ++ w) = decimal w) ∧
    (∀ us last, tokenize source = .ok (us ++ [last]) →
      ∀ i, ∃ s, (Cursor.behind i (.ofText source)).next.1 = .ok s ∧ s.token = us.getD i last) ∧
    ((∃ us last, tokenize source = .ok (us ++ [last])) ↔
      ∀ i, (Cursor.behind i (.ofText source)).digits.length ≤ maxDigits) ∧
    (∀ e, tokenize source = .error e ↔ ∃ i,
      maxDigits < (Cursor.behind i (.ofText source)).digits.length ∧
      e = .tooManyDigits (Cursor.behind i (.ofText source)).digits.length ∧
      ∀ j < i, (Cursor.behind j (.ofText source)).digits.length ≤ maxDigits) ∧
    ∀ depth settings filename,
      (∀ ts, tokenize source = .ok ts →
        ∃ ns s, parseSource depth settings filename source = .ok (.program ns) s) ∧
      ∀ e, tokenize source = .error e →
        ∃ s, parseSource depth settings filename source = .error (.fault e) s := by
  refine ⟨fun i => ?_, decimal_zeros_append, fun us last h => next_behind_of_tokenize h,
    exists_tokenize_iff, fun e => tokenize_eq_error_iff,
    fun depth settings filename => ⟨fun ts hts => ?_, fun e he => ?_⟩⟩
  · intro c
    refine ⟨fun h => ⟨?_, fun a ha => ?_⟩, Cursor.next_of_few, Cursor.next_of_many,
      Cursor.exists_next_of_no_digits⟩
    · rw [Cursor.rest_next_of_digits h, Cursor.digits_append]
    · have hstop := List.head?_dropWhile_not isDigit c.skipSpace.rest
      rw [Cursor.rest_next_of_digits h] at ha
      rw [Option.mem_def.mp ha] at hstop
      exact hstop
  · obtain ⟨us, last, rfl⟩ := exists_concat_of_tokenize hts
    obtain ⟨s, hr, -⟩ := Reader.parseSource_run hts depth settings filename
    exact ⟨_, s, hr⟩
  · exact Reader.parseSource_of_error he depth settings filename

/-- **Scanning and reading do not always end with a result**: a number that is out of range stops
both of them if it has too many digits, and so does one that is nothing but zeros. -/
theorem exists_number_unread :
    (∀ ts, tokenize (String.ofList (List.replicate 4301 '9')) ≠ .ok ts) ∧
    (∀ p s, parseSource nestingLimit .quiet "<stdin>"
      (String.ofList (List.replicate 4301 '9')) ≠ .ok p s) ∧
    decimal (List.replicate 4301 '0') ≤ intMax ∧
    ∀ ts, tokenize (String.ofList (List.replicate 4301 '0')) ≠ .ok ts := by
  have hfails (a : Char) (ha : isDigit a = true) :
      tokenize (String.ofList (List.replicate 4301 a)) = .error (.tooManyDigits 4301) := by
    have hmany : maxDigits < (List.replicate 4301 a).length := by
      rw [List.length_replicate]
      decide
    have hall : ∀ b ∈ List.replicate 4301 a, isDigit b = true := by
      intro b hb
      rw [List.eq_of_mem_replicate hb]
      exact ha
    have herror := tokenize_of_digits hall hmany
    rwa [List.length_replicate] at herror
  have hnines := hfails '9' (by decide)
  have hzeros := hfails '0' (by decide)
  have hzero : decimal (List.replicate 4301 '0') = decimal [] := by
    rw [← decimal_zeros_append 4301 [], List.append_nil]
  refine ⟨fun ts h => ?_, fun p s h => ?_, ?_, fun ts h => ?_⟩
  · cases hnines.symm.trans h
  · obtain ⟨s', hs'⟩ := Reader.parseSource_of_error hnines nestingLimit .quiet "<stdin>"
    cases hs'.symm.trans h
  · rw [hzero]
    decide
  · cases hzeros.symm.trans h

end FrontEnd
