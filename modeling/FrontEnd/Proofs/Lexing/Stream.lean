import FrontEnd.Proofs.Lexing.Read
import FrontEnd.Token.Scan

/-!
# The tokens ahead of a parser

The stream that a parser reads from and the list of tokens of a text are two readings of the same
text. A text can be scanned if and only if the stream holds no error, and then the list is what
the stream holds, with the end behind it.

* `tokens_drain_iff`: the list is that of the stream.
* `exists_read_of_mem`: each token of the stream is a lexeme of the text.
* `ends_of_tokenize`: the last token of a text is its end, and no other one is.
-/

namespace FrontEnd

theorem Drained.tokens_push_eq_ok {s : Scan} {d : Drained} {ts : List Token} :
    (d.push s).tokens = .ok ts ↔ ∃ us, d.tokens = .ok us ∧ ts = s.token :: us := by
  unfold Drained.tokens Drained.push
  cases d.error? with
  | none => simp [eq_comm]
  | some e => simp

/-- **The next token** is the lexeme behind the space, at its place. -/
theorem Cursor.exists_read_of_next {c : Cursor} {s : Scan} (h : c.next.1 = .ok s) :
    ∃ x, (Lexeme.read c.skipSpace.rest).result = .ok x ∧
      s = x.at c.skipSpace.line c.skipSpace.column := by
  rw [next, reading] at h
  cases hr : (Lexeme.read c.skipSpace.rest).result with
  | error e =>
    rw [hr] at h
    cases h
  | ok x =>
    rw [hr] at h
    cases h
    exact ⟨x, rfl, rfl⟩

namespace Stream

variable {c : Cursor}

theorem ofCursor_of_end (h : c.skipSpace.rest = []) : ofCursor c = ⟨[], c.skipSpace.finish⟩ := by
  rw [ofCursor, dif_pos h]

theorem ofCursor_of_more (h : c.skipSpace.rest ≠ []) :
    ofCursor c = ⟨c.next.1 :: (ofCursor c.next.2).pending, (ofCursor c.next.2).finish⟩ := by
  rw [ofCursor, dif_neg h]

theorem kind_finish (c : Cursor) : (ofCursor c).finish.token.kind = .eof := by
  fun_induction ofCursor c with
  | case1 c h => rfl
  | case2 c h later ih => exact ih

/-- What a cursor finds is read somewhere in the text. -/
theorem exists_read_of_mem {s : Scan} (h : .ok s ∈ (ofCursor c).pending) :
    ∃ cs x, cs ≠ [] ∧ (Lexeme.read cs).result = .ok x ∧ s = x.at s.token.line s.token.column := by
  fun_induction ofCursor c with
  | case1 c hc => cases h
  | case2 c hc later ih =>
    rcases List.mem_cons.mp h with h | h
    · obtain ⟨x, hr, rfl⟩ := Cursor.exists_read_of_next h.symm
      exact ⟨c.skipSpace.rest, x, hc, hr, rfl⟩
    · exact ih h

/-- What a cursor finds before the end is not the end. -/
theorem kind_pending {s : Scan} (h : .ok s ∈ (ofCursor c).pending) : s.token.kind ≠ .eof := by
  obtain ⟨cs, x, hcs, hr, hs⟩ := exists_read_of_mem h
  rw [hs]
  exact Lexeme.kind_read_ne_eof hcs hr

/-! ## The list of tokens is what the stream holds -/

/-- **Tokens and stream.** A cursor drains to a list of tokens exactly if the stream ahead holds
these and no error, and the end. -/
theorem tokens_drain_iff {ts : List Token} :
    c.drain.tokens = .ok ts ↔ ∃ us, ts = us ++ [(ofCursor c).finish.token] ∧
      (ofCursor c).pending.map (Except.map Scan.token) = us.map .ok := by
  fun_induction Cursor.drain c generalizing ts with
  | case1 c hc =>
    rw [ofCursor_of_end hc]
    constructor
    · intro h
      cases h
      exact ⟨[], rfl, rfl⟩
    · rintro ⟨us, rfl, hus⟩
      cases List.map_eq_nil_iff.mp hus.symm
      rfl
  | case2 c hc s later hn ih =>
    rw [ofCursor_of_more hc, hn]
    rw [hn] at ih
    constructor
    · intro h
      obtain ⟨vs, hvs, rfl⟩ := Drained.tokens_push_eq_ok.mp h
      obtain ⟨us, rfl, hus⟩ := ih.mp hvs
      exact ⟨s.token :: us, rfl, by rw [List.map_cons, hus]; rfl⟩
    · rintro ⟨us, rfl, hus⟩
      obtain ⟨u, us', rfl, hu, hus'⟩ := List.map_eq_cons_iff.mp hus.symm
      cases hu
      exact Drained.tokens_push_eq_ok.mpr ⟨_, ih.mpr ⟨us', rfl, hus'.symm⟩, rfl⟩
  | case3 c hc e stop hn =>
    rw [ofCursor_of_more hc, hn]
    constructor
    · intro h; cases h
    · rintro ⟨us, -, hus⟩
      obtain ⟨u, us', -, hu, -⟩ := List.map_eq_cons_iff.mp hus.symm
      cases hu

end Stream

/-! ## The tokens of a text -/

variable {source : String} {ts us : List Token} {last : Token}

/-- **The tokens of a text that can be scanned** are those ahead of its parser, and the end. -/
theorem exists_of_tokenize (h : tokenize source = .ok ts) :
    ∃ us, ts = us ++ [(Stream.ofCursor (.ofText source)).finish.token] ∧
      (Stream.ofCursor (.ofText source)).pending.map (Except.map Scan.token) = us.map .ok :=
  Stream.tokens_drain_iff.mp h

theorem exists_concat_of_tokenize (h : tokenize source = .ok ts) :
    ∃ us last, ts = us ++ [last] := by
  obtain ⟨us, hts, -⟩ := exists_of_tokenize h
  exact ⟨us, _, hts⟩

/-- Each token but the end comes from the stream. -/
theorem exists_scan_of_tokenize (h : tokenize source = .ok (us ++ [last])) {t : Token}
    (ht : t ∈ us) :
    ∃ x, .ok x ∈ (Stream.ofCursor (.ofText source)).pending ∧ x.token = t := by
  obtain ⟨vs, hts, hvs⟩ := exists_of_tokenize h
  obtain ⟨rfl, -⟩ := List.append_inj' hts rfl
  have hmem : Except.ok t ∈ us.map (Except.ok : Token → Except ScanError Token) :=
    List.mem_map_of_mem ht
  rw [← hvs] at hmem
  obtain ⟨found, hf, he⟩ := List.mem_map.mp hmem
  cases found with
  | error e => cases he
  | ok x => cases he; exact ⟨x, hf, rfl⟩

/-- The last token is the end, and no token before it is. -/
theorem ends_of_tokenize (h : tokenize source = .ok (us ++ [last])) :
    last.kind = .eof ∧ ∀ t ∈ us, t.kind ≠ .eof := by
  obtain ⟨vs, hts, -⟩ := exists_of_tokenize h
  obtain ⟨-, hl⟩ := List.append_inj' hts rfl
  cases hl
  refine ⟨Stream.kind_finish _, fun t ht => ?_⟩
  obtain ⟨x, hx, rfl⟩ := exists_scan_of_tokenize h ht
  exact Stream.kind_pending hx

end FrontEnd
