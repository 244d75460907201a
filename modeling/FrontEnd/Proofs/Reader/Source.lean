import FrontEnd.Proofs.Lexing.Stream
import FrontEnd.Proofs.Reader.Program

/-!
# Source texts, read from their tokens

A text that can be scanned has a list of tokens with the end as the last one. The parser of the
text shows this list when it starts, so it ends in `Reader.program` of it (`parseSource_run`).

* `start_moves`: what a parser sees when it has started.
* `parseSource_run`: the program and all diagnostics of a text.
-/

namespace FrontEnd.Reader

open FrontEnd.Parser

variable {source : String} {us : List Token} {last : Token}

/-- Bringing the first tokens into sight does not depend on the tokens seen before. -/
theorem start_eq {s : Parser} {found : Scan} {later : Stream}
    (h : s.ahead.next = (.ok found, later)) (t u : Token) :
    start s = start { s with current := t, peek := u } := by
  let s' : Parser := { s with current := t, peek := u }
  have h1 : start s = _ := bind_of_ok (advance_of_next h)
  have h2 : start s' = _ := bind_of_ok (advance_of_next (s := s') h)
  -- after one step the token that was in sight is current, and the second step drops it
  exact (h1.trans (show advance _ = advance _ from rfl)).trans h2.symm

/-- **A parser starts** with all tokens of its text before it. -/
theorem start_moves (h : tokenize source = .ok (us ++ [last])) (filename : String)
    (journal : Journal) :
    ∃ s, start (.fresh filename journal source) = .ok () s ∧ s.Shows last us ∧
      s.diagnostics = #[] := by
  obtain ⟨hl, hn⟩ := ends_of_tokenize h
  obtain ⟨vs, hts, hvs⟩ := exists_of_tokenize h
  obtain ⟨rfl, hend⟩ := List.append_inj' hts rfl
  cases hend
  -- two tokens that are seen and gone make the fresh parser one that shows a list
  let t : Token := ⟨.semicolon, ";", none, 1, 1⟩
  let s : Parser := { Parser.fresh filename journal source with current := t, peek := t }
  have hs : s.Shows (Stream.ofCursor (.ofText source)).finish.token (t :: t :: us) := by
    refine ⟨rfl, rfl, hvs, rfl, hl, fun x hx => ?_⟩
    rcases List.mem_cons.mp hx with rfl | hx
    · decide
    · rcases List.mem_cons.mp hx with rfl | hx
      · decide
      · exact hn x hx
  obtain ⟨found, hf⟩ : ∃ found, s.ahead.next = (.ok found, s.ahead.next.2) := by
    have hq := hs.pending
    cases hp : s.ahead.pending with
    | nil => exact ⟨s.ahead.finish, by rw [Stream.next_of_nil hp]⟩
    | cons x later =>
      rw [hp] at hq
      obtain ⟨u, us', -, hx, -⟩ := List.map_eq_cons_iff.mp hq.symm
      cases x with
      | error e => cases hx
      | ok found => exact ⟨found, by rw [Stream.next_of_cons hp]⟩
  obtain ⟨s1, hr1, h1, hd1⟩ := advance_moves hs
  obtain ⟨s2, hr2, h2, hd2⟩ := advance_moves h1
  refine ⟨s2, ?_, h2, hd2.trans hd1⟩
  rw [start_eq (s := .fresh filename journal source) hf t t]
  exact (bind_of_ok hr1).trans hr2

/-- **A text that can be scanned is read to its end**, whatever its tokens are. -/
theorem parseSource_run (h : tokenize source = .ok (us ++ [last])) (depth : Nat)
    (settings : Settings) (filename : String) :
    ∃ s, parseSource depth settings filename source = .ok (.program (program last depth us).1) s ∧
      s.diagnostics.toList = diagnostics (program last depth us).2 := by
  obtain ⟨s1, hr1, h1, hd1⟩ := start_moves h filename (.empty settings)
  obtain ⟨s2, hr2, hd2⟩ := program_run h1 depth
  exact ⟨s2, (bind_of_ok hr1).trans hr2, by rw [hd2, hd1]; rfl⟩

end FrontEnd.Reader
