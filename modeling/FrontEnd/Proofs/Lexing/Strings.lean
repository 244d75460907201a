import FrontEnd.Node.Printer
import FrontEnd.Proofs.Lexing.Grammar

/-!
# Strings at a cursor

A cursor at a quote reads a string, or all that is left of the text. Which of the two it is, and what
the string says, is a matter of the units behind the quote (`Units`), whatever follows the quote that
ends them. A string literal that is printed has such units, so it is read as the string that it was
printed for, in front of any text.

* `units_escape`: what is escaped is a row of units.
* `Cursor.gives_of_units`, `Cursor.gives_of_no_units`: the two ways of reading at a quote.
* `next_of_quote`: printed and written strings are read as they say.
-/

namespace FrontEnd

open Node

/-- **What is escaped is a row of units**, which stand for the characters that were escaped. -/
theorem units_escape (s : List Char) : Units (s.flatMap escapeChar) s := by
  induction s with
  | nil => exact .nil
  | cons c s ih =>
    rw [List.flatMap_cons]
    -- five characters have an escape, and all others stand for themselves
    by_cases hc : c ∈ ['\\', '"', '\n', '\t', '\r']
    · simp only [List.mem_cons, List.not_mem_nil, or_false] at hc
      rcases hc with rfl | rfl | rfl | rfl | rfl
      all_goals exact .escaped ih
    · simp only [List.mem_cons, List.not_mem_nil, or_false, not_or] at hc
      obtain ⟨h1, h2, h3, h4, h5⟩ := hc
      have hself : escapeChar c = [c] := by
        unfold escapeChar
        split
        case h_6 => rfl
        all_goals contradiction
      rw [hself]
      exact .plain h2 h1 ih

theorem toList_stringLiteral (s : String) :
    (stringLiteral s).toList = '"' :: (s.toList.flatMap escapeChar ++ ['"']) := by
  rw [stringLiteral, String.toList_ofList, List.cons_append]

theorem print_string (s : String) : (Node.string s).print = .ok (stringLiteral s) := by
  rw [Node.print, renderPieces]
  simp [pieces, renderPieces]

namespace Cursor

/-- **The next token** is of a kind, has a literal and no value, and stands where the cursor does.
Behind it, `n` characters further, the text `r` is left. -/
structure Gives (c : Cursor) (k : Kind) (literal : List Char) (n : Nat) (r : List Char) : Prop where
  token : ∃ x, c.next.1 = .ok x ∧ x.token = ⟨k, String.ofList literal, none, c.line, c.column⟩
  rest : c.next.2.rest = r
  offset : c.next.2.offset = c.offset + n

variable {c : Cursor} {w s r : List Char}

/-- No space stands before a quote. -/
theorem next_of_rest_quote (h : c.rest = '"' :: w) : c.next = c.reading Lexeme.readString := by
  have hskip : c.skipSpace = c := by
    rw [skipSpace, h]
    rfl
  rw [next, hskip, reading, reading, h, Lexeme.read_of_quote]

/-- **Units up to a quote** are a string, and the cursor stops behind the quote. -/
theorem gives_of_units (h : c.rest = '"' :: (w ++ '"' :: r)) (hw : Units w s) :
    c.Gives .string s (w.length + 2) r := by
  have hread : Lexeme.readString c.rest =
      ⟨w.length + 2, .ok (Lexeme.plain .string (String.ofList s))⟩ := by
    rw [h, Lexeme.readString, List.tail_cons, body_of_units hw]
  have hnext := next_of_rest_quote h
  rw [reading, hread] at hnext
  have hdrop : ('"' :: (w ++ '"' :: r)).drop (w.length + 2) = r := by
    rw [List.drop_succ_cons, ← List.drop_drop, List.drop_left]
    rfl
  constructor
  · exact ⟨_, congrArg Prod.fst hnext, rfl⟩
  · rw [hnext, rest_advanceBy, h, hdrop]
  · rw [hnext, offset_advanceBy]

/-- **Where no quote ends the units**, all that is left of the text is one invalid token. -/
theorem gives_of_no_units (h : c.rest = '"' :: w)
    (hw : ∀ u s r, Units u s → w ≠ u ++ '"' :: r) :
    c.Gives .illegal ('"' :: w) (w.length + 1) [] := by
  obtain ⟨why, hb⟩ := exists_unclosed hw
  have hread : Lexeme.readString c.rest =
      ⟨w.length + 1, .ok (Lexeme.wrong (String.ofList ('"' :: w)) why)⟩ := by
    rw [h, Lexeme.readString, List.tail_cons, hb]
  have hnext := next_of_rest_quote h
  rw [reading, hread] at hnext
  constructor
  · exact ⟨_, congrArg Prod.fst hnext, rfl⟩
  · rw [hnext, rest_advanceBy, h]
    exact List.drop_length
  · rw [hnext, offset_advanceBy]

/-- **A string literal that was printed** is read as its string, whatever follows it. -/
theorem gives_of_stringLiteral {s : String} (h : c.rest = (stringLiteral s).toList ++ r) :
    c.Gives .string s.toList (stringLiteral s).length r := by
  have hlist := toList_stringLiteral s
  have hlen : (stringLiteral s).length = (s.toList.flatMap escapeChar).length + 2 := by
    rw [← String.length_toList, hlist]
    simp
  rw [hlen]
  refine gives_of_units ?_ (units_escape s.toList)
  rw [h, hlist]
  simp

/-- A token of one kind is given, not one of another. -/
theorem Gives.kind_eq {k : Kind} {n : Nat} (h : c.Gives k s n r) {x : Scan}
    (hx : c.next.1 = .ok x) : x.token.kind = k := by
  obtain ⟨y, hy, htoken⟩ := h.token
  cases hx.symm.trans hy
  rw [htoken]

end Cursor

/-- **Strings are read as they say.** Where the text of a string literal stands before any other
text, a cursor at its first character gives a string with exactly the contents that it was printed
for, and stops at the first character behind it.

At any quote a cursor gives a string exactly if units up to another quote are behind it: characters
that are neither quote nor backslash, and backslashes with any character behind them. Then the
contents are what the units stand for, one by one, and the cursor stops behind the second quote.
Otherwise it gives an invalid token with all characters from the quote to the end of the text, where
it stops. -/
theorem next_of_quote (c : Cursor) :
    (∀ s rest, ∃ text, (Node.string s).print = .ok text ∧
      (c.rest = text.toList ++ rest → c.Gives .string s.toList text.length rest)) ∧
    ∀ body, c.rest = '"' :: body →
      (∀ w s rest, Units w s → body = w ++ '"' :: rest → c.Gives .string s (w.length + 2) rest) ∧
      ((∃ x, c.next.1 = .ok x ∧ x.token.kind = .string) ↔
        ∃ w s rest, Units w s ∧ body = w ++ '"' :: rest) ∧
      ((¬∃ w s rest, Units w s ∧ body = w ++ '"' :: rest) →
        c.Gives .illegal ('"' :: body) (body.length + 1) []) := by
  refine ⟨fun s rest => ⟨_, print_string s, Cursor.gives_of_stringLiteral⟩, fun body hbody => ?_⟩
  have hunits : ∀ w s rest, Units w s → body = w ++ '"' :: rest →
      c.Gives .string s (w.length + 2) rest := by
    rintro w s rest hw rfl
    exact Cursor.gives_of_units hbody hw
  have hillegal : (¬∃ w s rest, Units w s ∧ body = w ++ '"' :: rest) →
      c.Gives .illegal ('"' :: body) (body.length + 1) [] := by
    intro hno
    exact Cursor.gives_of_no_units hbody fun w s rest hw he => hno ⟨w, s, rest, hw, he⟩
  refine ⟨hunits, ⟨?_, ?_⟩, hillegal⟩
  · rintro ⟨x, hx, hk⟩
    by_contra hno
    cases hk.symm.trans ((hillegal hno).kind_eq hx)
  · rintro ⟨w, s, rest, hw, he⟩
    obtain ⟨x, hx, htoken⟩ := (hunits w s rest hw he).token
    exact ⟨x, hx, by rw [htoken]⟩

/-- A quote and a line feed that were printed, units that were written by hand, and a text that ends
behind a backslash. -/
theorem next_of_quote_escapes :
    let printed := Cursor.ofText "\"\\\"\\n\"n"
    let written := Cursor.ofText "\"\n\\q\\\\\"x"
    let cut := Cursor.ofText "\"a\\"
    (∃ text, (Node.string "\"\n").print = .ok text ∧ text = "\"\\\"\\n\"" ∧
      printed.Gives .string ['"', '\n'] text.length ['n']) ∧
    written.Gives .string ['\n', 'q', '\\'] 7 ['x'] ∧
    cut.Gives .illegal ['"', 'a', '\\'] 3 [] := by
  intro printed written cut
  refine ⟨?_, ?_, ?_⟩
  · obtain ⟨text, hprint, hgives⟩ := (next_of_quote printed).1 "\"\n" ['n']
    have htext : text = "\"\\\"\\n\"" := by
      cases (print_string "\"\n").symm.trans hprint
      decide
    exact ⟨text, hprint, htext, hgives (by rw [htext]; rfl)⟩
  · have hunits : Units ['\n', '\\', 'q', '\\', '\\'] ['\n', 'q', '\\'] :=
      .plain (by decide) (by decide) (.escaped (.escaped .nil))
    exact ((next_of_quote written).2 _ rfl).1 _ _ _ hunits rfl
  · refine ((next_of_quote cut).2 _ rfl).2.2 ?_
    rintro ⟨w, s, rest, hw, he⟩
    have hbody := body_of_units hw rest
    rw [← he] at hbody
    cases hbody

end FrontEnd
