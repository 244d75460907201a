import FrontEnd.Proofs.Lexing.Append

/-!
# Lexing without places

What the tokens of a text are does not depend on where they stand, so a text can be taken apart
from its head on, one lexeme or one space after the other (`Lexes`). Each kind of lexeme has its
rule, which says what may follow it.

* `tokenize_of_lexes`: a text that is taken apart has these tokens.
* `Lexes.word`, `Lexes.number`, `Lexes.quoted`, `Lexes.sign`: the rules.
-/

namespace FrontEnd

open Text

/-- The token at no place. -/
def Token.unplaced (t : Token) : Token := { t with line := 0, column := 0 }

/-- **The characters are the tokens**, at no place, with space between them. -/
inductive Lexes : List Char → List Token → Prop
  | nil : Lexes [] []
  | space {c : Char} {cs : List Char} {ts : List Token} :
      isSpace c = true → Lexes cs ts → Lexes (c :: cs) ts
  | token {c : Char} {w cs : List Char} {x : Lexeme} {ts : List Token} :
      isSpace c = false → Lexeme.read (c :: (w ++ cs)) = ⟨w.length + 1, .ok x⟩ → Lexes cs ts →
      Lexes (c :: (w ++ cs)) ((x.at 0 0).token :: ts)

variable {c : Char} {cs : List Char} {ts : List Token}

theorem pending_of_lexes (h : Lexes cs ts) {c : Cursor} (hc : c.rest = cs) :
    ∃ us : List Token, (Stream.ofCursor c).pending.map (Except.map Scan.token) = us.map .ok ∧
      us.map Token.unplaced = ts := by
  induction h generalizing c with
  | nil =>
    have hend : c.skipSpace.rest = [] := by rw [Cursor.rest_skipSpace, hc]; rfl
    exact ⟨[], by rw [Stream.ofCursor_of_end hend]; rfl, rfl⟩
  | @space x cs ts hx _ ih =>
    have hskip : c.skipSpace = c.advance.skipSpace := by
      have hrest : c.advance.rest = cs := by rw [Cursor.rest_advance, hc]; rfl
      rw [Cursor.skipSpace, Cursor.skipSpace, hrest, hc, List.takeWhile_cons_of_pos hx]
      rfl
    rw [Stream.ofCursor_congr hskip]
    exact ih (by rw [Cursor.rest_advance, hc]; rfl)
  | @token x w cs y ts hx hread _ ih =>
    have hskip : c.skipSpace = c := by
      rw [Cursor.skipSpace, hc, List.takeWhile_cons_of_neg (by rw [hx]; decide)]
      rfl
    have hmore : c.skipSpace.rest ≠ [] := by rw [hskip, hc]; simp
    have hnext : c.next = (.ok (y.at c.line c.column), c.advanceBy (w.length + 1)) := by
      rw [Cursor.next, hskip, Cursor.reading, hc, hread]
      rfl
    have hrest : (c.advanceBy (w.length + 1)).rest = cs := by
      rw [Cursor.rest_advanceBy, hc]
      simp
    obtain ⟨us, hus, rfl⟩ := ih hrest
    refine ⟨(y.at c.line c.column).token :: us, ?_, rfl⟩
    rw [Stream.ofCursor_of_more hmore, hnext, List.map_cons, List.map_cons, hus]
    rfl

/-- **A text that is taken apart** has these tokens, each at its place. -/
theorem tokenize_of_lexes {source : String} (h : Lexes source.toList ts) :
    ∃ us last, tokenize source = .ok (us ++ [last]) ∧ us.map Token.unplaced = ts := by
  obtain ⟨us, hus, hts⟩ := pending_of_lexes h (c := .ofText source) rfl
  exact ⟨us, _, Stream.tokens_drain_iff.mpr ⟨us, rfl, hus⟩, hts⟩

/-! ## The rules -/

namespace Lexes

theorem isSpace_cases (h : isSpace c = true) : c = ' ' ∨ c = '\t' ∨ c = '\n' ∨ c = '\r' := by
  simpa [isSpace, or_assoc] using h

/-- A lexeme takes the characters in front. -/
theorem lexeme {w : List Char} {x : Lexeme} (hw : w ≠ []) (hs : ∀ c ∈ w.head?, isSpace c = false)
    (hread : Lexeme.read (w ++ cs) = ⟨w.length, .ok x⟩) (h : Lexes cs ts) :
    Lexes (w ++ cs) ((x.at 0 0).token :: ts) := by
  obtain ⟨c, w, rfl⟩ := List.exists_cons_of_ne_nil hw
  exact .token (hs c rfl) hread h

theorem isSpace_of_wordChar (h : isWordChar c = true) : isSpace c = false := by
  by_contra hs
  rcases isSpace_cases (Bool.not_eq_false _ ▸ hs) with rfl | rfl | rfl | rfl <;> cases h

/-- **A word**, before anything that does not go on with it. -/
theorem word {s : String} (hl : ∃ c r, s.toList = c :: r ∧ isLetter c = true)
    (hw : ∀ c ∈ s.toList, isWordChar c = true) (hcs : Separates cs) (h : Lexes cs ts) :
    Lexes (s.toList ++ cs) (⟨Kind.ofWord s, s, none, 0, 0⟩ :: ts) := by
  obtain ⟨c, r, hs, hc⟩ := hl
  have htake : (s.toList ++ cs).takeWhile isWordChar = s.toList := by
    rw [takeWhile_append_of_head fun c hc => (hcs c hc).1, List.takeWhile_eq_self_iff]
    exact hw
  have hread : Lexeme.read (s.toList ++ cs) =
      ⟨s.toList.length, .ok (Lexeme.plain (Kind.ofWord s) s)⟩ := by
    rw [hs, List.cons_append, Lexeme.read_of_letter hc, ← List.cons_append, ← hs, Lexeme.readWord,
      htake, String.ofList_toList]
  refine lexeme (by rw [hs]; simp) (fun a ha => ?_) hread h
  exact isSpace_of_wordChar (hw a (List.mem_of_mem_head? ha))

theorem isDigit_of_mem_toDigits {n : Nat} (h : c ∈ Nat.toDigits 10 n) : isDigit c = true := by
  have hc : c.isDigit = true := Nat.isDigit_of_mem_toDigits (by decide) (by decide) h
  simpa [isDigit, Char.isDigit, Char.le_def] using hc

theorem decimal_toDigits (n : Nat) : decimal (Nat.toDigits 10 n) = n :=
  Nat.ofDigitChars_ten_toDigits

theorem length_toDigits {n : Nat} (hn : n ≤ intMax) : (Nat.toDigits 10 n).length ≤ 19 := by
  refine (Nat.length_toDigits_le_iff (by decide) (by decide)).mpr ?_
  have : intMax < 10 ^ 19 := by decide
  omega

/-- **A number in range**, in decimal digits. -/
theorem number {n : Nat} (hn : n ≤ intMax) (hcs : Separates cs) (h : Lexes cs ts) :
    Lexes ((toString n).toList ++ cs) (⟨.int, toString n, some (n : Int), 0, 0⟩ :: ts) := by
  have hdigits : (toString n).toList = Nat.toDigits 10 n := Nat.toList_repr
  have hall : ∀ c ∈ Nat.toDigits 10 n, isDigit c = true := fun c => isDigit_of_mem_toDigits
  obtain ⟨c, r, hcr⟩ := List.exists_cons_of_ne_nil (Nat.toDigits_ne_nil (n := n) (b := 10))
  have hc : isDigit c = true := hall c (by rw [hcr]; exact List.mem_cons_self)
  have htake : (Nat.toDigits 10 n ++ cs).takeWhile isDigit = Nat.toDigits 10 n := by
    rw [takeWhile_append_of_head hcs.isDigit, List.takeWhile_eq_self_iff]
    exact hall
  have hfew : ¬maxDigits < (Nat.toDigits 10 n).length := by
    have := length_toDigits hn
    have : maxDigits = 4300 := rfl
    omega
  have hread : Lexeme.read (Nat.toDigits 10 n ++ cs) =
      ⟨(Nat.toDigits 10 n).length, .ok ⟨.int, toString n, some (n : Int), none⟩⟩ := by
    rw [hcr, List.cons_append, Lexeme.read_of_digit hc, ← List.cons_append, ← hcr,
      Lexeme.readNumber, htake]
    rw [if_neg Nat.toDigits_ne_nil, if_neg hfew, decimal_toDigits, if_neg (by omega)]
    rfl
  rw [hdigits]
  refine lexeme Nat.toDigits_ne_nil (fun a ha => ?_) hread h
  have := hall a (List.mem_of_mem_head? ha)
  exact isSpace_of_wordChar (by simp [isWordChar, this])

/-- **A sign**, before anything that does not make it longer. -/
theorem sign {k : Kind} (hk : Kind.ofSign? c = some k)
    (hcs : Lexeme.double? c ≠ none → cs.head? ≠ some '=') (h : Lexes cs ts) :
    Lexes (c :: cs) (⟨k, c.toString, none, 0, 0⟩ :: ts) := by
  have hread : Lexeme.read ([c] ++ cs) = ⟨1, .ok (Lexeme.plain k c.toString)⟩ :=
    Lexeme.read_of_sign hk hcs
  refine lexeme (w := [c]) (by simp) (fun a ha => ?_) hread h
  cases ha
  by_contra hs
  rcases isSpace_cases (Bool.not_eq_false _ ▸ hs) with rfl | rfl | rfl | rfl <;> cases hk

end Lexes

end FrontEnd
