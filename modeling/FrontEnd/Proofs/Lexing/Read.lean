import FrontEnd.Source.Lexeme

/-!
# The forms of a lexeme

The first character of a text decides how its lexeme is read, but for the two signs that are
longer when another `=` follows (`read_form`). The classes of characters are disjoint, so each way
of reading has its own equation.

* `read_form`: all ways in which a text that is not empty is read.
* `kind_read_ne_eof`: only the end of a text reads as its end.
-/

namespace FrontEnd

open Text

/-! ## Classes of characters are disjoint -/

theorem Kind.ofSign?_of_letter {c : Char} (h : isLetter c = true) : Kind.ofSign? c = none := by
  unfold Kind.ofSign?
  split <;> first | rfl | (revert h; decide)

theorem Kind.ofSign?_of_digit {c : Char} (h : isDigit c = true) : Kind.ofSign? c = none := by
  unfold Kind.ofSign?
  split <;> first | rfl | (revert h; decide)

theorem isLetter_of_digit {c : Char} (h : isDigit c = true) : isLetter c = false := by
  simp only [isDigit, Bool.and_eq_true, decide_eq_true_eq, Char.le_def, isLetter,
    Bool.or_eq_false_iff, Bool.and_eq_false_iff, decide_eq_false_iff_not, beq_eq_false_iff_ne,
    ne_eq, UInt32.le_iff_toNat_le, Char.ext_iff, ← UInt32.toNat_inj] at h ⊢
  have : ('0' : Char).val.toNat = 48 := rfl
  have : ('9' : Char).val.toNat = 57 := rfl
  have : ('a' : Char).val.toNat = 97 := rfl
  have : ('A' : Char).val.toNat = 65 := rfl
  have : ('_' : Char).val.toNat = 95 := rfl
  omega

namespace Lexeme

variable {c : Char} {k : Kind} {x : Lexeme}

/-- A sign that another `=` makes longer, and what it then is. -/
def double? : Char → Option Kind
  | '=' => some .eq
  | '!' => some .notEq
  | _ => none

/-- **The ways to read a text** that begins with `c` and goes on with `r`. -/
inductive Form (c : Char) (r : List Char) : Reading → Prop
  | double {k : Kind} : double? c = some k → r.head? = some '=' →
      Form c r ⟨2, .ok (plain k (String.ofList [c, '=']))⟩
  | sign {k : Kind} : Kind.ofSign? c = some k → (double? c ≠ none → r.head? ≠ some '=') →
      Form c r ⟨1, .ok (plain k c.toString)⟩
  | string : c = '"' → Form c r (readString (c :: r))
  | word : isLetter c = true → Form c r (readWord (c :: r))
  | number : isDigit c = true → Form c r (readNumber (c :: r))
  | stray : Kind.ofSign? c = none → c ≠ '"' → isLetter c = false → isDigit c = false →
      Form c r ⟨1, .ok (wrong c.toString (.stray c))⟩

/-- **Each text that is not empty** is read in one of these ways. -/
theorem read_form (c : Char) (r : List Char) : Form c r (read (c :: r)) := by
  unfold read
  split
  · rename_i h; cases h
  · rename_i h; cases h; exact .double rfl rfl
  · rename_i h; cases h; exact .double rfl rfl
  · rename_i c' r' h1 h2 h
    cases h
    split
    · rename_i k hk
      refine .sign hk fun hd hr => ?_
      obtain ⟨r, rfl⟩ : ∃ r', r = '=' :: r' := by
        cases r with
        | nil => cases hr
        | cons a r => cases hr; exact ⟨r, rfl⟩
      unfold double? at hd
      split at hd
      · exact h1 r rfl rfl
      · exact h2 r rfl rfl
      · exact hd rfl
    · rename_i hk
      by_cases hq : c = '"'
      · rw [if_pos hq]; exact .string hq
      rw [if_neg hq]
      by_cases hl : isLetter c = true
      · rw [if_pos hl]; exact .word hl
      rw [if_neg hl]
      by_cases hd : isDigit c = true
      · rw [if_pos hd]; exact .number hd
      rw [if_neg hd]
      exact .stray hk hq (Bool.eq_false_iff.mpr hl) (Bool.eq_false_iff.mpr hd)

theorem double?_of_ofSign? (h : Kind.ofSign? c = none) : double? c = none := by
  unfold double?
  split
  · cases h
  · cases h
  · rfl

/-- A text whose first character is no sign is read by the class of that character. -/
theorem read_of_ofSign?_none (h : Kind.ofSign? c = none) (r : List Char) :
    read (c :: r) =
      if c = '"' then readString (c :: r)
      else if isLetter c then readWord (c :: r)
      else if isDigit c then readNumber (c :: r)
      else ⟨1, .ok (wrong c.toString (.stray c))⟩ := by
  have hd := double?_of_ofSign? h
  unfold read
  split
  · rename_i he; cases he
  · rename_i he; cases he; cases hd
  · rename_i he; cases he; cases hd
  · rename_i he; cases he; rw [h]

theorem read_of_letter (h : isLetter c = true) (r : List Char) :
    read (c :: r) = readWord (c :: r) := by
  rw [read_of_ofSign?_none (Kind.ofSign?_of_letter h), if_neg (by rintro rfl; cases h), if_pos h]

theorem read_of_digit (h : isDigit c = true) (r : List Char) :
    read (c :: r) = readNumber (c :: r) := by
  rw [read_of_ofSign?_none (Kind.ofSign?_of_digit h), if_neg (by rintro rfl; cases h),
    if_neg (by rw [isLetter_of_digit h]; decide), if_pos h]

theorem read_of_quote (r : List Char) : read ('"' :: r) = readString ('"' :: r) := by
  rw [read_of_ofSign?_none rfl, if_pos rfl]

theorem read_of_sign (h : Kind.ofSign? c = some k) {r : List Char}
    (hr : double? c ≠ none → r.head? ≠ some '=') :
    read (c :: r) = ⟨1, .ok (plain k c.toString)⟩ := by
  unfold read
  split
  · rename_i he; cases he
  · rename_i he; cases he; exact absurd rfl (hr (by decide))
  · rename_i he; cases he; exact absurd rfl (hr (by decide))
  · rename_i he; cases he; rw [h]

/-! ## Only the end reads as the end -/

end Lexeme

/-- A sign is no end, no name and no number. -/
theorem Kind.ofSign?_notMem {c : Char} {k : Kind} (h : Kind.ofSign? c = some k) :
    k ∉ [.eof, .ident, .int] := by
  unfold Kind.ofSign? at h
  split at h <;> cases h <;> decide

/-- A word is an identifier, or of the kind of a keyword. -/
theorem Kind.ofWord_mem (word : String) :
    Kind.ofWord word ∈ Kind.ident :: Kind.keywords.map Prod.snd := by
  unfold Kind.ofWord
  cases h : Kind.keywords.lookup word with
  | none => exact List.mem_cons_self
  | some k =>
    obtain ⟨before, behind, hl, -⟩ := List.lookup_eq_some_iff.mp h
    refine List.mem_cons_of_mem _ (List.mem_map.mpr ⟨(word, k), ?_, rfl⟩)
    rw [hl]
    simp

theorem Kind.ofWord_ne {k : Kind} (hk : k ∉ Kind.ident :: Kind.keywords.map Prod.snd)
    (word : String) : Kind.ofWord word ≠ k := by
  rintro rfl
  exact hk (Kind.ofWord_mem word)

namespace Lexeme

variable {cs : List Char} {x : Lexeme}

/-- A number is an integer, or out of range. -/
theorem readNumber_ok (h : (readNumber cs).result = .ok x) :
    (intMax < decimal (cs.takeWhile isDigit) ∧
        x = wrong (String.ofList (cs.takeWhile isDigit))
          (.outOfRange (String.ofList (cs.takeWhile isDigit)))) ∨
      (decimal (cs.takeWhile isDigit) ≤ intMax ∧
        x = ⟨.int, String.ofList (cs.takeWhile isDigit), some (decimal (cs.takeWhile isDigit)),
          none⟩) := by
  unfold readNumber at h
  dsimp only at h
  split at h
  · cases h
  · split at h
    · cases h
    · split at h
      · rename_i hlt; cases h; exact Or.inl ⟨hlt, rfl⟩
      · rename_i hle; cases h; exact Or.inr ⟨by omega, rfl⟩

/-- A string is closed, or runs to the end of the text. -/
theorem readString_ok (h : (readString cs).result = .ok x) :
    (∃ s n, body cs.tail = .closed s n ∧ (readString cs).length = n + 1 ∧
        x = plain .string (String.ofList s)) ∨
      ∃ why, body cs.tail = .unclosed why ∧ x = wrong (String.ofList cs) why := by
  unfold readString at h ⊢
  cases hb : body cs.tail with rw [hb] at h
  | closed s n => cases h; exact Or.inl ⟨s, n, rfl, rfl, rfl⟩
  | unclosed why => cases h; exact Or.inr ⟨why, rfl, rfl⟩

theorem kind_read_ne_eof (hcs : cs ≠ []) (h : (read cs).result = .ok x) : x.kind ≠ .eof := by
  obtain ⟨c, r, rfl⟩ := List.exists_cons_of_ne_nil hcs
  have hf := read_form c r
  generalize read (c :: r) = found at h hf
  cases hf with
  | double hd =>
    cases h
    unfold double? at hd
    split at hd <;> cases hd <;> simp [plain]
  | sign hk =>
    cases h
    rintro rfl
    exact Kind.ofSign?_notMem hk (by decide)
  | string =>
    rcases readString_ok h with ⟨s, n, -, -, rfl⟩ | ⟨why, -, rfl⟩ <;> simp [plain, wrong]
  | word =>
    cases h
    exact Kind.ofWord_ne (by decide) _
  | number => rcases readNumber_ok h with ⟨-, rfl⟩ | ⟨-, rfl⟩ <;> simp [wrong]
  | stray => cases h; simp [wrong]

end Lexeme

end FrontEnd
