import FrontEnd.Proofs.Lexing.Append
import FrontEnd.Token.Call
import Mathlib.Data.Prod.Lex
import Mathlib.Order.Monotone.Basic

/-!
# Places in a text

A place in a text has a line and a column, which the characters before it decide (`placeAt`).
A cursor knows them without looking back: whatever calls have moved it, past the end of the text
or away from a number that cannot be read, it stands where the text says (`Cursor.At`).

* `strictMono_placeAt`: a later place is on a later line, or on the same line further right.
* `ScanCall.at_runAll`: a cursor stands where the text says after any calls.
* `place_of_next`: a token has the place of its first character.
* `runAll_places`: all of it for the cursors of one text, and the order of its tokens.
-/

namespace FrontEnd

/-! ## Lines and columns -/

/-- The line of a place: one more than there are line feeds before it. -/
def lineAt (text : List Char) (offset : Nat) : Nat := (text.take offset).count '\n' + 1

/-- Where the line of a place begins: behind the last line feed before the place, or with the text
if there is none. -/
def lineStart (text : List Char) : Nat → Nat
  | 0 => 0
  | n + 1 => if text[n]? = some '\n' then n + 1 else lineStart text n

/-- The column of a place: its distance from the last line feed before it, which counts as the
character before the text if there is none. -/
def columnAt (text : List Char) (offset : Nat) : Nat := offset - lineStart text offset + 1

/-- **A place in a text**, line before column. Places behind the end are on its last line. -/
def placeAt (text : List Char) (offset : Nat) : Lex (Nat × Nat) :=
  toLex (lineAt text offset, columnAt text offset)

/-- The place of a token. -/
def Token.place (t : Token) : Lex (Nat × Nat) := toLex (t.line, t.column)

variable {text : List Char} {n o : Nat}

theorem lineAt_succ (text : List Char) (n : Nat) :
    lineAt text (n + 1) = if text[n]? = some '\n' then lineAt text n + 1 else lineAt text n := by
  unfold lineAt
  rw [List.take_add_one, List.count_append]
  by_cases h : text[n]? = some '\n'
  · rw [if_pos h, h]
    simp
  · rw [if_neg h]
    cases hc : text[n]? with
    | none => simp
    | some c =>
      have hne : c ≠ '\n' := fun he => h (by rw [hc, he])
      simp [hne]

/-- The line of a place begins at `start`: no line feed stands between, and one stands before it
unless the text begins there. -/
structure BeginsLine (text : List Char) (offset start : Nat) : Prop where
  le : start ≤ offset
  line : ∀ i, start ≤ i → i < offset → text[i]? ≠ some '\n'
  feed : start = 0 ∨ text[start - 1]? = some '\n'

theorem beginsLine_lineStart (text : List Char) (n : Nat) :
    BeginsLine text n (lineStart text n) := by
  induction n with
  | zero => exact ⟨Nat.le_refl 0, fun i _ hi => absurd hi (Nat.not_lt_zero i), Or.inl rfl⟩
  | succ n ih =>
    by_cases h : text[n]? = some '\n'
    · rw [lineStart, if_pos h]
      exact ⟨Nat.le_refl _, fun i h1 h2 => absurd h2 (Nat.not_lt.mpr h1), Or.inr h⟩
    · rw [lineStart, if_neg h]
      refine ⟨Nat.le_succ_of_le ih.le, fun i h1 h2 => ?_, ih.feed⟩
      rcases Nat.eq_or_lt_of_le (Nat.le_of_lt_succ h2) with rfl | hlt
      · exact h
      · exact ih.line i h1 hlt

theorem columnAt_succ (text : List Char) (n : Nat) :
    columnAt text (n + 1) = if text[n]? = some '\n' then 1 else columnAt text n + 1 := by
  have hle := (beginsLine_lineStart text n).le
  unfold columnAt
  rw [lineStart]
  split <;> omega

/-- **Places follow one another**: a later place comes behind an earlier one. -/
theorem strictMono_placeAt (text : List Char) : StrictMono (placeAt text) := by
  refine strictMono_nat_of_lt_succ fun n => Prod.Lex.toLex_lt_toLex.mpr ?_
  dsimp only
  rw [lineAt_succ, columnAt_succ]
  by_cases h : text[n]? = some '\n'
  · rw [if_pos h]
    exact Or.inl (Nat.lt_succ_self _)
  · rw [if_neg h, if_neg h]
    exact Or.inr ⟨rfl, Nat.lt_succ_self _⟩

/-- From `start` on, `first` is where the space ends. -/
structure EndsSpace (text : List Char) (start first : Nat) : Prop where
  le : start ≤ first
  space : ∀ i, start ≤ i → i < first → ∃ c, text[i]? = some c ∧ isSpace c = true
  stop : ∀ c, text[first]? = some c → isSpace c = false

/-! ## Cursors -/

/-- **The cursor stands in the text** where its offset says, also behind the end. -/
structure Cursor.At (text : List Char) (c : Cursor) : Prop where
  rest : c.rest = text.drop c.offset
  line : c.line = lineAt text c.offset
  column : c.column = columnAt text c.offset

namespace Cursor

variable {c : Cursor}

theorem at_ofText (s : String) : (ofText s).At s.toList := ⟨rfl, rfl, rfl⟩

theorem At.char (h : c.At text) : c.char? = text[c.offset]? := by
  rw [char?, h.rest, List.head?_drop]

theorem At.peek (h : c.At text) : c.peek? = text[c.offset + 1]? := by
  rw [peek?, h.rest, List.tail_drop, List.head?_drop]

theorem line_advance_eq (c : Cursor) :
    c.advance.line = if c.char? = some '\n' then c.line + 1 else c.line := by
  unfold advance char?
  split <;> rename_i h <;> simp_all

theorem column_advance_eq (c : Cursor) :
    c.advance.column = if c.char? = some '\n' then 1 else c.column + 1 := by
  unfold advance char?
  split <;> rename_i h <;> simp_all

/-- **One character further** the cursor stands in the text again. -/
theorem At.advance (h : c.At text) : c.advance.At text := by
  have hchar := h.char
  constructor
  · rw [rest_advance, offset_advance, h.rest, List.tail_drop]
  · rw [line_advance_eq, offset_advance, hchar, h.line, lineAt_succ]
  · rw [column_advance_eq, offset_advance, hchar, h.column, columnAt_succ]

theorem At.advanceBy (h : c.At text) (n : Nat) : (c.advanceBy n).At text := by
  induction n generalizing c with
  | zero => exact h
  | succ n ih => exact ih h.advance

theorem At.skipSpace (h : c.At text) : c.skipSpace.At text := h.advanceBy _

theorem At.reading (h : c.At text) (read : List Char → Reading) : (c.reading read).2.At text :=
  h.advanceBy _

theorem At.next (h : c.At text) : c.next.2.At text := h.skipSpace.reading _

theorem At.drain (h : c.At text) : c.drain.stop.At text := by
  fun_induction Cursor.drain c with
  | case1 c hc => exact h.skipSpace
  | case2 c hc s later hn ih => exact ih h.next
  | case3 c hc e stop hn =>
    have hnext := h.next
    rwa [hn] at hnext

end Cursor

/-- **Each call leaves the cursor in the text**, also if it cannot read what is there. -/
theorem ScanCall.at_run {c : Cursor} (h : c.At text) (call : ScanCall) :
    (call.run c).2.At text := by
  cases call with
  | advance => exact h.advance
  | peek => exact h
  | skipSpace => exact h.skipSpace
  | word => exact h.reading _
  | number => exact h.reading _
  | string => exact h.reading _
  | next => exact h.next
  | drain => exact h.drain

/-- **After any calls** the cursor stands in the text. -/
theorem ScanCall.at_runAll {c : Cursor} (h : c.At text) (calls : List ScanCall) :
    ∀ entry ∈ runAll calls c, entry.2.At text := by
  induction calls generalizing c with
  | nil => exact fun _ he => nomatch he
  | cons call calls ih =>
    intro entry he
    rcases List.mem_cons.mp he with rfl | he
    · exact at_run h call
    · exact ih (at_run h call) entry he

/-! ## Tokens -/

namespace Cursor

variable {c : Cursor} {s : Scan}

theorem offset_skipSpace (c : Cursor) :
    c.skipSpace.offset = c.offset + (c.rest.takeWhile isSpace).length :=
  offset_advanceBy _ c

/-- A cursor skips to the end of the space before it. -/
theorem At.endsSpace (h : c.At text) : EndsSpace text c.offset c.skipSpace.offset := by
  have hoff := offset_skipSpace c
  refine ⟨by omega, fun i hi hlt => ?_, fun x hx => ?_⟩
  · obtain ⟨j, rfl⟩ := Nat.exists_eq_add_of_le hi
    have hj : j < (c.rest.takeWhile isSpace).length := by omega
    have hget := calc
      text[c.offset + j]? = c.rest[j]? := by rw [h.rest, List.getElem?_drop]
      _ = (c.rest.takeWhile isSpace ++ c.rest.dropWhile isSpace)[j]? := by
        rw [List.takeWhile_append_dropWhile]
      _ = some (c.rest.takeWhile isSpace)[j] := by
        rw [List.getElem?_append_left hj, List.getElem?_eq_getElem hj]
    exact ⟨_, hget, List.mem_takeWhile_imp (List.getElem_mem hj)⟩
  · have hchar := h.skipSpace.char
    rw [hx, char?, rest_skipSpace] at hchar
    have := List.head?_dropWhile_not isSpace c.rest
    rw [hchar] at this
    exact this

/-- The token that is read next has the place where the space before it ends. -/
theorem At.place_of_next (h : c.At text) (hs : c.next.1 = .ok s) :
    s.token.place = placeAt text c.skipSpace.offset := by
  have hat := h.skipSpace
  rw [Cursor.next, Cursor.reading] at hs
  cases hr : (Lexeme.read c.skipSpace.rest).result with
  | error e => rw [hr] at hs; cases hs
  | ok x =>
    rw [hr] at hs
    cases hs
    exact congrArg toLex (Prod.ext hat.line hat.column)

/-- A token is the end exactly if nothing but space was left. -/
theorem kind_next_eq_eof (hs : c.next.1 = .ok s) :
    s.token.kind = .eof ↔ c.skipSpace.rest = [] := by
  constructor
  · intro hk
    by_contra hne
    rw [next, reading] at hs
    cases hr : (Lexeme.read c.skipSpace.rest).result with
    | error e => rw [hr] at hs; cases hs
    | ok x =>
      rw [hr] at hs
      cases hs
      exact Lexeme.kind_read_ne_eof hne hr hk
  · intro hnil
    rw [next_of_end hnil] at hs
    cases hs
    rfl

/-! ## One token after the other -/

/-- The cursor behind some tokens. -/
def behind : Nat → Cursor → Cursor
  | 0, c => c
  | n + 1, c => behind n c.next.2

theorem behind_add (m n : Nat) (c : Cursor) : behind (m + n) c = behind n (behind m c) := by
  induction m generalizing c with
  | zero => rw [Nat.zero_add, behind]
  | succ m ih => rw [Nat.succ_add, behind, behind, ih]

theorem At.behind (h : c.At text) (n : Nat) : (behind n c).At text := by
  induction n generalizing c with
  | zero => exact h
  | succ n ih => exact ih h.next

theorem offset_next (c : Cursor) :
    c.next.2.offset = c.skipSpace.offset + (Lexeme.read c.skipSpace.rest).length :=
  offset_advanceBy _ _

theorem offset_le_skipSpace (c : Cursor) : c.offset ≤ c.skipSpace.offset := by
  rw [offset_skipSpace]
  exact Nat.le_add_right _ _

theorem offset_le_behind (n : Nat) (c : Cursor) : c.offset ≤ (behind n c).offset := by
  induction n generalizing c with
  | zero => exact Nat.le_refl _
  | succ n ih =>
    have h1 := offset_le_skipSpace c
    have h2 := offset_next c
    have h3 := ih c.next.2
    rw [behind]
    omega

/-- **Reading tokens stays in the text.** -/
theorem At.offset_next_le (h : c.At text) (hle : c.offset ≤ text.length) :
    c.next.2.offset ≤ text.length := by
  have hspace := (List.takeWhile_prefix (l := c.rest) isSpace).length_le
  have hskip := offset_skipSpace c
  have hlen : c.rest.length = text.length - c.offset := by rw [h.rest, List.length_drop]
  have hlen' : c.skipSpace.rest.length = text.length - c.skipSpace.offset := by
    rw [h.skipSpace.rest, List.length_drop]
  rw [offset_next]
  by_cases hnil : c.skipSpace.rest = []
  · rw [hnil, Lexeme.read]
    dsimp only
    omega
  · have := (Lexeme.length_read_le hnil).1
    omega

theorem At.offset_behind_le (h : c.At text) (hle : c.offset ≤ text.length) (n : Nat) :
    (Cursor.behind n c).offset ≤ text.length := by
  induction n generalizing c with
  | zero => exact hle
  | succ n ih => exact ih h.next (h.offset_next_le hle)

/-- **A token stands before each later one**, unless it is the end. -/
theorem At.place_lt_behind (h : c.At text) {t : Scan} (hs : c.next.1 = .ok s)
    (hk : s.token.kind ≠ .eof) (ht : (Cursor.behind (n + 1) c).next.1 = .ok t) :
    s.token.place < t.token.place := by
  have hne : c.skipSpace.rest ≠ [] := fun hnil => hk ((kind_next_eq_eof hs).mpr hnil)
  have hpos := Lexeme.pos_length_read hne
  have h1 := offset_next c
  have h2 := offset_le_behind n c.next.2
  have h3 := offset_le_skipSpace (Cursor.behind (n + 1) c)
  rw [h.place_of_next hs, (h.behind (n + 1)).place_of_next ht]
  rw [Cursor.behind] at h3 ⊢
  exact strictMono_placeAt text (by omega)

end Cursor

/-- **Cursors know where they are.** Let any calls be made of a cursor that began at the head of a
text, in any order, whether they can read what is there or not. Then it is on the character that its
offset names, the next one is the one behind it, and its line and column are those of its offset,
also behind the end. A token that it gives next has the place of its first character, and the end
the place where the space before it ends.

Of the tokens that are read one after the other from the head on, each has a later place than
those before it, up to the end, and the cursor never leaves the text. -/
theorem runAll_places (source : String) :
    (∀ calls, ∀ entry ∈ (.nothing, Cursor.ofText source) :: ScanCall.runAll calls (.ofText source),
      let c := entry.2
      c.char? = source.toList[c.offset]? ∧
      (c.peek? = source.toList[c.offset + 1]? ∧ c.advance.offset = c.offset + 1) ∧
      c.line = lineAt source.toList c.offset ∧ c.column = columnAt source.toList c.offset ∧
      BeginsLine source.toList c.offset (lineStart source.toList c.offset) ∧
      ∀ s, c.next.1 = .ok s → ∃ first, EndsSpace source.toList c.offset first ∧
        s.token.place = placeAt source.toList first ∧
        (s.token.kind = .eof ↔ source.toList[first]? = none)) ∧
    (∀ m n s t, m < n → (Cursor.behind m (.ofText source)).next.1 = .ok s →
      (Cursor.behind n (.ofText source)).next.1 = .ok t → s.token.kind ≠ .eof →
      s.token.place < t.token.place) ∧
    ∀ n, (Cursor.behind n (.ofText source)).offset ≤ source.toList.length := by
  have hat := Cursor.at_ofText source
  refine ⟨fun calls entry he => ?_, fun m n s t hmn hs ht hk => ?_, fun n => ?_⟩
  · have h : entry.2.At source.toList := by
      rcases List.mem_cons.mp he with rfl | he
      · exact hat
      · exact ScanCall.at_runAll hat calls entry he
    refine ⟨h.char, ⟨h.peek, Cursor.offset_advance _⟩, h.line, h.column,
      beginsLine_lineStart _ _, fun s hs => ?_⟩
    refine ⟨_, h.endsSpace, h.place_of_next hs, ?_⟩
    rw [Cursor.kind_next_eq_eof hs, ← h.skipSpace.char, Cursor.char?, List.head?_eq_none_iff]
  · obtain ⟨k, rfl⟩ : ∃ k, n = m + (k + 1) := ⟨n - m - 1, by omega⟩
    rw [Cursor.behind_add] at ht
    exact (hat.behind m).place_lt_behind hs hk ht
  · exact hat.offset_behind_le (Nat.zero_le _) n

end FrontEnd
