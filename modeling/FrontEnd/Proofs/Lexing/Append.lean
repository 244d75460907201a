import FrontEnd.Proofs.Lexing.Stream
import Mathlib.Data.List.TakeWhile

/-!
# Texts one after the other

A text that is followed by another one reads as before, but for a string that lacks its closing
quote: this one goes on in the other text. So behind a line feed the tokens of the second text
come as they are, on later lines.

* `Lexeme.read_append`: a lexeme that is closed does not see what follows it.
* `Stream.ofCursor_followedBy`: the stream of a text with another one behind a line feed.
* `tokenize_append`: the tokens of the two texts, if the last token of the first one is valid.
* `tokenize_newline`: the same for each first text in which no string lacks its closing quote.
-/

namespace FrontEnd

open Text

/-- The text ends inside this piece of it. -/
def Anomaly.IsOpen : Anomaly → Prop
  | unterminated | danglingEscape => True
  | _ => False

/-- A text before which words, numbers and signs end. -/
def Separates (more : List Char) : Prop := ∀ c ∈ more.head?, isWordChar c = false ∧ c ≠ '='

theorem separates_cons {c : Char} {r : List Char} :
    Separates (c :: r) ↔ isWordChar c = false ∧ c ≠ '=' := by
  simp [Separates]

/-- Digits are word characters. -/
theorem Separates.isDigit {more : List Char} (h : Separates more) :
    ∀ c ∈ more.head?, isDigit c = false := by
  intro c hc
  have hw := (h c hc).1
  simp only [isWordChar, Bool.or_eq_false_iff] at hw
  exact hw.2

theorem takeWhile_append_of_head {p : Char → Bool} {cs more : List Char}
    (h : ∀ c ∈ more.head?, p c = false) : (cs ++ more).takeWhile p = cs.takeWhile p := by
  induction cs with
  | nil =>
    cases more with
    | nil => rfl
    | cons c r => simp [h c rfl]
  | cons c cs ih => simp [List.takeWhile_cons, ih]

namespace Lexeme

variable {cs more : List Char}

/-- A lexeme, if there is one, that the end of the text does not cut off. -/
def IsClosed (found : Except ScanError Lexeme) : Prop :=
  ∀ x, found = .ok x → ∀ a ∈ x.anomaly?, ¬a.IsOpen

theorem body_cons {c : Char} (h1 : c ≠ '"') (h2 : c ≠ '\\') (r : List Char) :
    body (c :: r) = (body r).push c 1 := by
  rw [body]
  · exact h1
  · exact fun h _ => h2 h
  · exact fun _ _ h _ => h2 h

/-- A backslash is alone or begins a pair, so what is neither is no backslash. -/
theorem ne_backslash {c : Char} {r : List Char} (hlone : c = '\\' → r = [] → False)
    (hpair : ∀ a s, c = '\\' → r = a :: s → False) : c ≠ '\\' := by
  intro hc
  cases r with
  | nil => exact hlone hc rfl
  | cons a s => exact hpair a s hc rfl

/-- The body of a string that is closed does not see what follows it. -/
theorem body_append {r s : List Char} {n : Nat} (h : body r = .closed s n) (more : List Char) :
    body (r ++ more) = .closed s n ∧ n ≤ r.length := by
  fun_induction body r generalizing s n with
  | case1 => cases h
  | case2 r => cases h; exact ⟨rfl, by simp⟩
  | case3 => cases h
  | case4 c r ih =>
    cases hb : body r with rw [hb] at h
    | closed s' n' =>
      cases h
      obtain ⟨h1, h2⟩ := ih hb
      exact ⟨by rw [List.cons_append, List.cons_append, body, h1, Body.push], by simp; omega⟩
    | unclosed => cases h
  | case5 c r hq hlone hpair ih =>
    cases hb : body r with rw [hb] at h
    | closed s' n' =>
      cases h
      obtain ⟨h1, h2⟩ := ih hb
      -- both cases of a backslash come before this one
      have hslash := ne_backslash hlone hpair
      exact ⟨by rw [List.cons_append, body_cons hq hslash, h1, Body.push], by simp; omega⟩
    | unclosed => cases h

theorem isOpen_of_unclosed {r : List Char} {why : Anomaly} (h : body r = .unclosed why) :
    why.IsOpen := by
  fun_induction body r with
  | case1 => cases h; trivial
  | case2 => cases h
  | case3 => cases h; trivial
  | case4 c r ih | case5 c r _ _ _ ih =>
    cases hb : body r with rw [hb] at h
    | closed => cases h
    | unclosed => cases h; exact ih hb

/-- **A lexeme that is closed** does not see what follows it. -/
theorem read_append (hcs : cs ≠ []) (hx : IsClosed (read cs).result) (hm : Separates more) :
    read (cs ++ more) = read cs := by
  obtain ⟨c, r, rfl⟩ := List.exists_cons_of_ne_nil hcs
  have hf := read_form c r
  generalize read (c :: r) = found at hx hf ⊢
  have hw : ∀ c ∈ more.head?, isWordChar c = false := fun c hc => (hm c hc).1
  rw [List.cons_append]
  cases hf with
  | double hd hr =>
    obtain ⟨r, rfl⟩ := List.head?_eq_some_iff.mp hr
    unfold double? at hd
    split at hd
    · cases hd; rfl
    · cases hd; rfl
    · cases hd
  | sign hk hr =>
    refine read_of_sign hk fun hd => ?_
    cases r with
    | nil => exact fun he => (hm '=' he).2 rfl
    | cons a r => exact hr hd
  | string hc =>
    subst hc
    rw [read_of_quote]
    unfold readString at hx ⊢
    rw [List.tail_cons] at hx ⊢
    cases hb : body r with
    | closed s n => rw [List.tail_cons, (body_append hb more).1, hb]
    | unclosed why =>
      rw [hb] at hx
      exact absurd (isOpen_of_unclosed hb) (hx _ rfl why rfl)
  | word hl =>
    rw [read_of_letter hl, readWord, readWord, ← List.cons_append, takeWhile_append_of_head hw]
  | number hdig =>
    rw [read_of_digit hdig, readNumber, readNumber, ← List.cons_append,
      takeWhile_append_of_head hm.isDigit]
  | stray hk hq hl hdig =>
    rw [read_of_ofSign?_none hk, if_neg hq, if_neg (by rw [hl]; decide),
      if_neg (by rw [hdig]; decide)]

/-- Only an invalid lexeme has something wrong with it. -/
theorem kind_of_anomaly {x : Lexeme} (hcs : cs ≠ []) (h : (read cs).result = .ok x)
    (hx : x.anomaly? ≠ none) : x.kind = .illegal := by
  obtain ⟨c, r, rfl⟩ := List.exists_cons_of_ne_nil hcs
  have hf := read_form c r
  generalize read (c :: r) = found at h hf
  cases hf with
  | double | sign | word => cases h; exact absurd rfl hx
  | string =>
    rcases readString_ok h with ⟨s, n, -, -, rfl⟩ | ⟨why, -, rfl⟩
    · exact absurd rfl hx
    · rfl
  | number =>
    rcases readNumber_ok h with ⟨-, rfl⟩ | ⟨-, rfl⟩
    · rfl
    · exact absurd rfl hx
  | stray => cases h; rfl

/-- A lexeme does not go beyond the text, and one that is cut off takes all of it. -/
theorem length_read_le (hcs : cs ≠ []) :
    (read cs).length ≤ cs.length ∧ (¬IsClosed (read cs).result → (read cs).length = cs.length) := by
  obtain ⟨c, r, rfl⟩ := List.exists_cons_of_ne_nil hcs
  have hf := read_form c r
  have hplain {x : Lexeme} (ha : x.anomaly? = none) : IsClosed (.ok x) := by
    intro y hy a hmem
    cases hy
    rw [ha] at hmem
    cases hmem
  generalize read (c :: r) = found at hf ⊢
  cases hf with
  | double hd hr =>
    obtain ⟨r, rfl⟩ := List.head?_eq_some_iff.mp hr
    exact ⟨by simp, fun hn => absurd (hplain rfl) hn⟩
  | sign => exact ⟨by simp, fun hn => absurd (hplain rfl) hn⟩
  | string hc =>
    unfold readString
    rw [List.tail_cons]
    cases hb : body r with
    | closed s n =>
      have := (body_append hb []).2
      exact ⟨by simpa using this, fun hn => absurd (hplain rfl) hn⟩
    | unclosed why => exact ⟨by simp, fun _ => by simp⟩
  | word =>
    refine ⟨(List.takeWhile_prefix _).length_le, fun hn => absurd (hplain rfl) hn⟩
  | number =>
    refine ⟨(List.takeWhile_prefix _).length_le, fun hn => absurd ?_ hn⟩
    intro x hx a ha
    rcases readNumber_ok hx with ⟨-, rfl⟩ | ⟨-, rfl⟩
    · cases ha; exact id
    · cases ha
  | stray =>
    refine ⟨by simp, fun hn => absurd ?_ hn⟩
    intro x hx a ha
    cases hx
    cases ha
    exact id

end Lexeme

/-! ## Cursors with more text behind -/

namespace Cursor

variable {c : Cursor} {n m k : Nat} {more : List Char}

/-- The cursor with more text behind its own. -/
def followedBy (c : Cursor) (more : List Char) : Cursor := { c with rest := c.rest ++ more }

/-- The cursor in a text that stands some lines lower. -/
def lower (lines chars : Nat) (c : Cursor) : Cursor :=
  { c with offset := c.offset + chars, line := c.line + lines }

theorem advance_followedBy (h : c.rest ≠ []) :
    (c.followedBy more).advance = c.advance.followedBy more := by
  obtain ⟨rest, o, l, k⟩ := c
  cases rest with
  | nil => exact absurd rfl h
  | cons x r =>
    by_cases hx : x = '\n'
    · subst hx; rfl
    · simp [advance, followedBy]

theorem advanceBy_followedBy (h : n ≤ c.rest.length) :
    (c.followedBy more).advanceBy n = (c.advanceBy n).followedBy more := by
  induction n generalizing c with
  | zero => rfl
  | succ n ih =>
    have hne : c.rest ≠ [] := by rintro hc; rw [hc] at h; simp at h
    rw [advanceBy, advanceBy, advance_followedBy hne, ih]
    rw [rest_advance, List.length_tail]
    omega

theorem advanceBy_add (m n : Nat) (c : Cursor) :
    c.advanceBy (m + n) = (c.advanceBy m).advanceBy n := by
  induction m generalizing c with
  | zero => rw [Nat.zero_add, advanceBy]
  | succ m ih => rw [Nat.succ_add, advanceBy, advanceBy, ih]

theorem advanceBy_lower (n : Nat) (c : Cursor) :
    (c.lower m k).advanceBy n = (c.advanceBy n).lower m k := by
  have one (c : Cursor) : (c.lower m k).advance = c.advance.lower m k := by
    obtain ⟨rest, o, l, col⟩ := c
    cases rest with
    | nil => simp [advance, lower, Nat.add_right_comm]
    | cons x r =>
      by_cases hx : x = '\n'
      · subst hx; simp [advance, lower, Nat.add_right_comm]
      · simp [advance, lower, Nat.add_right_comm]
  induction n generalizing c with
  | zero => rfl
  | succ n ih => rw [advanceBy, advanceBy, one, ih]

/-- No step loses a line: those passed and those ahead are always as many. -/
theorem line_advance (c : Cursor) :
    c.advance.line + c.advance.rest.count '\n' = c.line + c.rest.count '\n' := by
  obtain ⟨rest, o, l, col⟩ := c
  cases rest with
  | nil => rfl
  | cons x r =>
    by_cases hx : x = '\n'
    · subst hx; simp [advance]; omega
    · simp [advance, hx]

/-- Behind the text of a cursor and a line feed. -/
def below (c : Cursor) (more : List Char) : Cursor :=
  (c.followedBy ('\n' :: more)).advanceBy (c.rest.length + 1)

/-- The place behind a text does not depend on how far the text has been read. -/
theorem below_advanceBy (h : n ≤ c.rest.length) : (c.advanceBy n).below more = c.below more := by
  unfold below
  rw [← advanceBy_followedBy h, ← advanceBy_add, rest_advanceBy, List.length_drop]
  congr 1
  omega

theorem below_eq (c : Cursor) (more : List Char) :
    c.below more = ⟨more, c.offset + c.rest.length + 1, c.line + c.rest.count '\n' + 1, 1⟩ := by
  -- the place behind the text stays the same while the cursor goes on to it
  induction hr : c.rest generalizing c with
  | nil => simp [below, followedBy, hr, advanceBy, advance]
  | cons x r ih =>
    have hone : (c.advanceBy 1).below more = c.below more := below_advanceBy (by rw [hr]; simp)
    have hrest : c.advance.rest = r := by rw [rest_advance, hr, List.tail_cons]
    have hline := line_advance c
    have hoff := offset_advance c
    rw [hrest, hr] at hline
    have ho : c.offset + 1 + r.length + 1 = c.offset + (x :: r).length + 1 := by simp; omega
    rw [← hone, advanceBy, advanceBy, ih _ hrest, hoff, hline, ho]

/-- **Below a text** the other one begins on a line of its own. -/
theorem below_ofText (s t : String) :
    (ofText s).below t.toList =
      (ofText t).lower (s.toList.count '\n' + 1) (s.toList.length + 1) := by
  rw [below_eq, ofText, ofText, lower]
  simp only [Nat.zero_add, Nat.add_comm]

/-! ## Reading with more text behind -/

theorem skipSpace_lower (c : Cursor) : (c.lower m k).skipSpace = c.skipSpace.lower m k :=
  advanceBy_lower _ c

theorem skipSpace_followedBy (h : c.skipSpace.rest ≠ []) :
    (c.followedBy more).skipSpace = c.skipSpace.followedBy more := by
  have hw : (c.rest ++ more).takeWhile isSpace = c.rest.takeWhile isSpace := by
    rw [rest_skipSpace] at h
    revert h
    generalize c.rest = cs
    induction cs with
    | nil => exact fun h => absurd rfl h
    | cons x r ih =>
      intro h
      by_cases hx : isSpace x = true
      · simp [hx, ih (by simpa [hx] using h)]
      · simp [hx]
  have hlen : (c.rest.takeWhile isSpace).length ≤ c.rest.length :=
    (List.takeWhile_prefix _).length_le
  have hs : (c.followedBy more).skipSpace =
      (c.followedBy more).advanceBy ((c.rest ++ more).takeWhile isSpace).length := rfl
  rw [hs, hw, advanceBy_followedBy hlen]
  rfl

/-- Space up to the end of a text goes on below it. -/
theorem skipSpace_below (h : c.skipSpace.rest = []) :
    (c.followedBy ('\n' :: more)).skipSpace = (c.below more).skipSpace := by
  have hall : ∀ x ∈ c.rest, isSpace x = true := by
    rw [rest_skipSpace] at h
    exact List.dropWhile_eq_nil_iff.mp h
  have hw : (c.rest ++ '\n' :: more).takeWhile isSpace =
      c.rest ++ '\n' :: more.takeWhile isSpace := by
    rw [List.takeWhile_append_of_pos hall]
    rfl
  have hs : (c.followedBy ('\n' :: more)).skipSpace = (c.followedBy ('\n' :: more)).advanceBy
      ((c.rest ++ '\n' :: more).takeWhile isSpace).length := rfl
  have hb : (c.below more).skipSpace =
      (c.below more).advanceBy (more.takeWhile isSpace).length := by
    rw [skipSpace, below_eq]
  rw [hs, hb, hw, below, ← advanceBy_add]
  congr 1
  simp only [List.length_append, List.length_cons]
  omega

end Cursor

/-! ## Streams -/

/-- The token some lines lower. -/
def Token.lower (lines : Nat) (t : Token) : Token := { t with line := t.line + lines }

/-- The scan some lines lower. -/
def Scan.lower (lines : Nat) (s : Scan) : Scan := { s with token := s.token.lower lines }

namespace Stream

variable {c : Cursor} {m k : Nat} {more : List Char}

/-- The stream some lines lower. -/
def lower (lines : Nat) (s : Stream) : Stream :=
  ⟨s.pending.map (Except.map (Scan.lower lines)), s.finish.lower lines⟩

theorem next_lower (c : Cursor) :
    (c.lower m k).next = (c.next.1.map (Scan.lower m), c.next.2.lower m k) := by
  have hr : (c.skipSpace.lower m k).rest = c.skipSpace.rest := rfl
  rw [Cursor.next, Cursor.skipSpace_lower, Cursor.reading, Cursor.next, Cursor.reading, hr]
  dsimp only
  rw [Cursor.advanceBy_lower]
  cases (Lexeme.read c.skipSpace.rest).result <;> rfl

/-- **A text that stands lower** has its tokens on lower lines. -/
theorem ofCursor_lower (c : Cursor) : ofCursor (c.lower m k) = (ofCursor c).lower m := by
  fun_induction ofCursor c with
  | case1 c h =>
    have hl : (c.lower m k).skipSpace.rest = [] := by rw [Cursor.skipSpace_lower]; exact h
    rw [ofCursor_of_end hl, Cursor.skipSpace_lower]
    rfl
  | case2 c h later ih =>
    have hl : (c.lower m k).skipSpace.rest ≠ [] := by rw [Cursor.skipSpace_lower]; exact h
    rw [ofCursor_of_more hl, next_lower, ih]
    rfl

theorem ofCursor_congr {c c' : Cursor} (h : c.skipSpace = c'.skipSpace) :
    ofCursor c = ofCursor c' := by
  have hn : c.next = c'.next := by rw [Cursor.next, h, Cursor.next]
  by_cases he : c.skipSpace.rest = []
  · have he' : c'.skipSpace.rest = [] := h ▸ he
    rw [ofCursor_of_end he, ofCursor_of_end he', h]
  · have he' : c'.skipSpace.rest ≠ [] := h ▸ he
    rw [ofCursor_of_more he, ofCursor_of_more he', hn]

/-- A closed lexeme is read in the same way with more text behind. -/
theorem next_followedBy (h : c.skipSpace.rest ≠ [])
    (hx : Lexeme.IsClosed (Lexeme.read c.skipSpace.rest).result) (hm : Separates more) :
    (c.followedBy more).next = (c.next.1, c.next.2.followedBy more) := by
  have hread := Lexeme.read_append h hx hm
  rw [Cursor.next, Cursor.skipSpace_followedBy h, Cursor.reading]
  have hr : (c.skipSpace.followedBy more).rest = c.skipSpace.rest ++ more := rfl
  rw [hr, hread, Cursor.advanceBy_followedBy (Lexeme.length_read_le h).1]
  rfl

theorem below_next (h : c.skipSpace.rest ≠ []) : c.next.2.below more = c.below more := by
  have h1 : (c.rest.takeWhile isSpace).length ≤ c.rest.length :=
    (List.takeWhile_prefix _).length_le
  have h2 := (Lexeme.length_read_le h).1
  calc c.next.2.below more = c.skipSpace.below more := Cursor.below_advanceBy h2
    _ = c.below more := Cursor.below_advanceBy h1

/-- No token of the stream is cut off by the end of the text. -/
def IsClosed (s : Stream) : Prop := ∀ x, .ok x ∈ s.pending → ∀ a ∈ x.anomaly?, ¬a.IsOpen

/-- **A text below another one.** The stream goes on with the second text where the first one
ends, unless a string is cut off there. -/
theorem ofCursor_followedBy (h : (ofCursor c).IsClosed) :
    ofCursor (c.followedBy ('\n' :: more)) =
      ⟨(ofCursor c).pending ++ (ofCursor (c.below more)).pending,
        (ofCursor (c.below more)).finish⟩ := by
  fun_induction ofCursor c with
  | case1 c hc => exact ofCursor_congr (Cursor.skipSpace_below hc)
  | case2 c hc later ih =>
    have hx : Lexeme.IsClosed (Lexeme.read c.skipSpace.rest).result := by
      intro x hx
      refine h (x.at c.skipSpace.line c.skipSpace.column) ?_
      refine List.mem_cons.mpr (Or.inl ?_)
      rw [Cursor.next, Cursor.reading, hx]
      rfl
    have hn : (c.followedBy ('\n' :: more)).skipSpace.rest ≠ [] := by
      rw [Cursor.skipSpace_followedBy hc]
      simp [Cursor.followedBy, hc]
    have hm : Separates ('\n' :: more) := separates_cons.mpr (by decide)
    have hlater : (ofCursor c.next.2).IsClosed := fun x hx => h x (List.mem_cons_of_mem _ hx)
    rw [ofCursor_of_more hn, next_followedBy hc hx hm, ih hlater, below_next hc]
    rfl

/-- **A lexeme that is cut off** takes the rest of the text. -/
theorem end_of_open {s : Scan} {a : Anomaly} (hc : c.skipSpace.rest ≠ [])
    (h : c.next.1 = .ok s) (ha : a ∈ s.anomaly?) (hopen : a.IsOpen) :
    c.next.2.skipSpace.rest = [] := by
  obtain ⟨x, hr, rfl⟩ := Cursor.exists_read_of_next h
  have hcut : ¬Lexeme.IsClosed (Lexeme.read c.skipSpace.rest).result :=
    fun hclosed => hclosed x hr a ha hopen
  have hlen := (Lexeme.length_read_le hc).2 hcut
  have hnil : c.next.2.rest = [] := by
    rw [Cursor.next, Cursor.reading, Cursor.rest_advanceBy, hlen, List.drop_length]
  rw [Cursor.rest_skipSpace, hnil]
  rfl

/-- A text whose last token is a valid one is not cut off. -/
theorem isClosed_of_getLast (h : ∀ x, (ofCursor c).pending.getLast? = some (.ok x) →
    x.token.kind ≠ .illegal) : (ofCursor c).IsClosed := by
  fun_induction ofCursor c with
  | case1 c hc =>
    intro x hx
    cases hx
  | case2 c hc later ih =>
    intro x hx a ha
    rcases List.mem_cons.mp hx with hx | hx
    · by_contra hopen
      have hlast : later = ⟨[], c.next.2.skipSpace.finish⟩ :=
        ofCursor_of_end (end_of_open hc hx.symm ha hopen)
      obtain ⟨y, hr, rfl⟩ := Cursor.exists_read_of_next hx.symm
      have hillegal : y.kind = .illegal :=
        Lexeme.kind_of_anomaly hc hr (Option.ne_none_iff_exists'.mpr ⟨a, ha⟩)
      refine h (y.at c.skipSpace.line c.skipSpace.column) ?_ hillegal
      rw [hlast, ← hx]
      rfl
    · refine ih (fun y hy => h y ?_) x hx a ha
      rw [List.getLast?_cons, hy]
      rfl

end Stream

theorem Cursor.ofText_append (s t : String) :
    ofText (s ++ "\n" ++ t) = (ofText s).followedBy ('\n' :: t.toList) := by
  simp [ofText, followedBy, String.toList_append]

/-- The tokens of a text below another one in which no token is cut off. -/
theorem tokenize_append_of_isClosed {s t : String} {us vs : List Token} {l l' : Token}
    (hs : tokenize s = .ok (us ++ [l])) (ht : tokenize t = .ok (vs ++ [l']))
    (hclosed : (Stream.ofCursor (.ofText s)).IsClosed) :
    tokenize (s ++ "\n" ++ t) =
      .ok (us ++ (vs ++ [l']).map (Token.lower (s.toList.count '\n' + 1))) := by
  obtain ⟨us', heq, hus⟩ := Stream.tokens_drain_iff.mp hs
  obtain ⟨rfl, -⟩ := List.append_inj' heq rfl
  obtain ⟨vs', heq', hvs⟩ := Stream.tokens_drain_iff.mp ht
  obtain ⟨rfl, hl'⟩ := List.append_inj' heq' rfl
  cases hl'
  have hstream : Stream.ofCursor ((Cursor.ofText s).followedBy ('\n' :: t.toList)) = _ :=
    Stream.ofCursor_followedBy hclosed
  rw [← Cursor.ofText_append, Cursor.below_ofText, Stream.ofCursor_lower] at hstream
  generalize s.toList.count '\n' + 1 = n at hstream ⊢
  refine Stream.tokens_drain_iff.mpr ⟨us ++ vs.map (Token.lower n), ?_, ?_⟩
  · rw [hstream]
    simp [Stream.lower, Scan.lower]
  · have hcomm : Except.map Scan.token ∘ Except.map (Scan.lower n) =
        Except.map (Token.lower n) ∘
          (Except.map Scan.token : Except ScanError Scan → Except ScanError Token) := by
      funext x
      cases x <;> rfl
    rw [hstream]
    simp only [Stream.lower, List.map_append, List.map_map, hus, hcomm]
    rw [← List.map_map, hvs, List.map_map]
    rfl

/-- **The tokens of a text below another one.** If no token of the first text is cut off at its
end, the tokens of both texts are those of the first without its end, and then those of the
second, lower by the lines of the first. -/
theorem tokenize_append {s t : String} {us vs : List Token} {l l' : Token}
    (hs : tokenize s = .ok (us ++ [l])) (ht : tokenize t = .ok (vs ++ [l']))
    (hlast : ∀ u ∈ us.getLast?, u.kind ≠ .illegal) :
    tokenize (s ++ "\n" ++ t) =
      .ok (us ++ (vs ++ [l']).map (Token.lower (s.toList.count '\n' + 1))) := by
  refine tokenize_append_of_isClosed hs ht (Stream.isClosed_of_getLast fun x hx => ?_)
  obtain ⟨us', heq, hus⟩ := Stream.tokens_drain_iff.mp hs
  obtain ⟨rfl, -⟩ := List.append_inj' heq rfl
  refine hlast x.token ?_
  have := congrArg List.getLast? hus
  rw [List.getLast?_map, hx, List.getLast?_map] at this
  cases hu : us.getLast? with
  | none => rw [hu] at this; cases this
  | some u => rw [hu] at this; cases this; rfl

/-! ## Strings that are cut off -/

/-- **A string without its closing quote**: an invalid token that begins with a quote. -/
def Token.IsUnclosed (t : Token) : Prop := t.kind = .illegal ∧ t.literal.toList.head? = some '"'

/-- A lexeme is cut off exactly if it is invalid and begins with a quote. No number begins so, and a
quote is no stray character. -/
theorem Lexeme.isOpen_iff {cs : List Char} {x : Lexeme} (hcs : cs ≠ [])
    (h : (read cs).result = .ok x) (line column : Nat) :
    (∃ a ∈ x.anomaly?, a.IsOpen) ↔ (x.at line column).token.IsUnclosed := by
  obtain ⟨c, r, rfl⟩ := List.exists_cons_of_ne_nil hcs
  have hf := read_form c r
  generalize read (c :: r) = found at h hf
  -- a valid lexeme has neither property
  have hplain {y : Lexeme} (hk : y.kind ≠ .illegal) (ha : y.anomaly? = none) :
      (∃ a ∈ y.anomaly?, a.IsOpen) ↔ (y.at line column).token.IsUnclosed := by
    constructor
    · rintro ⟨a, hmem, -⟩
      rw [ha] at hmem
      cases hmem
    · rintro ⟨hi, -⟩
      exact absurd hi hk
  cases hf with
  | double hd =>
    cases h
    unfold double? at hd
    split at hd <;> cases hd <;> exact hplain (by simp [plain]) rfl
  | @sign k hk =>
    cases h
    refine hplain ?_ rfl
    rintro rfl
    unfold Kind.ofSign? at hk
    split at hk <;> cases hk
  | string hq =>
    subst hq
    rcases readString_ok h with ⟨s, n, -, -, rfl⟩ | ⟨why, hb, rfl⟩
    · exact hplain (by simp [plain]) rfl
    · have hopen : why.IsOpen := isOpen_of_unclosed hb
      have hliteral : (String.ofList ('"' :: r)).toList.head? = some '"' := by simp
      exact ⟨fun _ => ⟨rfl, hliteral⟩, fun _ => ⟨why, rfl, hopen⟩⟩
  | word hl =>
    cases h
    exact hplain (Kind.ofWord_ne (by decide) _) rfl
  | number hd =>
    rcases readNumber_ok h with ⟨-, rfl⟩ | ⟨-, rfl⟩
    · constructor
      · rintro ⟨a, ha, hopen⟩
        cases ha
        cases hopen
      · rintro ⟨-, hquote⟩
        simp only [Lexeme.at, wrong, String.toList_ofList, List.takeWhile_cons_of_pos hd,
          List.head?_cons, Option.some.injEq] at hquote
        subst hquote
        cases hd
    · exact hplain (by simp) rfl
  | stray _ hq =>
    cases h
    constructor
    · rintro ⟨a, ha, hopen⟩
      cases ha
      cases hopen
    · rintro ⟨-, hquote⟩
      simp only [Lexeme.at, wrong, Char.toString, String.toList_singleton, List.head?_cons,
        Option.some.injEq] at hquote
      exact absurd hquote hq

/-- What a cursor finds is cut off exactly if its token is a string without its closing quote. -/
theorem Stream.isOpen_iff_of_mem {c : Cursor} {x : Scan} (h : .ok x ∈ (ofCursor c).pending) :
    (∃ a ∈ x.anomaly?, a.IsOpen) ↔ x.token.IsUnclosed := by
  obtain ⟨cs, y, hcs, hr, hx⟩ := exists_read_of_mem h
  rw [hx]
  exact Lexeme.isOpen_iff hcs hr _ _

/-- No string of a text lacks its closing quote exactly if none of its tokens is cut off. -/
theorem isClosed_iff_of_tokenize {s : String} {us : List Token} {l : Token}
    (hs : tokenize s = .ok (us ++ [l])) :
    (Stream.ofCursor (.ofText s)).IsClosed ↔ ∀ u ∈ us, ¬u.IsUnclosed := by
  constructor
  · intro hclosed u hu hopen
    obtain ⟨x, hx, rfl⟩ := exists_scan_of_tokenize hs hu
    obtain ⟨a, ha, hcut⟩ := (Stream.isOpen_iff_of_mem hx).mpr hopen
    exact hclosed x hx a ha hcut
  · intro hclosed x hx a ha hcut
    obtain ⟨us', heq, hus⟩ := exists_of_tokenize hs
    obtain ⟨rfl, -⟩ := List.append_inj' heq rfl
    have hmem := List.mem_map_of_mem (f := Except.map Scan.token) hx
    rw [hus] at hmem
    obtain ⟨u, hu, he⟩ := List.mem_map.mp hmem
    have htoken : u = x.token := Except.ok.inj he
    exact hclosed u hu (htoken ▸ (Stream.isOpen_iff_of_mem hx).mp ⟨a, ha, hcut⟩)

/-- **A line feed separates texts.** Let two texts have tokens, and let no string of the first one
lack its closing quote. Then the tokens of the first text, a line feed and the second text are those
of the first one without its end, and then those of the second one with its end. These stand as many
lines lower as the first text has line feeds, and one more for the line feed between. Nothing else of
them changes. -/
theorem tokenize_newline {s t : String} {ts us : List Token} (hs : tokenize s = .ok ts)
    (ht : tokenize t = .ok us) (hclosed : ∀ u ∈ ts, ¬u.IsUnclosed) :
    ∃ vs last, ts = vs ++ [last] ∧ last.kind = .eof ∧ (∀ v ∈ vs, v.kind ≠ .eof) ∧
      tokenize (s ++ "\n" ++ t) =
        .ok (vs ++ us.map (Token.lower (s.toList.count '\n' + 1))) := by
  obtain ⟨vs, last, rfl⟩ := exists_concat_of_tokenize hs
  obtain ⟨us, l, rfl⟩ := exists_concat_of_tokenize ht
  obtain ⟨hlast, hbefore⟩ := ends_of_tokenize hs
  have hstrings : ∀ v ∈ vs, ¬v.IsUnclosed := fun v hv => hclosed v (List.mem_append_left _ hv)
  have hstream := (isClosed_iff_of_tokenize hs).mpr hstrings
  exact ⟨vs, last, rfl, hlast, hbefore, tokenize_append_of_isClosed hs ht hstream⟩

/-- A string over two lines, a stray character and a word that the line feed ends: the word below is
a token of its own. -/
theorem tokenize_newline_stray :
    let t (k : Kind) (literal : String) (line column : Nat) : Token :=
      ⟨k, literal, none, line, column⟩
    let ts := [t .string "a\nb" 1 1, t .illegal "@" 2 4, t .ident "x" 2 5]
    tokenize "\"a\nb\" @x" = .ok (ts ++ [t .eof "" 2 6]) ∧
      tokenize " y" = .ok [t .ident "y" 1 2, t .eof "" 1 3] ∧
      (∀ u ∈ ts ++ [t .eof "" 2 6], ¬u.IsUnclosed) ∧
      tokenize "\"a\nb\" @x\n y" = .ok (ts ++ [t .ident "y" 3 2, t .eof "" 3 3]) := by
  intro t ts
  have hs : tokenize "\"a\nb\" @x" = .ok (ts ++ [t .eof "" 2 6]) := by decide +kernel
  have ht : tokenize " y" = .ok [t .ident "y" 1 2, t .eof "" 1 3] := by decide +kernel
  have hclosed : ∀ u ∈ ts ++ [t .eof "" 2 6], ¬u.IsUnclosed := by
    simp [ts, t, Token.IsUnclosed]
  obtain ⟨vs, last, hvs, -, -, happend⟩ := tokenize_newline hs ht hclosed
  obtain ⟨rfl, -⟩ := List.append_inj' hvs rfl
  exact ⟨hs, ht, hclosed, happend⟩

end FrontEnd
