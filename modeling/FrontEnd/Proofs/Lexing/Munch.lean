import FrontEnd.Proofs.Lexing.Grammar
import FrontEnd.Proofs.Lexing.Place

/-!
# Maximal munch

The reference for the tokens of a text takes the text apart from its head on: it drops all space
that stands there and takes the longest lexeme behind it, until nothing but space is left
(`Munches`). It keeps the pieces (`Span`), so it can be seen that none is lost. It neither stops at
a number with too many digits nor counts lines.

* `exists_munches`, `munches_unique`: each text is taken apart in one way.
* `tokens_drain_of_munches`: the tokens that a cursor drains are those of the pieces, with the end
  behind them, unless a number among them is too long.
* `tokenize_munches`: all of it for the tokens of a text.
-/

namespace FrontEnd

/-- A lexeme of a text with the space before it. -/
structure Span where
  space : List Char
  word : List Char
  sense : Sense

/-- The characters of a span. -/
def Span.chars (p : Span) : List Char := p.space ++ p.word

/-- **Maximal munch.** `Munches text ps trail`: all space at the head of the text and the longest
lexeme behind it are one span, and so on, up to the space `trail` at the end. -/
inductive Munches : List Char → List Span → List Char → Prop
  | done {text : List Char} : text.dropWhile isSpace = [] → Munches text [] text
  | span {text w r : List Char} {x : Sense} {ps : List Span} {trail : List Char} :
      text.dropWhile isSpace = w ++ r → Longest w r x → Munches r ps trail →
      Munches text (⟨text.takeWhile isSpace, w, x⟩ :: ps) trail

/-- The token of a span that begins at an offset of the text. -/
def Span.token (text : List Char) (offset : Nat) (p : Span) : Token :=
  ⟨p.sense.kind, p.sense.literal, p.sense.value?, lineAt text (offset + p.space.length),
    columnAt text (offset + p.space.length)⟩

/-- The tokens of spans that stand one after the other from an offset of the text on. -/
def spanTokens (text : List Char) : Nat → List Span → List Token
  | _, [] => []
  | offset, p :: ps => p.token text offset :: spanTokens text (offset + p.chars.length) ps

/-- The end of a text as a token. -/
def endToken (text : List Char) : Token :=
  ⟨.eof, "", none, lineAt text text.length, columnAt text text.length⟩

variable {text r w trail : List Char} {ps : List Span} {x : Sense} {ts : List Token}

/-! ## Taking a text apart -/

/-- **Each text is taken apart.** -/
theorem exists_munches (text : List Char) : ∃ ps trail, Munches text ps trail := by
  cases hd : text.dropWhile isSpace with
  | nil => exact ⟨[], text, .done hd⟩
  | cons c r =>
    have hc : isSpace c = false := by
      have := List.head?_dropWhile_not isSpace text
      rw [hd] at this
      exact this
    obtain ⟨w, r', x, hw, hx⟩ := exists_longest hc r
    have hlen : r'.length < text.length := by
      have h1 := (List.dropWhile_suffix (l := text) isSpace).length_le
      have h2 := List.length_pos_iff.mpr hx.ne_nil
      rw [hd, ← hw, List.length_append] at h1
      omega
    obtain ⟨ps, trail, hps⟩ := exists_munches r'
    exact ⟨_, trail, .span (hd.trans hw.symm) hx hps⟩
termination_by text.length

/-- **A text is taken apart in one way.** -/
theorem munches_unique {ps' : List Span} {trail' : List Char} (h : Munches text ps trail)
    (h' : Munches text ps' trail') : ps' = ps ∧ trail' = trail := by
  induction h generalizing ps' trail' with
  | done hnil =>
    cases h' with
    | done => exact ⟨rfl, rfl⟩
    | span he hx => exact absurd (he.symm.trans hnil) hx.append_ne_nil
  | span he hx _ ih =>
    cases h' with
    | done hnil => exact absurd (he.symm.trans hnil) hx.append_ne_nil
    | span he' hx' hps' =>
      obtain ⟨rfl, rfl, rfl⟩ := longest_unique hx hx' (he.symm.trans he')
      obtain ⟨rfl, rfl⟩ := ih hps'
      exact ⟨rfl, rfl⟩

/-- **Nothing is lost**: the spans and the space behind them are the text. -/
theorem Munches.tile (h : Munches text ps trail) : text = ps.flatMap Span.chars ++ trail := by
  induction h with
  | done => rfl
  | @span text w r x ps trail he _ _ ih =>
    rw [List.flatMap_cons, Span.chars, List.append_assoc, List.append_assoc, ← ih, ← he,
      List.takeWhile_append_dropWhile]

/-- What is between the lexemes and behind the last one is space. -/
theorem Munches.space (h : Munches text ps trail) :
    (∀ p ∈ ps, ∀ c ∈ p.space, isSpace c = true) ∧
      ∀ c ∈ trail, isSpace c = true := by
  induction h with
  | done hnil => exact ⟨fun _ hp => (nomatch hp), List.dropWhile_eq_nil_iff.mp hnil⟩
  | span _ _ _ ih =>
    refine ⟨fun p hp => ?_, ih.2⟩
    rcases List.mem_cons.mp hp with rfl | hp
    · exact fun c hc => List.mem_takeWhile_imp hc
    · exact ih.1 p hp

/-- Each span holds a longest lexeme. -/
theorem Munches.longest (h : Munches text ps trail) :
    ∀ p ∈ ps, ∃ r, Longest p.word r p.sense := by
  induction h with
  | done => exact fun p hp => nomatch hp
  | @span text w r x ps trail _ hx _ ih =>
    intro p hp
    rcases List.mem_cons.mp hp with rfl | hp
    · exact ⟨r, hx⟩
    · exact ih p hp

/-! ## Cursors find the spans -/

variable {c : Cursor}

/-- A cursor before a span reads it, and then stands behind it. -/
theorem next_of_longest (he : c.rest.dropWhile isSpace = w ++ r) (hx : Longest w r x) :
    c.next.2.rest = r ∧
      c.next.2.offset = c.offset + ((c.rest.takeWhile isSpace).length + w.length) := by
  have hrest : c.skipSpace.rest = w ++ r := by rw [Cursor.rest_skipSpace, he]
  have hnext : c.next.2 = c.skipSpace.advanceBy w.length := by
    rw [hx.length_eq, ← hrest]
    rfl
  rw [hnext]
  refine ⟨?_, ?_⟩
  · rw [Cursor.rest_advanceBy, hrest, List.drop_left]
  · rw [Cursor.offset_advanceBy, Cursor.offset_skipSpace]
    omega

/-- The token of a span is the one that is read. -/
theorem next_of_short (hat : c.At text) (he : c.rest.dropWhile isSpace = w ++ r)
    (hx : Longest w r x) (hw : ¬IsLong w) :
    ∃ s, c.next.1 = .ok s ∧
      s.token = Span.token text c.offset ⟨c.rest.takeWhile isSpace, w, x⟩ := by
  obtain ⟨y, hy, rfl⟩ := hx.means.short hw
  refine ⟨y.at c.skipSpace.line c.skipSpace.column, ?_, ?_⟩
  · rw [Cursor.next, Cursor.reading, Cursor.rest_skipSpace, he, hy]
    rfl
  · rw [hat.skipSpace.line, hat.skipSpace.column, Cursor.offset_skipSpace]
    rfl

/-- A number that is too long is not read. -/
theorem next_of_long (he : c.rest.dropWhile isSpace = w ++ r) (hx : Longest w r x)
    (hw : IsLong w) : c.next.1 = .error (.tooManyDigits w.length) := by
  rw [Cursor.next, Cursor.reading, Cursor.rest_skipSpace, he, (hx.means.long hw).1]
  rfl

/-- Where only space is left, the end of the text is read. -/
theorem finish_of_done (hat : c.At text) (hle : c.offset ≤ text.length)
    (hnil : c.rest.dropWhile isSpace = []) : c.skipSpace.finish = ⟨endToken text, none⟩ := by
  have hall : c.rest.takeWhile isSpace = c.rest := by
    rw [List.takeWhile_eq_self_iff]
    exact List.dropWhile_eq_nil_iff.mp hnil
  have hend : c.skipSpace.offset = text.length := by
    rw [Cursor.offset_skipSpace, hall, hat.rest, List.length_drop]
    omega
  rw [Cursor.finish, hat.skipSpace.line, hat.skipSpace.column, hend]
  rfl

/-- **The tokens that a cursor drains** are those of the spans, and the end. There are none if a
number is too long. -/
theorem tokens_drain_of_munches (h : Munches c.rest ps trail) (hat : c.At text)
    (hle : c.offset ≤ text.length) :
    c.drain.tokens = .ok ts ↔
      (∀ p ∈ ps, ¬IsLong p.word) ∧ ts = spanTokens text c.offset ps ++ [endToken text] := by
  generalize hc : c.rest = rest at h
  induction h generalizing c ts with
  | done hnil =>
    subst hc
    rw [Cursor.drain, dif_pos (by rw [Cursor.rest_skipSpace, hnil]), finish_of_done hat hle hnil]
    constructor
    · intro h
      cases h
      exact ⟨fun _ hp => (nomatch hp), rfl⟩
    · rintro ⟨-, rfl⟩
      rfl
  | @span _ w r x ps trail he hx _ ih =>
    subst hc
    have hmore : c.skipSpace.rest ≠ [] := by
      rw [Cursor.rest_skipSpace, he]
      exact hx.append_ne_nil
    obtain ⟨hrest, hoff⟩ := next_of_longest he hx
    rw [Cursor.drain, dif_neg hmore]
    by_cases hw : IsLong w
    · rw [show c.next = (c.next.1, c.next.2) from rfl, next_of_long he hx hw]
      constructor
      · intro h
        cases h
      · rintro ⟨hshort, -⟩
        exact absurd hw (hshort _ List.mem_cons_self)
    · obtain ⟨s, hs, htok⟩ := next_of_short hat he hx hw
      have hlater : ∀ us, c.next.2.drain.tokens = .ok us ↔ (∀ p ∈ ps, ¬IsLong p.word) ∧
          us = spanTokens text c.next.2.offset ps ++ [endToken text] :=
        fun us => ih hat.next (hat.offset_next_le hle) hrest
      rw [show c.next = (c.next.1, c.next.2) from rfl, hs]
      rw [Drained.tokens_push_eq_ok, List.forall_mem_cons, htok, spanTokens, Span.chars,
        List.length_append, ← hoff]
      constructor
      · rintro ⟨us, hus, rfl⟩
        obtain ⟨hshort, rfl⟩ := (hlater us).mp hus
        exact ⟨⟨hw, hshort⟩, rfl⟩
      · rintro ⟨⟨-, hshort⟩, rfl⟩
        exact ⟨_, (hlater _).mpr ⟨hshort, rfl⟩, rfl⟩

/-- Where only space is left, the end of the text is read again and again. -/
theorem next_behind_of_done (hnil : c.skipSpace.rest = []) (n : Nat) :
    (Cursor.behind n c).next = (.ok c.skipSpace.finish, c.skipSpace) := by
  induction n generalizing c with
  | zero => exact Cursor.next_of_end hnil
  | succ n ih =>
    have hstay : c.skipSpace.skipSpace = c.skipSpace := by
      rw [Cursor.skipSpace, hnil]
      rfl
    have hbehind := ih (c := c.skipSpace) (by rw [hstay, hnil])
    rw [Cursor.behind, Cursor.next_of_end hnil, hbehind, hstay]

/-- **Behind the spans** the end of the text is read, again and again and without moving. -/
theorem next_behind_of_munches (h : Munches c.rest ps trail) (hat : c.At text)
    (hle : c.offset ≤ text.length) (n : Nat) :
    (Cursor.behind (ps.length + n) c).next =
      (.ok ⟨endToken text, none⟩, Cursor.behind (ps.length + 1) c) := by
  generalize hc : c.rest = rest at h
  induction h generalizing c with
  | done hnil =>
    subst hc
    have hend : c.skipSpace.rest = [] := by rw [Cursor.rest_skipSpace, hnil]
    rw [next_behind_of_done hend, finish_of_done hat hle hnil, Cursor.behind,
      List.length_nil, Cursor.behind, Cursor.next_of_end hend]
  | @span _ w r x ps trail he hx _ ih =>
    subst hc
    rw [List.length_cons, Nat.succ_add, Nat.succ_add, Cursor.behind, Cursor.behind]
    exact ih hat.next (hat.offset_next_le hle) (next_of_longest he hx).1

/-- **Tokens are munched maximally.** A text is taken apart in one way: all space that stands at its
head is dropped, then the longest lexeme behind it is taken, and so on until only space is left. The
lexemes and the space between them and behind the last one are the text, without loss, overlap or
duplication.

If no number among the lexemes has more digits than are converted, the text has tokens, and these
are the lexemes, each as what the grammar says that it stands for and at its place, with one end
behind them. If there is such a number, the text has no tokens. A reader that has passed all lexemes
finds the end, and after that finds it again as often as it asks, and stays where it is. -/
theorem tokenize_munches (source : String) :
    ∃ ps trail, Munches source.toList ps trail ∧
      (∀ ps' trail', Munches source.toList ps' trail' → ps' = ps ∧ trail' = trail) ∧
      source.toList = ps.flatMap Span.chars ++ trail ∧
      (∀ p ∈ ps, (∀ c ∈ p.space, isSpace c = true) ∧ p.word ≠ [] ∧ p.sense.kind ≠ .eof) ∧
      (∀ c ∈ trail, isSpace c = true) ∧
      (∀ ts, tokenize source = .ok ts ↔ (∀ p ∈ ps, ¬IsLong p.word) ∧
        ts = spanTokens source.toList 0 ps ++ [endToken source.toList]) ∧
      ∀ n, (Cursor.behind (ps.length + n) (.ofText source)).next =
        (.ok ⟨endToken source.toList, none⟩,
          Cursor.behind (ps.length + 1) (.ofText source)) := by
  obtain ⟨ps, trail, h⟩ := exists_munches source.toList
  have hat := Cursor.at_ofText source
  have hle : (Cursor.ofText source).offset ≤ source.toList.length := Nat.zero_le _
  refine ⟨ps, trail, h, fun _ _ h' => munches_unique h h', h.tile, fun p hp => ?_, h.space.2,
    fun ts => tokens_drain_of_munches h hat hle, fun n => next_behind_of_munches h hat hle n⟩
  obtain ⟨r, hlong⟩ := h.longest p hp
  exact ⟨h.space.1 p hp, hlong.ne_nil, hlong.lexical.kind_ne_eof⟩

end FrontEnd
