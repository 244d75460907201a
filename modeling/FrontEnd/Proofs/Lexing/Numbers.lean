import FrontEnd.Proofs.Lexing.Munch

/-!
# Numbers, and where scanning stops

A number is the run of digits where a lexeme begins (`Cursor.digits`), whatever its length is, and
scanning goes on behind it. Only a number with more digits than are converted cannot be read, so
scanning stops at the first one of these, and nowhere else.

* `next_of_few`, `next_of_many`: what is read at a run of digits.
* `exists_next_of_no_digits`: everything else gives a token.
* `tokens_drain_eq_error_iff`: a drain stops at the first error that its cursor meets.
* `next_behind`: the tokens of a text are those that its cursor meets, one after the other.
* `exists_next_of_mem`: where a token of a text is found.
-/

namespace FrontEnd

open Text

theorem Drained.tokens_push_eq_error {s : Scan} {d : Drained} {e : ScanError} :
    (d.push s).tokens = .error e ↔ d.tokens = .error e := by
  unfold Drained.tokens Drained.push
  cases d.error? with
  | none => simp
  | some e' => simp

namespace Cursor

variable {c : Cursor}

/-- The run of digits where the next lexeme begins. -/
def digits (c : Cursor) : List Char := c.skipSpace.rest.takeWhile isDigit

/-! ## Runs of digits -/

theorem isDigit_of_mem_digits {a : Char} (h : a ∈ c.digits) : isDigit a = true :=
  List.mem_takeWhile_imp h

theorem digits_append (c : Cursor) :
    c.digits ++ c.skipSpace.rest.dropWhile isDigit = c.skipSpace.rest :=
  List.takeWhile_append_dropWhile

theorem read_of_digits (h : c.digits ≠ []) :
    Lexeme.read c.skipSpace.rest = Lexeme.readNumber c.skipSpace.rest := by
  obtain ⟨a, w, hw⟩ := List.exists_cons_of_ne_nil h
  have ha : isDigit a = true := isDigit_of_mem_digits (c := c) (by rw [hw]; simp)
  rw [← digits_append, hw]
  exact Lexeme.read_of_digit ha _

/-- **Scanning goes on behind the digits.** -/
theorem rest_next_of_digits (h : c.digits ≠ []) :
    c.next.2.rest = c.skipSpace.rest.dropWhile isDigit := by
  rw [next, reading, rest_advanceBy, read_of_digits h, Lexeme.readNumber]
  dsimp only
  rw [← digits, ← digits_append c, List.drop_left, digits_append]

/-- What is found at a run of digits stands for their number. -/
theorem means_digits (h : c.digits ≠ []) :
    Means c.digits (.number c.digits) (Lexeme.read c.skipSpace.rest).result := by
  have htake : (c.digits ++ c.skipSpace.rest.dropWhile isDigit).takeWhile isDigit = c.digits := by
    rw [digits_append, digits]
  have hmeans := means_readNumber h (fun _ => isDigit_of_mem_digits) htake
  rwa [digits_append, ← read_of_digits h] at hmeans

/-- **Digits that are not too many** are an integer, or out of range by their value alone. -/
theorem next_of_few (h : c.digits ≠ []) (hn : c.digits.length ≤ maxDigits) :
    ∃ s, c.next.1 = .ok s ∧ s.token.literal = String.ofList c.digits ∧
      if decimal c.digits ≤ intMax then
        s.token.kind = .int ∧ s.token.value? = some (decimal c.digits : Int)
      else s.token.kind = .illegal ∧ s.token.value? = none := by
  obtain ⟨x, hx, hsense⟩ := (means_digits h).short fun hlong => by have := hlong.2; omega
  refine ⟨x.at c.skipSpace.line c.skipSpace.column, by rw [next, reading, hx]; rfl, ?_⟩
  unfold Sense.number at hsense
  by_cases hle : decimal c.digits ≤ intMax
  · rw [if_pos hle] at hsense ⊢
    obtain ⟨hk, hl, hv⟩ := Sense.mk.inj hsense
    exact ⟨hl.symm, hk.symm, hv.symm⟩
  · rw [if_neg hle] at hsense ⊢
    obtain ⟨hk, hl, hv⟩ := Sense.mk.inj hsense
    exact ⟨hl.symm, hk.symm, hv.symm⟩

/-- **Digits that are too many** are not converted. -/
theorem next_of_many (hn : maxDigits < c.digits.length) :
    c.next.1 = .error (.tooManyDigits c.digits.length) := by
  have hne : c.digits ≠ [] := List.ne_nil_of_length_pos (by omega)
  have hlong : IsLong c.digits := ⟨fun _ => isDigit_of_mem_digits, hn⟩
  rw [next, reading, ((means_digits hne).long hlong).1]
  rfl

/-- What is no number gives a token. -/
theorem exists_next_of_no_digits (h : c.digits = []) : ∃ s, c.next.1 = .ok s := by
  cases hr : c.skipSpace.rest with
  | nil => exact ⟨_, congrArg Prod.fst (next_of_end hr)⟩
  | cons a r =>
    have ha : isSpace a = false := by
      have := List.head?_dropWhile_not isSpace c.rest
      rw [← rest_skipSpace, hr] at this
      exact this
    obtain ⟨w, r', x, hw, hx⟩ := exists_longest ha r
    have hshort : ¬IsLong w := by
      intro hlong
      obtain ⟨b, w', rfl⟩ := List.exists_cons_of_ne_nil hx.ne_nil
      obtain ⟨rfl, -⟩ := List.cons.inj hw
      have hb : isDigit b = true := hlong.1 b List.mem_cons_self
      rw [digits, hr, List.takeWhile_cons_of_pos hb] at h
      cases h
    obtain ⟨y, hy, -⟩ := hx.means.short hshort
    refine ⟨y.at c.skipSpace.line c.skipSpace.column, ?_⟩
    rw [next, reading, hr, ← hw, hy]
    rfl

/-- **A token is found** exactly if the digits are not too many. -/
theorem exists_next_iff : (∃ s, c.next.1 = .ok s) ↔ c.digits.length ≤ maxDigits := by
  constructor
  · rintro ⟨s, hs⟩
    by_contra hn
    cases hs.symm.trans (next_of_many (by omega))
  · intro hn
    by_cases hd : c.digits = []
    · exact exists_next_of_no_digits hd
    · obtain ⟨s, hs, -⟩ := next_of_few hd hn
      exact ⟨s, hs⟩

theorem next_eq_error_iff {e : ScanError} :
    c.next.1 = .error e ↔ maxDigits < c.digits.length ∧ e = .tooManyDigits c.digits.length := by
  constructor
  · intro he
    have hn : maxDigits < c.digits.length := by
      by_contra hle
      obtain ⟨s, hs⟩ := exists_next_iff.mpr (Nat.le_of_not_lt hle)
      cases he.symm.trans hs
    rw [next_of_many hn] at he
    cases he
    exact ⟨hn, rfl⟩
  · rintro ⟨hn, rfl⟩
    exact next_of_many hn

/-! ## One token after the other -/

/-- What is pending first is what the cursor finds. -/
theorem next_of_pending {found : Except ScanError Scan} {later : List (Except ScanError Scan)}
    (h : (Stream.ofCursor c).pending = found :: later) :
    c.skipSpace.rest ≠ [] ∧ c.next.1 = found ∧ (Stream.ofCursor c.next.2).pending = later := by
  by_cases hend : c.skipSpace.rest = []
  · rw [Stream.ofCursor_of_end hend] at h
    cases h
  · rw [Stream.ofCursor_of_more hend] at h
    obtain ⟨hfound, hlater⟩ := List.cons.inj h
    exact ⟨hend, hfound, hlater⟩

/-- **The tokens of a stream without errors** are those that the cursor meets, and then the end
again and again. -/
theorem next_behind {us : List Token}
    (h : (Stream.ofCursor c).pending.map (Except.map Scan.token) = us.map .ok) (i : Nat) :
    ∃ s, (behind i c).next.1 = .ok s ∧
      s.token = us.getD i (Stream.ofCursor c).finish.token := by
  induction us generalizing c i with
  | nil =>
    have hend : c.skipSpace.rest = [] := by
      by_contra hne
      rw [Stream.ofCursor_of_more hne] at h
      cases h
    rw [next_behind_of_done hend, Stream.ofCursor_of_end hend]
    exact ⟨_, rfl, rfl⟩
  | cons u us ih =>
    obtain ⟨found, later, hp, hu, hus⟩ := List.map_eq_cons_iff.mp h
    obtain ⟨hmore, hfound, hlater⟩ := next_of_pending hp
    cases i with
    | zero =>
      cases found with
      | error e => cases hu
      | ok s => exact ⟨s, hfound, Except.ok.inj hu⟩
    | succ i =>
      rw [Stream.ofCursor_of_more hmore]
      exact ih (hlater ▸ hus) i

theorem drain_of_ok {s : Scan} (hmore : c.skipSpace.rest ≠ []) (hs : c.next.1 = .ok s) :
    c.drain = c.next.2.drain.push s := by
  rw [drain, dif_neg hmore, show c.next = (c.next.1, c.next.2) from rfl, hs]

theorem drain_of_error {e : ScanError} (hmore : c.skipSpace.rest ≠ []) (he : c.next.1 = .error e) :
    c.drain.tokens = .error e := by
  rw [drain, dif_neg hmore, show c.next = (c.next.1, c.next.2) from rfl, he]
  rfl

/-- The first error of the stream stops a drain. -/
theorem tokens_drain_of_pending {xs : List Scan} {e : ScanError}
    {later : List (Except ScanError Scan)}
    (h : (Stream.ofCursor c).pending = xs.map .ok ++ .error e :: later) :
    c.drain.tokens = .error e := by
  induction xs generalizing c with
  | nil =>
    obtain ⟨hmore, hfound, -⟩ := next_of_pending h
    exact drain_of_error hmore hfound
  | cons x xs ih =>
    obtain ⟨hmore, hfound, hlater⟩ := next_of_pending h
    rw [drain_of_ok hmore hfound, Drained.tokens_push_eq_error]
    exact ih hlater

/-- **A drain stops at the first error** that its cursor meets. -/
theorem tokens_drain_eq_error_iff {e : ScanError} :
    c.drain.tokens = .error e ↔ ∃ i, (behind i c).next.1 = .error e ∧
      ∀ j < i, ∃ s, (behind j c).next.1 = .ok s := by
  fun_induction Cursor.drain c with
  | case1 c hc =>
    constructor
    · intro h
      cases h
    · rintro ⟨i, hi, -⟩
      rw [next_behind_of_done hc] at hi
      cases hi
  | case2 c hc s later hn ih =>
    have hs : c.next.1 = .ok s := congrArg Prod.fst hn
    rw [Drained.tokens_push_eq_error, ih]
    constructor
    · rintro ⟨i, hi, hbefore⟩
      refine ⟨i + 1, hi, fun j hj => ?_⟩
      cases j with
      | zero => exact ⟨s, hs⟩
      | succ j => exact hbefore j (by omega)
    · rintro ⟨i, hi, hbefore⟩
      cases i with
      | zero => cases hs.symm.trans hi
      | succ i => exact ⟨i, hi, fun j hj => hbefore (j + 1) (by omega)⟩
  | case3 c hc e' stop hn =>
    have he : c.next.1 = .error e' := congrArg Prod.fst hn
    constructor
    · intro h
      cases h
      exact ⟨0, he, fun j hj => absurd hj (Nat.not_lt_zero j)⟩
    · rintro ⟨i, hi, hbefore⟩
      cases i with
      | zero =>
        cases he.symm.trans hi
        rfl
      | succ i =>
        obtain ⟨s, hs⟩ := hbefore 0 (Nat.succ_pos i)
        cases he.symm.trans hs

end Cursor

/-! ## The tokens of a text -/

variable {source : String}

/-- **The first number that is too long** is what a text without tokens fails with. -/
theorem tokenize_eq_error_iff {e : ScanError} :
    tokenize source = .error e ↔ ∃ i,
      maxDigits < (Cursor.behind i (.ofText source)).digits.length ∧
      e = .tooManyDigits (Cursor.behind i (.ofText source)).digits.length ∧
      ∀ j < i, (Cursor.behind j (.ofText source)).digits.length ≤ maxDigits := by
  rw [tokenize, Cursor.tokens_drain_eq_error_iff]
  simp only [Cursor.next_eq_error_iff, Cursor.exists_next_iff, and_assoc]

/-- The tokens of a text are those that its cursor meets. -/
theorem next_behind_of_tokenize {us : List Token} {last : Token}
    (h : tokenize source = .ok (us ++ [last])) (i : Nat) :
    ∃ s, (Cursor.behind i (.ofText source)).next.1 = .ok s ∧ s.token = us.getD i last := by
  obtain ⟨vs, hts, hvs⟩ := exists_of_tokenize h
  obtain ⟨rfl, hl⟩ := List.append_inj' hts rfl
  cases hl
  exact Cursor.next_behind hvs i

/-- Each token of a text is found by a cursor that stands in the text. -/
theorem exists_next_of_mem {ts : List Token} (h : tokenize source = .ok ts) {t : Token}
    (ht : t ∈ ts) :
    ∃ c : Cursor, ∃ s, c.At source.toList ∧ c.next.1 = .ok s ∧ s.token = t := by
  obtain ⟨us, last, rfl⟩ := exists_concat_of_tokenize h
  obtain ⟨i, hi, rfl⟩ := List.mem_iff_getElem.mp ht
  have hgetD : us.getD i last = (us ++ [last])[i] := by
    rw [List.getElem_append, List.getD_eq_getElem?_getD]
    split
    · rw [List.getElem?_eq_getElem, Option.getD_some]
    · rw [List.getElem?_eq_none (by omega), Option.getD_none, List.getElem_singleton]
  obtain ⟨s, hs, htoken⟩ := next_behind_of_tokenize h i
  exact ⟨_, s, (Cursor.at_ofText source).behind i, hs, htoken.trans hgetD⟩

/-- **A text has tokens** exactly if none of its numbers is too long. -/
theorem exists_tokenize_iff : (∃ us last, tokenize source = .ok (us ++ [last])) ↔
    ∀ i, (Cursor.behind i (.ofText source)).digits.length ≤ maxDigits := by
  constructor
  · rintro ⟨us, last, hts⟩ i
    obtain ⟨s, hs, -⟩ := next_behind_of_tokenize hts i
    exact Cursor.exists_next_iff.mp ⟨s, hs⟩
  · intro h
    cases hts : tokenize source with
    | ok ts =>
      obtain ⟨us, last, rfl⟩ := exists_concat_of_tokenize hts
      exact ⟨us, last, rfl⟩
    | error e =>
      obtain ⟨i, hlong, -, -⟩ := tokenize_eq_error_iff.mp hts
      have := h i
      omega

/-- Digits that are a text are its first number. -/
theorem Cursor.digits_ofText {w : List Char} (hw : ∀ a ∈ w, isDigit a = true) :
    (Cursor.ofText (String.ofList w)).digits = w := by
  have hrest : (Cursor.ofText (String.ofList w)).rest = w := String.toList_ofList
  have hspace : w.dropWhile isSpace = w := by
    cases w with
    | nil => rfl
    | cons a w =>
      have ha : isSpace a = false :=
        Lexes.isSpace_of_wordChar (by simp [isWordChar, hw a List.mem_cons_self])
      rw [List.dropWhile_cons_of_neg (by rw [ha]; decide)]
  rw [digits, rest_skipSpace, hrest, hspace]
  exact List.takeWhile_eq_self_iff.mpr hw

/-- A text that is one number with too many digits has no tokens. -/
theorem tokenize_of_digits {w : List Char} (hw : ∀ a ∈ w, isDigit a = true)
    (hn : maxDigits < w.length) :
    tokenize (String.ofList w) = .error (.tooManyDigits w.length) := by
  refine tokenize_eq_error_iff.mpr ⟨0, ?_, ?_, fun j hj => absurd hj (Nat.not_lt_zero j)⟩
  · rwa [Cursor.behind, Cursor.digits_ofText hw]
  · rw [Cursor.behind, Cursor.digits_ofText hw]

end FrontEnd
