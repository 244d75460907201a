import FrontEnd.Proofs.Lexing.Lexes

/-!
# The lexical grammar

What may stand in a text as a lexeme is a matter of its characters, and for a string without a
closing quote also of what is behind them (`Lexical`). Where several lexemes begin, the longest one
counts (`Longest`). The grammar has no bound on the digits of a number and says nothing of how a
lexeme is found.

* `body_of_units`, `units_of_body`: the body of a string is a row of units up to the first quote.
* `exists_longest`: where no space stands, a longest lexeme begins.
* `longest_unique`: there is no other one.
* `Longest.means`: it is the one that is read.
-/

namespace FrontEnd

open Text

/-! ## The grammar -/

/-- **The units of a string**, and the contents that they stand for: any character but quote and
backslash, or a backslash with any character behind it. -/
inductive Units : List Char → List Char → Prop
  | nil : Units [] []
  | plain {c : Char} {w s : List Char} :
      c ≠ '"' → c ≠ '\\' → Units w s → Units (c :: w) (c :: s)
  | escaped {c : Char} {w s : List Char} :
      Units w s → Units ('\\' :: c :: w) (Lexeme.unescape c :: s)

/-- What a lexeme stands for. -/
structure Sense where
  kind : Kind
  literal : String
  value? : Option Int
  deriving DecidableEq

namespace Sense

/-- Characters that are of a kind and have no value. -/
def plain (k : Kind) (w : List Char) : Sense := ⟨k, String.ofList w, none⟩

/-- Digits: an integer, unless it is too large. -/
def number (w : List Char) : Sense :=
  if decimal w ≤ intMax then ⟨.int, String.ofList w, some (decimal w)⟩ else plain .illegal w

end Sense

/-- **The lexical grammar.** `Lexical w r x`: the characters `w` may stand before `r` as a lexeme,
and it stands for `x`. -/
inductive Lexical : List Char → List Char → Sense → Prop
  | equal {r : List Char} : Lexical ['=', '='] r (.plain .eq ['=', '='])
  | unequal {r : List Char} : Lexical ['!', '='] r (.plain .notEq ['!', '='])
  | sign {c : Char} {r : List Char} {k : Kind} :
      Kind.ofSign? c = some k → Lexical [c] r (.plain k [c])
  | word {c : Char} {w r : List Char} :
      isLetter c = true → (∀ a ∈ w, isWordChar a = true) →
      Lexical (c :: w) r (.plain (.ofWord (String.ofList (c :: w))) (c :: w))
  | number {w r : List Char} :
      w ≠ [] → (∀ a ∈ w, isDigit a = true) → Lexical w r (.number w)
  | string {w s r : List Char} :
      Units w s → Lexical ('"' :: (w ++ ['"'])) r (.plain .string s)
  | unclosed {w : List Char} :
      (∀ u s t, Units u s → w ≠ u ++ '"' :: t) →
      Lexical ('"' :: w) [] (.plain .illegal ('"' :: w))
  | stray {c : Char} {r : List Char} :
      isSpace c = false → Kind.ofSign? c = none → c ≠ '"' → isLetter c = false →
      isDigit c = false → Lexical [c] r (.plain .illegal [c])

/-- **The longest lexeme** of a text: none that begins there is longer. -/
structure Longest (w r : List Char) (x : Sense) : Prop where
  lexical : Lexical w r x
  le : ∀ w' r' x', w' ++ r' = w ++ r → Lexical w' r' x' → w'.length ≤ w.length

/-- A number with more digits than are converted. -/
def IsLong (w : List Char) : Prop := (∀ a ∈ w, isDigit a = true) ∧ maxDigits < w.length

/-- What is found stands for `x`. Only a number that is too long is not converted. -/
structure Means (w : List Char) (x : Sense) (found : Except ScanError Lexeme) : Prop where
  short : ¬IsLong w → ∃ y, found = .ok y ∧ x = ⟨y.kind, y.literal, y.value?⟩
  long : IsLong w → found = .error (.tooManyDigits w.length) ∧ x = .number w

variable {c : Char} {w r s : List Char} {x y : Sense}

/-! ## Strings -/

/-- **Units up to a quote** are the body of a string. -/
theorem body_of_units (h : Units w s) (r : List Char) :
    Lexeme.body (w ++ '"' :: r) = .closed s (w.length + 1) := by
  induction h with
  | nil => rfl
  | plain hq hb _ ih =>
    rw [List.cons_append, Lexeme.body_cons hq hb, ih]
    rfl
  | escaped _ ih =>
    rw [List.cons_append, List.cons_append, Lexeme.body, ih]
    rfl

/-- The body of a string that is closed has units up to the quote. -/
theorem units_of_body {n : Nat} (h : Lexeme.body r = .closed s n) :
    ∃ w t, r = w ++ '"' :: t ∧ Units w s ∧ n = w.length + 1 := by
  fun_induction Lexeme.body r generalizing s n with
  | case1 => cases h
  | case2 r => cases h; exact ⟨[], r, rfl, .nil, rfl⟩
  | case3 => cases h
  | case4 c r ih =>
    cases hb : Lexeme.body r with rw [hb] at h
    | closed s' n' =>
      cases h
      obtain ⟨w, t, rfl, hw, rfl⟩ := ih hb
      exact ⟨'\\' :: c :: w, t, rfl, .escaped hw, rfl⟩
    | unclosed => cases h
  | case5 c r hq hlone hpair ih =>
    cases hb : Lexeme.body r with rw [hb] at h
    | closed s' n' =>
      cases h
      obtain ⟨w, t, rfl, hw, rfl⟩ := ih hb
      have hslash := Lexeme.ne_backslash hlone hpair
      exact ⟨c :: w, t, rfl, .plain hq hslash hw, rfl⟩
    | unclosed => cases h

/-- A body is unclosed exactly if no quote ends its units. -/
theorem exists_unclosed (h : ∀ u s t, Units u s → w ≠ u ++ '"' :: t) :
    ∃ why, Lexeme.body w = .unclosed why := by
  cases hb : Lexeme.body w with
  | closed s n =>
    obtain ⟨u, t, hw, hu, -⟩ := units_of_body hb
    exact absurd hw (h u s t hu)
  | unclosed why => exact ⟨why, rfl⟩

/-! ## What is read is what the grammar says -/

theorem Means.unique {found : Except ScanError Lexeme} (h : Means w x found)
    (h' : Means w y found) : x = y := by
  by_cases hw : IsLong w
  · rw [(h.long hw).2, (h'.long hw).2]
  · obtain ⟨a, ha, rfl⟩ := h.short hw
    obtain ⟨b, hb, rfl⟩ := h'.short hw
    cases ha.symm.trans hb
    rfl

theorem not_isLong_of_head (hc : isDigit c = false) (w : List Char) : ¬IsLong (c :: w) := by
  rintro ⟨hall, -⟩
  have := hall c List.mem_cons_self
  rw [hc] at this
  cases this

/-- A lexeme that is found stands for its kind, literal and value. -/
theorem means_of_ok {a : Lexeme} (hc : isDigit c = false)
    (hx : x = ⟨a.kind, a.literal, a.value?⟩) : Means (c :: w) x (.ok a) :=
  ⟨fun _ => ⟨a, rfl, hx⟩, fun h => absurd h (not_isLong_of_head hc w)⟩

/-- Digits that are read stand for their number, unless they are too many. -/
theorem means_readNumber (hw : w ≠ []) (hall : ∀ a ∈ w, isDigit a = true)
    (htake : (w ++ r).takeWhile isDigit = w) :
    Means w (.number w) (Lexeme.readNumber (w ++ r)).result := by
  unfold Lexeme.readNumber Sense.number
  rw [htake]
  dsimp only
  rw [if_neg hw]
  refine ⟨fun h => ?_, fun h => ⟨by rw [if_pos h.2], rfl⟩⟩
  rw [if_neg fun hlt => h ⟨hall, hlt⟩]
  by_cases hmax : intMax < decimal w
  · rw [if_pos hmax, if_neg (by omega)]
    exact ⟨_, rfl, rfl⟩
  · rw [if_neg hmax, if_pos (by omega)]
    exact ⟨_, rfl, rfl⟩

/-- Before `r`, as many characters are read as `w` has, or more. If it is `w`, then it stands for
`x`. -/
structure Bounds (w r : List Char) (x : Sense) : Prop where
  le : w.length ≤ (Lexeme.read (w ++ r)).length
  means : w.length = (Lexeme.read (w ++ r)).length → Means w x (Lexeme.read (w ++ r)).result

theorem bounds_of_read {found : Except ScanError Lexeme}
    (h : Lexeme.read (w ++ r) = ⟨w.length, found⟩) (hx : Means w x found) : Bounds w r x := by
  constructor
  · rw [h]
  · intro _
    rw [h]
    exact hx

/-- A run that may begin with `w` is at least as long, and if it is as long it is `w`. -/
theorem takeWhile_append_length {p : Char → Bool} (h : ∀ a ∈ w, p a = true) (r : List Char) :
    w.length ≤ ((w ++ r).takeWhile p).length ∧
      (w.length = ((w ++ r).takeWhile p).length → (w ++ r).takeWhile p = w) := by
  rw [List.takeWhile_append_of_pos h, List.length_append]
  refine ⟨by omega, fun hlen => ?_⟩
  rw [List.length_eq_zero_iff.mp (by omega : (r.takeWhile p).length = 0), List.append_nil]

theorem isDigit_of_letter (h : isLetter c = true) : isDigit c = false := by
  by_contra hd
  rw [isLetter_of_digit (Bool.not_eq_false _ ▸ hd)] at h
  cases h

theorem isDigit_of_sign {k : Kind} (h : Kind.ofSign? c = some k) : isDigit c = false := by
  by_contra hd
  rw [Kind.ofSign?_of_digit (Bool.not_eq_false _ ▸ hd)] at h
  cases h

/-- A sign is read, or a longer one. -/
theorem bounds_sign {k : Kind} (hk : Kind.ofSign? c = some k) (r : List Char) :
    Bounds [c] r (.plain k [c]) := by
  have hc := isDigit_of_sign hk
  have hf : Lexeme.Form c r (Lexeme.read ([c] ++ r)) := Lexeme.read_form c r
  generalize hread : Lexeme.read ([c] ++ r) = found at hf
  cases hf with
  | double =>
    constructor
    · rw [hread]
      exact Nat.le_succ 1
    · intro hlen
      rw [hread] at hlen
      cases hlen
  | sign hk' =>
    cases hk.symm.trans hk'
    exact bounds_of_read hread (means_of_ok hc rfl)
  | string hq => subst hq; cases hk
  | word hl => rw [Kind.ofSign?_of_letter hl] at hk; cases hk
  | number hd => rw [hc] at hd; cases hd
  | stray hn => rw [hn] at hk; cases hk

/-- A word is read, or a longer one. -/
theorem bounds_word (hc : isLetter c = true) (hw : ∀ a ∈ w, isWordChar a = true) (r : List Char) :
    Bounds (c :: w) r (.plain (.ofWord (String.ofList (c :: w))) (c :: w)) := by
  have hread : Lexeme.read (c :: w ++ r) = Lexeme.readWord (c :: w ++ r) :=
    Lexeme.read_of_letter hc (w ++ r)
  have hall : ∀ a ∈ c :: w, isWordChar a = true :=
    List.forall_mem_cons.mpr ⟨by simp [isWordChar, hc], hw⟩
  obtain ⟨hle, heq⟩ := takeWhile_append_length hall r
  constructor
  · rw [hread]
    exact hle
  · rw [hread]
    intro hlen
    rw [Lexeme.readWord, heq hlen]
    exact means_of_ok (isDigit_of_letter hc) rfl

/-- A number is read, or a longer one. -/
theorem bounds_number (hne : w ≠ []) (hall : ∀ a ∈ w, isDigit a = true) (r : List Char) :
    Bounds w r (.number w) := by
  have hread : Lexeme.read (w ++ r) = Lexeme.readNumber (w ++ r) := by
    obtain ⟨c, w, rfl⟩ := List.exists_cons_of_ne_nil hne
    exact Lexeme.read_of_digit (hall c List.mem_cons_self) (w ++ r)
  obtain ⟨hle, heq⟩ := takeWhile_append_length hall r
  constructor
  · rw [hread]
    exact hle
  · rw [hread]
    exact fun hlen => means_readNumber hne hall (heq hlen)

/-- **No lexeme is longer than the one that is read**, and one as long is that one. -/
theorem Lexical.bounds (h : Lexical w r x) : Bounds w r x := by
  cases h with
  | equal => exact bounds_of_read rfl (means_of_ok rfl rfl)
  | unequal => exact bounds_of_read rfl (means_of_ok rfl rfl)
  | sign hk => exact bounds_sign hk r
  | word hc hw => exact bounds_word hc hw r
  | number hne hall => exact bounds_number hne hall r
  | @string w s _ hu =>
    have hread : Lexeme.read ('"' :: (w ++ ['"']) ++ r) =
        ⟨('"' :: (w ++ ['"'])).length, .ok (Lexeme.plain .string (String.ofList s))⟩ := by
      rw [List.cons_append, List.append_assoc, List.singleton_append, Lexeme.read_of_quote,
        Lexeme.readString, List.tail_cons, body_of_units hu]
      simp
    exact bounds_of_read hread (means_of_ok rfl rfl)
  | @unclosed w hw =>
    obtain ⟨why, hb⟩ := exists_unclosed hw
    have hread : Lexeme.read ('"' :: w ++ []) =
        ⟨w.length + 1, .ok (Lexeme.wrong (String.ofList ('"' :: w)) why)⟩ := by
      rw [List.append_nil, Lexeme.read_of_quote, Lexeme.readString, List.tail_cons, hb]
    exact bounds_of_read hread (means_of_ok rfl rfl)
  | @stray c _ _ hk hq hl hd =>
    have hread : Lexeme.read ([c] ++ r) = ⟨1, .ok (Lexeme.wrong c.toString (.stray c))⟩ := by
      rw [List.singleton_append, Lexeme.read_of_ofSign?_none hk, if_neg hq,
        if_neg (by rw [hl]; decide), if_neg (by rw [hd]; decide)]
    exact bounds_of_read hread (means_of_ok hd rfl)

/-- **What is read is a lexeme.** -/
theorem exists_lexical (hc : isSpace c = false) (r : List Char) :
    ∃ w r' x, w ++ r' = c :: r ∧ Lexical w r' x ∧
      w.length = (Lexeme.read (c :: r)).length := by
  have hf := Lexeme.read_form c r
  generalize Lexeme.read (c :: r) = found at hf ⊢
  cases hf with
  | @double k hd hr =>
    obtain ⟨r, rfl⟩ := List.head?_eq_some_iff.mp hr
    unfold Lexeme.double? at hd
    split at hd
    · exact ⟨_, r, _, rfl, .equal, rfl⟩
    · exact ⟨_, r, _, rfl, .unequal, rfl⟩
    · cases hd
  | sign hk => exact ⟨[c], r, _, rfl, .sign hk, rfl⟩
  | string hq =>
    subst hq
    rw [Lexeme.readString, List.tail_cons]
    cases hb : Lexeme.body r with
    | closed s n =>
      obtain ⟨w, t, rfl, hw, rfl⟩ := units_of_body hb
      exact ⟨_, t, _, by simp, .string hw, by simp⟩
    | unclosed why =>
      refine ⟨_, [], _, List.append_nil _, .unclosed fun u s t hu hr => ?_, rfl⟩
      rw [hr, body_of_units hu] at hb
      cases hb
  | word hl =>
    have htake : (c :: r).takeWhile isWordChar = c :: r.takeWhile isWordChar :=
      List.takeWhile_cons_of_pos (by simp [isWordChar, hl])
    refine ⟨c :: r.takeWhile isWordChar, r.dropWhile isWordChar, _, ?_,
      .word hl fun a ha => List.mem_takeWhile_imp ha, ?_⟩
    · rw [List.cons_append, List.takeWhile_append_dropWhile]
    · rw [Lexeme.readWord, htake]
  | number hd =>
    refine ⟨(c :: r).takeWhile isDigit, (c :: r).dropWhile isDigit, _,
      List.takeWhile_append_dropWhile, .number ?_ fun a ha =>
        List.mem_takeWhile_imp ha, rfl⟩
    rw [List.takeWhile_cons_of_pos hd]
    exact List.cons_ne_nil _ _
  | stray hk hq hl hd => exact ⟨[c], r, _, rfl, .stray hc hk hq hl hd, rfl⟩

/-- A lexeme begins with no space. -/
theorem Lexical.exists_cons (h : Lexical w r x) : ∃ c w', w = c :: w' ∧ isSpace c = false := by
  cases h with
  | equal => exact ⟨_, _, rfl, rfl⟩
  | unequal => exact ⟨_, _, rfl, rfl⟩
  | @sign c _ _ hk =>
    refine ⟨_, _, rfl, ?_⟩
    by_contra hs
    rcases Lexes.isSpace_cases (Bool.not_eq_false _ ▸ hs) with rfl | rfl | rfl | rfl <;> cases hk
  | word hc => exact ⟨_, _, rfl, Lexes.isSpace_of_wordChar (by simp [isWordChar, hc])⟩
  | number hne hall =>
    obtain ⟨c, w, rfl⟩ := List.exists_cons_of_ne_nil hne
    have hc := hall c List.mem_cons_self
    exact ⟨c, w, rfl, Lexes.isSpace_of_wordChar (by simp [isWordChar, hc])⟩
  | string => exact ⟨_, _, rfl, rfl⟩
  | unclosed => exact ⟨_, _, rfl, rfl⟩
  | stray hs => exact ⟨_, _, rfl, hs⟩

/-- No lexeme is the end of a text. -/
theorem Lexical.kind_ne_eof (h : Lexical w r x) : x.kind ≠ .eof := by
  cases h with
  | sign hk =>
    rintro rfl
    exact Kind.ofSign?_notMem hk (by decide)
  | word => exact Kind.ofWord_ne (by decide) _
  | number =>
    unfold Sense.number
    split <;> simp [Sense.plain]
  | equal | unequal | string | unclosed | stray => simp [Sense.plain]

/-! ## The longest lexeme -/

theorem Longest.ne_nil (h : Longest w r x) : w ≠ [] := by
  obtain ⟨c, w', rfl, -⟩ := h.lexical.exists_cons
  exact List.cons_ne_nil c w'

theorem Longest.append_ne_nil (h : Longest w r x) : w ++ r ≠ [] := fun he =>
  h.ne_nil (List.append_eq_nil_iff.mp he).1

/-- **Where no space stands**, a longest lexeme begins. -/
theorem exists_longest (hc : isSpace c = false) (r : List Char) :
    ∃ w r' x, w ++ r' = c :: r ∧ Longest w r' x := by
  obtain ⟨w, r', x, hw, hx, hlen⟩ := exists_lexical hc r
  refine ⟨w, r', x, hw, hx, fun w' r'' x' he h => ?_⟩
  have := h.bounds.le
  rw [he, hw, ← hlen] at this
  exact this

theorem Longest.length_eq (h : Longest w r x) :
    w.length = (Lexeme.read (w ++ r)).length := by
  obtain ⟨c, w', rfl, hc⟩ := h.lexical.exists_cons
  obtain ⟨v, r', y, hv, hy, hlen⟩ := exists_lexical hc (w' ++ r)
  have := h.le v r' y hv hy
  have := h.lexical.bounds.le
  rw [List.cons_append] at this ⊢
  omega

/-- **The longest lexeme** is the one that is read. -/
theorem Longest.means (h : Longest w r x) : Means w x (Lexeme.read (w ++ r)).result :=
  h.lexical.bounds.means h.length_eq

/-- **There is one longest lexeme.** -/
theorem longest_unique {w' r' : List Char} (h : Longest w r x) (h' : Longest w' r' y)
    (he : w ++ r = w' ++ r') : w = w' ∧ r = r' ∧ x = y := by
  have hlen : w.length = w'.length := by rw [h.length_eq, h'.length_eq, he]
  obtain ⟨rfl, rfl⟩ := List.append_inj he hlen
  exact ⟨rfl, rfl, h.means.unique h'.means⟩

end FrontEnd
