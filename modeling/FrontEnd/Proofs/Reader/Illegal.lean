import FrontEnd.Parser.Call
import FrontEnd.Proofs.Lexing.Numbers
import FrontEnd.Proofs.Reader.Program

/-!
# What is wrong with an invalid token

A token is invalid for one of three reasons (`Flaw`): a character that begins no lexeme, a number
that is out of range, or a string without its closing quote. The lexer finds the reason in the text
and keeps nothing of it but the literal. A parser that refuses the token tells the reason from the
literal again, and it comes to the same one.

* `Flaw.unique`: a text begins with one flaw at most.
* `exists_flaw_of_read`: the flaw of an invalid lexeme, in the text and in its literal.
* `Token.diagnosed`: what a parser records of an invalid token.
* `Munches.covers`: each character is a space or lies in a lexeme.
* `tokenize_flaws`: all of it for the tokens of a text, and what becomes of characters beyond ASCII.
-/

namespace FrontEnd

open Text

/-- Why a token is invalid. -/
inductive Flaw
  | stray | outOfRange | unclosed
  deriving DecidableEq, Repr

namespace Flaw

/-- **The text begins with a flaw**: with a character that begins no lexeme, with digits whose
number is out of range, or with a quote behind which no quote ends the units. -/
def Begins : Flaw → List Char → Prop
  | stray, cs => ∃ c r, cs = c :: r ∧ isSpace c = false ∧ Kind.ofSign? c = none ∧ c ≠ '"' ∧
      isLetter c = false ∧ isDigit c = false
  | outOfRange, cs => intMax < decimal (cs.takeWhile isDigit)
  | unclosed, cs => ∃ r, cs = '"' :: r ∧ ∀ u s t, Units u s → r ≠ u ++ '"' :: t

/-- The characters that the flaw spoils. -/
def extent : Flaw → List Char → List Char
  | stray, cs => cs.take 1
  | outOfRange, cs => cs.takeWhile isDigit
  | unclosed, cs => cs

/-- What a parser gives as the cause. -/
def cause (literal : String) : Flaw → Cause
  | stray => .illegal literal
  | outOfRange => .outOfRange literal
  | unclosed => .unterminated

/-- The wording of the cause. -/
def wording (literal : String) : Flaw → String
  | stray => s!"Illegal token '{literal}'"
  | outOfRange => s!"Could not parse {literal} as a 64-bit integer"
  | unclosed => "Unterminated string literal"

theorem message_cause (literal : String) (f : Flaw) :
    (f.cause literal).message = f.wording literal := by
  cases f <;> rfl

variable {f g : Flaw} {cs : List Char}

/-- The flaw that a first character allows. -/
def ofHead (c : Char) : Flaw :=
  if c = '"' then unclosed else if isDigit c then outOfRange else stray

theorem Begins.exists_head (h : f.Begins cs) : ∃ c r, cs = c :: r ∧ f = ofHead c := by
  cases f with
  | stray =>
    obtain ⟨c, r, rfl, -, -, hq, -, hd⟩ := h
    exact ⟨c, r, rfl, by rw [ofHead, if_neg hq, hd]; rfl⟩
  | outOfRange =>
    have hmax : intMax < decimal (cs.takeWhile isDigit) := h
    cases hd : cs.takeWhile isDigit with
    | nil =>
      rw [hd] at hmax
      exact absurd hmax (Nat.not_lt_zero _)
    | cons c w =>
      have hc : isDigit c = true := List.mem_takeWhile_imp (hd ▸ List.mem_cons_self)
      have hq : c ≠ '"' := by
        rintro rfl
        cases hc
      obtain ⟨r, rfl⟩ : ∃ r, cs = c :: r := by
        have hsplit := List.takeWhile_append_dropWhile (p := isDigit) (l := cs)
        rw [hd, List.cons_append] at hsplit
        exact ⟨_, hsplit.symm⟩
      exact ⟨c, r, rfl, by rw [ofHead, if_neg hq, if_pos hc]⟩
  | unclosed =>
    obtain ⟨r, rfl, -⟩ := h
    exact ⟨'"', r, rfl, rfl⟩

/-- **A text begins with one flaw** at most. -/
theorem unique (h : f.Begins cs) (h' : g.Begins cs) : g = f := by
  obtain ⟨c, r, rfl, rfl⟩ := h.exists_head
  obtain ⟨c', r', he, rfl⟩ := h'.exists_head
  cases he
  rfl

end Flaw

/-! ## The literal tells the flaw -/

namespace Reader

theorem illegalCause_digits {w : List Char} (hne : w ≠ []) (hw : ∀ a ∈ w, isDigit a = true) :
    illegalCause (String.ofList w) = .outOfRange (String.ofList w) := by
  have hall : (String.ofList w).toList.all isDigit = true := by
    rw [String.toList_ofList]
    exact List.all_eq_true.mpr hw
  have hsome : String.ofList w ≠ "" := fun he => hne (String.ofList_eq_empty_iff.mp he)
  rw [illegalCause, if_pos ⟨hsome, hall⟩]

theorem illegalCause_quote (r : List Char) :
    illegalCause (String.ofList ('"' :: r)) = .unterminated := by
  have hfirst : ¬(String.ofList ('"' :: r)).toList.all isDigit := by
    rw [String.toList_ofList, List.all_cons]
    simp [isDigit]
  rw [illegalCause, if_neg fun h => hfirst h.2, if_pos (by rw [String.toList_ofList]; rfl)]

theorem illegalCause_stray {c : Char} (hq : c ≠ '"') (hd : isDigit c = false) :
    illegalCause c.toString = .illegal c.toString := by
  have hlist : c.toString.toList = [c] := String.toList_singleton c
  have hfirst : ¬c.toString.toList.all isDigit := by
    rw [hlist]
    simp [hd]
  rw [illegalCause, if_neg fun h => hfirst h.2, if_neg]
  rw [hlist]
  simpa using hq

end Reader

/-- **An invalid lexeme** is what a flaw of the text spoils, and its literal tells the flaw. -/
theorem exists_flaw_of_read {c : Char} {r : List Char} {x : Lexeme} (hc : isSpace c = false)
    (h : (Lexeme.read (c :: r)).result = .ok x) (hk : x.kind = .illegal) :
    ∃ f : Flaw, f.Begins (c :: r) ∧ x.literal = String.ofList (f.extent (c :: r)) ∧
      Reader.illegalCause x.literal = f.cause x.literal := by
  have hf := Lexeme.read_form c r
  generalize Lexeme.read (c :: r) = found at h hf
  cases hf with
  | double hd =>
    cases h
    unfold Lexeme.double? at hd
    split at hd <;> cases hd <;> cases hk
  | @sign k hs =>
    cases h
    obtain rfl : k = .illegal := hk
    unfold Kind.ofSign? at hs
    split at hs <;> cases hs
  | string hq =>
    subst hq
    rcases Lexeme.readString_ok h with ⟨s, n, -, -, rfl⟩ | ⟨why, hb, rfl⟩
    · cases hk
    · refine ⟨.unclosed, ⟨r, rfl, fun u s t hu he => ?_⟩, rfl, Reader.illegalCause_quote r⟩
      rw [List.tail_cons, he, body_of_units hu] at hb
      cases hb
  | word hl =>
    cases h
    exact absurd hk (Kind.ofWord_ne (by decide) _)
  | number hd =>
    rcases Lexeme.readNumber_ok h with ⟨hmax, rfl⟩ | ⟨-, rfl⟩
    · have hne : (c :: r).takeWhile isDigit ≠ [] := by
        rw [List.takeWhile_cons_of_pos hd]
        exact List.cons_ne_nil _ _
      exact ⟨.outOfRange, hmax, rfl,
        Reader.illegalCause_digits hne fun a ha => List.mem_takeWhile_imp ha⟩
    · cases hk
  | stray hs hq hl hd =>
    cases h
    exact ⟨.stray, ⟨c, r, rfl, hc, hs, hq, hl, hd⟩, rfl, Reader.illegalCause_stray hq hd⟩

/-! ## What a parser records -/

/-- **A parser at the token** that refuses it as invalid records one diagnostic, for a flaw of the
token and at its place, gives no node, and stays where it is. -/
def Token.Diagnosed (t : Token) (f : Flaw) : Prop :=
  ∀ depth (p : Parser), p.current = t → ∃ q, Parser.Call.illegal.run depth p = .ok (.node none) q ∧
    q.diagnostics = p.diagnostics.push ⟨t.line, t.column, f.cause t.literal⟩ ∧
    q.errors = p.errors ++ [s!"Line {t.line}:{t.column} - {f.wording t.literal}"] ∧
    q.current = p.current ∧ q.peek = p.peek ∧ q.ahead = p.ahead

theorem Parser.illegal_run (p : Parser) :
    Parser.illegal p =
      .error (.refused ⟨p.current.line, p.current.column,
        Reader.illegalCause p.current.literal⟩) p := by
  change (if _ then _ else if _ then _ else _ : Step Node) p = _
  rw [Reader.illegalCause]
  split
  · rfl
  · split <;> rfl

/-- **The flaw that the literal tells** is the one that is recorded. -/
theorem Token.diagnosed {t : Token} {f : Flaw}
    (h : Reader.illegalCause t.literal = f.cause t.literal) : t.Diagnosed f := by
  rintro depth p rfl
  have hrun := Parser.illegal_run p
  rw [h] at hrun
  have hrecorded := Reader.recorded_of_refused hrun rfl
  refine ⟨_, Reader.map_of_ok hrecorded, rfl, ?_, rfl, rfl, rfl⟩
  rw [Parser.errors, Array.toList_push, List.map_append, List.map_singleton, Diagnostic.message,
    Flaw.message_cause]
  rfl

/-! ## Every character is accounted for -/

/-- What a lexeme stands for, as a token at an offset of the text. -/
def Sense.token (text : List Char) (offset : Nat) (x : Sense) : Token :=
  ⟨x.kind, x.literal, x.value?, lineAt text offset, columnAt text offset⟩

/-- **Each character is a space or lies in a lexeme**, which is one of the tokens. -/
theorem Munches.covers {rest trail : List Char} {ps : List Span} (h : Munches rest ps trail)
    (text : List Char) (base : Nat) {i : Nat} {c : Char} (hi : rest[i]? = some c) :
    isSpace c = true ∨ ∃ a w r x, a ≤ i ∧ i < a + w.length ∧ rest.drop a = w ++ r ∧
      Lexical w r x ∧ x.token text (base + a) ∈ spanTokens text base ps := by
  induction h generalizing base i with
  | done hnil => exact Or.inl (List.dropWhile_eq_nil_iff.mp hnil c (List.mem_of_getElem? hi))
  | @span rest w r x ps trail he hx _ ih =>
    have hsplit : rest = rest.takeWhile isSpace ++ (w ++ r) := by
      rw [← he, List.takeWhile_append_dropWhile]
    have hspace : ∀ b ∈ rest.takeWhile isSpace, isSpace b = true :=
      fun b hb => List.mem_takeWhile_imp hb
    generalize rest.takeWhile isSpace = space at hsplit hspace ⊢
    subst hsplit
    by_cases h1 : i < space.length
    · rw [List.getElem?_append_left h1] at hi
      exact Or.inl (hspace c (List.mem_of_getElem? hi))
    by_cases h2 : i < space.length + w.length
    · exact Or.inr ⟨space.length, w, r, x, by omega, h2, List.drop_left, hx.lexical,
        List.mem_cons_self⟩
    -- the place lies behind this span
    have hlater : r[i - (space.length + w.length)]? = some c := by
      rwa [← List.append_assoc, List.getElem?_append_right (by simp; omega),
        List.length_append] at hi
    rcases ih (base + (space.length + w.length)) hlater with
      hs | ⟨a, v, r', y, hle, hlt, hdrop, hy, hmem⟩
    · exact Or.inl hs
    · refine Or.inr ⟨space.length + w.length + a, v, r', y, by omega, by omega, ?_, hy, ?_⟩
      · rw [← List.drop_drop, ← List.append_assoc, ← List.length_append, List.drop_left, hdrop]
      · rw [← Nat.add_assoc, spanTokens, Span.chars, List.length_append]
        exact List.mem_cons_of_mem _ hmem

/-- The character is one of ASCII. -/
def IsAscii (c : Char) : Prop := c.toNat < 128

instance (c : Char) : Decidable (IsAscii c) := inferInstanceAs (Decidable (c.toNat < 128))

theorem isAscii_of_digit {c : Char} (h : isDigit c = true) : IsAscii c := by
  simp only [isDigit, Bool.and_eq_true, decide_eq_true_eq, Char.le_def,
    UInt32.le_iff_toNat_le] at h
  have : ('9' : Char).val.toNat = 57 := rfl
  have : c.toNat = c.val.toNat := rfl
  unfold IsAscii
  omega

theorem isAscii_of_letter {c : Char} (h : isLetter c = true) : IsAscii c := by
  simp only [isLetter, Bool.or_eq_true, Bool.and_eq_true, decide_eq_true_eq, Char.le_def,
    beq_iff_eq, UInt32.le_iff_toNat_le] at h
  have : ('z' : Char).val.toNat = 122 := rfl
  have : ('Z' : Char).val.toNat = 90 := rfl
  have : c.toNat = c.val.toNat := rfl
  unfold IsAscii
  rcases h with (h | h) | rfl
  · omega
  · omega
  · decide

theorem isAscii_of_sign {c : Char} {k : Kind} (h : Kind.ofSign? c = some k) : IsAscii c := by
  unfold Kind.ofSign? at h
  split at h <;> first | decide | cases h

/-- **Beyond ASCII** there are only strings and characters that begin no lexeme. -/
theorem Lexical.ascii {w r : List Char} {x : Sense} (h : Lexical w r x) :
    (∃ v, w = '"' :: v) ∨
      (∃ c, w = [c] ∧ x = .plain .illegal [c] ∧ c ≠ '"' ∧ isDigit c = false) ∨
      ∀ a ∈ w, IsAscii a := by
  cases h with
  | equal | unequal =>
    refine Or.inr (Or.inr (List.forall_mem_cons.mpr ⟨by decide, ?_⟩))
    exact List.forall_mem_singleton.mpr (by decide)
  | sign hk => exact Or.inr (Or.inr (List.forall_mem_singleton.mpr (isAscii_of_sign hk)))
  | word hc hw =>
    refine Or.inr (Or.inr (List.forall_mem_cons.mpr ⟨isAscii_of_letter hc, fun a ha => ?_⟩))
    have hword := hw a ha
    rw [isWordChar, Bool.or_eq_true] at hword
    rcases hword with hl | hd
    · exact isAscii_of_letter hl
    · exact isAscii_of_digit hd
  | number _ hall => exact Or.inr (Or.inr fun a ha => isAscii_of_digit (hall a ha))
  | string => exact Or.inl ⟨_, rfl⟩
  | unclosed => exact Or.inl ⟨_, rfl⟩
  | stray _ _ hq _ hd => exact Or.inr (Or.inl ⟨_, rfl, rfl, hq, hd⟩)

/-- **The place lies in a string** of the text: behind the quote with which a token begins, and not
behind the end of that token. -/
def InString (text : List Char) (ts : List Token) (o : Nat) : Prop :=
  ∃ t ∈ ts, ∃ a v r, t.place = placeAt text a ∧ text.drop a = '"' :: v ++ r ∧
    Lexical ('"' :: v) r ⟨t.kind, t.literal, t.value?⟩ ∧ a < o ∧ o ≤ a + v.length

section Source

variable {source : String} {ts : List Token} (h : tokenize source = .ok ts)

include h

/-- An invalid token begins with a flaw of its text, and its literal tells it. -/
theorem exists_flaw_of_tokenize {t : Token} (ht : t ∈ ts) (hk : t.kind = .illegal) :
    ∃ o, o < source.toList.length ∧ t.place = placeAt source.toList o ∧ ∃ f : Flaw,
      f.Begins (source.toList.drop o) ∧
      t.literal = String.ofList (f.extent (source.toList.drop o)) ∧
      Reader.illegalCause t.literal = f.cause t.literal := by
  obtain ⟨c, s, hat, hs, rfl⟩ := exists_next_of_mem h ht
  have hplace := hat.place_of_next hs
  obtain ⟨x, hx, rfl⟩ := Cursor.exists_read_of_next hs
  have hrest := hat.skipSpace.rest
  cases hr : c.skipSpace.rest with
  | nil =>
    rw [hr, Lexeme.read] at hx
    cases hx
    cases hk
  | cons a r =>
    have ha : isSpace a = false := by
      have := List.head?_dropWhile_not isSpace c.rest
      rw [← Cursor.rest_skipSpace, hr] at this
      exact this
    rw [hr] at hx hrest
    obtain ⟨f, hbegins, hliteral, hcause⟩ := exists_flaw_of_read ha hx hk
    refine ⟨c.skipSpace.offset, ?_, hplace, f, ?_, ?_, hcause⟩
    · have := congrArg List.length hrest
      rw [List.length_drop, List.length_cons] at this
      omega
    · rwa [← hrest]
    · rwa [← hrest]

/-- A character beyond ASCII lies in a string, or is a token that is no valid token. -/
theorem inString_or_mem_of_tokenize {o : Nat} {c : Char} (hc : source.toList[o]? = some c)
    (hascii : ¬IsAscii c) :
    InString source.toList ts o ∨
      (Sense.plain .illegal [c]).token source.toList o ∈ ts ∧ c ≠ '"' ∧ isDigit c = false := by
  obtain ⟨ps, trail, hps⟩ := exists_munches source.toList
  obtain ⟨-, rfl⟩ := (tokens_drain_of_munches hps (Cursor.at_ofText source) (Nat.zero_le _)).mp h
  rcases hps.covers source.toList 0 hc with hs | ⟨a, w, r, x, hle, hlt, hdrop, hx, hmem⟩
  · rcases Lexes.isSpace_cases hs with rfl | rfl | rfl | rfl <;> exact absurd (by decide) hascii
  rw [Nat.zero_add] at hmem
  have hmem' : x.token source.toList a ∈
      spanTokens source.toList 0 ps ++ [endToken source.toList] := List.mem_append_left _ hmem
  have hat : w[o - a]? = some c := by
    have hlt' : o - a < w.length := by omega
    calc
      w[o - a]? = (w ++ r)[o - a]? := (List.getElem?_append_left hlt').symm
      _ = source.toList[a + (o - a)]? := by rw [← hdrop, List.getElem?_drop]
      _ = some c := by rw [Nat.add_sub_cancel' hle, hc]
  rcases hx.ascii with ⟨v, rfl⟩ | ⟨b, rfl, rfl, hq, hd⟩ | hall
  · left
    have hbehind : a ≠ o := by
      rintro rfl
      rw [Nat.sub_self] at hat
      cases hat
      exact hascii (by decide)
    rw [List.length_cons] at hlt
    exact ⟨_, hmem', a, v, r, rfl, hdrop, hx, by omega, by omega⟩
  · right
    obtain rfl : a = o := by
      rw [List.length_singleton] at hlt
      omega
    rw [Nat.sub_self] at hat
    cases hat
    exact ⟨hmem', hq, hd⟩
  · exact absurd (hall c (List.mem_of_getElem? hat)) hascii

end Source

/-- **A parser tells the flaw that the lexer has found.** Each invalid token of a text that can be
scanned begins at a place where the text begins with a flaw: a character that begins no lexeme,
digits whose number is out of range, or a quote that no quote closes. It is the only one, and its
extent is the literal of the token. A parser that refuses the token, of which it sees no more than
the literal, records exactly one diagnostic, for this flaw and at this place.

A character beyond ASCII, whether it is a digit in some script or not, lies in a string, or it is an
invalid token of its own and a parser calls it illegal. -/
theorem tokenize_flaws {source : String} {ts : List Token} (h : tokenize source = .ok ts) :
    (∀ t ∈ ts, t.kind = .illegal → ∃ o, ∃ f : Flaw, o < source.toList.length ∧
      t.place = placeAt source.toList o ∧
      (f.Begins (source.toList.drop o) ∧ ∀ g : Flaw, g.Begins (source.toList.drop o) → g = f) ∧
      t.literal = String.ofList (f.extent (source.toList.drop o)) ∧ t.Diagnosed f) ∧
    ∀ o c, source.toList[o]? = some c → ¬IsAscii c → InString source.toList ts o ∨
      ∃ t ∈ ts, t.kind = .illegal ∧ t.literal = c.toString ∧ t.place = placeAt source.toList o ∧
        t.Diagnosed .stray := by
  constructor
  · intro t ht hk
    obtain ⟨o, ho, hplace, f, hbegins, hliteral, hcause⟩ := exists_flaw_of_tokenize h ht hk
    exact ⟨o, f, ho, hplace, ⟨hbegins, fun g hg => Flaw.unique hbegins hg⟩, hliteral,
      Token.diagnosed hcause⟩
  · intro o c hc hascii
    rcases inString_or_mem_of_tokenize h hc hascii with hin | ⟨hmem, hq, hd⟩
    · exact Or.inl hin
    · exact Or.inr ⟨_, hmem, rfl, rfl, rfl, Token.diagnosed (Reader.illegalCause_stray hq hd)⟩

/-- A digit that is not one of ASCII behind one that is, a number that is out of range, and a string
without its closing quote. -/
theorem tokenize_flaws_each :
    let source := "1٣ 9223372036854775808 \"٣"
    let ts : List Token := [⟨.int, "1", some 1, 1, 1⟩, ⟨.illegal, "٣", none, 1, 2⟩,
      ⟨.illegal, "9223372036854775808", none, 1, 4⟩, ⟨.illegal, "\"٣", none, 1, 24⟩,
      ⟨.eof, "", none, 1, 26⟩]
    tokenize source = .ok ts ∧
      (∀ t ∈ ts, t.kind = .illegal → ∃ o, ∃ f : Flaw, o < source.toList.length ∧
        t.place = placeAt source.toList o ∧
        (f.Begins (source.toList.drop o) ∧ ∀ g : Flaw, g.Begins (source.toList.drop o) → g = f) ∧
        t.literal = String.ofList (f.extent (source.toList.drop o)) ∧ t.Diagnosed f) ∧
      (InString source.toList ts 1 ∨ ∃ t ∈ ts, t.kind = .illegal ∧ t.literal = "٣" ∧
        t.place = placeAt source.toList 1 ∧ t.Diagnosed .stray) := by
  intro source ts
  have hts : tokenize source = .ok ts := by decide +kernel
  have hflaws := tokenize_flaws hts
  exact ⟨hts, hflaws.1, hflaws.2 1 '٣' (by decide) (by decide)⟩

end FrontEnd
