import FrontEnd.Proofs.Lexing.LineFeeds
import FrontEnd.Proofs.Reader.Illegal
import FrontEnd.Proofs.Reader.Places
import FrontEnd.Proofs.Reader.Source
import FrontEnd.Proofs.Reader.Strings

/-!
# Ends of lines and programs

A file is read with a line feed for each end of a line. Where each carriage return has a line feed
behind it, this makes no difference but in strings: the text of the file as it is has the same
tokens at the same places, and both are what the tokens with the characters of their lexemes say
(`Token.tell`). So both texts give one program, with the strings as each text has them, and the same
diagnostics.

* `spanTokens_tell`: the tokens of both texts.
* `program_tell`: the programs and diagnostics.
* `parseSource_withLineFeeds`: source texts.
-/

namespace FrontEnd

open Node Reader FrontEnd.Parser

/-- The token that says what the characters of its lexeme say: a string by `g`, invalid text by
`u`, and all else as it is. -/
def Token.tell (g u : String → String) (t : Token) : Token :=
  { t with
    literal :=
      if t.kind = .string then g t.literal
      else if t.kind = .illegal then u t.literal
      else t.literal }

/-- The span with its own characters for its literal. -/
def Span.quoted (p : Span) : Span :=
  { p with sense := { p.sense with literal := String.ofList p.word } }

/-- A text that begins with a quote, with a line feed for each end of a line. -/
def feedUnclosed (s : String) : String :=
  if s.toList.head? = some '"' then feedLines s else s

variable {g u : String → String} {text w r trail : List Char} {x : Sense} {ps : List Span}
  {o : Nat} {p : Span}

theorem illegalCause_feedUnclosed (s : String) :
    illegalCause (feedUnclosed s) = illegalCause s := by
  unfold feedUnclosed
  split
  · rename_i hq
    obtain ⟨r, hr⟩ := List.head?_eq_some_iff.mp hq
    have hs : s = String.ofList ('"' :: r) := by rw [← hr, String.ofList_toList]
    rw [feedLines, hr, withLineFeeds_plain (by decide), hs, illegalCause_quote, illegalCause_quote]
  · rfl

theorem recasts_tell (hu : ∀ s, illegalCause (u s) = illegalCause s) :
    Recasts g (Token.tell g u) where
  kind _ := rfl
  value? _ := rfl
  ident t ht := by simp [Token.tell, ht]
  string t ht := by simp [Token.tell, ht]
  illegal t ht := by simp [Token.tell, ht, hu]

/-! ## The tokens of both texts -/

theorem tell_quoted (g u : String → String) (p : Span) (text : List Char) (o : Nat) :
    (p.quoted.token text o).tell g u =
      { p.token text o with
        literal :=
          if p.sense.kind = .string then g (String.ofList p.word)
          else if p.sense.kind = .illegal then u (String.ofList p.word)
          else String.ofList p.word } := rfl

/-- A token says what the characters of its lexeme say. -/
theorem tell_saidBy (h : Lexical p.word r p.sense) (text : List Char) (o : Nat) :
    (p.quoted.token text o).tell saidBy id = p.token text o := by
  have hx : (if p.sense.kind = .string then saidBy (String.ofList p.word)
      else String.ofList p.word) = p.sense.literal := congrArg Sense.literal h.over_self
  rw [tell_quoted, id_eq, ite_self, hx]
  rfl

/-- Where lines end with a line feed, it says what the characters then say. -/
theorem tell_feedLines (h : Lexical p.word r p.sense) (text : List Char) (o : Nat) :
    (p.quoted.token text o).tell (saidBy ∘ feedLines) feedUnclosed = p.retold.token text o := by
  have hword : feedLines (String.ofList p.word) = String.ofList (withLineFeeds p.word) := by
    rw [feedLines, String.toList_ofList]
  have hretold : p.retold.token text o =
      { p.token text o with literal := (p.sense.over (withLineFeeds p.word)).literal } := rfl
  rw [tell_quoted, hretold, Sense.over, Function.comp_apply, hword]
  by_cases hk : p.sense.kind = .string
  · rw [if_pos hk, if_pos hk]
  · rw [if_neg hk, if_neg hk, feedUnclosed, String.toList_ofList]
    -- what begins with a quote and is no string is invalid, and all else stays as it is
    by_cases hq : p.word.head? = some '"'
    · have hillegal : p.sense.kind = .illegal := by
        rcases h.of_quote hq with ⟨_, _, -, -, hx⟩ | ⟨_, -, -, -, hx⟩
        · rw [hx] at hk
          exact absurd rfl hk
        · rw [hx]
          rfl
      rw [if_pos hillegal, if_pos hq, hword]
    · rw [if_neg hq, ite_self, h.withLineFeeds_eq hq]

/-- **The tokens of a text** say what the characters of its lexemes say, and so do the tokens that
it has when its lines end with a line feed. -/
theorem spanTokens_tell (h : ∀ p ∈ ps, ∃ r, Lexical p.word r p.sense) (text : List Char)
    (o : Nat) :
    (spanTokens text o (ps.map Span.quoted)).map (Token.tell saidBy id) =
        spanTokens text o ps ∧
      (spanTokens text o (ps.map Span.quoted)).map
          (Token.tell (saidBy ∘ feedLines) feedUnclosed) =
        spanTokens text o (ps.map Span.retold) := by
  induction ps generalizing o with
  | nil => exact ⟨rfl, rfl⟩
  | cons p ps ih =>
    obtain ⟨⟨r, hp⟩, hps⟩ := List.forall_mem_cons.mp h
    obtain ⟨hself, hfed⟩ := ih hps (o + p.chars.length)
    simp only [List.map_cons, spanTokens, tell_saidBy hp, tell_feedLines hp]
    exact ⟨congrArg _ hself, congrArg _ hfed⟩

/-- The strings among the tokens are the string literals of the text. -/
theorem stringLiterals_spanTokens (text : List Char) (o : Nat) (ps : List Span) :
    stringLiterals (spanTokens text o (ps.map Span.quoted)) =
      (ps.filter fun p => p.sense.kind = .string).map fun p => String.ofList p.word := by
  induction ps generalizing o with
  | nil => rfl
  | cons p ps ih =>
    rw [List.map_cons, spanTokens]
    by_cases hk : p.sense.kind = .string
    · have htoken : (p.quoted.token text o).kind = .string := hk
      rw [List.filter_cons_of_pos (by simpa using hk), List.map_cons, ← ih, stringLiterals,
        List.filter_cons_of_pos (by simpa using htoken)]
      rfl
    · rw [List.filter_cons_of_neg (by simpa using hk), ← ih]
      exact stringLiterals_cons_of_ne hk _

/-! ## Source texts -/

/-- A refusal of another token at the same place is the same diagnostic. -/
theorem diagnostics_tell (g u : String → String) (rs : List Refusal) :
    Reader.diagnostics (rs.map (Refusal.map (Token.tell g u))) = Reader.diagnostics rs := by
  rw [Reader.diagnostics, Reader.diagnostics, List.map_map]
  rfl

/-- A text whose tokens say what their characters say is read as the program of these characters,
with the strings and the diagnostics that they give. -/
theorem parseSource_tell {source : String} {vs : List Token} {last : Token}
    (hu : ∀ s, illegalCause (u s) = illegalCause s) (hlast : last.kind = .eof)
    (h : tokenize source = .ok (vs.map (Token.tell g u) ++ [last])) (depth : Nat)
    (settings : Settings) (filename : String) :
    ∃ s, parseSource depth settings filename source =
        .ok ((Node.program (program last depth vs).1).mapStrings g) s ∧
      s.diagnostics.toList = Reader.diagnostics (program last depth vs).2 := by
  obtain ⟨s, hr, hd⟩ := parseSource_run h depth settings filename
  have htold : last.tell g u = last := by
    cases last
    cases hlast
    rfl
  have hprogram := program_recast (recasts_tell (g := g) hu) last depth vs
  rw [htold] at hprogram
  rw [hprogram] at hr hd
  rw [diagnostics_tell] at hd
  rw [mapStrings, mapStringsList_eq_map]
  exact ⟨s, hr, hd⟩

theorem decodeSource_toUTF8 (s : String) : decodeSource s.toUTF8 = some (feedLines s) := by
  have hdecode : String.fromUTF8? s.toUTF8 = some s := by
    rw [String.fromUTF8?, dif_pos (show s.toUTF8.IsValidUTF8 from s.isValidUTF8)]
    rfl
  rw [decodeSource, hdecode]
  rfl

/-- **Ends of lines make no difference but in strings.** Let a text have tokens, and let each
carriage return in it have a line feed behind it. The file that holds the text is read with a line
feed alone for each end of a line. Both texts are read to their ends, and their diagnostics are the
same, at the same places. Their programs are one program, whose strings are some of the string
literals of the text, in their order, each with what the literal says in the one text and in the
other. A literal without a carriage return says the same in both, so the programs are equal if no
literal has one. -/
theorem parseSource_feedLines {source : String} {ts : List Token} (h : tokenize source = .ok ts)
    (hcr : ∀ u v, source.toList = u ++ '\r' :: v → v.head? = some '\n') (depth : Nat)
    (settings : Settings) (filename : String) :
    ∃ text, decodeSource source.toUTF8 = some text ∧
      ∃ (ps : List Span) (trail : List Char) (p : Node) (s s' : Parser),
        Munches source.toList ps trail ∧
        parseSource depth settings filename source = .ok (p.mapStrings saidBy) s ∧
        parseSource depth settings filename text = .ok (p.mapStrings (saidBy ∘ feedLines)) s' ∧
        s'.diagnostics = s.diagnostics ∧
        p.strings.Sublist
          ((ps.filter fun q => q.sense.kind = .string).map fun q => String.ofList q.word) ∧
        (∀ w ∈ p.strings, '\r' ∉ w.toList → feedLines w = w) ∧
        ((∀ q ∈ ps, q.sense.kind = .string → '\r' ∉ q.word) →
          p.mapStrings (saidBy ∘ feedLines) = p.mapStrings saidBy) := by
  obtain ⟨ps, trail, hps, rfl, hfed⟩ := tokenize_withLineFeeds h (paired_iff.mpr hcr)
  have hlexical : ∀ p ∈ ps, ∃ r, Lexical p.word r p.sense := fun p hp => by
    obtain ⟨r, hlong⟩ := hps.longest p hp
    exact ⟨r, hlong.lexical⟩
  obtain ⟨hself, hother⟩ := spanTokens_tell hlexical source.toList 0
  rw [← hself] at h
  rw [← hother] at hfed
  have hlast : (endToken source.toList).kind = .eof := rfl
  obtain ⟨s, hr, hd⟩ := parseSource_tell (fun _ => rfl) hlast h depth settings filename
  obtain ⟨s', hr', hd'⟩ :=
    parseSource_tell illegalCause_feedUnclosed hlast hfed depth settings filename
  have hstrings := program_strings hlast depth (spanTokens source.toList 0 (ps.map Span.quoted))
  rw [stringLiterals_spanTokens] at hstrings
  have hkept (w : String) (hw : '\r' ∉ w.toList) : feedLines w = w := by
    rw [feedLines, withLineFeeds_of_notMem hw, String.ofList_toList]
  refine ⟨_, decodeSource_toUTF8 source, ps, trail, _, s, s', hps, hr, hr', ?_, hstrings,
    fun w _ => hkept w, fun hno => mapStrings_congr _ fun w hw => ?_⟩
  · rw [← Array.toList_inj, hd, hd']
  · obtain ⟨q, hq, rfl⟩ := List.mem_map.mp (hstrings.mem hw)
    obtain ⟨hmem, hk⟩ := List.mem_filter.mp hq
    rw [Function.comp_apply, hkept]
    rw [String.toList_ofList]
    exact hno q hmem (of_decide_eq_true hk)

/-- A string with a backslash before the end of a line, and on the line below a parenthesis that
nothing opens and a quote that nothing closes. -/
theorem parseSource_feedLines_string :
    let source := "\"\\\r\n\"\r\n) \"\r\n"
    (∃ ts, tokenize source = .ok ts) ∧
      (∀ u v, source.toList = u ++ '\r' :: v → v.head? = some '\n') ∧
      ∃ text, decodeSource source.toUTF8 = some text ∧
        ∃ (ps : List Span) (trail : List Char) (p : Node) (s s' : Parser),
          Munches source.toList ps trail ∧
          parseSource nestingLimit .quiet "<stdin>" source = .ok (p.mapStrings saidBy) s ∧
          parseSource nestingLimit .quiet "<stdin>" text =
            .ok (p.mapStrings (saidBy ∘ feedLines)) s' ∧
          s'.diagnostics = s.diagnostics ∧
          p.strings.Sublist
            ((ps.filter fun q => q.sense.kind = .string).map fun q => String.ofList q.word) ∧
          (∀ w ∈ p.strings, '\r' ∉ w.toList → feedLines w = w) ∧
          ((∀ q ∈ ps, q.sense.kind = .string → '\r' ∉ q.word) →
            p.mapStrings (saidBy ∘ feedLines) = p.mapStrings saidBy) := by
  intro source
  have h : tokenize source = .ok [⟨.string, "\r\n", none, 1, 1⟩, ⟨.rparen, ")", none, 3, 1⟩,
      ⟨.illegal, "\"\r\n", none, 3, 3⟩, ⟨.eof, "", none, 4, 1⟩] := by decide +kernel
  have hlist : source.toList =
      ['"', '\\', '\r', '\n', '"', '\r', '\n', ')', ' ', '"', '\r', '\n'] := by decide
  have hend : Paired [')', ' ', '"', '\r', '\n'] :=
    .plain (by decide) (.plain (by decide) (.plain (by decide) (.feed .nil)))
  have hpaired : Paired source.toList :=
    hlist ▸ .plain (by decide) (.plain (by decide) (.feed (.plain (by decide) (.feed hend))))
  have hcr := paired_iff.mp hpaired
  exact ⟨⟨_, h⟩, hcr, parseSource_feedLines h hcr nestingLimit .quiet "<stdin>"⟩

end FrontEnd
