import FrontEnd.Proofs.Lexing.Numbers
import FrontEnd.Proofs.Printing.RoundTrip

/-!
# One statement per line

No text of a statement has a line feed in it, whatever its strings hold, so the lines of a printed
program are the texts of its statements. The lexer counts the same lines: the tokens of a statement
stand on its line, from the first column on. So each line can be read alone (`InLines`).

* `Written.newline_notMem`, `WrittenStatement.newline_notMem`: no line feed is printed.
* `split_lines`: the lines of a printed program.
* `onLine_text`: the tokens of one statement.
* `tokenize_lines`: the tokens of a program, line by line.
* `print_lines`: all of it for programs that were read or made by hand.
-/

namespace FrontEnd

open Node Reader

variable {n p T : Node} {ns : List Node} {c : Char}

/-! ## No line feed is printed -/

theorem newline_notMem_escape (s : List Char) : '\n' ∉ s.flatMap escapeChar := by
  intro h
  obtain ⟨c, -, hc⟩ := List.mem_flatMap.mp h
  unfold escapeChar at hc
  split at hc
  case h_6 _ _ _ hfeed _ _ => exact hfeed (List.mem_singleton.mp hc).symm
  all_goals exact absurd hc (by decide)

theorem newline_notMem_enclosed {q : Prop} [Decidable q] {w : List Char} (h : '\n' ∉ w) :
    '\n' ∉ enclosed q '(' ')' w := by
  unfold enclosed
  split
  · simpa using h
  · exact h

theorem newline_notMem_word {w : List Char} (h : ∀ c ∈ w, isWordChar c = true) : '\n' ∉ w :=
  fun hn => absurd (h _ hn) (by decide)

/-- **The text of an expression** has no line feed. -/
theorem Written.newline_notMem (h : Written T) : '\n' ∉ text T := by
  induction h with
  | identifier hs => exact newline_notMem_word hs.word
  | @integer n _ =>
    refine newline_notMem_word fun c hc => ?_
    have hdigits : (toString (n : Int)).toList = Nat.toDigits 10 n := Nat.toList_repr
    rw [text, hdigits] at hc
    have := Lexes.isDigit_of_mem_toDigits hc
    simp [isWordChar, this]
  | @string s =>
    have := newline_notMem_escape s.toList
    rw [text, toList_stringLiteral]
    simpa using this
  | @unary k T hk _ ih =>
    have hsign : '\n' ∉ k.text.toList := by cases k <;> cases hk <;> decide
    have hright := newline_notMem_enclosed (q := T.rank < Precedence.unary) ih
    rw [text, List.mem_append, not_or]
    exact ⟨hsign, hright⟩
  | @binary k b L R hb _ _ ihl ihr =>
    have hsign : '\n' ∉ k.text.toList := by cases k <;> cases hb <;> decide
    have hleft := newline_notMem_enclosed (q := L.rank < operatorRank k.text) ihl
    have hright := newline_notMem_enclosed (q := R.rank < operatorRank k.text + 1) ihr
    simp only [text, List.mem_append, List.mem_cons, not_or]
    exact ⟨hleft, ⟨by decide, hsign⟩, by decide, hright⟩

/-- **The text of a statement** has no line feed. -/
theorem WrittenStatement.newline_notMem (h : WrittenStatement n) : '\n' ∉ text n := by
  cases h with
  | blank => decide
  | definition hs hT =>
    have hname := (Written.identifier hs).newline_notMem
    have hvalue := hT.newline_notMem
    simp [text] at hname ⊢
    exact ⟨hname, hvalue⟩
  | result hT => simpa [text] using hT.newline_notMem
  | expression hT => simpa [text] using hT.newline_notMem

/-! ## Lines of a text -/

/-- The text of a statement as a line. -/
def lineOf (n : Node) : String := String.ofList (text n)

theorem lines_eq_intercalate (ns : List Node) :
    String.ofList (lines ns) = "\n".intercalate (ns.map lineOf) := by
  have hlines : lines ns = ['\n'].intercalate (ns.map text) := by
    fun_induction lines ns with
    | case1 => rfl
    | case2 n => simp
    | case3 n ns hns ih =>
      obtain ⟨m, ms, rfl⟩ := List.exists_cons_of_ne_nil hns
      rw [ih, List.map_cons, List.map_cons, List.map_cons, List.intercalate_cons_cons]
      simp
  rw [← String.toList_inj, String.toList_ofList, String.toList_intercalate, List.map_map, hlines]
  congr 1
  exact List.map_congr_left fun n _ => String.toList_ofList.symm

/-- **The lines of a printed program** are the texts of its statements. -/
theorem split_lines (hne : ns ≠ []) (h : ∀ n ∈ ns, WrittenStatement n) :
    ((String.ofList (lines ns)).split '\n').toList.map (·.copy) = ns.map lineOf := by
  have hfree : ∀ s ∈ ns.map lineOf, '\n' ∉ s.toList := by
    intro s hs
    obtain ⟨n, hn, rfl⟩ := List.mem_map.mp hs
    rw [lineOf, String.toList_ofList]
    exact (h n hn).newline_notMem
  have hsplit := String.toList_split_intercalate hfree
  rw [if_neg (by simpa using hne)] at hsplit
  rw [lines_eq_intercalate]
  exact hsplit

/-! ## Tokens of a line -/

/-- **The tokens of a statement on a line**: they are its spelling, the first one stands in the
first column, and none stands on another line. -/
structure OnLine (line : Nat) (n : Node) (us : List Token) : Prop where
  spelling : us.map Token.unplaced = n.spelling
  first : ∃ t, us.head? = some t ∧ t.line = line ∧ t.column = 1
  line : ∀ t ∈ us, t.line = line

theorem OnLine.lower {line : Nat} {us : List Token} (h : OnLine line n us) (k : Nat) :
    OnLine (line + k) n (us.map (Token.lower k)) := by
  obtain ⟨t, ht, hline, hcolumn⟩ := h.first
  refine ⟨?_, ⟨t.lower k, ?_, ?_, hcolumn⟩, fun u hu => ?_⟩
  · rw [List.map_map]
    exact h.spelling
  · rw [List.head?_map, ht]
    rfl
  · rw [Token.lower, hline]
  · obtain ⟨v, hv, rfl⟩ := List.mem_map.mp hu
    rw [Token.lower, h.line v hv]

/-- A statement does not begin with space. -/
theorem WrittenStatement.text_head (h : WrittenStatement n) :
    ∃ c r, text n = c :: r ∧ isSpace c = false := by
  cases h with
  | blank => exact ⟨';', [], rfl, rfl⟩
  | definition => exact ⟨'l', _, rfl, rfl⟩
  | result => exact ⟨'r', _, rfl, rfl⟩
  | expression hT =>
    obtain ⟨c, r, hcr, hc⟩ := hT.text_head
    exact ⟨c, _, by rw [text, hcr, List.cons_append], hc.1⟩

/-- The last token of a statement is a semicolon. -/
theorem WrittenStatement.spelling_eq (h : WrittenStatement n) :
    ∃ us, n.spelling = us ++ [.sign .semicolon] := by
  cases h with
  | blank => exact ⟨[], rfl⟩
  | @definition s T _ _ =>
    exact ⟨⟨.letWord, "let", none, 0, 0⟩ :: (Node.identifier s).spelling ++
      .sign .assign :: T.spelling, by simp [spelling]⟩
  | @result T _ => exact ⟨⟨.returnWord, "return", none, 0, 0⟩ :: T.spelling, by simp [spelling]⟩
  | @expression T _ => exact ⟨T.spelling, rfl⟩

/-- All tokens of a text without a line feed stand on its first line. -/
theorem line_of_tokenize {source : String} {ts : List Token} (h : tokenize source = .ok ts)
    (hfree : '\n' ∉ source.toList) : ∀ t ∈ ts, t.line = 1 := by
  intro t ht
  obtain ⟨c, s, hat, hs, rfl⟩ := exists_next_of_mem h ht
  have hplace : s.token.line = lineAt source.toList c.skipSpace.offset :=
    congrArg (fun q => (ofLex q).1) (hat.place_of_next hs)
  rw [hplace, lineAt, List.count_eq_zero_of_not_mem fun hm => hfree (List.mem_of_mem_take hm)]

/-- **The tokens of one statement**, which end with a semicolon. -/
theorem onLine_text (h : WrittenStatement n) :
    ∃ us last, tokenize (lineOf n) = .ok (us ++ [last]) ∧ OnLine 1 n us ∧
      ∀ u ∈ us.getLast?, u.kind = .semicolon := by
  have hlist : (lineOf n).toList = text n := String.toList_ofList
  have hlexes : Lexes (lineOf n).toList n.spelling := by
    have := lexes_statement h [] [] .nil
    rwa [List.append_nil, List.append_nil, ← hlist] at this
  obtain ⟨us, last, htokens, hus⟩ := tokenize_of_lexes hlexes
  have hlines := line_of_tokenize htokens (hlist ▸ h.newline_notMem)
  obtain ⟨vs, hvs⟩ := h.spelling_eq
  have hne : us ≠ [] := by
    rintro rfl
    rw [hvs, List.map_nil] at hus
    exact absurd hus.symm (by simp)
  refine ⟨us, last, htokens, ⟨hus, ?_, fun t ht => hlines t (List.mem_append_left _ ht)⟩, ?_⟩
  · obtain ⟨t, us, rfl⟩ := List.exists_cons_of_ne_nil hne
    obtain ⟨s, hs, htoken⟩ := next_behind_of_tokenize htokens 0
    -- the text begins with its first token, as no space is before it
    obtain ⟨c, r, hcr, hc⟩ := h.text_head
    have hstart : (Cursor.ofText (lineOf n)).skipSpace.offset = 0 := by
      have hrest : (Cursor.ofText (lineOf n)).rest = c :: r := hlist.trans hcr
      rw [Cursor.offset_skipSpace, hrest, List.takeWhile_cons_of_neg (by rw [hc]; decide)]
      rfl
    have hplace := (Cursor.at_ofText (lineOf n)).place_of_next hs
    rw [hstart, htoken] at hplace
    exact ⟨t, rfl, congrArg (fun q => (ofLex q).1) hplace, congrArg (fun q => (ofLex q).2) hplace⟩
  · intro u hu
    have hkind := congrArg (fun ts => (ts.map Token.kind).getLast?) (hus.trans hvs)
    simp only [List.map_append, List.map_map, List.getLast?_map, Option.mem_def.mp hu] at hkind
    simpa [Token.unplaced, Token.sign] using hkind

/-- The tokens of a statement, and those of the statements on the lines below it. -/
theorem onLine_cons {us : List Token} {uss : List (List Token)} (hline : OnLine 1 n us)
    (hlines : ∀ i m vs, ns[i]? = some m → uss[i]? = some vs → OnLine (i + 1) m vs) :
    ∀ i m vs, (n :: ns)[i]? = some m →
      (us :: uss.map (List.map (Token.lower 1)))[i]? = some vs → OnLine (i + 1) m vs := by
  intro i m vs hm hvs
  cases i with
  | zero =>
    cases hm
    cases hvs
    exact hline
  | succ i =>
    rw [List.getElem?_cons_succ] at hm hvs
    rw [List.getElem?_map] at hvs
    obtain ⟨ws, hws, rfl⟩ := Option.map_eq_some_iff.mp hvs
    exact (hlines i m ws hm hws).lower 1

/-- A text below the text of a statement keeps its tokens, each a line lower. -/
theorem tokenize_below {us vs : List Token} {l last : Token} {cs : List Char}
    (hn : WrittenStatement n) (hus : tokenize (lineOf n) = .ok (us ++ [l]))
    (hend : ∀ u ∈ us.getLast?, u.kind = .semicolon)
    (hvs : tokenize (String.ofList cs) = .ok (vs ++ [last])) :
    tokenize (String.ofList (text n ++ '\n' :: cs)) =
      .ok (us ++ (vs ++ [last]).map (Token.lower 1)) := by
  have hone : (lineOf n).toList.count '\n' + 1 = 1 := by
    rw [lineOf, String.toList_ofList, List.count_eq_zero_of_not_mem hn.newline_notMem]
  have hclosed : ∀ u ∈ us.getLast?, u.kind ≠ .illegal := by
    intro u hu
    rw [hend u hu]
    decide
  have hall := tokenize_append hus hvs hclosed
  have htext : lineOf n ++ "\n" ++ String.ofList cs = String.ofList (text n ++ '\n' :: cs) := by
    rw [← String.toList_inj]
    simp [lineOf, String.toList_append]
  rwa [htext, hone] at hall

/-- **The tokens of a printed program**, line by line. -/
theorem tokenize_lines (hne : ns ≠ []) (h : ∀ n ∈ ns, WrittenStatement n) :
    ∃ uss : List (List Token), ∃ last,
      tokenize (String.ofList (lines ns)) = .ok (uss.flatten ++ [last]) ∧ uss.length = ns.length ∧
      ∀ i n us, ns[i]? = some n → uss[i]? = some us → OnLine (i + 1) n us := by
  fun_induction lines ns with
  | case1 => exact absurd rfl hne
  | case2 n =>
    obtain ⟨us, last, htokens, hline, -⟩ := onLine_text (h n List.mem_cons_self)
    refine ⟨[us], last, by rwa [List.flatten_singleton], rfl, ?_⟩
    have hnone : ∀ i m vs, ([] : List Node)[i]? = some m → ([] : List (List Token))[i]? = some vs →
        OnLine (i + 1) m vs := by
      intro i m vs hm
      cases hm
    exact onLine_cons hline hnone
  | case3 n ns hns ih =>
    have hn := h n List.mem_cons_self
    obtain ⟨us, l, htokens, hline, hend⟩ := onLine_text hn
    obtain ⟨uss, last, hlater, hlen, hlines⟩ := ih hns fun m hm => h m (List.mem_cons_of_mem _ hm)
    refine ⟨us :: uss.map (List.map (Token.lower 1)), last.lower 1, ?_, by simp [hlen],
      onLine_cons hline hlines⟩
    rw [tokenize_below hn htokens hend hlater]
    simp [List.map_flatten]

/-! ## Reading lines -/

/-- The text of statements is read as these, if no nesting in it is too deep, and then none of the
statements is nested too deeply. -/
theorem parseSource_lines_of_shallow (h : ∀ n ∈ ns, WrittenStatement n) (depth : Nat)
    (settings : Settings) (filename : String) :
    ∃ q s, parseSource depth settings filename (String.ofList (lines ns)) = .ok q s ∧
      ((∀ x ∈ s.diagnostics, x.cause ≠ .tooDeep) →
        q = .program ns ∧ s.diagnostics = #[] ∧ ∀ n ∈ ns, need n ≤ depth) := by
  obtain ⟨d, hd⟩ := exists_need_le ns
  have hns : ∀ n ∈ ns, WrittenStatement n ∧ need n ≤ max depth d := fun n hn =>
    ⟨h n hn, Nat.le_trans (hd n hn) (Nat.le_max_right _ _)⟩
  obtain ⟨s', hr', hd'⟩ := parseSource_lines hns settings filename
  obtain ⟨us, last, htokens⟩ := exists_tokens_of_ok hr'
  obtain ⟨s, hr, -⟩ := parseSource_run htokens depth settings filename
  refine ⟨_, s, hr, fun hdeep => ?_⟩
  obtain ⟨hp, hs⟩ := parseSource_of_le (Nat.le_max_left depth d) hr hr' hdeep
  obtain ⟨ms, hms, hneed⟩ := written_of_parseSource hr
  cases hp.trans hms
  exact ⟨hp.symm, hs ▸ hd', fun n hn => (hneed n hn).2⟩

/-- **A program in lines**: its text, and the texts of its statements, which are the lines of the
text. The tokens of each statement stand on its line, from the first column on. With each bound on
nested readers the text is read; if no nesting in it is too deep for the bound, it is read as the
program, and each line alone as its statement, without a diagnostic. -/
structure InLines (ns : List Node) (source : String) (lines : List String) : Prop where
  print : (Node.program ns).print = .ok source
  each : ns.map Node.print = lines.map .ok
  split : (source.split '\n').toList.map (·.copy) = lines
  tokens : ∃ uss : List (List Token), ∃ last, tokenize source = .ok (uss.flatten ++ [last]) ∧
    uss.length = ns.length ∧ ∀ i n us, ns[i]? = some n → uss[i]? = some us → OnLine (i + 1) n us
  reparse : ∀ depth settings filename, ∃ q s, parseSource depth settings filename source = .ok q s ∧
    ((∀ x ∈ s.diagnostics, x.cause ≠ .tooDeep) → q = .program ns ∧ s.diagnostics = #[] ∧
      ∀ (i : Nat) n line, ns[i]? = some n → lines[i]? = some line →
        ∃ s', parseSource depth settings filename line = .ok (.program [n]) s' ∧
          s'.diagnostics = #[])

theorem inLines_of_written (hne : ns ≠ []) (h : ∀ n ∈ ns, WrittenStatement n) :
    InLines ns (String.ofList (lines ns)) (ns.map lineOf) where
  print := print_program h
  each := by
    rw [List.map_map]
    exact List.map_congr_left fun n hn => (renders_statement (h n hn)).print
  split := split_lines hne h
  tokens := tokenize_lines hne h
  reparse := by
    intro depth settings filename
    obtain ⟨q, s, hr, hshallow⟩ := parseSource_lines_of_shallow h depth settings filename
    refine ⟨q, s, hr, fun hdeep => ?_⟩
    obtain ⟨hq, hs, hneed⟩ := hshallow hdeep
    refine ⟨hq, hs, fun i n line hn hline => ?_⟩
    rw [List.getElem?_map, hn] at hline
    cases hline
    have hmem := List.mem_of_getElem? hn
    have hone : ∀ m ∈ [n], WrittenStatement m ∧ need m ≤ depth :=
      List.forall_mem_singleton.mpr ⟨h n hmem, hneed n hmem⟩
    exact parseSource_lines hone settings filename

/-- **A program prints one statement per line.** Let `p` be a program of statements that a text can
have, or let it be read from a text, with whatever diagnostics. If it has statements, then it prints,
and the lines of its text are the texts of its statements, one by one. Scanning the text puts the
tokens of each statement on the line of the statement, and the first of them into the first column.
And where the whole text is read within the bound on nested readers, each line alone is read as its
statement. -/
theorem print_lines {p : Node}
    (h : (∃ ns, p = .program ns ∧ ∀ n ∈ ns, WrittenStatement n) ∨
      ∃ depth settings filename source s, parseSource depth settings filename source = .ok p s) :
    ∃ ns, p = .program ns ∧ (ns ≠ [] → ∃ source lines, InLines ns source lines) := by
  obtain ⟨ns, rfl, hns⟩ : ∃ ns, p = .program ns ∧ ∀ n ∈ ns, WrittenStatement n := by
    rcases h with h | ⟨depth, settings, filename, source, s, hr⟩
    · exact h
    · obtain ⟨ns, hp, hns⟩ := written_of_parseSource hr
      exact ⟨ns, hp, fun n hn => (hns n hn).1⟩
  exact ⟨ns, rfl, fun hne => ⟨_, _, inLines_of_written hne hns⟩⟩

/-- A string over two lines of its text, and a statement that is left out. -/
theorem print_lines_string :
    let source := "let s = \"a\nb\"; let 1; -s"
    let ns : List Node := [.letStmt (.identifier "s") (.string "a\nb"),
      .exprStmt (.unary "-" (.identifier "s"))]
    ∃ s, parseSource nestingLimit .quiet "<stdin>" source = .ok (.program ns) s ∧
      ∃ text lines, InLines ns text lines := by
  intro source ns
  let t (k : Kind) (literal : String) (line column : Nat) : Token :=
    ⟨k, literal, none, line, column⟩
  let us := [t .letWord "let" 1 1, t .ident "s" 1 5, t .assign "=" 1 7, t .string "a\nb" 1 9,
    t .semicolon ";" 2 3, t .letWord "let" 2 5, ⟨.int, "1", some 1, 2, 9⟩, t .semicolon ";" 2 10,
    t .minus "-" 2 12, t .ident "s" 2 13]
  have htokens : tokenize source = .ok (us ++ [t .eof "" 2 14]) := by decide +kernel
  have hprogram : (program (t .eof "" 2 14) nestingLimit us).1 = ns := by cbv
  obtain ⟨s, hr, -⟩ := parseSource_run htokens nestingLimit .quiet "<stdin>"
  rw [hprogram] at hr
  obtain ⟨ms, hms, hlines⟩ := print_lines (Or.inr ⟨_, _, _, _, s, hr⟩)
  obtain rfl := Node.program.inj hms
  exact ⟨s, hr, hlines (List.cons_ne_nil _ _)⟩

end FrontEnd
