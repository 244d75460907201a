import FrontEnd.Proofs.Printing.Text
import FrontEnd.Proofs.Reader.Fault
import FrontEnd.Proofs.Reader.Places
import Mathlib

/-!
# Printing and reading again

The text of a program that was read is read as this program, without a diagnostic and within the
same bound on nested readers. This holds whatever the first text was: its statements that were
refused are not in the program, and those that are in it can be written again.

* `parseSource_lines`: the text of statements is read as these statements.
* `parseSource_print`: the text of a program that was read.
* `parseSource_print_written`: the text of a program that was made by hand.
-/

namespace FrontEnd

open Node Reader

namespace Node

mutual

/-- The integers in a tree. -/
def integers : Node → List Int
  | integer value => [value]
  | program statements => integersList statements
  | letStmt name value => integers name ++ integers value
  | returnStmt value => integers value
  | exprStmt expression => integers expression
  | unary _ right => integers right
  | binary left _ right => integers left ++ integers right
  | blank | identifier _ | string _ | bare _ => []

/-- The integers in the trees of a list. -/
def integersList : List Node → List Int
  | [] => []
  | n :: ns => integers n ++ integersList ns

end

end Node

variable {depth : Nat} {settings : Settings} {filename source : String} {ns : List Node}
  {n p T : Node} {s : Parser}

theorem places_unplaced : Places Token.unplaced := ⟨fun _ => rfl, fun _ => rfl, fun _ => rfl⟩

/-- **The text of statements is read as these statements**, within the bound that they need. -/
theorem parseSource_lines (h : ∀ n ∈ ns, WrittenStatement n ∧ need n ≤ depth)
    (settings : Settings) (filename : String) :
    ∃ s, parseSource depth settings filename (String.ofList (lines ns)) = .ok (.program ns) s ∧
      s.diagnostics = #[] := by
  have hlexes : Lexes (String.ofList (lines ns)).toList (ns.flatMap spelling) := by
    rw [String.toList_ofList]
    exact lexes_lines fun n hn => (h n hn).1
  obtain ⟨us, last, htokens, hus⟩ := tokenize_of_lexes hlexes
  obtain ⟨hl, -⟩ := ends_of_tokenize htokens
  obtain ⟨s, hr, hd⟩ := parseSource_run htokens depth settings filename
  -- reading does not see the places, so the spelling stands for the tokens
  have hspelling : program last.unplaced depth (ns.flatMap spelling) = (ns, []) :=
    (program_eq_iff (show last.unplaced.kind = .eof from hl)).mpr (statements_spelling h)
  rw [← hus, program_map places_unplaced] at hspelling
  obtain ⟨hnodes, hrefusals⟩ := Prod.mk.inj hspelling
  rw [List.map_eq_nil_iff.mp hrefusals] at hd
  exact ⟨s, hnodes ▸ hr, Array.toList_eq_nil_iff.mp hd⟩

/-- **The statements of a program that was read** can be written within the same bound. -/
theorem written_of_parseSource (h : parseSource depth settings filename source = .ok p s) :
    ∃ ns, p = .program ns ∧ ∀ n ∈ ns, WrittenStatement n ∧ need n ≤ depth := by
  obtain ⟨us, last, htokens⟩ := exists_tokens_of_ok h
  obtain ⟨hl, -⟩ := ends_of_tokenize htokens
  obtain ⟨s', hr, -⟩ := parseSource_run htokens depth settings filename
  cases h.symm.trans hr
  refine ⟨_, rfl, fun n hn => ?_⟩
  obtain ⟨e, rest, hsuf, hs⟩ := isStatement_of_mem hl hn
  have hvalid : ∀ t ∈ e, t.Valid := fun t ht =>
    valid_of_tokenize htokens t (hsuf.mem (List.mem_append_left _ ht))
  exact ⟨hs.written hvalid, hs.need_le⟩

/-! ## Integers -/

theorem Written.integers_le (h : Written T) : ∀ v ∈ T.integers, ∃ n : Nat, v = n ∧ n ≤ intMax := by
  induction h with
  | identifier | string => exact fun v hv => nomatch hv
  | @integer n hn =>
    intro v hv
    obtain rfl := List.mem_singleton.mp hv
    exact ⟨n, rfl, hn⟩
  | unary _ _ ih => exact ih
  | binary _ _ _ ihl ihr =>
    intro v hv
    rcases List.mem_append.mp hv with hv | hv
    · exact ihl v hv
    · exact ihr v hv

theorem WrittenStatement.integers_le (h : WrittenStatement n) :
    ∀ v ∈ n.integers, ∃ m : Nat, v = m ∧ m ≤ intMax := by
  cases h with
  | blank => exact fun v hv => nomatch hv
  | definition _ hT => exact hT.integers_le
  | result hT => exact hT.integers_le
  | expression hT => exact hT.integers_le

theorem mem_integersList {v : Int} (h : v ∈ integersList ns) : ∃ n ∈ ns, v ∈ n.integers := by
  induction ns with
  | nil => cases h
  | cons n ns ih =>
    rcases List.mem_append.mp h with h | h
    · exact ⟨n, List.mem_cons_self, h⟩
    · obtain ⟨m, hm, hv⟩ := ih h
      exact ⟨m, List.mem_cons_of_mem _ hm, hv⟩

theorem program_integers_le (h : ∀ n ∈ ns, WrittenStatement n) :
    ∀ v ∈ (Node.program ns).integers, ∃ m : Nat, v = m ∧ m ≤ intMax := by
  intro v hv
  obtain ⟨n, hn, hv⟩ := mem_integersList hv
  exact (h n hn).integers_le v hv

/-- **Integers in range** are far below the limit of digits. -/
theorem length_toString_le {m : Nat} (hm : m ≤ intMax) :
    (toString (m : Int)).length ≤ maxDigits := by
  have hdigits : (toString (m : Int)).toList = Nat.toDigits 10 m := Nat.toList_repr
  have hlen := Lexes.length_toDigits hm
  have hmax : maxDigits = 4300 := rfl
  rw [← String.length_toList, hdigits]
  omega

/-- **Round trip.** Let a text be read as the program `p`, with whatever diagnostics. Then `p` can
be printed, no integer of it is beyond the limit of digits, and its text is read as `p` within the
same bound on nested readers, without a diagnostic. -/
theorem parseSource_print (h : parseSource depth settings filename source = .ok p s)
    (settings' : Settings) (filename' : String) :
    ∃ text s', p.print = .ok text ∧ (∀ v ∈ p.integers, (toString v).length ≤ maxDigits) ∧
      parseSource depth settings' filename' text = .ok p s' ∧ s'.diagnostics = #[] := by
  obtain ⟨ns, rfl, hns⟩ := written_of_parseSource h
  have hwritten : ∀ n ∈ ns, WrittenStatement n := fun n hn => (hns n hn).1
  obtain ⟨s', hr, hd⟩ := parseSource_lines hns settings' filename'
  refine ⟨_, s', print_program hwritten, fun v hv => ?_, hr, hd⟩
  obtain ⟨m, rfl, hm⟩ := program_integers_le hwritten v hv
  exact length_toString_le hm

/-- A text with parentheses that are printed, others that are not, and a statement that is left
out. -/
theorem parseSource_print_parentheses :
    let source := "(1 + 2) * (x); let 3;"
    let p := Node.program [.exprStmt (.binary (.binary (.integer 1) "+" (.integer 2)) "*"
      (.identifier "x"))]
    ∃ s, parseSource nestingLimit .quiet "<stdin>" source = .ok p s ∧
      ∃ text s', p.print = .ok text ∧ (∀ v ∈ p.integers, (toString v).length ≤ maxDigits) ∧
        parseSource nestingLimit .quiet "<stdin>" text = .ok p s' ∧ s'.diagnostics = #[] := by
  intro source p
  let t (k : Kind) (literal : String) (value? : Option Int) (column : Nat) : Token :=
    ⟨k, literal, value?, 1, column⟩
  let us := [t .lparen "(" none 1, t .int "1" (some 1) 2, t .plus "+" none 4,
    t .int "2" (some 2) 6, t .rparen ")" none 7, t .asterisk "*" none 9, t .lparen "(" none 11,
    t .ident "x" none 12, t .rparen ")" none 13, t .semicolon ";" none 14,
    t .letWord "let" none 16, t .int "3" (some 3) 20, t .semicolon ";" none 21]
  have htokens : tokenize source = .ok (us ++ [t .eof "" none 22]) := by cbv
  have hprogram : (program (t .eof "" none 22) nestingLimit us).1 =
      [.exprStmt (.binary (.binary (.integer 1) "+" (.integer 2)) "*" (.identifier "x"))] := by cbv
  obtain ⟨s, hr, -⟩ := parseSource_run htokens nestingLimit .quiet "<stdin>"
  rw [hprogram] at hr
  exact ⟨s, hr, parseSource_print hr .quiet "<stdin>"⟩

/-! ## Programs that were made by hand -/

/-- A text in which nothing is nested too deeply is read in the same way with each larger bound. -/
theorem parseSource_of_le {d d' : Nat} (hd : d ≤ d') {p' : Node} {s' : Parser}
    (h : parseSource d settings filename source = .ok p s)
    (h' : parseSource d' settings filename source = .ok p' s')
    (hdeep : ∀ x ∈ s.diagnostics, x.cause ≠ .tooDeep) :
    p' = p ∧ s'.diagnostics = s.diagnostics := by
  obtain ⟨us, last, htokens⟩ := exists_tokens_of_ok h
  obtain ⟨q, hq, hdq⟩ := parseSource_run htokens d settings filename
  obtain ⟨q', hq', hdq'⟩ := parseSource_run htokens d' settings filename
  cases h.symm.trans hq
  cases h'.symm.trans hq'
  have hrefusals : ∀ r ∈ (program last d us).2, r.cause ≠ .tooDeep := by
    intro r hr
    have hmem : r.diagnostic ∈ s.diagnostics.toList := hdq ▸ List.mem_map_of_mem hr
    exact hdeep r.diagnostic (Array.mem_toList_iff.mp hmem)
  rw [program_of_le hd hrefusals] at hdq' ⊢
  exact ⟨rfl, Array.toList_inj.mp (hdq'.trans hdq.symm)⟩

/-- Some bound serves for all statements. -/
theorem exists_need_le (ns : List Node) : ∃ d, ∀ n ∈ ns, need n ≤ d :=
  ⟨(ns.map need).foldr max 0, fun _ hn => List.le_max_of_le (List.mem_map_of_mem hn) le_rfl⟩

/-- **Round trip from a tree.** Let the statements of a program be trees that a text can have, also
if they were made by hand. Then the program can be printed, and its text is read as this program
without a diagnostic, unless it is nested too deeply for the bound on nested readers. It is so
exactly if one of the statements needs more readers than the bound admits. -/
theorem parseSource_print_written (h : ∀ n ∈ ns, WrittenStatement n) (depth : Nat)
    (settings : Settings) (filename : String) :
    ∃ text p s, (Node.program ns).print = .ok text ∧
      parseSource depth settings filename text = .ok p s ∧
      ((∀ x ∈ s.diagnostics, x.cause ≠ .tooDeep) → p = .program ns ∧ s.diagnostics = #[]) ∧
      ((∀ x ∈ s.diagnostics, x.cause ≠ .tooDeep) ↔ ∀ n ∈ ns, need n ≤ depth) := by
  obtain ⟨d, hd⟩ := exists_need_le ns
  have hns : ∀ n ∈ ns, WrittenStatement n ∧ need n ≤ max depth d := fun n hn =>
    ⟨h n hn, Nat.le_trans (hd n hn) (Nat.le_max_right _ _)⟩
  obtain ⟨s', hr', hd'⟩ := parseSource_lines hns settings filename
  -- a text that is read with some bound has tokens, so it is read with each
  obtain ⟨us, last, htokens⟩ := exists_tokens_of_ok hr'
  obtain ⟨s, hr, -⟩ := parseSource_run htokens depth settings filename
  have hsame : (∀ x ∈ s.diagnostics, x.cause ≠ .tooDeep) →
      Node.program ns = .program (program last depth us).1 ∧ s'.diagnostics = s.diagnostics :=
    parseSource_of_le (Nat.le_max_left depth d) hr hr'
  refine ⟨_, _, s, print_program h, hr, fun hdeep => ?_, fun hdeep => ?_, fun hneed => ?_⟩
  · obtain ⟨hp, hs⟩ := hsame hdeep
    exact ⟨hp.symm, hs ▸ hd'⟩
  · obtain ⟨ns', hp, hns'⟩ := written_of_parseSource hr
    cases (hsame hdeep).1.trans hp
    exact fun n hn => (hns' n hn).2
  · obtain ⟨s0, hr0, hd0⟩ := parseSource_lines (fun n hn => ⟨h n hn, hneed n hn⟩) settings filename
    cases hr.symm.trans hr0
    rw [hd0]
    exact fun x hx => absurd hx (Array.not_mem_empty x)

/-- A tree with an operator before another one, an operand on the right of its own level, and a
string with a quote and a line feed in it. -/
theorem parseSource_print_written_quote :
    let ns := [.letStmt (.identifier "x_1") (.unary "-" (.binary (.integer 1) "<" (.string "\"\n"))),
      .blank, .exprStmt (.binary (.identifier "a") "-" (.binary (.identifier "b") "+" (.integer 2)))]
    (∀ n ∈ ns, WrittenStatement n) ∧
      ∃ text p s, (Node.program ns).print = .ok text ∧
        parseSource nestingLimit .quiet "<stdin>" text = .ok p s ∧
        ((∀ x ∈ s.diagnostics, x.cause ≠ .tooDeep) → p = .program ns ∧ s.diagnostics = #[]) ∧
        ((∀ x ∈ s.diagnostics, x.cause ≠ .tooDeep) ↔ ∀ n ∈ ns, need n ≤ nestingLimit) := by
  intro ns
  have hname {s : String} (c : Char) (r : List Char) (hs : s.toList = c :: r)
      (hc : isLetter c = true) (hr : (c :: r).all isWordChar = true)
      (hk : Kind.ofWord s = .ident) : IsName s :=
    ⟨⟨c, r, hs, hc⟩, List.all_eq_true.mp (hs ▸ hr), hk⟩
  have hx : IsName "x_1" := hname 'x' ['_', '1'] rfl rfl rfl (by cbv)
  have ha : IsName "a" := hname 'a' [] rfl rfl rfl (by cbv)
  have hb : IsName "b" := hname 'b' [] rfl rfl rfl (by cbv)
  have hless : Written (.binary (.integer 1) "<" (.string "\"\n")) :=
    .binary (k := .lt) rfl (.integer (n := 1) (by decide)) .string
  have hsum : Written (.binary (.identifier "b") "+" (.integer 2)) :=
    .binary (k := .plus) rfl (.identifier hb) (.integer (n := 2) (by decide))
  have h : ∀ n ∈ ns, WrittenStatement n := by
    refine List.forall_mem_cons.mpr ⟨.definition hx (.unary (k := .minus) rfl hless), ?_⟩
    refine List.forall_mem_cons.mpr ⟨.blank, List.forall_mem_singleton.mpr ?_⟩
    exact .expression (.binary (k := .minus) rfl (.identifier ha) hsum)
  exact ⟨h, parseSource_print_written h nestingLimit .quiet "<stdin>"⟩

end FrontEnd
