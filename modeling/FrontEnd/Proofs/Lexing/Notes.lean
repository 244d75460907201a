import FrontEnd.Journal
import FrontEnd.Proofs.Lexing.Append
import Mathlib.Data.List.Induction

/-!
# What is noted of a text

An invalid token says itself what is noted of it, with one exception: nothing is noted of a string
without its closing quote if a backslash stands alone at the end of the text. So the notes on a text
can be told from its tokens (`Token.isNoted`, `Token.note`), and are kept or dropped together.

* `endsAlone_of_unclosed`: why a string has no closing quote, as its text says.
* `Lexeme.tells_read`: what is noted of a lexeme, as its token says.
* `Journal.entries_noteScans`: the notes on some tokens are those on each, in order.
* `Cursor.unclosed_last`: only the end of the text is behind a string without its closing quote.
* `notes_of_tokenize`: the notes on a text that can be scanned.
-/

namespace FrontEnd

open Text

variable {cs r : List Char} {c : Char}

/-! ## Lone backslashes -/

/-- **An odd number of backslashes** ends the text, so that the last one stands alone. -/
def endsAlone (cs : List Char) : Bool := (cs.reverse.takeWhile (· == '\\')).length % 2 == 1

theorem endsAlone_concat (cs : List Char) (c : Char) :
    endsAlone (cs ++ [c]) = (c == '\\' && !endsAlone cs) := by
  by_cases hc : c = '\\'
  · simp only [endsAlone, List.reverse_append, List.reverse_singleton, List.singleton_append, hc,
      BEq.rfl, List.takeWhile_cons_of_pos, List.length_cons, Bool.true_and]
    rcases Nat.mod_two_eq_zero_or_one (cs.reverse.takeWhile (· == '\\')).length with h | h <;>
      simp [Nat.add_mod, h]
  · simp [endsAlone, hc]

/-- Read from the front, a backslash stands alone if the one before it does not. -/
theorem endsAlone_eq_foldl (cs : List Char) :
    endsAlone cs = cs.foldl (fun alone c => c == '\\' && !alone) false := by
  induction cs using List.reverseRecOn with
  | nil => rfl
  | append_singleton cs c ih => rw [endsAlone_concat, List.foldl_append, ih]; rfl

theorem endsAlone_cons (hc : c ≠ '\\') (r : List Char) : endsAlone (c :: r) = endsAlone r := by
  have hfirst : (c == '\\') = false := beq_false_of_ne hc
  simp [endsAlone_eq_foldl, hfirst]

/-- A backslash and a character behind it change nothing. -/
theorem endsAlone_pair (c : Char) (r : List Char) : endsAlone ('\\' :: c :: r) = endsAlone r := by
  simp [endsAlone_eq_foldl]

/-- **Where no quote closes a string**, its text ends either with a lone backslash or without. -/
theorem endsAlone_of_unclosed {why : Anomaly} (h : Lexeme.body r = .unclosed why) :
    why = if endsAlone r then .danglingEscape else .unterminated := by
  fun_induction Lexeme.body r with
  | case1 => cases h; rfl
  | case2 => cases h
  | case3 => cases h; rfl
  | case4 c r ih =>
    rw [endsAlone_pair]
    cases hb : Lexeme.body r with rw [hb] at h
    | closed => cases h
    | unclosed => cases h; exact ih hb
  | case5 c r hq hlone hpair ih =>
    rw [endsAlone_cons (Lexeme.ne_backslash hlone hpair)]
    cases hb : Lexeme.body r with rw [hb] at h
    | closed => cases h
    | unclosed => cases h; exact ih hb

/-! ## What a token says -/

namespace Token

/-- A string without its closing quote whose text ends with a lone backslash. -/
def dangles (t : Token) : Bool :=
  t.literal.toList.head? == some '"' && endsAlone t.literal.toList

/-- What is wrong with an invalid token, as its literal says. -/
def complaint (t : Token) : String :=
  if t.literal.toList.head? = some '"' then "unterminated string literal"
  else if t.literal.toList.all isDigit then s!"integer literal {t.literal} out of range"
  else s!"illegal character {quote t.literal}"

/-- **Something is noted of a token** if it is invalid and does not dangle. -/
def isNoted (t : Token) : Bool := t.kind == .illegal && !t.dangles

/-- The note on a token, with the place where it stands. -/
def note (filename : String) (t : Token) : Entry :=
  ⟨.lexing, .normal, s!"{filename}:{t.line}:{t.column}: {t.complaint}"⟩

end Token

/-- What is noted of a scan, if anything. -/
def Scan.message? (s : Scan) : Option String := s.anomaly?.bind Anomaly.message?

/-- The token says what is noted of it. -/
def Scan.Tells (s : Scan) : Prop :=
  s.message? = if s.token.isNoted then some s.token.complaint else none

theorem Scan.tells_of_valid {s : Scan} (hk : s.token.kind ≠ .illegal) (ha : s.anomaly? = none) :
    s.Tells := by
  have hnoted : s.token.isNoted = false := by simp [Token.isNoted, hk]
  rw [Tells, hnoted, message?, ha]
  rfl

theorem Scan.tells_of_illegal {s : Scan} {why : Anomaly} (hk : s.token.kind = .illegal)
    (ha : s.anomaly? = some why)
    (h : why.message? = if s.token.dangles then none else some s.token.complaint) : s.Tells := by
  have hmessage : s.message? = why.message? := by
    rw [message?, ha]
    rfl
  rw [Tells, hmessage, h]
  cases hd : s.token.dangles <;> simp [Token.isNoted, hk, hd]

/-- No run of digits begins with a quote. -/
theorem head?_digits {w : List Char} (h : ∀ a ∈ w, isDigit a = true) : w.head? ≠ some '"' := by
  intro hw
  have := h '"' (List.mem_of_head? hw)
  revert this
  decide

/-- **A lexeme** says what is noted of it. -/
theorem Lexeme.tells_read {x : Lexeme} (hcs : cs ≠ []) (h : (read cs).result = .ok x)
    (line column : Nat) : (x.at line column).Tells := by
  obtain ⟨c, r, rfl⟩ := List.exists_cons_of_ne_nil hcs
  have hf := read_form c r
  generalize read (c :: r) = found at h hf
  cases hf with
  | double hd =>
    cases h
    unfold double? at hd
    split at hd <;> cases hd <;> exact Scan.tells_of_valid (by simp [Lexeme.at, plain]) rfl
  | @sign k hk =>
    cases h
    refine Scan.tells_of_valid ?_ rfl
    rintro rfl
    unfold Kind.ofSign? at hk
    split at hk <;> cases hk
  | string hq =>
    subst hq
    rcases readString_ok h with ⟨s, n, -, -, rfl⟩ | ⟨why, hb, rfl⟩
    · exact Scan.tells_of_valid (by simp [Lexeme.at, plain]) rfl
    · refine Scan.tells_of_illegal rfl rfl ?_
      have hends : endsAlone ('"' :: r) = endsAlone r := endsAlone_cons (by decide) r
      rw [endsAlone_of_unclosed hb]
      cases he : endsAlone r <;>
        simp [Lexeme.at, wrong, Token.dangles, Token.complaint, Anomaly.message?, hends, he]
  | word hl =>
    cases h
    exact Scan.tells_of_valid (Kind.ofWord_ne (by decide) _) rfl
  | number hd =>
    rcases readNumber_ok h with ⟨-, rfl⟩ | ⟨-, rfl⟩
    · refine Scan.tells_of_illegal rfl rfl ?_
      have hall : ∀ a ∈ (c :: r).takeWhile isDigit, isDigit a = true :=
        fun a ha => List.mem_takeWhile_imp ha
      have hquote := head?_digits hall
      have hdigits : ((c :: r).takeWhile isDigit).all isDigit = true :=
        List.all_eq_true.mpr hall
      simp [Lexeme.at, wrong, Token.dangles, Token.complaint, Anomaly.message?, hquote, hdigits]
    · exact Scan.tells_of_valid (by simp [Lexeme.at]) rfl
  | stray _ hq _ hd =>
    cases h
    refine Scan.tells_of_illegal rfl rfl ?_
    simp [Lexeme.at, wrong, Token.dangles, Token.complaint, Anomaly.message?, hq, hd]

/-! ## The notes on a text -/

namespace Journal

variable {filename : String} {s : Scan} {scans : List Scan}

/-- **One scan** leaves its note, if the settings admit it. -/
theorem entries_noteScan (h : s.Tells) (j : Journal) :
    (j.noteScan filename s).entries.toList = j.entries.toList ++
      if j.settings.admits .normal && s.token.isNoted then [s.token.note filename] else [] := by
  unfold Scan.Tells Scan.message? at h
  unfold noteScan
  rw [h]
  cases hn : s.token.isNoted with
  | true => simp only [if_true, entries_note, Bool.and_true, Token.note]
  | false => simp

theorem settings_noteScan (j : Journal) (filename : String) (s : Scan) :
    (j.noteScan filename s).settings = j.settings := by
  unfold noteScan
  split
  · exact settings_note _ _
  · rfl

/-- **Scans one after the other** leave their notes in order. -/
theorem entries_noteScans (h : ∀ s ∈ scans, s.Tells) (j : Journal) :
    (j.noteScans filename scans).entries.toList = j.entries.toList ++
      if j.settings.admits .normal then
        ((scans.map Scan.token).filter Token.isNoted).map (Token.note filename)
      else [] := by
  induction scans generalizing j with
  | nil => simp [noteScans]
  | cons s scans ih =>
    have hlater := ih (fun t ht => h t (List.mem_cons_of_mem _ ht)) (j.noteScan filename s)
    rw [noteScans, List.foldl_cons, ← noteScans, hlater, settings_noteScan,
      entries_noteScan (h s List.mem_cons_self)]
    cases j.settings.admits .normal with
    | true => cases hn : s.token.isNoted <;> simp [hn]
    | false => simp

end Journal

namespace Cursor

theorem tells_finish (c : Cursor) : c.finish.Tells :=
  Scan.tells_of_valid (by simp [finish, Lexeme.at, Lexeme.atEnd, Lexeme.plain]) rfl

/-- All tokens that are found say what is noted of them. -/
theorem tells_drain (c : Cursor) : ∀ s ∈ c.drain.scans, s.Tells := by
  fun_induction Cursor.drain c with
  | case1 c hc => exact List.forall_mem_singleton.mpr (tells_finish _)
  | case2 c hc s later hn ih =>
    obtain ⟨x, hr, rfl⟩ := exists_read_of_next (congrArg Prod.fst hn)
    exact List.forall_mem_cons.mpr ⟨Lexeme.tells_read hc hr _ _, ih⟩
  | case3 c hc e stop hn => exact List.forall_mem_nil _

/-- **Only the end of the text** is behind a string without its closing quote. -/
theorem unclosed_last {s : Scan} (c : Cursor) (hs : s ∈ c.drain.scans)
    (hopen : s.token.IsUnclosed) : ∃ before last, c.drain.scans = before ++ [s, last] := by
  fun_induction Cursor.drain c with
  | case1 c hc =>
    cases List.mem_singleton.mp hs
    cases hopen.1
  | case2 c hc t later hn ih =>
    rcases List.mem_cons.mp hs with rfl | hs
    · have hfound : c.next.1 = .ok s := congrArg Prod.fst hn
      obtain ⟨x, hr, rfl⟩ := exists_read_of_next hfound
      obtain ⟨a, ha, hcut⟩ := (Lexeme.isOpen_iff hc hr _ _).mpr hopen
      -- such a string takes all that is left, so the end comes next
      have hend := Stream.end_of_open hc hfound ha hcut
      rw [Drained.push, drain, dif_pos hend]
      exact ⟨[], _, rfl⟩
    · obtain ⟨before, last, hscans⟩ := ih hs
      exact ⟨t :: before, last, congrArg (t :: ·) hscans⟩
  | case3 c hc e stop hn => cases hs

end Cursor

theorem Drained.scans_of_tokens {d : Drained} {ts : List Token} (h : d.tokens = .ok ts) :
    ts = d.scans.map Scan.token := by
  unfold tokens at h
  split at h
  · cases h
  · exact (Except.ok.inj h).symm

/-- Notes of the middle level are kept unless the settings want none or only the most important. -/
theorem Settings.admits_normal (s : Settings) :
    s.admits .normal = (s.debug && s.level != "minimal") := by
  have hrank : decide (Level.normal.rank ≤ (Level.ofText s.level).rank) =
      (s.level != "minimal") := by
    unfold Level.ofText
    split <;> simp_all [Level.rank]
  rw [admits, hrank]

/-- What is kept of the notes on a text that is scanned. -/
def notesOn (settings : Settings) (filename source : String) : List Entry :=
  ((Journal.empty settings).noteScans filename (Cursor.ofText source).drain.scans).entries.toList

/-- **The notes on a text** that can be scanned. If messages are kept, and not only the most
important ones, then there is one note for each invalid token, in order, with the place where the
token stands: except for a string without its closing quote whose text ends with a lone backslash.
There can be one such token, right before the end of the text. Otherwise there is no note. -/
theorem notes_of_tokenize {source : String} {ts : List Token} (h : tokenize source = .ok ts)
    (settings : Settings) (filename : String) :
    (notesOn settings filename source =
      if settings.debug && settings.level != "minimal" then
        (ts.filter fun t => t.kind == .illegal && !t.dangles).map (Token.note filename)
      else []) ∧
    ∀ t ∈ ts, t.kind = .illegal → t.dangles = true → ∃ us last, ts = us ++ [t, last] := by
  obtain rfl := Drained.scans_of_tokens h
  constructor
  · rw [notesOn, Journal.entries_noteScans (Cursor.tells_drain _), ← Settings.admits_normal]
    rfl
  · intro t ht hk hdangles
    obtain ⟨s, hs, rfl⟩ := List.mem_map.mp ht
    have hquote : s.token.literal.toList.head? = some '"' := by
      simp only [Token.dangles, Bool.and_eq_true, beq_iff_eq] at hdangles
      exact hdangles.1
    obtain ⟨before, last, hscans⟩ := Cursor.unclosed_last _ hs ⟨hk, hquote⟩
    exact ⟨before.map Scan.token, last.token, by rw [hscans, List.map_append]; rfl⟩

/-- A stray character, and a string that a lone backslash ends. -/
theorem notes_of_tokenize_stray :
    let source := "@\n \"a\\"
    let ts : List Token := [⟨.illegal, "@", none, 1, 1⟩, ⟨.illegal, "\"a\\", none, 2, 2⟩,
      ⟨.eof, "", none, 2, 5⟩]
    tokenize source = .ok ts ∧
      notesOn ⟨true, "verbose"⟩ "a.rk" source =
        [⟨.lexing, .normal, "a.rk:1:1: illegal character '@'"⟩] ∧
      notesOn ⟨true, "minimal"⟩ "a.rk" source = [] := by
  intro source ts
  have hts : tokenize source = .ok ts := by decide +kernel
  refine ⟨hts, ?_, ?_⟩
  · rw [(notes_of_tokenize hts _ _).1]
    decide +kernel
  · rw [(notes_of_tokenize hts _ _).1]
    rfl

/-- **Nothing is noted** of an invalid token that ends with a lone backslash, though one would be
of the same string without it. -/
theorem exists_illegal_unnoted :
    tokenize "\"abc\\" = .ok [⟨.illegal, "\"abc\\", none, 1, 1⟩, ⟨.eof, "", none, 1, 6⟩] ∧
      notesOn ⟨true, "normal"⟩ "<stdin>" "\"abc\\" = [] ∧
      notesOn ⟨true, "normal"⟩ "<stdin>" "\"abc" =
        [⟨.lexing, .normal, "<stdin>:1:1: unterminated string literal"⟩] := by
  decide +kernel

end FrontEnd
