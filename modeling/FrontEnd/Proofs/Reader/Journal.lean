import FrontEnd.Proofs.Lexing.Notes
import FrontEnd.Proofs.Reader.Fault

/-!
# The journal of a parser

Nothing that a parser does depends on its journal. So a run under some settings is the run that
keeps all messages, but for the messages that these settings do not admit (`Mirrors`). In the run
that keeps all messages, each diagnostic that is recorded leaves its message, and nothing else of
the parser does that is not only for those who want all of them (`Recorded`).

* `Parser.mirrors`: all rules do the same under all settings.
* `parseSource_mirrored`: two runs on one text.
* `Parser.keeps_records`: all rules note what they record, in the same order.
* `parseSource_loud`: all that is noted of a text.
* `parseSource_transparent`: program, diagnostics and journal of a text under any settings.
-/

namespace FrontEnd

variable {α β : Type} {S : Settings}

/-! ## Fewer messages -/

/-- The journal as other settings would have it. -/
def Journal.under (j : Journal) (S : Settings) : Journal :=
  ⟨S, j.entries.filter fun e => S.admits e.level⟩

theorem Journal.note_under {j : Journal} (hj : j.settings = .loud) (e : Entry) :
    (j.under S).note e = (j.note e).under S := by
  have hloud : j.note e = { j with entries := j.entries.push e } := by
    rw [note, hj, Settings.admits_loud, if_pos rfl]
  rw [hloud, note]
  cases ha : S.admits e.level <;> simp [under, ha]

theorem Journal.noteScan_under {j : Journal} (hj : j.settings = .loud) (filename : String)
    (s : Scan) : (j.under S).noteScan filename s = (j.noteScan filename s).under S := by
  unfold noteScan
  split
  · exact note_under hj _
  · rfl

/-- The parser as it would be under other settings. -/
def Parser.under (p : Parser) (S : Settings) : Parser := { p with journal := p.journal.under S }

/-- All messages are kept. -/
def Parser.IsLoud (p : Parser) : Prop := p.journal.settings = .loud

/-! ## Two runs -/

/-- **Two results** that differ in their journals only: the first one has all messages, and the
second one those that its settings admit. -/
inductive Mirrored (S : Settings) :
    EStateM.Result Failure Parser α → EStateM.Result Failure Parser α → Prop
  | ok {a : α} {s : Parser} : s.IsLoud → Mirrored S (.ok a s) (.ok a (s.under S))
  | error {e : Failure} {s : Parser} : s.IsLoud → Mirrored S (.error e s) (.error e (s.under S))

theorem mirrored_ok {a : α} {s s' : Parser} (hs : s.IsLoud) (h : s' = s.under S) :
    Mirrored S (.ok a s) (.ok a s') := by
  rw [h]
  exact .ok hs

/-- **A step does the same** under other settings. -/
def Mirrors (S : Settings) (m : Step α) : Prop :=
  ∀ s : Parser, s.IsLoud → Mirrored S (m s) (m (s.under S))

namespace Parser

open Reader

theorem Mirrors.bind {m : Step α} {g : α → Step β} (hm : Mirrors S m)
    (hg : ∀ a, Mirrors S (g a)) : Mirrors S (m >>= g) := by
  intro s hs
  have hms := hm s hs
  generalize hr : m s = r at hms
  generalize hr' : m (s.under S) = r' at hms
  cases hms with
  | ok hs1 =>
    rw [bind_of_ok hr, bind_of_ok hr']
    exact hg _ _ hs1
  | error hs1 =>
    rw [bind_of_error hr, bind_of_error hr']
    exact .error hs1

theorem Mirrors.handler {m : Step α} {g : Failure → Step α} (hm : Mirrors S m)
    (hg : ∀ e, ¬e.IsFault → Mirrors S (g e)) (hf : ∀ e, g (.fault e) = throw (.fault e)) :
    Mirrors S (tryCatch m g) := by
  intro s hs
  have hms := hm s hs
  generalize hr : m s = r at hms
  generalize hr' : m (s.under S) = r' at hms
  cases hms with
  | ok hs1 =>
    rw [tryCatch_of_ok hr, tryCatch_of_ok hr']
    exact .ok hs1
  | @error e s1 hs1 =>
    rw [tryCatch_of_error hr, tryCatch_of_error hr']
    cases e with
    | refused d => exact hg (.refused d) not_false _ hs1
    | tooDeep => exact hg .tooDeep not_false _ hs1
    | fault e =>
      rw [hf]
      exact .error hs1

theorem advance_mirrors : Mirrors S advance := by
  intro s hs
  cases hn : s.ahead.next with
  | mk found later =>
    have hn' : (s.under S).ahead.next = (found, later) := hn
    cases found with
    | error e =>
      rw [advance_of_error hn, advance_of_error hn']
      exact .error hs
    | ok x =>
      have hnote := Journal.noteScan_under (S := S) hs s.filename x
      rw [advance_of_next hn, advance_of_next hn']
      exact mirrored_ok ((Journal.settings_noteScan _ _ _).trans hs) (congrArg _ hnote)

theorem note_mirrors (level : Level) (message : String) : Mirrors S (note level message) := by
  intro s hs
  have hnote := Journal.note_under (S := S) hs ⟨.parsing, level, message⟩
  exact mirrored_ok ((Journal.settings_note _ _).trans hs) (congrArg _ hnote)

theorem report_mirrors (d : Diagnostic) : Mirrors S (report d) := by
  refine Mirrors.bind ?_ fun _ => note_mirrors .normal d.message
  exact fun s hs => mirrored_ok hs rfl

/-- **All rules do the same** under all settings. -/
theorem mirrors (S : Settings) : Inherited fun _ m => Mirrors S m where
  pure _ _ hs := .ok hs
  bind := Mirrors.bind
  look {_ g} hg hj s hs := by
    -- both runs go on in the same way, as the journal is all that differs
    have hsame : g (s.under S) = g s := hj s _
    rw [bind_get, bind_get, hsame]
    exact hg s s hs
  failure _ _ hs := .error hs
  handler := Mirrors.handler
  advance := advance_mirrors
  verbose := note_mirrors .verbose
  report := report_mirrors

theorem parse_mirrors (S : Settings) (depth : Nat) : Mirrors S (parse depth) :=
  (mirrors S).bind (mirrors S).start fun _ => (mirrors S).program (note_mirrors .minimal) depth

end Parser

/-- **A text is read in the same way** under all settings, also if it cannot be scanned. -/
theorem parseSource_mirrored (depth : Nat) (S : Settings) (filename source : String) :
    Mirrored S (parseSource depth .loud filename source) (parseSource depth S filename source) := by
  have hfresh : Parser.fresh filename (.empty S) source =
      (Parser.fresh filename (.empty .loud) source).under S := rfl
  unfold parseSource EStateM.run
  rw [hfresh]
  exact Parser.parse_mirrors S depth _ rfl

/-! ## What is noted of diagnostics -/

/-- The message that a diagnostic leaves. -/
def Diagnostic.entry (d : Diagnostic) : Entry := ⟨.parsing, .normal, d.message⟩

/-- A message of the parser itself that is not only for those who want all of them. -/
def Entry.isReport (e : Entry) : Bool := e.channel == .parsing && e.level != .verbose

namespace Parser

open Reader

variable {s s' : Parser} {new : List Entry} {ds : List Diagnostic}

/-- **From `s` to `s'`** the diagnostics `ds` were recorded and `new` was noted. All messages were
kept, and none is one of the most important. -/
structure Recorded (s s' : Parser) (new : List Entry) (ds : List Diagnostic) : Prop where
  loud : s'.IsLoud
  entries : s'.journal.entries.toList = s.journal.entries.toList ++ new
  diagnostics : s'.diagnostics.toList = s.diagnostics.toList ++ ds
  reports : new.filter Entry.isReport = ds.map Diagnostic.entry
  level : ∀ e ∈ new, e.level ≠ .minimal

/-- A parser that keeps all messages notes what it records. -/
def Records (s s' : Parser) : Prop := s.IsLoud → ∃ new ds, Recorded s s' new ds

theorem composes_records : Composes Records fun _ _ => True where
  refl s hs := ⟨[], [], hs, by simp, by simp, rfl, by simp⟩
  trans := by
    intro s s' s'' h h' hs
    obtain ⟨new, ds, h⟩ := h hs
    obtain ⟨new', ds', h'⟩ := h' h.loud
    refine ⟨new ++ new', ds ++ ds', h'.loud, ?_, ?_, ?_, ?_⟩
    · rw [h'.entries, h.entries, List.append_assoc]
    · rw [h'.diagnostics, h.diagnostics, List.append_assoc]
    · rw [List.filter_append, h.reports, h'.reports, List.map_append]
    · exact List.forall_mem_append.mpr ⟨h.level, h'.level⟩
  fault _ _ := trivial

theorem entries_note_loud (hs : s.IsLoud) (e : Entry) :
    (s.journal.note e).entries.toList = s.journal.entries.toList ++ [e] := by
  have hloud : s.journal.settings = .loud := hs
  rw [Journal.entries_note, hloud, Settings.admits_loud, if_pos rfl]

/-- One note, and the diagnostics that it is for. -/
theorem recorded_note {e : Entry} (hs : s.IsLoud) (hj : s'.journal = s.journal.note e)
    (hd : s'.diagnostics.toList = s.diagnostics.toList ++ ds)
    (he : [e].filter Entry.isReport = ds.map Diagnostic.entry) (hl : e.level ≠ .minimal) :
    Recorded s s' [e] ds := by
  refine ⟨?_, ?_, hd, he, List.forall_mem_singleton.mpr hl⟩
  · rw [IsLoud, hj, Journal.settings_note]
    exact hs
  · rw [hj, entries_note_loud hs]

theorem advance_records : Keeps Records (fun _ _ => True) advance := by
  intro s
  cases hn : s.ahead.next with
  | mk found later =>
    cases found with
    | error e =>
      rw [advance_of_error hn]
      trivial
    | ok x =>
      rw [advance_of_next hn]
      intro hs
      unfold Journal.noteScan
      split
      · exact ⟨_, [], recorded_note hs rfl (by simp) rfl (by simp)⟩
      · exact ⟨[], [], hs, by simp, by simp, rfl, by simp⟩

theorem verbose_records (message : String) :
    Keeps Records (fun _ _ => True) (note .verbose message) :=
  fun _ hs => ⟨_, [], recorded_note hs rfl (by simp) rfl (by simp)⟩

/-- **A diagnostic that is recorded is noted.** -/
theorem report_records (d : Diagnostic) : Keeps Records (fun _ _ => True) (report d) :=
  fun _ hs => ⟨_, [d], recorded_note hs rfl Array.toList_push rfl (by simp)⟩

/-- **All rules** note what they record. -/
theorem keeps_records : Inherited fun _ m => Keeps Records (fun _ _ => True) m :=
  composes_records.inherited advance_records verbose_records report_records

end Parser

/-! ## Texts -/

/-- The message that closes the reading of a program. -/
def Entry.summary (statements errors : Nat) : Entry :=
  ⟨.parsing, .minimal, s!"Parsed {statements} statements, {errors} errors"⟩

/-- The messages on a channel. -/
def Journal.messages (j : Journal) (c : Channel) : List String :=
  (j.entries.toList.filter fun e => e.channel == c).map Entry.message

section Source

open Reader

variable {source : String} {ts : List Token} {new : List Entry} {ds : List Diagnostic}
  {statements errors : Nat}

/-- **All that is noted of a text** that can be scanned: what is noted on the way, with the messages
of all diagnostics among it, and then how many statements and diagnostics there are. -/
theorem parseSource_loud (h : tokenize source = .ok ts) (depth : Nat) (filename : String) :
    ∃ ns v new, parseSource depth .loud filename source = .ok (.program ns) v ∧
      v.journal.entries.toList = new ++ [.summary ns.length v.diagnostics.size] ∧
      new.filter Entry.isReport = v.diagnostics.toList.map Diagnostic.entry ∧
      ∀ e ∈ new, e.level ≠ .minimal := by
  obtain ⟨us, last, rfl⟩ := exists_concat_of_tokenize h
  obtain ⟨v, hr, -⟩ := parseSource_run h depth .loud filename
  obtain ⟨u, s1, hstart, hprogram⟩ := ok_of_bind_ok hr
  obtain ⟨p, _, hget, hrounds⟩ := ok_of_bind_ok hprogram
  cases hget
  obtain ⟨found, s2, hstatements, hclose⟩ := ok_of_bind_ok hrounds
  have h1 := Parser.keeps_records.start.of_ok hstart
  have h2 := (Parser.keeps_records.statements depth _ _).of_ok hstatements
  obtain ⟨new, ds, hnew⟩ := Parser.composes_records.trans h1 h2 rfl
  -- what is left of the run is the message that closes it
  obtain ⟨hns, rfl⟩ := EStateM.Result.ok.inj hclose
  have hsize : found.size = (program last depth us).1.length := by
    rw [← Node.program.inj hns, Array.length_toList]
  refine ⟨_, _, new, hr, ?_, ?_, hnew.level⟩
  · have hnote := Parser.entries_note_loud hnew.loud (.summary found.size s2.diagnostics.size)
    rw [hnew.entries] at hnote
    rw [← hsize]
    exact hnote
  · have hds : s2.diagnostics.toList = ds := hnew.diagnostics
    rw [hnew.reports, ← hds]

/-- The messages of the middle level and above: the diagnostics, and what closes the reading. -/
theorem filter_normal (hnew : new.filter Entry.isReport = ds.map Diagnostic.entry) :
    ((new ++ [Entry.summary statements errors]).filter
        fun e => e.level.rank ≤ Level.normal.rank).filter (fun e => e.channel == .parsing) =
      ds.map Diagnostic.entry ++ [Entry.summary statements errors] := by
  have hreport : ∀ e : Entry, (e.channel == .parsing && decide (e.level.rank ≤ Level.normal.rank)) =
      e.isReport := by
    rintro ⟨c, l, m⟩
    cases l <;> rfl
  rw [List.filter_filter]
  simp only [hreport]
  rw [List.filter_append, hnew]
  rfl

theorem filter_minimal (hnew : ∀ e ∈ new, e.level ≠ .minimal) :
    ((new ++ [Entry.summary statements errors]).filter fun e => e.level.rank ≤ Level.minimal.rank) =
      [Entry.summary statements errors] := by
  have hnone : new.filter (fun e => e.level.rank ≤ Level.minimal.rank) = [] := by
    refine List.filter_eq_nil_iff.mpr fun e he => ?_
    have := hnew e he
    cases hl : e.level <;> simp_all [Level.rank]
  rw [List.filter_append, hnone]
  rfl

theorem Level.ofText_eq_normal {name : String} (hminimal : name ≠ "minimal")
    (hverbose : name ≠ "verbose") : Level.ofText name = .normal := by
  unfold Level.ofText
  split
  · contradiction
  · contradiction
  · rfl

end Source

end FrontEnd
