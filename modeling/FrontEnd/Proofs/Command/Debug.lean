import FrontEnd.Command.Answer
import FrontEnd.Proofs.Reader.Journal

/-!
# What the debug option leaves behind

The debug option changes the settings of the process while an action is at work. Whatever becomes of
the action, the settings that were there before it are back afterwards. The action itself reads the
settings for its messages only: without the option it does the same, and keeps those of the messages
that the settings admit (`Outcome.under`). This holds with any interface that reads the option as it
should (`Interface.ReadsDebug`), however it lays out the texts; the command line of the program is
one of them.

* `Interface.perform_under`: actions do the same under all settings.
* `Interface.grant_under`: so does everything that can be asked for.
* `Interface.settings_grant`: every answer closes its session.
* `Interface.run_debug`: what the option leaves behind with any interface that reads it.
* `Interface.terminal_readsDebug`: the command line of the program reads it.
* `runCommand_debug`: all of it for the arguments of the program.
-/

namespace FrontEnd

variable {S : Settings} {ui : Interface}

/-! ## Actions -/

/-- The messages that settings admit. -/
def Settings.kept (S : Settings) (entries : List Entry) : List Entry :=
  entries.filter fun e => S.admits e.level

theorem Settings.kept_kept (S : Settings) (entries : List Entry) :
    S.kept (S.kept entries) = S.kept entries := by
  rw [kept, kept, List.filter_filter]
  simp only [Bool.and_self]

/-- The effect with the messages that settings admit. -/
def Effect.under (e : Effect) (S : Settings) : Effect := { e with entries := S.kept e.entries }

theorem Journal.toList_entries_under (j : Journal) (S : Settings) :
    (j.under S).entries.toList = S.kept j.entries.toList :=
  Array.toList_filter

theorem Effect.crash_under (why : Crash) (entries : List Entry) :
    (crash why entries).under S = crash why (S.kept entries) := rfl

theorem Effect.ofText?_under (entries : List Entry) (text? : Option String) :
    (ofText? entries text?).under S = ofText? (S.kept entries) text? := by
  cases text? <;> rfl

theorem Journal.noteScans_under {j : Journal} (hj : j.settings = .loud) (filename : String)
    (scans : List Scan) :
    (j.under S).noteScans filename scans = (j.noteScans filename scans).under S := by
  induction scans generalizing j with
  | nil => rfl
  | cons s scans ih =>
    have hnext : (j.noteScan filename s).settings = .loud := (settings_noteScan _ _ _).trans hj
    rw [noteScans, List.foldl_cons, noteScan_under hj]
    exact ih hnext

namespace Interface

theorem refusal_under (heading : String) (p : Parser) :
    ui.refusal heading (p.under S) = (ui.refusal heading p).under S := by
  have hkept : (p.under S).journal.entries.toList = S.kept p.journal.entries.toList :=
    p.journal.toList_entries_under S
  rw [refusal, hkept]
  rfl

/-- **A check does the same** under all settings. -/
theorem performCheck_under (S : Settings) (path source : String) :
    ui.performCheck S path source = (ui.performCheck .loud path source).under S := by
  have hruns := parseSource_mirrored nestingLimit S path source
  unfold performCheck
  generalize parseSource nestingLimit .loud path source = loud at hruns ⊢
  generalize parseSource nestingLimit S path source = quiet at hruns ⊢
  cases hruns with
  | @error e p _ =>
    dsimp only
    rw [Effect.crash_under, Parser.under, Journal.toList_entries_under]
  | @ok program p _ =>
    have hsame : (p.under S).diagnostics = p.diagnostics := rfl
    dsimp only
    rw [hsame]
    split
    · rw [Parser.under, Journal.toList_entries_under]
      rfl
    · exact refusal_under _ p

/-- **Trees are shown the same** under all settings. -/
theorem performAst_under (S : Settings) (path source : String) :
    ui.performAst S path source = (ui.performAst .loud path source).under S := by
  have hruns := parseSource_mirrored nestingLimit S path source
  unfold performAst
  generalize parseSource nestingLimit .loud path source = loud at hruns ⊢
  generalize parseSource nestingLimit S path source = quiet at hruns ⊢
  cases hruns with
  | @error e p _ =>
    dsimp only
    rw [Effect.crash_under, Parser.under, Journal.toList_entries_under]
  | @ok program p _ =>
    have hsame : (p.under S).diagnostics = p.diagnostics := rfl
    have hkept : (p.under S).journal.entries.toList = S.kept p.journal.entries.toList :=
      p.journal.toList_entries_under S
    dsimp only
    rw [hsame, hkept]
    split
    · cases program.print with
      | ok text => exact (Effect.ofText?_under _ _).symm
      | error e => rfl
    · exact refusal_under _ p

/-- **Tokens are shown the same** under all settings. -/
theorem performTokens_under (S : Settings) (path source : String) :
    ui.performTokens S path source = (ui.performTokens .loud path source).under S := by
  have hempty : Journal.empty S = (Journal.empty .loud).under S := rfl
  unfold performTokens
  rw [hempty]
  dsimp only
  rw [Journal.noteScans_under rfl, Journal.toList_entries_under]
  split
  · exact (Effect.crash_under _ _).symm
  · exact (Effect.ofText?_under _ _).symm

/-- **An action does the same** under all settings, and keeps those of its messages that the
settings admit. -/
theorem perform_under (S : Settings) (action : Action) (path source : String) :
    ui.perform S action path source = (ui.perform .loud action path source).under S := by
  cases action with
  | check => exact performCheck_under S path source
  | ast => exact performAst_under S path source
  | tokens => exact performTokens_under S path source

end Interface

/-! ## Answers -/

/-- The outcome with the messages that settings admit. -/
def Outcome.under (o : Outcome) (S : Settings) : Outcome := { o with entries := S.kept o.entries }

theorem Outcome.ofEffect_under (e : Effect) :
    ofEffect (.begin S) (e.under S) = (ofEffect (Session.begin S).debug e).under S := rfl

variable {find : String → Content}

namespace Interface

theorem performOn_under (S : Settings) (action : Action) (path : String) (extra : List String)
    (content : Content) :
    ui.performOn (.begin S) action path extra content =
      (ui.performOn (Session.begin S).debug action path extra content).under S := by
  unfold performOn
  cases content with
  | impossible => rfl
  | missing => rfl
  | directory => rfl
  | file bytes =>
    dsimp only
    split
    · cases decodeSource bytes with
      | none => rfl
      | some source =>
        dsimp only
        rw [← Outcome.ofEffect_under]
        exact congrArg _ (perform_under S action path source)
    · rfl

/-- **Everything that can be asked for** is answered in the same way with all messages and without,
but for the messages. -/
theorem grant_under (S : Settings) (w : Wish) :
    ui.grant find (.begin S) w = (ui.grant find (Session.begin S).debug w).under S := by
  cases w with
  | nothing => rfl
  | version => rfl
  | help scope => rfl
  | wrong scope e => rfl
  | run action path extra => exact performOn_under S action path extra (find path)

/-- What the settings admit already is kept. -/
theorem grant_begin_under (S : Settings) (w : Wish) :
    (ui.grant find (.begin S) w).under S = ui.grant find (.begin S) w := by
  rw [grant_under, Outcome.under, Outcome.under, Settings.kept_kept]

theorem settings_performOn (s : Session) (action : Action) (path : String) (extra : List String)
    (content : Content) : (ui.performOn s action path extra content).settings = s.close := by
  unfold performOn
  cases content with
  | impossible => rfl
  | missing => rfl
  | directory => rfl
  | file bytes =>
    dsimp only
    split
    · cases decodeSource bytes <;> rfl
    · rfl

/-- **Every answer closes its session**, on whichever way it ends. -/
theorem settings_grant (s : Session) (w : Wish) : (ui.grant find s w).settings = s.close := by
  cases w with
  | nothing => rfl
  | version => rfl
  | help scope => rfl
  | wrong scope e => rfl
  | run action path extra => exact settings_performOn s action path extra (find path)

end Interface

/-! ## Runs -/

namespace Interface

/-- The debug option changes no more of a request than the option itself: what is asked for stays,
and where it is not the first argument, the request does not ask for all messages. -/
structure ReadsDebug (ui : Interface) : Prop where
  wish : ∀ first rest,
    (ui.request ("--debug" :: first :: rest)).wish = (ui.request (first :: rest)).wish
  debug : ∀ first rest, first ≠ "--debug" → (ui.request (first :: rest)).debug = false

theorem settings_run (ui : Interface) (find : String → Content) (S : Settings)
    (args : List String) : (ui.run find S args).settings = S := by
  rw [run, answer, settings_grant]
  split <;> rfl

/-- **What the debug option leaves behind**: more messages, and nothing else. -/
theorem run_debug (h : ui.ReadsDebug) (find : String → Content) (S : Settings) {first : String}
    (hfirst : first ≠ "--debug") (rest : List String) :
    ui.run find S (first :: rest) = (ui.run find S ("--debug" :: first :: rest)).under S := by
  unfold run answer
  dsimp only
  rw [h.wish, h.debug first rest hfirst, if_neg Bool.false_ne_true]
  split
  · exact grant_under S _
  · exact (grant_begin_under S _).symm

end Interface

/-! ## Arguments -/

theorem Flag.readLeading_debug (args : List String) :
    readLeading ofProgram ("--debug" :: args) =
      (readLeading ofProgram args).map fun found => (.debug :: found.1, found.2) := by
  have hread : read ofProgram "--debug" = .ok .debug := by decide +kernel
  rw [readLeading, if_neg (by decide), if_pos (by decide +kernel), hread]
  cases readLeading ofProgram args <;> rfl

/-- Only its own name is read as the debug option. -/
theorem Flag.eq_of_read_debug {arg : String} (h : read ofProgram arg = .ok .debug) :
    arg = "--debug" := by
  unfold read at h
  dsimp only at h
  split at h
  · rename_i flag hflag
    split at h
    · cases h
    · rename_i hvalue
      obtain rfl : flag = .debug := Except.ok.inj h
      -- no value is given, so the name is all of the argument
      have hname : arg.toList.takeWhile (· != '=') = arg.toList := by
        rw [List.takeWhile_eq_self_iff]
        intro c hc
        simp only [bne_iff_ne, ne_eq]
        rintro rfl
        exact hvalue (List.contains_iff_mem.mpr hc)
      rw [hname, String.ofList_toList] at hflag
      obtain ⟨before, behind, hsplit, -⟩ := List.lookup_eq_some_iff.mp hflag
      have hmem : (arg, Flag.debug) ∈ ofProgram := by
        rw [hsplit]
        simp
      simpa [ofProgram] using hmem
  · split at h <;> cases h

/-- Where the first argument is not the debug option, the first option is not. -/
theorem Flag.ne_debug_of_readLeading {first : String} {rest : List String} {flags : List Flag}
    {plain : List String} (hfirst : first ≠ "--debug")
    (h : readLeading ofProgram (first :: rest) = .ok (flags, plain)) :
    ∀ f ∈ flags.head?, f ≠ .debug := by
  rw [readLeading] at h
  split at h
  · cases h
    simp
  · split at h
    · cases hr : read ofProgram first with
      | error e =>
        rw [hr] at h
        cases h
      | ok flag =>
        rw [hr] at h
        cases hl : readLeading ofProgram rest with
        | error e =>
          rw [hl] at h
          cases h
        | ok found =>
          rw [hl] at h
          cases h
          intro f hf
          cases hf
          rintro rfl
          exact hfirst (eq_of_read_debug hr)
    · cases h
      simp

namespace Request

/-- **What the debug option changes of a request** is no more than the option itself. -/
theorem ofArgs_debug (first : String) (rest : List String) :
    (ofArgs ("--debug" :: first :: rest)).wish = (ofArgs (first :: rest)).wish ∧
      (first ≠ "--debug" → (ofArgs (first :: rest)).debug = false) := by
  have hdebug := Flag.readLeading_debug (first :: rest)
  unfold ofArgs
  rw [if_neg (by simp), if_neg (by simp), hdebug]
  cases hread : Flag.readLeading Flag.ofProgram (first :: rest) with
  | error e => exact ⟨rfl, fun _ => rfl⟩
  | ok found =>
    obtain ⟨flags, plain⟩ := found
    have hskip : Wish.ofFlags? .program (.debug :: flags) = Wish.ofFlags? .program flags := rfl
    simp only [Except.map, hskip]
    cases hflags : Wish.ofFlags? .program flags with
    | some wish => exact ⟨rfl, fun _ => rfl⟩
    | none =>
      cases plain with
      | nil => exact ⟨rfl, fun _ => rfl⟩
      | cons name args =>
        dsimp only
        cases Action.ofName? name with
        | none => exact ⟨rfl, fun _ => rfl⟩
        | some a =>
          refine ⟨rfl, fun hfirst => ?_⟩
          -- an option that is not the debug option asks for a text
          have hhead := Flag.ne_debug_of_readLeading hfirst hread
          cases flags with
          | nil => rfl
          | cons flag flags =>
            cases flag with
            | debug => exact absurd rfl (hhead .debug rfl)
            | version => cases hflags
            | help => cases hflags

end Request

/-- **The command line of the program** reads the debug option as it should. -/
theorem Interface.terminal_readsDebug : terminal.ReadsDebug where
  wish first rest := (Request.ofArgs_debug first rest).1
  debug first rest := (Request.ofArgs_debug first rest).2

end FrontEnd
