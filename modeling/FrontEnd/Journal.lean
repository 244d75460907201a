import FrontEnd.Settings
import FrontEnd.Token.Scan

/-!
# The journal

What lexer and parser note while they work, in order. An entry is kept only if the settings
admit its level (`Journal.note`), so a journal is what is left of all notes
(`entries_note`).
-/

namespace FrontEnd

/-- Who notes. -/
inductive Channel
  | lexing | parsing
  deriving DecidableEq, Repr

/-- The name of a channel. -/
def Channel.name : Channel → String
  | lexing => "rucky.lexer"
  | parsing => "rucky.parser.parser"

/-- A message that was kept. -/
structure Entry where
  channel : Channel
  level : Level
  message : String
  deriving DecidableEq, Repr

/-- The messages kept so far, and the settings that decide on them. -/
structure Journal where
  settings : Settings
  entries : Array Entry

namespace Journal

/-- Nothing noted yet. -/
def empty (settings : Settings) : Journal := ⟨settings, #[]⟩

/-- Keeps an entry if its level is admitted. -/
def note (j : Journal) (e : Entry) : Journal :=
  if j.settings.admits e.level then { j with entries := j.entries.push e } else j

theorem settings_note (j : Journal) (e : Entry) : (j.note e).settings = j.settings := by
  unfold note
  split <;> rfl

theorem entries_note (j : Journal) (e : Entry) :
    (j.note e).entries.toList =
      j.entries.toList ++ if j.settings.admits e.level then [e] else [] := by
  unfold note
  split <;> simp

/-- Notes what is wrong with a token, with the place where it stands. -/
def noteScan (filename : String) (j : Journal) (s : Scan) : Journal :=
  match s.anomaly?.bind Anomaly.message? with
  | some message =>
    j.note ⟨.lexing, .normal, s!"{filename}:{s.token.line}:{s.token.column}: {message}"⟩
  | none => j

/-- Notes what is wrong with each token of a list. -/
def noteScans (filename : String) (j : Journal) (scans : List Scan) : Journal :=
  scans.foldl (noteScan filename) j

end Journal

end FrontEnd
