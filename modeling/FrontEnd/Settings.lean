import FrontEnd.Text.Blank
import FrontEnd.Text.Quoted

/-!
# Settings

Messages have one of three levels. The settings say whether messages are kept at all, and up to
which level; a level that is not known counts as the middle one (`Level.ofText`). The environment
turns messages on by one of four words (`Settings.isOn`).
-/

namespace FrontEnd

/-- How much a message tells, the most important first. -/
inductive Level
  | minimal | normal | verbose
  deriving DecidableEq, Repr

namespace Level

/-- The place of a level in their order. -/
def rank : Level → Nat
  | minimal => 0
  | normal => 1
  | verbose => 2

/-- The level with a name; a name of none stands for the middle one. -/
def ofText (name : String) : Level :=
  match name with
  | "minimal" => minimal
  | "verbose" => verbose
  | _ => normal

end Level

/-- What is kept of the messages. The level is a name, known or not. -/
structure Settings where
  debug : Bool
  level : String
  deriving DecidableEq, Repr

namespace Settings

/-- No messages. -/
def quiet : Settings := ⟨false, "normal"⟩

/-- All messages. -/
def loud : Settings := ⟨true, "verbose"⟩

/-- The text of the environment says that messages are wanted. -/
def isOn (value : String) : Bool :=
  ["1", "true", "yes", "on"].contains ((Text.trimmed value).map Char.toLower)

/-- The settings for what a caller asks, the environment's word where the caller says nothing. -/
def ofEnvironment (environment? : Option String) (debug? : Option Bool) (level : String) :
    Settings :=
  ⟨debug?.getD (isOn (environment?.getD "")), level⟩

/-- **Messages of a level are kept.** -/
def admits (s : Settings) (level : Level) : Bool :=
  s.debug && level.rank ≤ (Level.ofText s.level).rank

/-- The settings in one line of text. -/
def describe (s : Settings) : String :=
  let debug := if s.debug then "True" else "False"
  s!"Config(enable_debug_logs={debug}, log_level={Text.quote s.level})"

theorem admits_loud (level : Level) : loud.admits level = true := by
  cases level <;> rfl

end Settings

end FrontEnd
