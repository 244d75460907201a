import FrontEnd.Command.Folder
import FrontEnd.Command.Request
import FrontEnd.Layout.Boxes
import FrontEnd.Node.Printer
import FrontEnd.Parser.Statement

/-!
# Answering requests

What the program answers to its arguments: its exit code, its two texts, the messages noted on the
way, and the settings afterwards (`Outcome`). The answer depends on the arguments, on what the path
leads to, and on the settings before.

How arguments are read and how texts are laid out is not the program's own work. It stands apart
(`Interface`), and the answer is given for any such interface; the one that the program has is
`Interface.terminal`.

* `Interface.perform`: an action on a source text.
* `Interface.answer`: the answer to a request.
* `Interface.run`: the answer to arguments.
* `runCommand`: the answer of the program.
-/

namespace FrontEnd

/-- Why the program ends without an answer. -/
inductive Crash
  /-- The file holds no text. -/
  | undecodable
  /-- No file can have such a path. -/
  | impossiblePath
  /-- The text cannot be read. -/
  | failed (why : Failure)
  /-- A line of the answer cannot be cut to its width. -/
  | uncut
  deriving DecidableEq, Repr

/-- What an action does: its exit code, its text and the messages it notes. -/
structure Effect where
  exitCode : Nat
  stdout : String
  entries : List Entry
  crash? : Option Crash

/-- What the program leaves behind. -/
structure Outcome where
  exitCode : Nat
  stdout : String
  stderr : String
  entries : List Entry
  crash? : Option Crash
  settings : Settings

namespace Effect

/-- The end of an action that cannot go on. -/
def crash (why : Crash) (entries : List Entry) : Effect := ⟨1, "", entries, some why⟩

/-- A text to show, if there is one. -/
def ofText? (entries : List Entry) : Option String → Effect
  | some stdout => ⟨0, stdout, entries, none⟩
  | none => .crash .uncut entries

end Effect

/-! ## Interfaces -/

/-- **What the program leaves to others**: to read its arguments, and to lay out its texts. A text
in a frame and a table may be impossible to lay out. -/
structure Interface where
  request : List String → Request
  help : Scope → String
  versionText : String
  complaint : Scope → UsageError → String
  /-- A heading and messages below it. -/
  messages : String → List String → String
  /-- A text in a frame, with a title. -/
  panel? : String → String → Option String
  tree : Outline → String
  table? : Layout.Table → Option String

/-- A heading and messages below it, each on its line. -/
def showMessages (heading : String) (messages : List String) : String :=
  let lines := messages.map fun e => "  ".toList ++ Layout.visible e
  Layout.unlines (heading.toList :: lines)

/-- **The interface of the program**: a command line, and a terminal that is wide enough for each
line. -/
def Interface.terminal : Interface where
  request := Request.ofArgs
  help := Scope.help
  versionText := versionLine
  complaint scope e := e.report scope
  messages := showMessages
  panel? title text := (Layout.panel? title text).map Layout.unlines
  tree outline := Layout.unlines (Layout.treeLines [] [] outline)
  table? table := table.lines?.map Layout.unlines

/-! ## Source files -/

/-- A text with a line feed for each end of a line, whichever way it is written. -/
def withLineFeeds : List Char → List Char
  | [] => []
  | '\r' :: '\n' :: r => '\n' :: withLineFeeds r
  | '\r' :: r => '\n' :: withLineFeeds r
  | c :: r => c :: withLineFeeds r

/-- The source text in a file. -/
def decodeSource (bytes : ByteArray) : Option String :=
  (String.fromUTF8? bytes).map fun s => String.ofList (withLineFeeds s.toList)

/-! ## Actions -/

/-- The number of statements of a program. -/
def Node.statementCount : Node → Nat
  | .program statements => statements.length
  | _ => 0

namespace Interface

/-- Shows a program as text and as a tree. -/
def showProgram? (ui : Interface) (program : Node) (text : String) : Option String := do
  let frame ← ui.panel? "Abstract Syntax Tree" (if text = "" then "(empty program)" else text)
  return frame ++ ui.tree (program.outline "[bold]Program[/bold]")

/-- Shows tokens as a table, without the end of the text. -/
def showTokens? (ui : Interface) (ts : List Token) : Option String :=
  let rows := (ts.filter fun t => t.kind ≠ .eof).map fun t =>
    [t.kind.text, t.literal, toString t.line, toString t.column]
  ui.table? ⟨"Tokens", ["Type", "Literal", "Line", "Column"], rows⟩

/-- A heading and the diagnostics below it. -/
def refusal (ui : Interface) (heading : String) (p : Parser) : Effect :=
  ⟨1, ui.messages heading p.errors, p.journal.entries.toList, none⟩

/-- Says that a text is valid, or why not. -/
def performCheck (ui : Interface) (settings : Settings) (path source : String) : Effect :=
  match parseSource nestingLimit settings path source with
  | .error why p => .crash (.failed why) p.journal.entries.toList
  | .ok program p =>
    if p.diagnostics.isEmpty then
      ⟨0, s!"Syntax is valid! ({program.statementCount} statements)\n", p.journal.entries.toList,
        none⟩
    else ui.refusal "Syntax Errors Found:" p

/-- Shows the program in a text, or says why there is none. -/
def performAst (ui : Interface) (settings : Settings) (path source : String) : Effect :=
  match parseSource nestingLimit settings path source with
  | .error why p => .crash (.failed why) p.journal.entries.toList
  | .ok program p =>
    if p.diagnostics.isEmpty then
      match program.print with
      | .ok text => .ofText? p.journal.entries.toList (ui.showProgram? program text)
      | .error _ => ⟨1, "", p.journal.entries.toList, none⟩
    else ui.refusal "Parser Errors:" p

/-- Shows the tokens of a text. -/
def performTokens (ui : Interface) (settings : Settings) (path source : String) : Effect :=
  let d := (Cursor.ofText source).drain
  let entries := ((Journal.empty settings).noteScans path d.scans).entries.toList
  match d.tokens with
  | .error e => .crash (.failed (.fault e)) entries
  | .ok ts => .ofText? entries (ui.showTokens? ts)

/-- **An action on a source text.** -/
def perform (ui : Interface) (settings : Settings) (action : Action) (path source : String) :
    Effect :=
  match action with
  | .check => ui.performCheck settings path source
  | .ast => ui.performAst settings path source
  | .tokens => ui.performTokens settings path source

end Interface

/-- A check by the program. -/
def performCheck (settings : Settings) (path source : String) : Effect :=
  Interface.terminal.performCheck settings path source

/-! ## Sessions -/

/-- The settings in force, and those to go back to. -/
structure Session where
  settings : Settings
  saved? : Option Settings

namespace Session

/-- A session with the settings as they are. -/
def begin (settings : Settings) : Session := ⟨settings, none⟩

/-- From here on all messages are kept. -/
def debug (s : Session) : Session := ⟨.loud, some s.settings⟩

/-- The settings after the session. -/
def close (s : Session) : Settings := s.saved?.getD s.settings

end Session

/-! ## Answers -/

namespace Outcome

/-- The answer of an action in a session. -/
def ofEffect (s : Session) (e : Effect) : Outcome :=
  ⟨e.exitCode, e.stdout, "", e.entries, e.crash?, s.close⟩

/-- A text as answer. -/
def text (s : Session) (stdout : String) : Outcome := ⟨0, stdout, "", [], none, s.close⟩

/-- A complaint as answer. -/
def complaint (s : Session) (stderr : String) : Outcome := ⟨2, "", stderr, [], none, s.close⟩

end Outcome

namespace Interface

/-- An action on what a path leads to. -/
def performOn (ui : Interface) (s : Session) (action : Action) (path : String)
    (extra : List String) (content : Content) : Outcome :=
  let refuse := fun e => Outcome.complaint s (ui.complaint (.action action) e)
  match content with
  | .impossible => .ofEffect s (.crash .impossiblePath [])
  | .missing => refuse (.noSuchFile path)
  | .directory => refuse (.isDirectory path)
  | .file bytes =>
    if extra.isEmpty then
      match decodeSource bytes with
      | none => .ofEffect s (.crash .undecodable [])
      | some source => .ofEffect s (ui.perform s.settings action path source)
    else refuse (.extraArguments extra)

/-- The answer to a wish in a session, given what paths lead to. -/
def grant (ui : Interface) (find : String → Content) (s : Session) : Wish → Outcome
  | .nothing => .complaint s (ui.help .program)
  | .version => .text s ui.versionText
  | .help scope => .text s (ui.help scope)
  | .wrong scope e => .complaint s (ui.complaint scope e)
  | .run action path extra => ui.performOn s action path extra (find path)

/-- The answer to a request, given the settings before it. -/
def answer (ui : Interface) (find : String → Content) (settings : Settings) (r : Request) :
    Outcome :=
  let session := Session.begin settings
  ui.grant find (if r.debug then session.debug else session) r.wish

/-- The answer to arguments. -/
def run (ui : Interface) (find : String → Content) (settings : Settings) (args : List String) :
    Outcome :=
  ui.answer find settings (ui.request args)

end Interface

/-- **What the program answers** to its arguments. -/
def runCommand (find : String → Content) (settings : Settings) (args : List String) : Outcome :=
  Interface.terminal.run find settings args

end FrontEnd
