import FrontEnd.Text.Likeness
import FrontEnd.Text.Quoted
import FrontEnd.Text.Terminal

/-!
# Requests

What the arguments of the command line ask for (`Request.ofArgs`): a help text, the version, or
one of three actions on a file. Options of the whole program stand before the name of the action,
options of the action anywhere behind it; after two hyphens everything is plain. Wrong options are
complained about first, then help and version are given, then the other arguments are looked at.
A complaint about a name that is not known asks for the names like it (`UsageError.likely`).
-/

namespace FrontEnd

/-- What can be done with a file. -/
inductive Action
  | check | ast | tokens
  deriving DecidableEq, Repr

namespace Action

/-- The name that asks for an action. -/
def name : Action → String
  | check => "check"
  | ast => "ast"
  | tokens => "tokens"

/-- What an action does. -/
def summary : Action → String
  | check => "Check syntax of a Rucky file"
  | ast => "Show AST of a Rucky file"
  | tokens => "Show tokens of a Rucky file"

/-- All actions, in the order of their names. -/
def all : List Action := [ast, check, tokens]

/-- The action with a name. -/
def ofName? (s : String) : Option Action := all.find? fun a => a.name == s

end Action

/-- Whose usage is meant: the whole program's, or an action's. -/
inductive Scope
  | program
  | action (a : Action)
  deriving DecidableEq, Repr

namespace Scope

/-- The words that call the program. -/
def call : Scope → String
  | program => "cli"
  | action a => s!"cli {a.name}"

/-- The line that shows how to call it. -/
def usage (s : Scope) : String :=
  match s with
  | program => s!"Usage: {s.call} [OPTIONS] COMMAND [ARGS]...\n"
  | action _ => s!"Usage: {s.call} [OPTIONS] FILE\n"

/-- The text of the help. -/
def help (s : Scope) : String :=
  match s with
  | program =>
    s.usage ++ "\n  Rucky language front end - tokenize and parse source files\n\n" ++
      "Options:\n" ++
      "  --version  Show the version and exit.\n" ++
      "  --debug    Enable parser debug logging.\n" ++
      "  --help     Show this message and exit.\n\n" ++
      "Commands:\n" ++
      s!"  ast     {Action.ast.summary}\n" ++
      s!"  check   {Action.check.summary}\n" ++
      s!"  tokens  {Action.tokens.summary}\n"
  | action a =>
    s.usage ++ s!"\n  {a.summary}\n\n" ++
      "Options:\n" ++
      "  --help  Show this message and exit.\n"

end Scope

/-- The version of the program. -/
def version : String := "0.1.0"

/-- The line that names the version. -/
def versionLine : String := s!"Rucky, version {version}\n"

/-- What is wrong with the arguments. -/
inductive UsageError
  | noSuchOption (name : String) (likely : List String)
  | takesNoValue (name : String)
  | missingCommand
  | noSuchCommand (name : String) (likely : List String)
  | missingFile
  | noSuchFile (path : String)
  | isDirectory (path : String)
  | extraArguments (args : List String)
  deriving DecidableEq, Repr

namespace UsageError

/-- Asks whether one of the likely names was meant. -/
def suggestion : List String → String
  | [] => ""
  | [name] => s!" Did you mean {Text.quote name}?"
  | names =>
    let choice := ", ".intercalate (names.map Text.quote)
    s!" (Did you mean one of: {choice}?)"

/-- The wording of a usage error. -/
def message : UsageError → String
  | noSuchOption name likely => s!"No such option {Text.quote name}.{suggestion likely}"
  | takesNoValue name => s!"Option {Text.quote name} does not take a value."
  | missingCommand => "Missing command."
  | noSuchCommand name likely => s!"No such command {Text.quote name}.{suggestion likely}"
  | missingFile => "Missing argument 'FILE'."
  | noSuchFile path => s!"Invalid value for 'FILE': File {Text.quote path} does not exist."
  | isDirectory path => s!"Invalid value for 'FILE': File {Text.quote path} is a directory."
  | extraArguments args =>
    let noun := if args.length = 1 then "argument" else "arguments"
    let shown := " ".intercalate args
    s!"Got unexpected extra {noun} ({shown})"

/-- How to call, and where to find help. An option that is known needs no such hint. -/
def hint (scope : Scope) : UsageError → String
  | takesNoValue _ => ""
  | _ => scope.usage ++ s!"Try '{scope.call} --help' for help.\n\n"

/-- The whole complaint: a hint, and what is wrong. An argument in it gives no commands to a
terminal. -/
def report (scope : Scope) (e : UsageError) : String :=
  let complaint := e.hint scope ++ s!"Error: {e.message}\n"
  String.ofList (Text.Terminal.withPlainEnds (Text.Terminal.withoutCommands complaint.toList))

/-- The names that a wrong name may stand for. -/
def likely (known : List String) (name : String) : List String :=
  known.filter fun s => Text.Likeness.alike s name

/-- There is no action with a name, but perhaps one with a name like it. -/
def unknownCommand (name : String) : UsageError :=
  .noSuchCommand name (likely (Action.all.map Action.name) name)

end UsageError

/-! ## Options -/

/-- An option; none of them takes a value. -/
inductive Flag
  | version | debug | help
  deriving DecidableEq, Repr

/-- Begins with a hyphen, and is longer than that. -/
def looksLikeOption (arg : String) : Bool :=
  match arg.toList with
  | '-' :: _ :: _ => true
  | _ => false

namespace Flag

/-- Options by their names, in the order of these. -/
abbrev Known := List (String × Flag)

/-- The options of the whole program. -/
def ofProgram : Known := [("--debug", debug), ("--help", help), ("--version", version)]

/-- The options of an action. -/
def ofAction : Known := [("--help", help)]

/-- The option that an argument names. With one hyphen each letter would be an option; there is
none, so the first letter is complained about. -/
def read (known : Known) (arg : String) : Except UsageError Flag :=
  let cs := arg.toList
  let name := String.ofList (cs.takeWhile (· != '='))
  match known.lookup name with
  | some flag => if cs.contains '=' then .error (.takesNoValue name) else .ok flag
  | none =>
    match cs with
    | '-' :: '-' :: _ => .error (.noSuchOption name (UsageError.likely (known.map Prod.fst) name))
    | _ => .error (.noSuchOption (String.ofList (cs.take 2)) [])

/-- The options before the first plain argument, and the arguments from there on. -/
def readLeading (known : Known) : List String → Except UsageError (List Flag × List String)
  | [] => .ok ([], [])
  | arg :: args =>
    if arg = "--" then .ok ([], args)
    else if looksLikeOption arg then do
      let flag ← read known arg
      let (flags, rest) ← readLeading known args
      return (flag :: flags, rest)
    else .ok ([], arg :: args)

/-- All options, and the plain arguments between and behind them. -/
def readMixed (known : Known) : List String → Except UsageError (List Flag × List String)
  | [] => .ok ([], [])
  | arg :: args =>
    if arg = "--" then .ok ([], args)
    else if looksLikeOption arg then do
      let flag ← read known arg
      let (flags, rest) ← readMixed known args
      return (flag :: flags, rest)
    else do
      let (flags, rest) ← readMixed known args
      return (flags, arg :: rest)

end Flag

/-! ## Requests -/

/-- What is asked for. -/
inductive Wish
  | nothing
  | version
  | help (scope : Scope)
  | wrong (scope : Scope) (error : UsageError)
  | run (action : Action) (path : String) (extra : List String)
  deriving DecidableEq, Repr

namespace Wish

/-- The wish of the first option that asks for a text. -/
def ofFlags? (scope : Scope) : List Flag → Option Wish
  | [] => none
  | .version :: _ => some version
  | .help :: _ => some (help scope)
  | .debug :: flags => ofFlags? scope flags

/-- The wish of the arguments behind the name of an action. -/
def ofActionArgs (a : Action) (args : List String) : Wish :=
  match Flag.readMixed Flag.ofAction args with
  | .error e => wrong (.action a) e
  | .ok (flags, plain) =>
    match ofFlags? (.action a) flags with
    | some wish => wish
    | none =>
      match plain with
      | [] => wrong (.action a) .missingFile
      | path :: extra => run a path extra

/-- The wish of arguments that begin with a name of no action. Behind two hyphens it may still be
an option, which counts as one. -/
def ofUnknown (name : String) (args : List String) : Wish :=
  match Flag.readLeading Flag.ofProgram (name :: args) with
  | .error e => wrong .program e
  | .ok (flags, _) => (ofFlags? .program flags).getD (wrong .program (.unknownCommand name))

/-- The path of the file that is asked for. -/
def path? : Wish → Option String
  | run _ path _ => some path
  | _ => none

end Wish

/-- A wish, and whether all messages are to be kept from there on. They are as soon as the name of
an action is known, whatever is asked of the action. -/
structure Request where
  debug : Bool
  wish : Wish
  deriving DecidableEq, Repr

namespace Request

/-- A wish that does not come to an action. -/
def early (wish : Wish) : Request := ⟨false, wish⟩

/-- **What the arguments ask for.** -/
def ofArgs (args : List String) : Request :=
  if args.isEmpty then early .nothing
  else
    match Flag.readLeading Flag.ofProgram args with
    | .error e => early (.wrong .program e)
    | .ok (flags, plain) =>
      match Wish.ofFlags? .program flags with
      | some wish => early wish
      | none =>
        match plain with
        | [] => early (.wrong .program .missingCommand)
        | name :: rest =>
          match Action.ofName? name with
          | some a => ⟨flags.contains .debug, Wish.ofActionArgs a rest⟩
          | none => early (Wish.ofUnknown name rest)

end Request

end FrontEnd
