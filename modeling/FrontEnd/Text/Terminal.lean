/-!
# Texts without terminal commands

A text may hold commands to a terminal, say for colours (`command?`): an opening, parameters,
signs between, and a sign that ends the command. Where the text goes to no terminal, they are
left out (`withoutCommands`), and lines end with a line feed alone (`withPlainEnds`).
-/

namespace FrontEnd.Text.Terminal

/-- Belongs to the parameters of a command: a digit, or one of six signs. -/
def isParameter (c : Char) : Bool := '0' ≤ c && c ≤ '?'

/-- Stands between the parameters of a command and its end: a space, or one of fifteen signs. -/
def isIntermediate (c : Char) : Bool := ' ' ≤ c && c ≤ '/'

/-- Ends a command: a letter, or one of eleven signs. -/
def isFinal (c : Char) : Bool := '@' ≤ c && c ≤ '~'

/-- What follows a command at the head of a text. -/
def command? : List Char → Option (List Char)
  | '\x1b' :: '[' :: r =>
    match (r.dropWhile isParameter).dropWhile isIntermediate with
    | c :: after => if isFinal c then some after else none
    | [] => none
  | _ => none

theorem length_after_command_lt {cs after : List Char} (h : command? cs = some after) :
    after.length < cs.length := by
  unfold command? at h
  split at h
  · rename_i r
    have h1 : ((r.dropWhile isParameter).dropWhile isIntermediate).length ≤ r.length :=
      ((List.dropWhile_sublist _).trans (List.dropWhile_sublist _)).length_le
    split at h
    · rename_i c a ha
      rw [ha] at h1
      split at h
      · cases h
        simp only [List.length_cons] at h1 ⊢
        omega
      · cases h
    · cases h
  · cases h

/-- **A text without the commands in it.** -/
def withoutCommands (cs : List Char) : List Char :=
  match _h : command? cs with
  | some after => withoutCommands after
  | none =>
    match cs with
    | [] => []
    | c :: r => c :: withoutCommands r
termination_by cs.length
decreasing_by
  · exact length_after_command_lt _h
  · simp

/-- A text whose lines end with a line feed alone. -/
def withPlainEnds : List Char → List Char
  | [] => []
  | '\r' :: '\n' :: r => '\n' :: withPlainEnds r
  | c :: r => c :: withPlainEnds r

end FrontEnd.Text.Terminal
