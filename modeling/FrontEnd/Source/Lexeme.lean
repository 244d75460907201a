import FrontEnd.Text.Decimal
import FrontEnd.Token.Basic

/-!
# Lexemes

A lexeme is what the head of a text reads as: its kind, its literal, and how many characters
it takes. Words and numbers are as long as they can be, a string runs to its closing quote.
Text that is no valid token still gives a lexeme, with the reason (`Anomaly`). Only numbers
cannot always be read (`ScanError`).

* `Lexeme.read`: the lexeme at the head of a text.
* `pos_length_read`: it takes at least one character of a text that is not empty.
-/

namespace FrontEnd

/-- The largest value of an integer literal, that of a signed word of 64 bits. -/
def intMax : Nat := 0x7fffffffffffffff

/-- The most digits a number is converted from. -/
def maxDigits : Nat := 4300

/-- Why a piece of text is no valid token. -/
inductive Anomaly
  | stray (c : Char)
  | outOfRange (digits : String)
  | unterminated
  | danglingEscape
  deriving DecidableEq, Repr

/-- The note that is kept of an anomaly. A text that ends after a backslash leaves none. -/
def Anomaly.message? : Anomaly → Option String
  | stray c => some s!"illegal character {Text.quote c.toString}"
  | outOfRange digits => some s!"integer literal {digits} out of range"
  | unterminated => some "unterminated string literal"
  | danglingEscape => none

/-- Why a number cannot be read. -/
inductive ScanError
  | noDigits
  | tooManyDigits (count : Nat)
  deriving DecidableEq, Repr

/-- The wording of a scan error. -/
def ScanError.message : ScanError → String
  | noDigits => "invalid literal for int() with base 10: ''"
  | tooManyDigits count =>
    s!"Exceeds the limit ({maxDigits} digits) for integer string conversion: " ++
      s!"value has {count} digits; use sys.set_int_max_str_digits() to increase the limit"

/-! ## Classes of characters -/

/-- Separates tokens. -/
def isSpace (c : Char) : Bool := c == ' ' || c == '\t' || c == '\n' || c == '\r'

/-- Begins a word: an ASCII letter or the underscore. -/
def isLetter (c : Char) : Bool := ('a' ≤ c && c ≤ 'z') || ('A' ≤ c && c ≤ 'Z') || c == '_'

/-- Goes on with a word. -/
def isWordChar (c : Char) : Bool := isLetter c || Text.isDigit c

/-! ## Reading -/

/-- What a piece of text reads as. -/
structure Lexeme where
  kind : Kind
  literal : String
  value? : Option Int
  anomaly? : Option Anomaly
  deriving DecidableEq, Repr

/-- A lexeme or an error, and the number of characters taken by it. -/
structure Reading where
  length : Nat
  result : Except ScanError Lexeme

namespace Lexeme

/-- A lexeme that is what it says. -/
def plain (kind : Kind) (literal : String) : Lexeme := ⟨kind, literal, none, none⟩

/-- A lexeme that is no valid token. -/
def wrong (literal : String) (anomaly : Anomaly) : Lexeme :=
  ⟨.illegal, literal, none, some anomaly⟩

/-- The end of the text. -/
def atEnd : Lexeme := plain .eof ""

/-- The run of word characters at the head of a text, keyword or identifier. -/
def readWord (cs : List Char) : Reading :=
  let word := cs.takeWhile isWordChar
  ⟨word.length, .ok (plain (.ofWord (String.ofList word)) (String.ofList word))⟩

/-- The run of digits at the head of a text. -/
def readNumber (cs : List Char) : Reading :=
  let digits := cs.takeWhile Text.isDigit
  ⟨digits.length,
    if digits = [] then .error .noDigits
    else if maxDigits < digits.length then .error (.tooManyDigits digits.length)
    else if intMax < Text.decimal digits then
      .ok (wrong (String.ofList digits) (.outOfRange (String.ofList digits)))
    else .ok ⟨.int, String.ofList digits, some (Text.decimal digits), none⟩⟩

/-- The character that a letter after a backslash stands for; any but three is itself. -/
def unescape : Char → Char
  | 'n' => '\n'
  | 't' => '\t'
  | 'r' => '\r'
  | c => c

/-- A text after an opening quote: the decoded contents and the number of characters up to and
with the closing quote, or why there is none. -/
inductive Body
  | closed (contents : List Char) (length : Nat)
  | unclosed (why : Anomaly)
  deriving DecidableEq, Repr

/-- A body with one more character before it. -/
def Body.push (c : Char) (taken : Nat) : Body → Body
  | .closed contents length => .closed (c :: contents) (length + taken)
  | .unclosed why => .unclosed why

/-- The body of a string: units of one character, or of a backslash and one character. -/
def body : List Char → Body
  | [] => .unclosed .unterminated
  | '"' :: _ => .closed [] 1
  | ['\\'] => .unclosed .danglingEscape
  | '\\' :: c :: r => (body r).push (unescape c) 2
  | c :: r => (body r).push c 1

/-- The string whose opening quote is the head of a text; that character is not looked at. An
unclosed string runs to the end of the text. -/
def readString (cs : List Char) : Reading :=
  match body cs.tail with
  | .closed contents length => ⟨length + 1, .ok (plain .string (String.ofList contents))⟩
  | .unclosed why => ⟨cs.tail.length + 1, .ok (wrong (String.ofList cs) why)⟩

/-- **The lexeme at the head of a text.** -/
def read : List Char → Reading
  | [] => ⟨0, .ok atEnd⟩
  | '=' :: '=' :: _ => ⟨2, .ok (plain .eq "==")⟩
  | '!' :: '=' :: _ => ⟨2, .ok (plain .notEq "!=")⟩
  | c :: r =>
    match Kind.ofSign? c with
    | some kind => ⟨1, .ok (plain kind c.toString)⟩
    | none =>
      if c = '"' then readString (c :: r)
      else if isLetter c then readWord (c :: r)
      else if Text.isDigit c then readNumber (c :: r)
      else ⟨1, .ok (wrong c.toString (.stray c))⟩

theorem length_readWord {c : Char} (h : isWordChar c = true) (r : List Char) :
    0 < (readWord (c :: r)).length := by
  simp [readWord, h]

theorem length_readNumber {c : Char} (h : Text.isDigit c = true) (r : List Char) :
    0 < (readNumber (c :: r)).length := by
  simp [readNumber, h]

theorem length_readString (cs : List Char) : 0 < (readString cs).length := by
  unfold readString
  split <;> simp

/-- **Reading takes something** of a text that is not empty. -/
theorem pos_length_read {cs : List Char} (h : cs ≠ []) : 0 < (read cs).length := by
  unfold read
  split
  · exact absurd rfl h
  · simp
  · simp
  · rename_i c r _ _
    cases Kind.ofSign? c with
    | some kind => simp
    | none =>
      simp only
      split
      · exact length_readString _
      · split
        · rename_i hl
          exact length_readWord (by simp [isWordChar, hl]) r
        · split
          · rename_i hd
            exact length_readNumber hd r
          · simp

end Lexeme

end FrontEnd
