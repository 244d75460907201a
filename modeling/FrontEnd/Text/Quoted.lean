import FrontEnd.Text.Printable

/-!
# Quoted texts

A text between quotes, on one line and in printable characters only (`quote`). The quotes are
single, or double when that saves escaping. The quote in use and the backslash are escaped by a
backslash; line feed, carriage return and tab have letters; any other character that does not
print is written by its code in hexadecimal.
-/

namespace FrontEnd.Text

/-- The lower-case hexadecimal digits of `n`, the last `width` of them. -/
def hexDigits : Nat → Nat → List Char
  | 0, _ => []
  | width + 1, n => hexDigits width (n / 16) ++ [Nat.digitChar (n % 16)]

theorem length_hexDigits (width n : Nat) : (hexDigits width n).length = width := by
  induction width generalizing n with
  | zero => rfl
  | succ width ih => simp [hexDigits, ih]

/-- A character by its code: two, four or eight digits. -/
def escapeCode (c : Char) : List Char :=
  let n := c.toNat
  if n < 0x100 then '\\' :: 'x' :: hexDigits 2 n
  else if n < 0x10000 then '\\' :: 'u' :: hexDigits 4 n
  else '\\' :: 'U' :: hexDigits 8 n

/-- A character as it stands between quotes `mark`. -/
def escapeIn (mark c : Char) : List Char :=
  if c = mark ∨ c = '\\' then ['\\', c]
  else if c = '\t' then ['\\', 't']
  else if c = '\n' then ['\\', 'n']
  else if c = '\r' then ['\\', 'r']
  else if isPrintable c then [c]
  else escapeCode c

/-- Double quotes only where the text has a single quote and no double one. -/
def quoteMark (s : List Char) : Char :=
  if '\'' ∈ s ∧ '"' ∉ s then '"' else '\''

/-- The characters of a text between quotes. -/
def quoteChars (s : List Char) : List Char :=
  quoteMark s :: s.flatMap (escapeIn (quoteMark s)) ++ [quoteMark s]

/-- **A text between quotes.** -/
def quote (s : String) : String := String.ofList (quoteChars s.toList)

end FrontEnd.Text
