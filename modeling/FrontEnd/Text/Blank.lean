import FrontEnd.Text.Ranges

/-!
# Blank characters

The characters that stand for white space in running text, in any script (`isBlank`), and
a text without those at its ends (`trimmed`). The lexical grammar has a smaller set of its own.
-/

namespace FrontEnd.Text

/-- The code points of white space: controls that separate, and the separators of every script. -/
def blanks : Ranges := ⟨[
  (0x9, 0xD), (0x1C, 0x20), (0x85, 0x85), (0xA0, 0xA0), (0x1680, 0x1680), (0x2000, 0x200A),
  (0x2028, 0x2029), (0x202F, 0x202F), (0x205F, 0x205F), (0x3000, 0x3000)]⟩

/-- White space in some script. -/
def isBlank (c : Char) : Bool := blanks.contains c

/-- The text without the blanks at its ends. -/
def trimmed (s : String) : String :=
  String.ofList ((s.toList.dropWhile isBlank).reverse.dropWhile isBlank).reverse

end FrontEnd.Text
