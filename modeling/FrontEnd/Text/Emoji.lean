import FrontEnd.Text.Blank
import FrontEnd.Text.Emoji.People
import FrontEnd.Text.Emoji.Pictures
import FrontEnd.Text.Emoji.Regions
import FrontEnd.Text.Emoji.Selector
import FrontEnd.Text.Emoji.Symbols

/-!
# Emoji by name

A name between two colons stands for a sign. The names are those of the tables, the names of
regions for their flags, and the names of people with a skin tone (`sign?`). Letters count in
either case, and an ending of the name may ask for the sign as text or as a picture
(`selected?`).

* `drawn`: a text with the signs that its names stand for. A name that is not known is left as
  it is.
-/

namespace FrontEnd.Text.Emoji

/-! ## Tables -/

/-- The words of each line of a table, the first apart. -/
def entries (lines : String) : List (String × List String) :=
  (lines.splitOn "\n").filterMap fun line =>
    match (line.splitOn " ").filter (· ≠ "") with
    | [] => none
    | first :: names => some (first, names)

/-- The first word of the line that has a name. -/
def lookup? (table : List (String × List String)) (name : List Char) : Option String :=
  (table.find? fun entry => entry.2.contains (String.ofList name)).map Prod.fst

/-- The value of hexadecimal digits. -/
def hexValue (digits : String) : Nat :=
  digits.toList.foldl
    (fun n c => n * 16 + if c.isDigit then c.toNat - '0'.toNat else c.toNat - 'A'.toNat + 10) 0

/-- The characters with the given code points, which stand between plus signs. -/
def ofCodes (codes : String) : List Char :=
  (codes.splitOn "+").map fun digits => Char.ofNat (hexValue digits)

/-- The signs that have one form only. -/
def plain : List (String × List String) := entries symbolLines ++ entries pictureLines

/-- The signs that have skin tones. -/
def people : List (String × List String) := entries peopleLines

/-- The regions that have flags. -/
def regions : List (String × List String) := entries regionLines

/-! ## Names -/

/-- A text without an ending. -/
def withoutEnd? (ending cs : List Char) : Option (List Char) :=
  if ending.isSuffixOf cs then some (cs.take (cs.length - ending.length)) else none

/-- The skin tones: the endings of their names, and the signs that follow a person. -/
def tones : List (String × Char) := [
  ("_light_skin_tone", Char.ofNat 0x1F3FB), ("_medium-light_skin_tone", Char.ofNat 0x1F3FC),
  ("_medium_skin_tone", Char.ofNat 0x1F3FD), ("_medium-dark_skin_tone", Char.ofNat 0x1F3FE),
  ("_dark_skin_tone", Char.ofNat 0x1F3FF)]

/-- A person in a skin tone. The tone stands behind the first sign, and shows a picture anyway. -/
def inTone (tone : Char) : List Char → List Char
  | [] => []
  | c :: r => c :: tone :: r.dropWhile (· == asPicture)

/-- The sign of a name that ends in a skin tone. -/
def person? (name : List Char) : Option (List Char) :=
  tones.findSome? fun tone => do
    let codes ← lookup? people (← withoutEnd? tone.1.toList name)
    return inTone tone.2 (ofCodes codes)

/-- The flag of a region, spelled in letters of its own. -/
def flag (letters : String) : List Char :=
  letters.toList.map fun c => Char.ofNat (0x1F1E6 + (c.toNat - 'A'.toNat))

/-- The words that may stand before the name of a region. -/
def flagWords : List Char := "flag_for_".toList

/-- The flag of the region with a name. -/
def flag? (name : List Char) : Option (List Char) :=
  let region := if flagWords.isPrefixOf name then name.drop flagWords.length else name
  (lookup? regions region).map flag

/-- **The sign of a name.** -/
def sign? (name : List Char) : Option (List Char) :=
  ((lookup? plain name <|> lookup? people name).map ofCodes) <|> person? name <|> flag? name

/-- A letter in lower case. Names have letters of the western alphabet only, and two of these
are also written by signs of units. -/
def lowered (c : Char) : Char :=
  if 'A' ≤ c ∧ c ≤ 'Z' ∨ 'À' ≤ c ∧ c ≤ 'Þ' ∧ c ≠ '×' then Char.ofNat (c.toNat + 0x20)
  else if c = '\u212a' then 'k'
  else if c = '\u212b' then 'å'
  else c

/-- The sign of a name as it is written, in any case and with an ending that selects its form. -/
def selected? (written : List Char) : Option (List Char) :=
  match withoutEnd? "-text".toList written, withoutEnd? "-emoji".toList written with
  | some name, _ => (sign? (name.map lowered)).map (· ++ [asText])
  | none, some name => (sign? (name.map lowered)).map (· ++ [asPicture])
  | none, none => sign? (written.map lowered)

/-! ## Texts -/

/-- May stand in a name. -/
def isNameSign (c : Char) : Bool := c != ':' && !isBlank c

/-- Splits off a name between colons at the head of a text. -/
def name? : List Char → Option (List Char × List Char)
  | ':' :: r =>
    match r.dropWhile isNameSign with
    | ':' :: after => some (r.takeWhile isNameSign, after)
    | _ => none
  | _ => none

theorem length_after_name_lt {cs name after : List Char} (h : name? cs = some (name, after)) :
    after.length < cs.length := by
  unfold name? at h
  split at h
  · rename_i r
    have h1 : (r.dropWhile isNameSign).length ≤ r.length := (List.dropWhile_sublist _).length_le
    split at h
    · rename_i a ha
      cases h
      rw [ha] at h1
      simp only [List.length_cons] at h1 ⊢
      omega
    · cases h
  · cases h

/-- **A text with the signs that its names stand for.** -/
def drawn (cs : List Char) : List Char :=
  match _h : name? cs with
  | some (name, after) => (selected? name).getD (':' :: name ++ [':']) ++ drawn after
  | none =>
    match cs with
    | [] => []
    | c :: r => c :: drawn r
termination_by cs.length
decreasing_by
  · exact length_after_name_lt _h
  · simp

end FrontEnd.Text.Emoji
