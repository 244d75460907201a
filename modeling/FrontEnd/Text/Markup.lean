import FrontEnd.Text.Emoji

/-!
# Marked-up text

In marked-up text a tag stands in square brackets and begins with a lower-case letter or one of
three signs; a backslash before it makes it plain text.

* `escape`: the marked-up text that shows a plain text, each tag in it behind a backslash.
* `runs`: the plain text between tags, with the escapes undone.
* `shown`: what a marked-up text shows, with signs for the names between colons.
-/

namespace FrontEnd.Text.Markup

/-- May follow the opening bracket of a tag. -/
def opensTag (c : Char) : Bool := ('a' ≤ c && c ≤ 'z') || c == '#' || c == '/' || c == '@'

/-- Splits off the rest of a tag, up to its closing bracket; no bracket opens inside. -/
def closing? : List Char → Option (List Char × List Char)
  | [] => none
  | ']' :: r => some ([']'], r)
  | '[' :: _ => none
  | c :: r => (closing? r).map fun p => (c :: p.1, p.2)

/-- Splits off the tag at the head of a text. -/
def tag? : List Char → Option (List Char × List Char)
  | '[' :: c :: r =>
    if opensTag c then (closing? r).map fun p => ('[' :: c :: p.1, p.2) else none
  | _ => none

theorem append_of_closing? {cs tag after : List Char} (h : closing? cs = some (tag, after)) :
    cs = tag ++ after := by
  fun_induction closing? cs generalizing tag with
  | case1 => cases h
  | case2 r => cases h; rfl
  | case3 => cases h
  | case4 c r _ _ ih =>
    obtain ⟨⟨t, a⟩, h1, h2⟩ := Option.map_eq_some_iff.1 h
    cases h2
    simp [ih h1]

/-- A tag and what follows it make up the text. -/
theorem append_of_tag? {cs tag after : List Char} (h : tag? cs = some (tag, after)) :
    cs = tag ++ after := by
  unfold tag? at h
  split at h
  · split at h
    · obtain ⟨⟨t, a⟩, h1, h2⟩ := Option.map_eq_some_iff.1 h
      cases h2
      simp [append_of_closing? h1]
    · cases h
  · cases h

theorem tag_ne_nil {cs tag after : List Char} (h : tag? cs = some (tag, after)) : tag ≠ [] := by
  unfold tag? at h
  split at h
  · split at h
    · obtain ⟨⟨t, a⟩, -, h2⟩ := Option.map_eq_some_iff.1 h
      cases h2
      simp
    · cases h
  · cases h

/-- The backslashes at the head of a text. -/
def slashes (cs : List Char) : List Char := cs.takeWhile (· == '\\')

/-- A text without the backslashes at its head. -/
def unslashed (cs : List Char) : List Char := cs.dropWhile (· == '\\')

theorem length_after_tag_lt {cs tag after : List Char}
    (h : tag? (unslashed cs) = some (tag, after)) : after.length < cs.length := by
  have h1 := congrArg List.length (append_of_tag? h)
  have h2 := List.length_pos_iff.mpr (tag_ne_nil h)
  have h3 : (unslashed cs).length ≤ cs.length := (List.dropWhile_sublist _).length_le
  simp only [List.length_append] at h1
  omega

/-- **The marked-up text that shows a plain text.** The backslashes before a tag are doubled, and
one more makes the tag plain. -/
def escape (cs : List Char) : List Char :=
  match _h : tag? (unslashed cs) with
  | some (tag, after) => slashes cs ++ slashes cs ++ '\\' :: tag ++ escape after
  | none =>
    match cs with
    | [] => []
    | c :: r => c :: escape r
termination_by cs.length
decreasing_by
  · exact length_after_tag_lt _h
  · simp

/-- A backslash before an opening bracket is dropped, where that bracket begins no tag. -/
def unbracket : List Char → List Char
  | '\\' :: '[' :: r => '[' :: unbracket r
  | c :: r => c :: unbracket r
  | [] => []

/-- The runs of plain text in a marked-up text, after a plain text that is read already, last
character first. Of the backslashes before a tag every two stand for one, and an odd one makes the
tag plain. -/
def runsFrom (plain : List Char) (cs : List Char) : List (List Char) :=
  match _h : tag? (unslashed cs) with
  | some (tag, after) =>
    let count := (slashes cs).length
    unbracket plain.reverse :: List.replicate (count / 2) '\\' ::
      (if count % 2 = 1 then [tag] else []) ++ runsFrom [] after
  | none =>
    match cs with
    | [] => [unbracket plain.reverse]
    | c :: r => runsFrom (c :: plain) r
termination_by cs.length
decreasing_by
  · exact length_after_tag_lt _h
  · simp

/-- The runs of plain text in a marked-up text. -/
def runs (cs : List Char) : List (List Char) := runsFrom [] cs

/-- **What a marked-up text shows.** A name between colons lies within one run. -/
def shown (s : String) : String := String.ofList ((runs s.toList).flatMap Emoji.drawn)

end FrontEnd.Text.Markup
