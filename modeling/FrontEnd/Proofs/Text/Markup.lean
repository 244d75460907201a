import FrontEnd.Text.Markup
import Mathlib.Data.List.TakeWhile
import Mathlib.Logic.Function.Basic

/-!
# Escaping marked-up text loses nothing

Escaping puts backslashes before the tags of a text and changes nothing else. So the tags of the
escaped text are those of the text, and from the backslashes before each of them it can be told how
many there were: of an odd number, the half of what is left without the last one.

* `tag?_escape`: a tag stays the tag that it is, behind an odd number of backslashes.
* `tag?_escape_eq_none`: no tag comes into being.
* `escape_injective`: different texts have different escaped texts.
-/

namespace FrontEnd.Text.Markup

variable {c : Char} {cs ds r tag after : List Char}

/-! ## Tags -/

theorem tag_eq_cons (h : tag? cs = some (tag, after)) : ∃ t, tag = '[' :: t := by
  unfold tag? at h
  split at h
  · split at h
    · obtain ⟨p, -, hp⟩ := Option.map_eq_some_iff.mp h
      cases hp
      exact ⟨_, rfl⟩
    · cases h
  · cases h

theorem closing?_of_ne (hclose : c ≠ ']') (hopen : c ≠ '[') (r : List Char) :
    closing? (c :: r) = (closing? r).map fun p => (c :: p.1, p.2) := by
  rw [closing?]
  · exact hclose
  · exact hopen

theorem closing?_append (h : closing? cs = some (tag, after)) (more : List Char) :
    closing? (tag ++ more) = some (tag, more) := by
  fun_induction closing? cs generalizing tag after with
  | case1 => cases h
  | case2 r => cases h; rfl
  | case3 => cases h
  | case4 c r hclose hopen ih =>
    obtain ⟨p, hp, he⟩ := Option.map_eq_some_iff.mp h
    cases he
    rw [List.cons_append, closing?_of_ne hclose hopen, ih hp]
    rfl

/-- **A tag is a tag**, whatever follows it. -/
theorem tag?_append (h : tag? cs = some (tag, after)) (more : List Char) :
    tag? (tag ++ more) = some (tag, more) := by
  unfold tag? at h
  split at h
  · split at h
    · rename_i hopens
      obtain ⟨p, hp, he⟩ := Option.map_eq_some_iff.mp h
      cases he
      rw [List.cons_append, List.cons_append, tag?, if_pos hopens, closing?_append hp]
      rfl
    · cases h
  · cases h

theorem tag?_of_ne (hc : c ≠ '[') (r : List Char) : tag? (c :: r) = none := by
  unfold tag?
  split
  · rename_i h
    exact absurd (List.cons.inj h).1 hc
  · rfl

/-! ## Backslashes -/

theorem slashes_eq_replicate (cs : List Char) :
    slashes cs = List.replicate (slashes cs).length '\\' := by
  refine List.eq_replicate_of_mem fun c hc => ?_
  simpa using List.mem_takeWhile_imp hc

theorem slashes_append_unslashed (cs : List Char) : slashes cs ++ unslashed cs = cs :=
  List.takeWhile_append_dropWhile

/-- Backslashes before a bracket are all there are at the head. -/
theorem slashes_replicate (n : Nat) (r : List Char) :
    slashes (List.replicate n '\\' ++ '[' :: r) = List.replicate n '\\' ∧
      unslashed (List.replicate n '\\' ++ '[' :: r) = '[' :: r := by
  induction n with
  | zero => exact ⟨rfl, rfl⟩
  | succ n ih =>
    refine ⟨?_, ih.2⟩
    exact congrArg ('\\' :: ·) ih.1

theorem unslashed_of_ne (hc : c ≠ '\\') (r : List Char) : unslashed (c :: r) = c :: r :=
  List.dropWhile_cons_of_neg (by simpa using hc)

theorem closing?_replicate (n : Nat) (r : List Char) :
    closing? (List.replicate n '\\' ++ '[' :: r) = none := by
  induction n with
  | zero => rfl
  | succ n ih =>
    rw [List.replicate_succ, List.cons_append, closing?_of_ne (by decide) (by decide), ih]
    rfl

/-! ## What escaping does -/

theorem escape_nil : escape [] = [] := by
  rw [escape]
  rfl

theorem escape_cons (h : tag? (unslashed (c :: r)) = none) : escape (c :: r) = c :: escape r := by
  rw [escape]
  split
  · rename_i htag
    cases h.symm.trans htag
  · rfl

/-- Before a tag there are two backslashes for each one, and one more. -/
theorem escape_of_tag (h : tag? (unslashed cs) = some (tag, after)) :
    escape cs = List.replicate (2 * (slashes cs).length + 1) '\\' ++ (tag ++ escape after) := by
  rw [escape]
  split
  · rename_i htag
    cases h.symm.trans htag
    rw [slashes_eq_replicate cs, List.replicate_append_replicate, List.length_replicate,
      Nat.two_mul, List.replicate_succ']
    simp
  · rename_i hnone
    cases h.symm.trans hnone

/-- **A tag stays the tag that it is**, and what follows it is escaped in the same way. -/
theorem tag?_escape (h : tag? (unslashed cs) = some (tag, after)) :
    (slashes (escape cs)).length = 2 * (slashes cs).length + 1 ∧
      tag? (unslashed (escape cs)) = some (tag, escape after) := by
  obtain ⟨t, rfl⟩ := tag_eq_cons h
  obtain ⟨hslashes, hrest⟩ :=
    slashes_replicate (2 * (slashes cs).length + 1) (t ++ escape after)
  have hescape := escape_of_tag h
  rw [List.cons_append] at hescape
  rw [hescape, hslashes, hrest]
  exact ⟨List.length_replicate, tag?_append h (escape after)⟩

/-- If no tag can close in a text, none can in the escaped text. -/
theorem closing?_escape_eq_none (h : closing? cs = none) : closing? (escape cs) = none := by
  induction cs with
  | nil =>
    rw [escape_nil]
    rfl
  | cons c r ih =>
    cases htag : tag? (unslashed (c :: r)) with
    | some p =>
      -- the bracket of that tag comes first, and only backslashes before it
      obtain ⟨tag, after⟩ := p
      obtain ⟨t, rfl⟩ := tag_eq_cons htag
      rw [escape_of_tag htag]
      exact closing?_replicate _ _
    | none =>
      rw [escape_cons htag]
      by_cases hclose : c = ']'
      · subst hclose
        cases h
      by_cases hopen : c = '['
      · subst hopen
        rfl
      rw [closing?_of_ne hclose hopen] at h ⊢
      rw [ih (Option.map_eq_none_iff.mp h)]
      rfl

/-- **No tag comes into being.** -/
theorem tag?_escape_eq_none (h : tag? (unslashed cs) = none) :
    tag? (unslashed (escape cs)) = none := by
  induction cs with
  | nil =>
    rw [escape_nil]
    rfl
  | cons c r ih =>
    rw [escape_cons h]
    by_cases hslash : c = '\\'
    · subst hslash
      exact ih h
    rw [unslashed_of_ne hslash] at h ⊢
    by_cases hopen : c = '['
    · subst hopen
      cases htag : tag? (unslashed r) with
      | some p =>
        -- the bracket stands before a backslash now, which opens no tag
        rw [escape_of_tag htag]
        rfl
      | none =>
        cases r with
        | nil =>
          rw [escape_nil]
          rfl
        | cons d r =>
          rw [escape_cons htag]
          rw [tag?] at h ⊢
          split
          · rename_i hd
            rw [if_pos hd] at h
            rw [closing?_escape_eq_none (Option.map_eq_none_iff.mp h)]
            rfl
          · rfl
    · exact tag?_of_ne hopen _

/-- A text begins with a tag, or backslashes and a tag, if the escaped text does. -/
theorem exists_tag_of_escape {p : List Char × List Char}
    (h : tag? (unslashed (escape cs)) = some p) :
    ∃ tag after, tag? (unslashed cs) = some (tag, after) := by
  cases htag : tag? (unslashed cs) with
  | some q => exact ⟨q.1, q.2, rfl⟩
  | none => cases h.symm.trans (tag?_escape_eq_none htag)

/-- **Different texts** have different escaped texts. -/
theorem escape_injective : Function.Injective escape := by
  intro cs ds h
  induction hn : cs.length using Nat.strongRecOn generalizing cs ds with
  | ind n ih =>
    subst hn
    cases htag : tag? (unslashed cs) with
    | some p =>
      obtain ⟨tag, after⟩ := p
      obtain ⟨hlength, hescape⟩ := tag?_escape htag
      rw [h] at hescape hlength
      obtain ⟨tag', after', htag'⟩ := exists_tag_of_escape hescape
      obtain ⟨hlength', hescape'⟩ := tag?_escape htag'
      obtain ⟨rfl, hafter⟩ := Prod.mk.inj (Option.some.inj (hescape.symm.trans hescape'))
      have hshorter : after.length < cs.length := length_after_tag_lt htag
      obtain rfl := ih _ hshorter hafter rfl
      have hslashes : slashes cs = slashes ds := by
        rw [slashes_eq_replicate cs, slashes_eq_replicate ds,
          show (slashes cs).length = (slashes ds).length by omega]
      rw [← slashes_append_unslashed cs, ← slashes_append_unslashed ds, append_of_tag? htag,
        append_of_tag? htag', hslashes]
    | none =>
      have htag' : tag? (unslashed ds) = none := by
        cases hds : tag? (unslashed ds) with
        | none => rfl
        | some p =>
          obtain ⟨tag, after⟩ := p
          have hescape := (tag?_escape hds).2
          rw [← h] at hescape
          obtain ⟨_, _, htag'⟩ := exists_tag_of_escape hescape
          cases htag.symm.trans htag'
      cases cs with
      | nil =>
        cases ds with
        | nil => rfl
        | cons d s =>
          rw [escape_nil, escape_cons htag'] at h
          cases h
      | cons c r =>
        cases ds with
        | nil =>
          rw [escape_nil, escape_cons htag] at h
          cases h
        | cons d s =>
          rw [escape_cons htag, escape_cons htag'] at h
          obtain ⟨rfl, hlater⟩ := List.cons.inj h
          rw [ih r.length (Nat.lt_succ_self _) hlater rfl]

end FrontEnd.Text.Markup
