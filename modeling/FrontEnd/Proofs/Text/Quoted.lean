import FrontEnd.Text.Quoted
import Mathlib.Algebra.Group.Nat.Defs
import Mathlib.Logic.Function.Basic

/-!
# Quoted texts delimit themselves

Where a quoted text ends can be seen from the text itself, whatever comes behind it: the quote in
use never stands between its quotes without a backslash, and each escape says where it ends. So two
texts are written in the same way only if they are the same.

* `Escape.unique`: an escape stands for one character, and ends at one place.
* `quoteChars_delimits`: a quoted text stands for one text, and ends at one place.
* `quote_injective`: different texts have different quoted texts.
-/

namespace FrontEnd

/-- **A way to write values that delimits them**: a text that begins with a written value begins
with no other one, and goes on in one way. -/
def Delimits {α : Type} (write : α → List Char) : Prop :=
  ∀ ⦃a b : α⦄ ⦃r r' : List Char⦄, write a ++ r = write b ++ r' → a = b ∧ r = r'

theorem Delimits.injective {α : Type} {write : α → List Char} (h : Delimits write) :
    Function.Injective write := by
  intro a b hab
  have happend : write a ++ [] = write b ++ [] := by rw [hab]
  exact (h happend).1

namespace Text

variable {mark c d : Char} {w x u v s t r r' : List Char}

/-! ## Codes -/

theorem digitChar_injective {i j : Nat} (hi : i < 16) (hj : j < 16)
    (h : Nat.digitChar i = Nat.digitChar j) : i = j := by
  have hall : ∀ a : Fin 16, ∀ b : Fin 16, Nat.digitChar a = Nat.digitChar b → a = b := by decide
  exact Fin.mk.inj (hall ⟨i, hi⟩ ⟨j, hj⟩ h)

/-- **Digits name one number**, if there are enough of them. -/
theorem hexDigits_injective {width n m : Nat} (hn : n < 16 ^ width) (hm : m < 16 ^ width)
    (h : hexDigits width n = hexDigits width m) : n = m := by
  induction width generalizing n m with
  | zero => omega
  | succ width ih =>
    rw [Nat.pow_succ] at hn hm
    obtain ⟨hhigh, hlow⟩ := List.append_inj' h rfl
    have hdiv : n / 16 = m / 16 := ih (by omega) (by omega) hhigh
    have hmod : n % 16 = m % 16 :=
      digitChar_injective (by omega) (by omega) (List.singleton_inj.mp hlow)
    omega

/-! ## Escapes -/

/-- The letters behind a backslash, and the characters that they stand for. -/
def letters (mark : Char) : List (Char × Char) :=
  [(mark, mark), ('\\', '\\'), ('t', '\t'), ('n', '\n'), ('r', '\r')]

/-- The letters behind a backslash before the digits of a code, and how many digits come. -/
def codes : List (Char × Nat) := [('x', 2), ('u', 4), ('U', 8)]

/-- **The ways to write a character** between quotes: as itself, by a letter, or by its code. -/
inductive Escape (mark c : Char) : List Char → Prop
  | plain : c ≠ mark → c ≠ '\\' → Escape mark c [c]
  | letter {k : Char} : (k, c) ∈ letters mark → Escape mark c ['\\', k]
  | code {k : Char} {width : Nat} : (k, width) ∈ codes → c.toNat < 16 ^ width →
      Escape mark c ('\\' :: k :: hexDigits width c.toNat)

/-- The characters that may stand around a text. -/
def IsMark (mark : Char) : Prop := mark = '\'' ∨ mark = '"'

theorem isMark_quoteMark (s : List Char) : IsMark (quoteMark s) := by
  unfold quoteMark
  split
  · exact Or.inr rfl
  · exact Or.inl rfl

theorem escape_escapeCode (mark c : Char) : Escape mark c (escapeCode c) := by
  have hc : c.toNat < 0x110000 := by
    rcases c.valid with h | h
    · exact Nat.lt_trans h (by decide)
    · exact h.2
  unfold escapeCode
  dsimp only
  split
  · rename_i h
    exact .code (by simp [codes]) h
  · split
    · rename_i h
      exact .code (by simp [codes]) h
    · exact .code (by simp [codes]) (Nat.lt_trans hc (by decide))

/-- Each character is written in one of these ways. -/
theorem escape_escapeIn (mark c : Char) : Escape mark c (escapeIn mark c) := by
  unfold escapeIn
  split
  · rename_i h
    rcases h with rfl | rfl
    · exact .letter (by simp [letters])
    · exact .letter (by simp [letters])
  · rename_i h
    obtain ⟨hmark, hslash⟩ := not_or.mp h
    split
    · rename_i ht
      exact .letter (by simp [letters, ht])
    · split
      · rename_i hn
        exact .letter (by simp [letters, hn])
      · split
        · rename_i hr
          exact .letter (by simp [letters, hr])
        · split
          · exact .plain hmark hslash
          · exact escape_escapeCode mark c

/-- A letter stands for one character, and for no code. -/
theorem letters_functional (hm : IsMark mark) :
    (∀ p ∈ letters mark, ∀ q ∈ letters mark, p.1 = q.1 → p.2 = q.2) ∧
      ∀ p ∈ letters mark, ∀ q ∈ codes, p.1 ≠ q.1 := by
  rcases hm with rfl | rfl <;> decide

theorem codes_functional : ∀ p ∈ codes, ∀ q ∈ codes, p.1 = q.1 → p.2 = q.2 := by decide

/-- **An escape stands for one character**, and ends at one place. -/
theorem Escape.unique (hm : IsMark mark) (h : Escape mark c w) (h' : Escape mark d x)
    (he : w ++ u = x ++ v) : c = d ∧ u = v := by
  obtain ⟨hletter, hcode⟩ := letters_functional hm
  cases h with
  | plain _ hc =>
    -- only a character that is written as itself begins without a backslash
    cases h' with
    | plain => exact List.cons.inj he
    | letter | code => exact absurd (List.cons.inj he).1 hc
  | @letter k hk =>
    cases h' with
    | plain _ hd => exact absurd (List.cons.inj he).1.symm hd
    | @letter k' hk' =>
      obtain ⟨rfl, rfl⟩ := List.cons.inj (List.cons.inj he).2
      exact ⟨hletter _ hk _ hk' rfl, rfl⟩
    | code hk' => exact absurd (List.cons.inj (List.cons.inj he).2).1 (hcode _ hk _ hk')
  | @code k width hk hc =>
    cases h' with
    | plain _ hd => exact absurd (List.cons.inj he).1.symm hd
    | letter hk' => exact absurd (List.cons.inj (List.cons.inj he).2).1.symm (hcode _ hk' _ hk)
    | @code k' width' hk' hd =>
      obtain ⟨rfl, hdigits⟩ := List.cons.inj (List.cons.inj he).2
      obtain rfl : width = width' := codes_functional _ hk _ hk' rfl
      obtain ⟨hnumber, rfl⟩ := List.append_inj hdigits (by simp only [length_hexDigits])
      exact ⟨Char.toNat_inj.mp (hexDigits_injective hc hd hnumber), rfl⟩

/-- No escape begins with the quote in use. -/
theorem Escape.head_ne (hm : IsMark mark) (h : Escape mark c w) : w.head? ≠ some mark := by
  have hslash : '\\' ≠ mark := by rcases hm with rfl | rfl <;> decide
  cases h with
  | plain hc _ => simpa using hc
  | letter | code => simpa using hslash

/-! ## Quoted texts -/

/-- What stands between quotes ends at the first of them that has no backslash. -/
theorem flatMap_escapeIn_delimits (hm : IsMark mark)
    (h : s.flatMap (escapeIn mark) ++ mark :: r = t.flatMap (escapeIn mark) ++ mark :: r') :
    s = t ∧ r = r' := by
  have hne (a : Char) (more : List Char) (rest : List Char) :
      mark :: rest ≠ (escapeIn mark a ++ more) := by
    intro he
    have ha := escape_escapeIn mark a
    refine ha.head_ne hm ?_
    cases hw : escapeIn mark a with
    | nil =>
      rw [hw] at ha
      cases ha
    | cons b w =>
      rw [hw] at he
      exact congrArg some (List.cons.inj he).1.symm
  induction s generalizing t with
  | nil =>
    cases t with
    | nil => exact ⟨rfl, (List.cons.inj h).2⟩
    | cons b t =>
      rw [List.flatMap_cons, List.append_assoc] at h
      exact absurd h (hne b _ r)
  | cons a s ih =>
    rw [List.flatMap_cons, List.append_assoc] at h
    cases t with
    | nil => exact absurd h.symm (hne a _ r')
    | cons b t =>
      rw [List.flatMap_cons, List.append_assoc] at h
      obtain ⟨rfl, hlater⟩ := (escape_escapeIn mark a).unique hm (escape_escapeIn mark b) h
      obtain ⟨rfl, rfl⟩ := ih hlater
      exact ⟨rfl, rfl⟩

/-- **A quoted text delimits itself.** -/
theorem quoteChars_delimits : Delimits quoteChars := by
  intro s t r r' h
  simp only [quoteChars, List.cons_append, List.append_assoc] at h
  obtain ⟨hmark, hbody⟩ := List.cons.inj h
  rw [← hmark] at hbody
  exact flatMap_escapeIn_delimits (isMark_quoteMark s) hbody

theorem quote_delimits : Delimits fun s : String => (quote s).toList := by
  intro s t r r' h
  simp only [quote, String.toList_ofList] at h
  obtain ⟨hchars, hr⟩ := quoteChars_delimits h
  exact ⟨String.toList_inj.mp hchars, hr⟩

/-- **Different texts** have different quoted texts. -/
theorem quote_injective : Function.Injective quote := by
  intro s t h
  exact quote_delimits.injective (congrArg String.toList h)

end Text

end FrontEnd
