import FrontEnd.Proofs.Lexing.Stream

/-!
# Tokens of a text

An identifier of a text is a word that is no keyword, and an integer has a value that fits into a
signed word of 64 bits (`Token.Valid`). Nothing else can be told of the tokens of a text but that
the end comes last, and that values are decided by kinds and literals.

* `valid_of_tokenize`: all tokens of a text are valid.
* `value?_of_tokenize`: the value of a token is the one of its literal.
-/

namespace FrontEnd

open Text

/-- A word that is no keyword. -/
structure IsName (s : String) : Prop where
  letter : ∃ c r, s.toList = c :: r ∧ isLetter c = true
  word : ∀ c ∈ s.toList, isWordChar c = true
  ident : Kind.ofWord s = .ident

/-- An identifier is a name, and an integer has a value in range. -/
structure Token.Valid (t : Token) : Prop where
  ident : t.kind = .ident → IsName t.literal
  int : t.kind = .int → ∃ n : Nat, t.value? = some (n : Int) ∧ n ≤ intMax

theorem Token.valid_of_kind {t : Token} {k : Kind} (ht : t.kind = k)
    (hk : k ∉ [Kind.ident, Kind.int]) : t.Valid := by
  constructor
  · intro h
    exact absurd (ht ▸ h ▸ List.mem_cons_self) hk
  · intro h
    exact absurd (ht ▸ h ▸ List.mem_cons_of_mem _ List.mem_cons_self) hk

/-- What stands for a lexeme at any place is valid. -/
theorem Lexeme.valid_read {cs : List Char} {x : Lexeme} (hcs : cs ≠ [])
    (h : (read cs).result = .ok x) (line column : Nat) : (x.at line column).token.Valid := by
  obtain ⟨c, r, rfl⟩ := List.exists_cons_of_ne_nil hcs
  have hf := read_form c r
  generalize read (c :: r) = found at h hf
  cases hf with
  | double hd =>
    cases h
    unfold double? at hd
    split at hd
    · cases hd; exact Token.valid_of_kind (k := .eq) rfl (by decide)
    · cases hd; exact Token.valid_of_kind (k := .notEq) rfl (by decide)
    · cases hd
  | sign hk =>
    cases h
    exact Token.valid_of_kind rfl fun hm => Kind.ofSign?_notMem hk (List.mem_cons_of_mem _ hm)
  | string =>
    rcases readString_ok h with ⟨s, n, -, -, rfl⟩ | ⟨why, -, rfl⟩
    · exact Token.valid_of_kind (k := .string) rfl (by decide)
    · exact Token.valid_of_kind (k := .illegal) rfl (by decide)
  | word hl =>
    cases h
    have hw : isWordChar c = true := by simp [isWordChar, hl]
    refine ⟨fun hk => ⟨⟨c, r.takeWhile isWordChar, ?_, hl⟩, fun a ha => ?_, hk⟩, fun hk => ?_⟩
    · simp [Lexeme.at, plain, hw]
    · simp only [Lexeme.at, plain, String.toList_ofList] at ha
      exact List.all_eq_true.mp List.all_takeWhile a ha
    · exact absurd hk (Kind.ofWord_ne (by decide) _)
  | number =>
    rcases readNumber_ok h with ⟨-, rfl⟩ | ⟨hle, rfl⟩
    · exact Token.valid_of_kind (k := .illegal) rfl (by decide)
    · refine ⟨fun hk => ?_, fun _ => ⟨_, rfl, hle⟩⟩
      cases hk
  | stray =>
    cases h
    exact Token.valid_of_kind (k := .illegal) rfl (by decide)

/-- **The tokens of a text are valid**, the end apart. -/
theorem valid_of_tokenize {source : String} {us : List Token} {last : Token}
    (h : tokenize source = .ok (us ++ [last])) : ∀ t ∈ us, t.Valid := by
  intro t ht
  obtain ⟨x, hx, rfl⟩ := exists_scan_of_tokenize h ht
  obtain ⟨cs, y, hcs, hr, hs⟩ := Stream.exists_read_of_mem hx
  rw [hs]
  exact Lexeme.valid_read hcs hr _ _

/-! ## Values -/

/-- The value that goes with a literal: digits name a number, and nothing else has a value. -/
def Kind.valueOf? (k : Kind) (literal : String) : Option Int :=
  if k = .int then some (decimal literal.toList) else none

theorem Kind.valueOf?_of_ne {k : Kind} (h : k ≠ .int) (literal : String) :
    k.valueOf? literal = none := if_neg h

/-- The value of a lexeme is the one of its literal. -/
theorem Lexeme.value?_read {cs : List Char} {x : Lexeme} (hcs : cs ≠ [])
    (h : (read cs).result = .ok x) : x.value? = x.kind.valueOf? x.literal := by
  obtain ⟨c, r, rfl⟩ := List.exists_cons_of_ne_nil hcs
  have hf := read_form c r
  generalize read (c :: r) = found at h hf
  cases hf with
  | double hd =>
    cases h
    unfold double? at hd
    split at hd <;> cases hd <;> rfl
  | @sign k hk =>
    cases h
    have hne : k ≠ .int := by
      rintro rfl
      exact Kind.ofSign?_notMem hk (by decide)
    exact (Kind.valueOf?_of_ne hne _).symm
  | string => rcases readString_ok h with ⟨s, n, -, -, rfl⟩ | ⟨why, -, rfl⟩ <;> rfl
  | word =>
    cases h
    exact (Kind.valueOf?_of_ne (Kind.ofWord_ne (by decide) _) _).symm
  | number =>
    rcases readNumber_ok h with ⟨-, rfl⟩ | ⟨-, rfl⟩
    · rfl
    · rw [Kind.valueOf?, if_pos rfl, String.toList_ofList]
  | stray => cases h; rfl

theorem Stream.value?_finish (c : Cursor) : (ofCursor c).finish.token.value? = none := by
  fun_induction ofCursor c with
  | case1 c h => rfl
  | case2 c h later ih => exact ih

/-- **The value of a token is the one of its literal.** -/
theorem value?_of_tokenize {source : String} {ts : List Token} (h : tokenize source = .ok ts) :
    ∀ t ∈ ts, t.value? = t.kind.valueOf? t.literal := by
  obtain ⟨us, rfl, -⟩ := exists_of_tokenize h
  intro t ht
  rcases List.mem_append.mp ht with ht | ht
  · obtain ⟨x, hx, rfl⟩ := exists_scan_of_tokenize h ht
    obtain ⟨cs, y, hcs, hr, hs⟩ := Stream.exists_read_of_mem hx
    rw [hs]
    exact Lexeme.value?_read hcs hr
  · obtain rfl := List.mem_singleton.mp ht
    have hkind := (ends_of_tokenize h).1
    rw [Stream.value?_finish, Kind.valueOf?_of_ne (by rw [hkind]; decide)]

end FrontEnd
