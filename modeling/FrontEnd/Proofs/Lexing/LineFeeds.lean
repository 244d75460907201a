import FrontEnd.Command.Answer
import FrontEnd.Proofs.Lexing.Munch
import Mathlib.Data.List.Induction

/-!
# Ends of lines and tokens

A text in which each carriage return has a line feed behind it (`Paired`) loses them all when its
lines get to end with a line feed alone. No lexeme but a string has a carriage return in it, and no
line has one before its end. So the text has the same tokens at the same places before and after
that, and only what strings say can change.

* `place_withLineFeeds`: lines and columns.
* `Longest.withLineFeeds`: a longest lexeme stays the longest one.
* `Munches.withLineFeeds`: the text is taken apart in the same way.
* `tokenize_withLineFeeds`: its tokens.
-/

namespace FrontEnd

open Text

/-- **Each carriage return has a line feed behind it.** -/
inductive Paired : List Char → Prop
  | nil : Paired []
  | feed {r : List Char} : Paired r → Paired ('\r' :: '\n' :: r)
  | plain {c : Char} {r : List Char} : c ≠ '\r' → Paired r → Paired (c :: r)

variable {c : Char} {cs u v w r text trail : List Char} {x : Sense} {ps : List Span}

/-! ## Carriage returns with a line feed behind them -/

theorem Paired.exists_feed (h : Paired ('\r' :: r)) : ∃ r', r = '\n' :: r' ∧ Paired r' := by
  cases h with
  | feed hr => exact ⟨_, rfl, hr⟩
  | plain hc => exact absurd rfl hc

theorem Paired.tail (hc : c ≠ '\r') (h : Paired (c :: r)) : Paired r := by
  cases h with
  | feed => exact absurd rfl hc
  | plain _ hr => exact hr

theorem paired_iff : Paired cs ↔ ∀ u v, cs = u ++ '\r' :: v → v.head? = some '\n' := by
  constructor
  · intro h
    induction h with
    | nil =>
      intro u v he
      exact absurd he.symm (List.append_ne_nil_of_right_ne_nil u (List.cons_ne_nil _ _))
    | feed _ ih =>
      rintro (_ | ⟨a, _ | ⟨b, u⟩⟩) v he
      · obtain ⟨-, rfl⟩ := List.cons.inj he
        rfl
      · cases he
      · exact ih u v (List.cons.inj (List.cons.inj he).2).2
    | plain hc _ ih =>
      rintro (_ | ⟨a, u⟩) v he
      · exact absurd (List.cons.inj he).1 hc
      · exact ih u v (List.cons.inj he).2
  · intro h
    induction cs with
    | nil => exact .nil
    | cons c r ih =>
      have hr : Paired r := ih fun u v he => h (c :: u) v (by rw [he]; rfl)
      by_cases hc : c = '\r'
      · subst hc
        obtain ⟨r, rfl⟩ := List.head?_eq_some_iff.mp (h [] r rfl)
        exact .feed (hr.tail (by decide))
      · exact .plain hc hr

/-- A text is cut in two between a carriage return and its line feed, or both parts are paired. -/
theorem Paired.split (h : Paired (u ++ v)) (hcut : v.head? = some '\n' → u.getLast? ≠ some '\r') :
    Paired u ∧ Paired v := by
  rw [paired_iff] at h
  constructor
  · refine paired_iff.mpr fun a b he => ?_
    have hb := h a (b ++ v) (by rw [he]; simp)
    cases b with
    | nil => exact absurd (by rw [he]; simp) (hcut hb)
    | cons => exact hb
  · exact paired_iff.mpr fun a b he => h (u ++ a) b (by rw [he, List.append_assoc])

theorem Paired.append (hu : Paired u) (hv : Paired v) : Paired (u ++ v) := by
  induction hu with
  | nil => exact hv
  | feed _ ih => exact .feed ih
  | plain hc _ ih => exact .plain hc ih

/-! ## Lines that end with a line feed -/

/-- The text with a line feed for each end of a line. -/
def feedLines (s : String) : String := String.ofList (withLineFeeds s.toList)

theorem withLineFeeds_feed (r : List Char) :
    withLineFeeds ('\r' :: '\n' :: r) = '\n' :: withLineFeeds r := rfl

theorem withLineFeeds_plain (hc : c ≠ '\r') (r : List Char) :
    withLineFeeds (c :: r) = c :: withLineFeeds r := by
  rw [withLineFeeds]
  · rintro r' rfl
    exact absurd rfl hc
  · rintro rfl
    exact absurd rfl hc

theorem withLineFeeds_append (hu : Paired u) (v : List Char) :
    withLineFeeds (u ++ v) = withLineFeeds u ++ withLineFeeds v := by
  induction hu with
  | nil => rfl
  | feed _ ih =>
    rw [List.cons_append, List.cons_append, withLineFeeds_feed, withLineFeeds_feed, ih]
    rfl
  | plain hc _ ih =>
    rw [List.cons_append, withLineFeeds_plain hc, withLineFeeds_plain hc, ih]
    rfl

theorem withLineFeeds_of_notMem (h : '\r' ∉ cs) : withLineFeeds cs = cs := by
  induction cs with
  | nil => rfl
  | cons c r ih =>
    obtain ⟨hc, hr⟩ := not_or.mp (List.mem_cons.not.mp h)
    rw [withLineFeeds_plain (Ne.symm hc), ih hr]

/-- The text begins as before, or with a line feed. -/
theorem head?_withLineFeeds (hc : c ∈ (withLineFeeds cs).head?) :
    c = '\n' ∨ c ∈ cs.head? := by
  unfold withLineFeeds at hc
  split at hc
  · cases hc
  · exact Or.inl (Option.mem_some.mp hc).symm
  · exact Or.inl (Option.mem_some.mp hc).symm
  · exact Or.inr hc

/-- The space at the head of a text is dropped before its lines end with a line feed, or after. -/
theorem space_withLineFeeds (h : Paired cs) :
    (withLineFeeds cs).takeWhile isSpace = withLineFeeds (cs.takeWhile isSpace) ∧
      (withLineFeeds cs).dropWhile isSpace = withLineFeeds (cs.dropWhile isSpace) := by
  induction h with
  | nil => exact ⟨rfl, rfl⟩
  | feed _ ih => exact ⟨congrArg (List.cons '\n') ih.1, ih.2⟩
  | @plain c r hc _ ih =>
    rw [withLineFeeds_plain hc]
    by_cases hs : isSpace c = true
    · rw [List.takeWhile_cons_of_pos hs, List.takeWhile_cons_of_pos hs,
        List.dropWhile_cons_of_pos hs, List.dropWhile_cons_of_pos hs, withLineFeeds_plain hc, ih.1]
      exact ⟨rfl, ih.2⟩
    · rw [List.takeWhile_cons_of_neg hs, List.takeWhile_cons_of_neg hs,
        List.dropWhile_cons_of_neg hs, List.dropWhile_cons_of_neg hs, withLineFeeds_plain hc]
      exact ⟨rfl, rfl⟩

/-! ## Places -/

/-- The line and column behind a character. -/
def behindChar (place : Nat × Nat) (c : Char) : Nat × Nat :=
  if c = '\n' then (place.1 + 1, 1) else (place.1, place.2 + 1)

/-- A place in a text is reached from the first one, character by character. -/
theorem place_eq_foldl (u v : List Char) :
    (lineAt (u ++ v) u.length, columnAt (u ++ v) u.length) = u.foldl behindChar (1, 1) := by
  induction u using List.reverseRecOn generalizing v with
  | nil => rfl
  | append_singleton u c ih =>
    have hget : (u ++ [c] ++ v)[u.length]? = some c := by simp
    rw [List.foldl_append, ← ih ([c] ++ v), List.length_append, List.length_singleton,
      lineAt_succ, columnAt_succ, hget, List.append_assoc, List.foldl_cons, List.foldl_nil,
      behindChar]
    by_cases hc : c = '\n'
    · simp [hc]
    · simp [hc]

theorem foldl_withLineFeeds (h : Paired u) (place : Nat × Nat) :
    (withLineFeeds u).foldl behindChar place = u.foldl behindChar place := by
  induction h generalizing place with
  | nil => rfl
  | feed _ ih => exact ih _
  | plain hc _ ih =>
    rw [withLineFeeds_plain hc, List.foldl_cons, List.foldl_cons, ih]

/-- **No place shifts**: what stands behind paired carriage returns has the same line and column
when they are gone. -/
theorem place_withLineFeeds (hu : Paired u) (v : List Char) :
    lineAt (withLineFeeds (u ++ v)) (withLineFeeds u).length = lineAt (u ++ v) u.length ∧
      columnAt (withLineFeeds (u ++ v)) (withLineFeeds u).length = columnAt (u ++ v) u.length := by
  rw [← Prod.mk.injEq, withLineFeeds_append hu, place_eq_foldl, place_eq_foldl,
    foldl_withLineFeeds hu]

/-! ## Lexemes -/

/-- What a string literal says, quotes and all. -/
def saidBy (literal : String) : String :=
  match Lexeme.body literal.toList.tail with
  | .closed s _ => String.ofList s
  | .unclosed _ => ""

/-- What a lexeme of the same kind and value stands for when it has other characters. -/
def Sense.over (x : Sense) (w : List Char) : Sense :=
  { x with literal := if x.kind = .string then saidBy (String.ofList w) else String.ofList w }

theorem saidBy_of_units {s : List Char} (h : Units u s) :
    saidBy (String.ofList ('"' :: (u ++ ['"']))) = String.ofList s := by
  rw [saidBy, String.toList_ofList, List.tail_cons, body_of_units h]

theorem Kind.ofSign?_ne_string {k : Kind} (h : Kind.ofSign? c = some k) : k ≠ .string := by
  unfold Kind.ofSign? at h
  split at h <;> cases h <;> decide

theorem Sense.over_plain {k : Kind} (hk : k ≠ .string) (v w : List Char) :
    (Sense.plain k v).over w = .plain k w := by
  rw [Sense.over, if_neg (show (Sense.plain k v).kind ≠ .string from hk)]
  rfl

theorem Sense.over_string (s : List Char) (h : Units u r) :
    (Sense.plain .string s).over ('"' :: (u ++ ['"'])) = .plain .string r := by
  rw [Sense.over, if_pos (show (Sense.plain .string s).kind = .string from rfl),
    saidBy_of_units h]
  rfl

/-- A lexeme stands for what its own characters say. -/
theorem Lexical.over_self (h : Lexical w r x) : x.over w = x := by
  cases h with
  | equal | unequal | unclosed | stray => rfl
  | sign hk => exact Sense.over_plain (Kind.ofSign?_ne_string hk) _ _
  | word => exact Sense.over_plain (Kind.ofWord_ne (by decide) _) _ _
  | number =>
    unfold Sense.number
    split <;> rfl
  | string hu => exact Sense.over_string _ hu

/-- No space stands in a lexeme that does not begin with a quote. -/
theorem Lexical.isSpace_of_mem (h : Lexical w r x) (hq : w.head? ≠ some '"') :
    ∀ a ∈ w, isSpace a = false := by
  have hone {c : Char} (hc : Lexical [c] r x) : ∀ a ∈ [c], isSpace a = false := by
    obtain ⟨c', w', he, hs⟩ := hc.exists_cons
    cases he
    exact List.forall_mem_singleton.mpr hs
  cases h with
  | equal | unequal => exact List.forall_mem_cons.mpr ⟨rfl, List.forall_mem_singleton.mpr rfl⟩
  | sign hk => exact hone (.sign hk)
  | stray hs hk hquote hl hd => exact hone (.stray hs hk hquote hl hd)
  | word hl hw =>
    refine List.forall_mem_cons.mpr ⟨Lexes.isSpace_of_wordChar (by simp [isWordChar, hl]), ?_⟩
    exact fun a ha => Lexes.isSpace_of_wordChar (hw a ha)
  | number _ hall =>
    exact fun a ha => Lexes.isSpace_of_wordChar (by simp [isWordChar, hall a ha])
  | string | unclosed => exact absurd rfl hq

/-- A lexeme that does not begin with a quote stays as it is. -/
theorem Lexical.withLineFeeds_eq (h : Lexical w r x) (hq : w.head? ≠ some '"') :
    withLineFeeds w = w := by
  refine withLineFeeds_of_notMem fun hmem => ?_
  cases h.isSpace_of_mem hq _ hmem

/-- What a lexeme without a quote at its head begins with is a lexeme itself. -/
theorem Lexical.of_append (h : Lexical (w ++ v) r x) (hw : w ≠ []) (hq : w.head? ≠ some '"')
    (r' : List Char) : ∃ y, Lexical w r' y := by
  obtain ⟨c, w, rfl⟩ := List.exists_cons_of_ne_nil hw
  generalize hz : c :: w ++ v = z at h
  rw [List.cons_append] at hz
  cases h with
  | equal =>
    obtain ⟨rfl, htail⟩ := List.cons.inj hz
    rcases List.append_eq_singleton_iff.mp htail with ⟨rfl, -⟩ | ⟨rfl, -⟩
    · exact ⟨_, .sign (show Kind.ofSign? '=' = some .assign from rfl)⟩
    · exact ⟨_, .equal⟩
  | unequal =>
    obtain ⟨rfl, htail⟩ := List.cons.inj hz
    rcases List.append_eq_singleton_iff.mp htail with ⟨rfl, -⟩ | ⟨rfl, -⟩
    · exact ⟨_, .sign (show Kind.ofSign? '!' = some .bang from rfl)⟩
    · exact ⟨_, .unequal⟩
  | sign hk =>
    obtain ⟨rfl, htail⟩ := List.cons.inj hz
    obtain ⟨rfl, -⟩ := List.append_eq_nil_iff.mp htail
    exact ⟨_, .sign hk⟩
  | word hl hall =>
    obtain ⟨rfl, rfl⟩ := List.cons.inj hz
    exact ⟨_, .word hl (List.forall_mem_append.mp hall).1⟩
  | number _ hall =>
    rw [← hz, ← List.cons_append] at hall
    exact ⟨_, .number hw (List.forall_mem_append.mp hall).1⟩
  | stray hs hk hquote hl hd =>
    obtain ⟨rfl, htail⟩ := List.cons.inj hz
    obtain ⟨rfl, -⟩ := List.append_eq_nil_iff.mp htail
    exact ⟨_, .stray hs hk hquote hl hd⟩
  | string | unclosed =>
    obtain ⟨rfl, -⟩ := List.cons.inj hz
    exact absurd rfl hq

/-- A lexeme that is as long as what is read is the longest. -/
theorem Lexical.longest (h : Lexical w r x) (hlen : (Lexeme.read (w ++ r)).length ≤ w.length) :
    Longest w r x := by
  refine ⟨h, fun w' r' x' he h' => ?_⟩
  have := h'.bounds.le
  rw [he] at this
  omega

/-- A lexeme that does not begin with a quote may stand before any text. -/
theorem Lexical.before (h : Lexical w r x) (hq : w.head? ≠ some '"') (r' : List Char) :
    Lexical w r' x := by
  cases h with
  | equal => exact .equal
  | unequal => exact .unequal
  | sign hk => exact .sign hk
  | word hl hall => exact .word hl hall
  | number hne hall => exact .number hne hall
  | stray hs hk hquote hl hd => exact .stray hs hk hquote hl hd
  | string | unclosed => exact absurd rfl hq

/-- **The next character decides** where a lexeme ends that does not begin with a quote: it is the
longest one before any text that begins with space or as the text behind it does. -/
theorem Longest.before (h : Longest w r x) (hq : w.head? ≠ some '"') {r' : List Char}
    (hr : ∀ c ∈ r'.head?, isSpace c = false → c ∈ r.head?) : Longest w r' x := by
  have hhead (v : List Char) : (w ++ v).head? ≠ some '"' := by
    obtain ⟨c, w, rfl⟩ := List.exists_cons_of_ne_nil h.ne_nil
    exact hq
  refine ⟨h.lexical.before hq r', fun w' r'' x' he h' => ?_⟩
  by_contra hlt
  obtain ⟨z, rfl⟩ : w <+: w' :=
    List.prefix_of_prefix_length_le ⟨r', rfl⟩ ⟨r'', he⟩ (by omega)
  obtain ⟨c, z, rfl⟩ : ∃ c z', z = c :: z' := by
    refine List.exists_cons_of_ne_nil ?_
    rintro rfl
    simp at hlt
  -- a longer lexeme would go on with the next character, and so would one before `r`
  have hc : c ∈ r'.head? := by
    rw [List.append_assoc] at he
    rw [← List.append_cancel_left he]
    rfl
  obtain ⟨r, rfl⟩ := List.head?_eq_some_iff.mp (hr c hc (h'.isSpace_of_mem (hhead _) c (by simp)))
  rw [List.append_cons] at h'
  obtain ⟨y, hy⟩ := h'.of_append (by simp) (hhead [c]) r
  have := h.le (w ++ [c]) r y (by simp) hy
  rw [List.length_append, List.length_singleton] at this
  omega

theorem length_read_of_units {s : List Char} (h : Units u s) (r : List Char) :
    (Lexeme.read ('"' :: (u ++ ['"']) ++ r)).length = ('"' :: (u ++ ['"'])).length := by
  rw [List.cons_append, List.append_assoc, List.singleton_append, Lexeme.read_of_quote,
    Lexeme.readString, List.tail_cons, body_of_units h]
  simp

/-- **Units stay units**: a backslash before a carriage return then stands before its line feed. -/
theorem Units.withLineFeeds {s : List Char} (h : Units u s) (hu : Paired u) :
    ∃ s', Units (withLineFeeds u) s' := by
  induction h with
  | nil => exact ⟨[], .nil⟩
  | @plain c w s hq hb _ ih =>
    by_cases hc : c = '\r'
    · subst hc
      obtain ⟨r, rfl, hr⟩ := hu.exists_feed
      rw [withLineFeeds_feed, ← withLineFeeds_plain (by decide)]
      exact ih (.plain (by decide) hr)
    · obtain ⟨s', hs'⟩ := ih (hu.tail hc)
      rw [withLineFeeds_plain hc]
      exact ⟨c :: s', .plain hq hb hs'⟩
  | @escaped c w s hw ih =>
    have hu' := hu.tail (by decide)
    rw [withLineFeeds_plain (by decide)]
    by_cases hc : c = '\r'
    · subst hc
      obtain ⟨r, rfl, hr⟩ := hu'.exists_feed
      obtain ⟨s', hs'⟩ := ih (.plain (by decide) hr)
      rw [withLineFeeds_plain (by decide)] at hs'
      rw [withLineFeeds_feed]
      cases hs' with
      | plain _ _ hs' => exact ⟨_, .escaped hs'⟩
    · obtain ⟨s', hs'⟩ := ih (hu'.tail hc)
      rw [withLineFeeds_plain hc]
      exact ⟨_, .escaped hs'⟩

theorem push_eq_unclosed {b : Lexeme.Body} {n : Nat} {why : Anomaly} :
    b.push c n = .unclosed why ↔ b = .unclosed why := by
  cases b <;> simp [Lexeme.Body.push]

/-- **A string without a closing quote** has none when its lines end with a line feed. -/
theorem unclosed_withLineFeeds {why : Anomaly} (h : Lexeme.body cs = .unclosed why)
    (hcs : Paired cs) : ∃ why', Lexeme.body (withLineFeeds cs) = .unclosed why' := by
  fun_induction Lexeme.body cs generalizing why with
  | case1 => exact ⟨_, rfl⟩
  | case2 => cases h
  | case3 => exact ⟨_, rfl⟩
  | case4 c r ih =>
    have hr := push_eq_unclosed.mp h
    have hcs' := hcs.tail (by decide)
    rw [withLineFeeds_plain (by decide)]
    by_cases hc : c = '\r'
    · subst hc
      obtain ⟨r, rfl, hpaired⟩ := hcs'.exists_feed
      obtain ⟨why', hwhy⟩ := ih hr (.plain (by decide) hpaired)
      rw [withLineFeeds_plain (by decide), Lexeme.body_cons (by decide) (by decide)] at hwhy
      rw [withLineFeeds_feed]
      exact ⟨why', push_eq_unclosed.mpr (push_eq_unclosed.mp hwhy)⟩
    · obtain ⟨why', hwhy⟩ := ih hr (hcs'.tail hc)
      rw [withLineFeeds_plain hc]
      exact ⟨why', push_eq_unclosed.mpr hwhy⟩
  | case5 c r hq hlone hpair ih =>
    have hr := push_eq_unclosed.mp h
    by_cases hc : c = '\r'
    · subst hc
      obtain ⟨r, rfl, hpaired⟩ := hcs.exists_feed
      rw [withLineFeeds_feed, ← withLineFeeds_plain (by decide)]
      exact ih hr (.plain (by decide) hpaired)
    · obtain ⟨why', hwhy⟩ := ih hr (hcs.tail hc)
      rw [withLineFeeds_plain hc, Lexeme.body_cons hq (Lexeme.ne_backslash hlone hpair)]
      exact ⟨why', push_eq_unclosed.mpr hwhy⟩

/-- A lexeme that begins with a quote is a string, or runs to the end of the text. -/
theorem Lexical.of_quote (h : Lexical w r x) (hq : w.head? = some '"') :
    (∃ u s, Units u s ∧ w = '"' :: (u ++ ['"']) ∧ x = .plain .string s) ∨
      ∃ u, (∀ v s t, Units v s → u ≠ v ++ '"' :: t) ∧ w = '"' :: u ∧ r = [] ∧
        x = .plain .illegal w := by
  cases h with
  | string hu => exact Or.inl ⟨_, _, hu, rfl, rfl⟩
  | unclosed hu => exact Or.inr ⟨_, hu, rfl, rfl, rfl⟩
  | equal | unequal => cases hq
  | sign hk => cases hq; cases hk
  | word hl => cases hq; cases hl
  | number _ hall => cases hall '"' (List.mem_of_mem_head? hq)
  | stray _ _ hquote => cases hq; exact absurd rfl hquote

/-- A lexeme and the text behind it are paired on their own. -/
theorem Lexical.paired (h : Lexical w r x) (hp : Paired (w ++ r)) : Paired w ∧ Paired r := by
  refine hp.split fun hr hw => ?_
  by_cases hq : w.head? = some '"'
  · rcases h.of_quote hq with ⟨u, s, -, rfl, -⟩ | ⟨u, -, -, rfl, -⟩
    · rw [← List.cons_append, List.getLast?_concat] at hw
      cases hw
    · cases hr
  · cases h.isSpace_of_mem hq _ (List.mem_of_getLast? hw)

/-- **A longest lexeme stays the longest one** when its lines and those behind it end with a line
feed. It is of the same kind, and says what its characters then say. -/
theorem Longest.withLineFeeds (h : Longest w r x) (hp : Paired (w ++ r)) :
    Longest (withLineFeeds w) (withLineFeeds r) (x.over (withLineFeeds w)) := by
  obtain ⟨hw, -⟩ := h.lexical.paired hp
  by_cases hq : w.head? = some '"'
  · rcases h.lexical.of_quote hq with ⟨u, s, hu, rfl, rfl⟩ | ⟨u, hu, rfl, rfl, rfl⟩
    · have hpaired : Paired u := ((hw.tail (by decide)).split fun h => by cases h).1
      obtain ⟨s', hs'⟩ := hu.withLineFeeds hpaired
      rw [withLineFeeds_plain (by decide), withLineFeeds_append hpaired,
        show FrontEnd.withLineFeeds ['"'] = ['"'] from rfl, Sense.over_string s hs']
      exact Lexical.longest (.string hs') (length_read_of_units hs' _).le
    · obtain ⟨why, hwhy⟩ := exists_unclosed hu
      obtain ⟨why', hwhy'⟩ := unclosed_withLineFeeds hwhy (hw.tail (by decide))
      rw [withLineFeeds_plain (by decide), Sense.over_plain (by decide)]
      refine ⟨.unclosed fun v s t hv he => ?_, fun w' r' x' he _ => ?_⟩
      · rw [he, body_of_units hv] at hwhy'
        cases hwhy'
      · -- it takes all that there is
        have := congrArg List.length he
        rw [show FrontEnd.withLineFeeds [] = [] from rfl, List.append_nil,
          List.length_append] at this
        omega
  · rw [h.lexical.withLineFeeds_eq hq, h.lexical.over_self]
    refine h.before hq fun c hc hs => ?_
    rcases head?_withLineFeeds hc with rfl | hc
    · cases hs
    · exact hc

/-! ## Spans and tokens -/

/-- A span when its lines end with a line feed. -/
def Span.withLineFeeds (p : Span) : Span :=
  ⟨FrontEnd.withLineFeeds p.space, FrontEnd.withLineFeeds p.word,
    p.sense.over (FrontEnd.withLineFeeds p.word)⟩

/-- A span that stays where it is and says what it says when its lines end with a line feed. -/
def Span.retold (p : Span) : Span :=
  { p with sense := p.sense.over (FrontEnd.withLineFeeds p.word) }

/-- The space at the head of a text does not end between a carriage return and its line feed. -/
theorem Paired.space (h : Paired text) :
    Paired (text.takeWhile isSpace) ∧ Paired (text.dropWhile isSpace) := by
  rw [← List.takeWhile_append_dropWhile (p := isSpace) (l := text)] at h
  refine h.split fun hfeed => ?_
  have := List.head?_dropWhile_not isSpace text
  rw [hfeed] at this
  cases this

/-- **The text is taken apart in the same way** when its lines end with a line feed. -/
theorem Munches.withLineFeeds (h : Munches text ps trail) (hp : Paired text) :
    Munches (withLineFeeds text) (ps.map Span.withLineFeeds) (withLineFeeds trail) := by
  induction h with
  | done hnil => exact .done (by rw [(space_withLineFeeds hp).2, hnil]; rfl)
  | @span text w r x ps trail he hx _ ih =>
    obtain ⟨htake, hdrop⟩ := space_withLineFeeds hp
    have hpaired := hp.space.2
    rw [he] at hdrop hpaired
    obtain ⟨hw, hr⟩ := hx.lexical.paired hpaired
    rw [withLineFeeds_append hw] at hdrop
    rw [List.map_cons, Span.withLineFeeds, ← htake]
    exact .span hdrop (hx.withLineFeeds hpaired) (ih hr)

/-- **The tokens stand where they stood**, and say what they then say. -/
theorem spanTokens_withLineFeeds {before : List Char} (h : Munches r ps trail)
    (hp : Paired r) (hbefore : Paired before) :
    spanTokens (withLineFeeds (before ++ r)) (withLineFeeds before).length
        (ps.map Span.withLineFeeds) =
      spanTokens (before ++ r) before.length (ps.map Span.retold) := by
  induction h generalizing before with
  | done => rfl
  | @span text w r x ps trail he hx _ ih =>
    obtain ⟨hspace, hpaired⟩ := hp.space
    have htext : text = text.takeWhile isSpace ++ (w ++ r) := by
      rw [← he, List.takeWhile_append_dropWhile]
    generalize text.takeWhile isSpace = space at hspace htext ⊢
    rw [he] at hpaired
    obtain ⟨hw, hr⟩ := hx.lexical.paired hpaired
    have hhead := hbefore.append hspace
    obtain ⟨hline, hcolumn⟩ := place_withLineFeeds hhead (w ++ r)
    have hlater := ih hr (hhead.append hw)
    rw [withLineFeeds_append hhead w, withLineFeeds_append hbefore] at hlater
    rw [withLineFeeds_append hbefore space] at hline hcolumn
    subst htext
    simp only [List.append_assoc, List.length_append] at hline hcolumn hlater
    simp only [List.map_cons, spanTokens, Span.token, Span.withLineFeeds, Span.retold, Span.chars,
      List.length_append, hline, hcolumn, hlater]

/-- The end of the text stands where it stood. -/
theorem endToken_withLineFeeds (h : Paired text) :
    endToken (withLineFeeds text) = endToken text := by
  obtain ⟨hline, hcolumn⟩ := place_withLineFeeds h []
  rw [List.append_nil] at hline hcolumn
  rw [endToken, endToken, hline, hcolumn]

/-- No number gets too long. -/
theorem Lexical.not_isLong (h : Lexical w r x) (hw : ¬IsLong w) : ¬IsLong (withLineFeeds w) := by
  by_cases hq : w.head? = some '"'
  · obtain ⟨u, rfl⟩ := List.head?_eq_some_iff.mp hq
    rw [withLineFeeds_plain (by decide)]
    exact not_isLong_of_head rfl _
  · rwa [h.withLineFeeds_eq hq]

/-- **The tokens of a text whose lines end with a line feed** are those that it has anyway, at the
same places. -/
theorem tokenize_withLineFeeds {source : String} {ts : List Token}
    (h : tokenize source = .ok ts) (hp : Paired source.toList) :
    ∃ ps trail, Munches source.toList ps trail ∧
      ts = spanTokens source.toList 0 ps ++ [endToken source.toList] ∧
      tokenize (feedLines source) =
        .ok (spanTokens source.toList 0 (ps.map Span.retold) ++ [endToken source.toList]) := by
  obtain ⟨ps, trail, hps⟩ := exists_munches source.toList
  obtain ⟨hshort, hts⟩ :=
    (tokens_drain_of_munches hps (Cursor.at_ofText _) (Nat.zero_le _)).mp h
  refine ⟨ps, trail, hps, hts, ?_⟩
  have hlist : (feedLines source).toList = withLineFeeds source.toList := String.toList_ofList
  have htext : Munches (feedLines source).toList (ps.map Span.withLineFeeds)
      (withLineFeeds trail) := by
    rw [hlist]
    exact hps.withLineFeeds hp
  refine (tokens_drain_of_munches htext (Cursor.at_ofText _) (Nat.zero_le _)).mpr ⟨?_, ?_⟩
  · refine List.forall_mem_map.mpr fun p hmem => ?_
    obtain ⟨r, hlong⟩ := hps.longest p hmem
    exact hlong.lexical.not_isLong (hshort p hmem)
  · have hspans := spanTokens_withLineFeeds hps hp .nil
    rw [hlist, endToken_withLineFeeds hp]
    exact congrArg (· ++ [endToken source.toList]) hspans.symm

end FrontEnd
