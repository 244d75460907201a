import FrontEnd.Proofs.Reader.Frame
import FrontEnd.Proofs.Reader.Source

/-!
# A text that is read can be scanned

A step of the parser only takes tokens from the stream (`Parser.Follows`), and one that meets an
error of the stream fails with it, which no rule catches. While there is something left to read, no
token in sight is the end (`Parser.Live`), so a program is not over before all of its text is read.

* `frame_follows`: all rules read the stream token by token.
* `exists_tokens_of_ok`: a text that is read to its end has a list of tokens.
-/

namespace FrontEnd

/-- While there is something left to read, no token in sight is the end. -/
structure Parser.Live (s : Parser) : Prop where
  pending : ∀ x, .ok x ∈ s.ahead.pending → x.token.kind ≠ .eof
  current : s.ahead.pending ≠ [] → s.current.kind ≠ .eof
  peek : s.ahead.pending ≠ [] → s.peek.kind ≠ .eof

/-- From `s` to `s'` some tokens were read and no error was met. -/
structure Parser.Follows (s s' : Parser) : Prop where
  read : ∃ xs : List Scan, s.ahead.pending = xs.map .ok ++ s'.ahead.pending
  live : s.Live → s'.Live

namespace Reader

open FrontEnd.Parser

variable {s s' s'' : Parser}

theorem follows_of_frame (ha : s'.ahead = s.ahead) (hc : s'.current = s.current)
    (hp : s'.peek = s.peek) : s.Follows s' :=
  ⟨⟨[], by rw [ha]; rfl⟩, fun h => ⟨ha ▸ h.pending, ha ▸ hc ▸ h.current, ha ▸ hp ▸ h.peek⟩⟩

theorem follows_refl (s : Parser) : s.Follows s := follows_of_frame rfl rfl rfl

theorem Follows.trans (h : s.Follows s') (h' : s'.Follows s'') : s.Follows s'' := by
  obtain ⟨xs, hx⟩ := h.read
  obtain ⟨ys, hy⟩ := h'.read
  exact ⟨⟨xs ++ ys, by rw [hx, hy, List.map_append, List.append_assoc]⟩,
    fun hl => h'.live (h.live hl)⟩

/-- An error of the stream is still ahead. -/
theorem Follows.error {e : ScanError} (h : s.Follows s') (he : .error e ∈ s.ahead.pending) :
    .error e ∈ s'.ahead.pending := by
  obtain ⟨xs, hx⟩ := h.read
  rw [hx] at he
  rcases List.mem_append.mp he with he | he
  · obtain ⟨x, -, hx⟩ := List.mem_map.mp he
    cases hx
  · exact he

theorem Follows.length (h : s.Follows s') : s'.ahead.pending.length ≤ s.ahead.pending.length := by
  obtain ⟨xs, hx⟩ := h.read
  rw [hx, List.length_append]
  omega

/-- The first error that the stream of `s` holds is `e`. -/
def Meets (s : Parser) (e : ScanError) : Prop :=
  ∃ (xs : List Scan) (later : List (Except ScanError Scan)),
    s.ahead.pending = xs.map .ok ++ .error e :: later

theorem advance_follows : Keeps Parser.Follows Meets advance := by
  intro s
  cases hp : s.ahead.pending with
  | nil =>
    rw [advance_of_next (Stream.next_of_nil hp)]
    exact ⟨⟨[], rfl⟩, fun h => ⟨h.pending, fun hne => absurd hp hne, fun hne => absurd hp hne⟩⟩
  | cons x later =>
    cases x with
    | error e =>
      rw [advance_of_error (Stream.next_of_cons hp)]
      exact ⟨[], later, hp⟩
    | ok found =>
      rw [advance_of_next (Stream.next_of_cons hp)]
      have hne : s.ahead.pending ≠ [] := by rw [hp]; simp
      refine ⟨⟨[found], hp⟩, fun h => ⟨fun x hx => ?_, fun _ => h.peek hne, fun _ => ?_⟩⟩
      · exact h.pending x (hp ▸ List.mem_cons_of_mem _ hx)
      · exact h.pending found (hp ▸ List.mem_cons_self)

/-- **The parser reads its stream** token by token, and only the first error of it can be met. -/
theorem frame_follows : Frame Parser.Follows Meets where
  refl := follows_refl
  trans := Follows.trans
  fault := by
    rintro s s' e ⟨⟨xs, hx⟩, -⟩ ⟨ys, later, hy⟩
    exact ⟨xs ++ ys, later, by rw [hx, hy, List.map_append, List.append_assoc]⟩
  advance := advance_follows
  journal _ _ := follows_of_frame rfl rfl rfl
  diagnostic _ _ := follows_of_frame rfl rfl rfl

/-! ## Programs -/

/-- A token is taken if there is one to read. -/
theorem length_of_advance {u : Unit} (h : advance s = .ok u s') (hne : s.ahead.pending ≠ []) :
    s'.ahead.pending.length < s.ahead.pending.length := by
  obtain ⟨x, later, hp⟩ := List.exists_cons_of_ne_nil hne
  rw [advance, Stream.next_of_cons hp] at h
  cases x with
  | error e => cases h
  | ok found =>
    cases h
    rw [hp]
    exact Nat.lt_succ_self _

/-- The statements do not end while an error of the stream is ahead: each round takes a token, and
the end is not in sight. -/
theorem statements_ne_ok {e : ScanError} (depth : Nat) {n : Nat} (hl : s.Live)
    (he : .error e ∈ s.ahead.pending) (hn : s.ahead.pending.length ≤ n) (done found : Array Node) :
    Parser.statements depth n done s ≠ .ok found s' := by
  have hne : s.ahead.pending ≠ [] := List.ne_nil_of_mem he
  -- each round takes at least one token, so the rounds do not run out first
  induction n generalizing s done with
  | zero => exact absurd (List.length_eq_zero_iff.mp (by omega)) hne
  | succ n ih =>
    intro h
    rw [statements_succ, if_neg (hl.current hne)] at h
    obtain ⟨x, s1, hr1, h⟩ := ok_of_bind_ok h
    obtain ⟨u, s2, hr2, h⟩ := ok_of_bind_ok h
    have h1 := (frame_follows.statement depth).of_ok hr1
    have h2 := frame_follows.advance.of_ok hr2
    have he1 := Follows.error h1 he
    have he2 := Follows.error h2 he1
    have hlen1 := Follows.length h1
    have hlen2 := length_of_advance hr2 (List.ne_nil_of_mem he1)
    exact ih (h2.live (h1.live hl)) he2 (by omega) _ (List.ne_nil_of_mem he2) h

theorem exists_map_of_no_error {xs : List (Except ScanError Scan)}
    (h : ∀ e, .error e ∉ xs) : ∃ us : List Token, xs.map (Except.map Scan.token) = us.map .ok := by
  induction xs with
  | nil => exact ⟨[], rfl⟩
  | cons x xs ih =>
    obtain ⟨us, hus⟩ := ih fun e he => h e (List.mem_cons_of_mem _ he)
    cases x with
    | error e => exact absurd List.mem_cons_self (h e)
    | ok found => exact ⟨found.token :: us, by rw [List.map_cons, hus]; rfl⟩

/-- A parser that has started has everything before it. -/
theorem live_of_start {filename source : String} {journal : Journal} {u : Unit}
    (h : start (.fresh filename journal source) = .ok u s)
    (hne : (Stream.ofCursor (.ofText source)).pending ≠ []) :
    s.Live ∧ ∀ e, .error e ∈ (Stream.ofCursor (.ofText source)).pending →
      .error e ∈ s.ahead.pending := by
  obtain ⟨x, later, hp⟩ := List.exists_cons_of_ne_nil hne
  have hnext : (Parser.fresh filename journal source).ahead.next =
      (x, ⟨later, (Stream.ofCursor (.ofText source)).finish⟩) := Stream.next_of_cons hp
  cases x with
  | error e =>
    obtain ⟨u, s1, hr, -⟩ := ok_of_bind_ok h
    rw [advance, hnext] at hr
    cases hr
  | ok found =>
    -- the tokens seen before the start do not matter, and these are not the end
    let t : Token := ⟨.semicolon, ";", none, 1, 1⟩
    let s0 : Parser := { Parser.fresh filename journal source with current := t, peek := t }
    have ht : t.kind ≠ .eof := by decide
    have hl : s0.Live := ⟨fun x hx => Stream.kind_pending hx, fun _ => ht, fun _ => ht⟩
    rw [start_eq hnext t t] at h
    have hf : s0.Follows s := frame_follows.start.of_ok h
    exact ⟨hf.live hl, fun e he => Follows.error hf he⟩

/-- **A text that is read can be scanned**: a program is the result only if the text has a list of
tokens. -/
theorem exists_tokens_of_ok {depth : Nat} {settings : Settings} {filename source : String}
    {p : Node} (h : parseSource depth settings filename source = .ok p s) :
    ∃ us last, tokenize source = .ok (us ++ [last]) := by
  by_cases hno : ∀ e, .error e ∉ (Stream.ofCursor (.ofText source)).pending
  · obtain ⟨us, hus⟩ := exists_map_of_no_error hno
    exact ⟨us, _, Stream.tokens_drain_iff.mpr ⟨us, rfl, hus⟩⟩
  · obtain ⟨e, he⟩ := not_forall_not.mp hno
    obtain ⟨u, s1, hstart, hprogram⟩ := ok_of_bind_ok h
    obtain ⟨hl, hahead⟩ := live_of_start hstart (List.ne_nil_of_mem he)
    obtain ⟨_, _, hget, hrounds⟩ := ok_of_bind_ok hprogram
    cases hget
    obtain ⟨found, s2, hr, -⟩ := ok_of_bind_ok hrounds
    refine absurd hr (statements_ne_ok depth hl (hahead e he) ?_ _ _)
    rw [Parser.remaining]
    omega

end Reader

end FrontEnd
