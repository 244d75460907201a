import FrontEnd.Proofs.Lexing.Numbers
import FrontEnd.Proofs.Reader.Accounting
import FrontEnd.Proofs.Reader.Frame

/-!
# Where a parser stands in its text

Whatever is asked of a parser, it sees two tokens of its text that follow one another, and its
stream goes on behind them (`Parser.Stands`). No call goes back, and to the diagnostics a call can
only add.

* `advance_stands`: one token further.
* `frame_goesOn`: so all steps go on in the text.
* `goesOn_after`: each call does, whether it succeeds or not.
* `goesOn_afterAll`: calls one after the other.
* `parser_stands`: all of it for the parser of a text.
-/

namespace FrontEnd

open Reader FrontEnd.Parser

/-- **The place of a parser in its text.** The current token is the one at the index `k` of the
text, the token in sight is the next one, and the stream goes on from the cursor behind both. The
end comes again and again. -/
structure Parser.Stands (source : String) (us : List Token) (last : Token) (k : Nat)
    (s : Parser) : Prop where
  current : s.current = tokenAt last us k
  peek : s.peek = tokenAt last us (k + 1)
  ahead : s.ahead = Stream.ofCursor (Cursor.behind (k + 2) (.ofText source))

/-- From `s` to `s'` a parser goes on in its text, and may have recorded more diagnostics. -/
structure Parser.GoesOn (source : String) (us : List Token) (last : Token) (s s' : Parser) :
    Prop where
  stands : ∀ k, s.Stands source us last k → ∃ k', k ≤ k' ∧ s'.Stands source us last k'
  diagnostics : ∃ ds, s'.diagnostics.toList = s.diagnostics.toList ++ ds

/-- A call that only looks at the parser. -/
def Parser.Call.IsQuery : Parser.Call → Prop
  | identifier | integer | string | currentIs _ | peekIs _ | currentPrecedence | peekPrecedence
  | check => True
  | _ => False

/-- The stream of a cursor goes on as the cursor does. -/
theorem Stream.next_ofCursor (c : Cursor) : (ofCursor c).next = (c.next.1, ofCursor c.next.2) := by
  by_cases hend : c.skipSpace.rest = []
  · have hstay : c.skipSpace.skipSpace = c.skipSpace := by
      rw [Cursor.skipSpace, hend]
      rfl
    rw [Cursor.next_of_end hend, ofCursor_of_end hend, ofCursor_of_end (by rw [hstay, hend]), hstay]
    rfl
  · rw [ofCursor_of_more hend]
    rfl

namespace Reader

variable {source : String} {us : List Token} {last : Token} {s s' s'' : Parser} {k : Nat}

/-! ## Steps go on in the text -/

/-- A step takes the token of the index where the stream stands into sight. -/
theorem advance_of_ahead (h : tokenize source = .ok (us ++ [last])) {i : Nat}
    (ha : s.ahead = Stream.ofCursor (Cursor.behind i (.ofText source))) :
    ∃ s', advance s = .ok () s' ∧ s'.current = s.peek ∧ s'.peek = tokenAt last us i ∧
      s'.ahead = Stream.ofCursor (Cursor.behind (i + 1) (.ofText source)) ∧
      s'.diagnostics = s.diagnostics := by
  obtain ⟨found, hfound, htoken⟩ := next_behind_of_tokenize h i
  have hnext : s.ahead.next =
      (.ok found, Stream.ofCursor (Cursor.behind (i + 1) (.ofText source))) := by
    rw [ha, Stream.next_ofCursor, hfound, Cursor.behind_add]
    rfl
  exact ⟨_, advance_of_next hnext, rfl, htoken, rfl, rfl⟩

/-- **One token further** a parser stands at the next index. -/
theorem advance_stands (h : tokenize source = .ok (us ++ [last]))
    (hs : s.Stands source us last k) :
    ∃ s', advance s = .ok () s' ∧ s'.Stands source us last (k + 1) := by
  obtain ⟨s', hr, hc, hp, ha, -⟩ := advance_of_ahead h hs.ahead
  exact ⟨s', hr, hc.trans hs.peek, hp, ha⟩

/-- A parser that has started stands at the head of its text. -/
theorem start_stands (h : tokenize source = .ok (us ++ [last])) (filename : String)
    (journal : Journal) :
    ∃ s, start (.fresh filename journal source) = .ok () s ∧ s.Stands source us last 0 ∧
      s.diagnostics = #[] := by
  obtain ⟨s1, hr1, -, hp1, ha1, hd1⟩ :=
    advance_of_ahead h (s := .fresh filename journal source) (i := 0) rfl
  obtain ⟨s2, hr2, hc2, hp2, ha2, hd2⟩ := advance_of_ahead h ha1
  exact ⟨s2, (bind_of_ok hr1).trans hr2, ⟨hc2.trans hp1, hp2, ha2⟩, hd2.trans hd1⟩

/-- Where the tokens and the stream stay, the place does. -/
theorem stands_of_eq (hs : s.Stands source us last k) (hc : s'.current = s.current)
    (hp : s'.peek = s.peek) (ha : s'.ahead = s.ahead) : s'.Stands source us last k :=
  ⟨hc.trans hs.current, hp.trans hs.peek, ha.trans hs.ahead⟩

theorem goesOn_of_eq {ds : List Diagnostic} (hc : s'.current = s.current)
    (hp : s'.peek = s.peek) (ha : s'.ahead = s.ahead)
    (hd : s'.diagnostics.toList = s.diagnostics.toList ++ ds) : s.GoesOn source us last s' :=
  ⟨fun k hs => ⟨k, Nat.le_refl k, stands_of_eq hs hc hp ha⟩, ds, hd⟩

theorem goesOn_refl (s : Parser) : s.GoesOn source us last s :=
  goesOn_of_eq rfl rfl rfl (List.append_nil _).symm

theorem GoesOn.trans (h : s.GoesOn source us last s') (h' : s'.GoesOn source us last s'') :
    s.GoesOn source us last s'' := by
  obtain ⟨ds, hds⟩ := h.diagnostics
  obtain ⟨ds', hds'⟩ := h'.diagnostics
  refine ⟨fun k hs => ?_, ds ++ ds', by rw [hds', hds, List.append_assoc]⟩
  obtain ⟨k', hle, hs'⟩ := h.stands k hs
  obtain ⟨k'', hle', hs''⟩ := h'.stands k' hs'
  exact ⟨k'', by omega, hs''⟩

/-- The parser stands nowhere in the text. -/
def Astray (source : String) (us : List Token) (last : Token) (s : Parser) : Prop :=
  ∀ k, ¬s.Stands source us last k

theorem advance_goesOn (h : tokenize source = .ok (us ++ [last])) :
    Keeps (Parser.GoesOn source us last) (fun s _ => Astray source us last s) advance := by
  intro s
  rcases hn : s.ahead.next with ⟨e | found, later⟩
  · rw [advance, hn]
    intro k hs
    obtain ⟨s', hr, -⟩ := advance_stands h hs
    rw [advance, hn] at hr
    cases hr
  · rw [advance_of_next hn]
    refine ⟨fun k hs => ?_, [], (List.append_nil _).symm⟩
    obtain ⟨s', hr, hs'⟩ := advance_stands h hs
    cases hr.symm.trans (advance_of_next hn)
    exact ⟨k + 1, Nat.le_succ k, hs'⟩

/-- **All steps go on in the text**, and a parser that stands in it meets no error. -/
theorem frame_goesOn (h : tokenize source = .ok (us ++ [last])) :
    Frame (Parser.GoesOn source us last) (fun s _ => Astray source us last s) where
  refl := goesOn_refl
  trans := GoesOn.trans
  fault := by
    intro s s' e hs hastray k hk
    obtain ⟨k', -, hk'⟩ := hs.stands k hk
    exact hastray k' hk'
  advance := advance_goesOn h
  journal s j := goesOn_of_eq rfl rfl rfl (List.append_nil _).symm
  diagnostic s d := goesOn_of_eq rfl rfl rfl Array.toList_push

/-! ## Calls -/

/-- **A call goes on in the text**, whether it succeeds or not, and it meets no error. -/
theorem goesOn_after (h : tokenize source = .ok (us ++ [last])) (depth : Nat)
    (hs : s.Stands source us last k) (call : Parser.Call) :
    s.GoesOn source us last (call.after depth s) ∧
      ∀ e s', call.run depth s ≠ .error (.fault e) s' := by
  have hends := (frame_goesOn h).call depth call s
  rw [Call.after]
  match hr : call.run depth s, hends with
  | .ok _ s', hends => exact ⟨hends, fun e t he => nomatch he⟩
  | .error (.refused _) s', hends => exact ⟨hends, fun e t he => nomatch he⟩
  | .error .tooDeep s', hends => exact ⟨hends, fun e t he => nomatch he⟩
  | .error (.fault e) s', hends => exact absurd hs (hends k)

/-- **Calls one after the other** go on in the text. -/
theorem goesOn_afterAll (h : tokenize source = .ok (us ++ [last])) (depth : Nat)
    (hs : s.Stands source us last k) (calls : List Parser.Call) :
    s.GoesOn source us last (Call.afterAll depth s calls) := by
  induction calls generalizing s k with
  | nil => exact goesOn_refl s
  | cons call calls ih =>
    have hcall := (goesOn_after h depth hs call).1
    obtain ⟨k', -, hs'⟩ := hcall.stands k hs
    exact GoesOn.trans hcall (ih hs')

/-- A call that only looks leaves the parser as it is. -/
theorem after_of_isQuery {call : Parser.Call} (hq : call.IsQuery) (depth : Nat) (s : Parser) :
    call.after depth s = s := by
  cases call <;> first | rfl | cases hq

/-- **What is not as expected** is not taken. -/
theorem stands_of_expect (h : tokenize source = .ok (us ++ [last]))
    (hs : s.Stands source us last k) {depth : Nat} {wanted : String} {reason? : Option String}
    (hr : (Call.expect wanted reason?).run depth s = .ok (.truth false) s') :
    s'.Stands source us last k := by
  let cause := wrongToken wanted reason?
  have he : Parser.expect wanted cause s =
      (if s.peek.kind.text = wanted then advance else refuse s.peek (cause s.peek.kind)) s := rfl
  by_cases hk : s.peek.kind.text = wanted
  · obtain ⟨s1, hadvance, -⟩ := advance_stands h hs
    rw [if_pos hk, hadvance] at he
    have htaken : (Call.expect wanted reason?).run depth s = .ok (.truth true) s1 :=
      bind_of_ok (recorded_of_ok he)
    cases htaken.symm.trans hr
  · rw [if_neg hk] at he
    have hrefused : (Call.expect wanted reason?).run depth s = .ok (.truth false) _ :=
      bind_of_ok (recorded_of_refused he rfl)
    cases hrefused.symm.trans hr
    exact stands_of_eq hs rfl rfl rfl

end Reader

end FrontEnd
