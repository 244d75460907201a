import FrontEnd.Proofs.Lexing.Valid
import FrontEnd.Proofs.Reader.Order
import FrontEnd.Proofs.Reader.Places
import Mathlib.Data.List.Forall2

/-!
# The layout of a text

Tokens are the same when their kinds and literals agree, wherever they stand. Texts with the same
tokens are read in the same way: the tokens of both are brought to a common place, where each has
its index for a line (`numbered`), and from there to their own places (`placed`).

* `numbered_eq`: the same tokens have the same numbers.
* `parseSource_same`: the programs and diagnostics of two texts.
-/

namespace FrontEnd

open Reader

/-- The tokens, each with its index for a line. -/
def numbered (ts : List Token) : List Token :=
  ts.mapIdx fun i t => { t with line := i, column := 0 }

/-- A numbered token at the place of the token of `ts` that has its number. -/
def placed (ts : List Token) (t : Token) : Token :=
  match ts[t.line]? with
  | some u => { t with line := u.line, column := u.column }
  | none => t

variable {source source' filename filename' : String} {ts ts' us : List Token} {last : Token}

theorem places_placed (ts : List Token) : Places (placed ts) := by
  refine ⟨fun t => ?_, fun t => ?_, fun t => ?_⟩
  all_goals
    unfold placed
    split <;> rfl

/-- **Numbered tokens go back** to their own places. -/
theorem map_placed_numbered (ts : List Token) : (numbered ts).map (placed ts) = ts := by
  refine List.ext_getElem (by simp [numbered]) fun i _ hi => ?_
  simp only [numbered, List.getElem_map, List.getElem_mapIdx, placed]
  rw [List.getElem?_eq_getElem hi]

/-- **The same tokens have the same numbers**: their values are those of their literals. -/
theorem numbered_eq (h : tokenize source = .ok ts) (h' : tokenize source' = .ok ts')
    (hsame : List.Forall₂ (fun t u => t.same u = true) ts ts') : numbered ts = numbered ts' := by
  have hlen := hsame.length_eq
  refine List.ext_getElem (by simp [numbered, hlen]) fun i h1 h2 => ?_
  have hi : i < ts.length := by simpa [numbered] using h1
  have hi' : i < ts'.length := by simpa [numbered] using h2
  have htokens : ts[i].same ts'[i] = true := (List.forall₂_iff_get.mp hsame).2 i hi hi'
  obtain ⟨hkind, hliteral⟩ := Token.same_iff.mp htokens
  have hvalue : ts[i].value? = ts'[i].value? := by
    rw [value?_of_tokenize h _ (List.getElem_mem hi), hkind, hliteral,
      value?_of_tokenize h' _ (List.getElem_mem hi')]
  simp only [numbered, List.getElem_mapIdx, Token.mk.injEq, and_true]
  exact ⟨hkind, hliteral, hvalue⟩

/-- What is read of a text is what is read of its numbered tokens, each refusal at its place. -/
theorem program_numbered (us : List Token) (last : Token) (depth : Nat) :
    ∃ vs v, numbered (us ++ [last]) = vs ++ [v] ∧ v.kind = last.kind ∧
      program last depth us = ((program v depth vs).1,
        (program v depth vs).2.map (Refusal.map (placed (us ++ [last])))) := by
  let v : Token := { last with line := us.length, column := 0 }
  have hnumbered : numbered (us ++ [last]) = numbered us ++ [v] := by
    simp [numbered, v, List.mapIdx_append]
  refine ⟨numbered us, v, hnumbered, rfl, ?_⟩
  have hback := map_placed_numbered (us ++ [last])
  rw [hnumbered, List.map_append] at hback
  obtain ⟨hus, hlast⟩ := List.append_inj' hback rfl
  have hprogram := program_map (places_placed (us ++ [last])) v depth (numbered us)
  rw [hus, List.singleton_inj.mp hlast] at hprogram
  exact hprogram

/-- **Layout does not matter.** Let two texts have tokens, and let these be the same, kind by kind
and literal by literal. Both texts are read to their ends and give the same program. Their
diagnostics are as many, and say the same at the places of two tokens that have one index, each in
its own text. -/
theorem parseSource_same (h : tokenize source = .ok ts) (h' : tokenize source' = .ok ts')
    (hsame : List.Forall₂ (fun t u => t.same u = true) ts ts') (depth : Nat)
    (settings settings' : Settings) (filename filename' : String) :
    ∃ p s s', parseSource depth settings filename source = .ok p s ∧
      parseSource depth settings' filename' source' = .ok p s' ∧
      ∃ marks : List ((Token × Token) × String),
        (marks.map Prod.fst).Sublist (ts.zip ts') ∧
        s.errors = marks.map (fun m => s!"Line {m.1.1.line}:{m.1.1.column} - {m.2}") ∧
        s'.errors = marks.map (fun m => s!"Line {m.1.2.line}:{m.1.2.column} - {m.2}") := by
  have hnumbered := numbered_eq h h' hsame
  obtain ⟨us, last, rfl⟩ := exists_concat_of_tokenize h
  obtain ⟨us', last', rfl⟩ := exists_concat_of_tokenize h'
  obtain ⟨s, hr, hd⟩ := parseSource_run h depth settings filename
  obtain ⟨s', hr', hd'⟩ := parseSource_run h' depth settings' filename'
  obtain ⟨vs, v, hvs, hv, hp⟩ := program_numbered us last depth
  obtain ⟨vs', v', hvs', -, hp'⟩ := program_numbered us' last' depth
  -- both programs are the one of the numbered tokens
  obtain ⟨rfl, hvv⟩ := List.append_inj' (hvs.symm.trans (hnumbered.trans hvs')) rfl
  obtain rfl := List.singleton_inj.mp hvv
  have heof : v.kind = .eof := hv.trans (ends_of_tokenize h).1
  rw [hp] at hr hd
  rw [hp'] at hr' hd'
  let refused := (program v depth vs).2
  let pair (t : Token) : Token × Token := (placed (us ++ [last]) t, placed (us' ++ [last']) t)
  refine ⟨_, s, s', hr, hr', refused.map fun r => (pair r.token, r.cause.message), ?_, ?_, ?_⟩
  · have hzip : (vs ++ [v]).map pair = (us ++ [last]).zip (us' ++ [last']) := by
      rw [← hvs, ← List.zip_map', map_placed_numbered, hnumbered, map_placed_numbered]
    have hsub := (sublist_refused heof depth vs).map pair
    rw [hzip] at hsub
    simpa [refused, Function.comp_def] using hsub
  · rw [Parser.errors, hd, diagnostics]
    simp [refused, pair, Refusal.map, Refusal.diagnostic, Diagnostic.message, Function.comp_def]
  · rw [Parser.errors, hd', diagnostics]
    simp [refused, pair, Refusal.map, Refusal.diagnostic, Diagnostic.message, Function.comp_def]

/-- A definition without a name and a sum without an operand, on one line and on several. -/
theorem parseSource_same_lines :
    let source := "let 007; 1 +;"
    let source' := "let\n  007;\n\n1\t+ ;"
    let t (k : Kind) (literal : String) (value? : Option Int) (line column : Nat) : Token :=
      ⟨k, literal, value?, line, column⟩
    let ts := [t .letWord "let" none 1 1, t .int "007" (some 7) 1 5, t .semicolon ";" none 1 8,
      t .int "1" (some 1) 1 10, t .plus "+" none 1 12, t .semicolon ";" none 1 13,
      t .eof "" none 1 14]
    let ts' := [t .letWord "let" none 1 1, t .int "007" (some 7) 2 3, t .semicolon ";" none 2 6,
      t .int "1" (some 1) 4 1, t .plus "+" none 4 3, t .semicolon ";" none 4 5, t .eof "" none 4 6]
    tokenize source = .ok ts ∧ tokenize source' = .ok ts' ∧
      List.Forall₂ (fun t u => t.same u = true) ts ts' ∧
      ∃ p s s', parseSource nestingLimit .quiet "<stdin>" source = .ok p s ∧
        parseSource nestingLimit .quiet "<stdin>" source' = .ok p s' ∧
        ∃ marks : List ((Token × Token) × String),
          (marks.map Prod.fst).Sublist (ts.zip ts') ∧
          s.errors = marks.map (fun m => s!"Line {m.1.1.line}:{m.1.1.column} - {m.2}") ∧
          s'.errors = marks.map (fun m => s!"Line {m.1.2.line}:{m.1.2.column} - {m.2}") := by
  intro source source' t ts ts'
  have h : tokenize source = .ok ts := by cbv
  have h' : tokenize source' = .ok ts' := by cbv
  have hsame : List.Forall₂ (fun t u => t.same u = true) ts ts' := by
    simp [ts, ts', t, Token.same, Token.key]
  exact ⟨h, h', hsame, parseSource_same h h' hsame nestingLimit .quiet .quiet "<stdin>" "<stdin>"⟩

end FrontEnd
