import FrontEnd.Proofs.Reader.Program
import FrontEnd.Proofs.Reader.Rules

/-!
# What every step of the parser respects

A step that succeeds or is refused leads from one state to another, and one that meets an error of
the stream ends with it. A relation between the states before and after a step is kept by a step
that is made of steps that keep it (`Parser.Composes`). If the elementary steps respect it
(`Parser.Frame`), then it is respected by all rules, and by each call of a parser, whether it
succeeds or not.

* `Composes.bind`, `Composes.handler`: steps one after the other, and handlers of failures.
* `Composes.inherited`: a relation is kept by all rules if the elementary steps keep it.
* `Frame.statement`, `Frame.program`, `Frame.call`: the rules, and all that can be asked of a
  parser.
-/

namespace FrontEnd

namespace Parser

open Reader

variable {α β : Type}

/-- A step from `s` ends in a state that `R` relates to `s`, or it fails with an error of the
stream that `F` admits there. -/
def Ends (R : Parser → Parser → Prop) (F : Parser → ScanError → Prop) (s : Parser) :
    EStateM.Result Failure Parser α → Prop
  | .error (.fault e) _ => F s e
  | .ok _ s' | .error _ s' => R s s'

/-- **A step keeps to `R` and `F`** from whatever state it begins in. -/
def Keeps (R : Parser → Parser → Prop) (F : Parser → ScanError → Prop) (m : Step α) : Prop :=
  ∀ s, Ends R F s (m s)

/-- **A frame**: a relation between states, and the errors that may be met from each of them, to
which the elementary steps keep. -/
structure Frame (R : Parser → Parser → Prop) (F : Parser → ScanError → Prop) : Prop where
  refl : ∀ s, R s s
  trans : ∀ {s s' s'' : Parser}, R s s' → R s' s'' → R s s''
  fault : ∀ {s s' : Parser} {e : ScanError}, R s s' → F s' e → F s e
  advance : Keeps R F advance
  journal : ∀ (s : Parser) (j : Journal), R s { s with journal := j }
  diagnostic : ∀ (s : Parser) (d : Diagnostic), R s { s with diagnostics := s.diagnostics.push d }

variable {R : Parser → Parser → Prop} {F : Parser → ScanError → Prop} {s s' : Parser}

theorem Keeps.of_ok {m : Step α} (hm : Keeps R F m) {a : α} (h : m s = .ok a s') : R s s' := by
  have := hm s
  rwa [h] at this

/-! ## Steps one after the other -/

/-- **Steps one after the other** count as one: from a state that was reached, only what `R` and `F`
admit at the beginning can follow. -/
structure Composes (R : Parser → Parser → Prop) (F : Parser → ScanError → Prop) : Prop where
  refl : ∀ s, R s s
  trans : ∀ {s s' s'' : Parser}, R s s' → R s' s'' → R s s''
  fault : ∀ {s s' : Parser} {e : ScanError}, R s s' → F s' e → F s e

/-- What was done before a step counts as its doing. -/
theorem Composes.ends_of_rel (h : Composes R F) (hs : R s s')
    {r : EStateM.Result Failure Parser α} (hr : Ends R F s' r) : Ends R F s r := by
  match r, hr with
  | .ok _ _, hr => exact h.trans hs hr
  | .error (.refused _) _, hr => exact h.trans hs hr
  | .error .tooDeep _, hr => exact h.trans hs hr
  | .error (.fault _) _, hr => exact h.fault hs hr

theorem Composes.bind (h : Composes R F) {m : Step α} {g : α → Step β} (hm : Keeps R F m)
    (hg : ∀ a, Keeps R F (g a)) : Keeps R F (m >>= g) := by
  intro s
  have hs := hm s
  match hr : m s, hs with
  | .ok a s1, hs =>
    rw [bind_of_ok hr]
    exact h.ends_of_rel hs (hg a s1)
  | .error (.refused d) s1, hs => rw [bind_of_error hr]; exact hs
  | .error .tooDeep s1, hs => rw [bind_of_error hr]; exact hs
  | .error (.fault e) s1, hs => rw [bind_of_error hr]; exact hs

/-- A failure that is no error of the stream leaves the state as it is. -/
theorem Composes.failure (h : Composes R F) {e : Failure} (he : ¬e.IsFault) :
    Keeps R F (throw e : Step α) := by
  intro s
  cases e with
  | refused d => exact h.refl s
  | tooDeep => exact h.refl s
  | fault e => exact absurd trivial he

/-- A handler that passes the errors of the stream on. -/
theorem Composes.handler (h : Composes R F) {m : Step α} {g : Failure → Step α} (hm : Keeps R F m)
    (hg : ∀ e, ¬e.IsFault → Keeps R F (g e))
    (hf : ∀ e, g (.fault e) = throw (.fault e)) : Keeps R F (tryCatch m g) := by
  intro s
  have hs := hm s
  match hr : m s, hs with
  | .ok a s1, hs => rw [tryCatch_of_ok hr]; exact hs
  | .error (.refused d) s1, hs =>
    rw [tryCatch_of_error hr]
    exact h.ends_of_rel hs (hg (.refused d) not_false s1)
  | .error .tooDeep s1, hs =>
    rw [tryCatch_of_error hr]
    exact h.ends_of_rel hs (hg .tooDeep not_false s1)
  | .error (.fault e) s1, hs => rw [tryCatch_of_error hr, hf]; exact hs

/-- **A relation is kept by all rules** if the elementary steps keep it. -/
theorem Composes.inherited (h : Composes R F) (hadvance : Keeps R F advance)
    (hverbose : ∀ message, Keeps R F (note .verbose message))
    (hreport : ∀ d, Keeps R F (report d)) : Inherited fun _ m => Keeps R F m where
  pure _ := h.refl
  bind := h.bind
  look hg _ := h.bind (m := get) h.refl hg
  failure := h.failure
  handler := h.handler
  advance := hadvance
  verbose := hverbose
  report := hreport

/-! ## Frames -/

theorem Frame.composes (h : Frame R F) : Composes R F := ⟨h.refl, h.trans, h.fault⟩

theorem Frame.note (h : Frame R F) (level : Level) (message : String) :
    Keeps R F (note level message) :=
  fun s => h.journal s _

theorem Frame.report (h : Frame R F) (d : Diagnostic) : Keeps R F (report d) := by
  apply h.composes.bind
  · exact fun s => h.diagnostic s d
  · intro _
    exact h.note _ _

/-- **All rules** keep to a frame. -/
theorem Frame.inherited (h : Frame R F) : Inherited fun _ m => Keeps R F m :=
  h.composes.inherited h.advance (h.note _) h.report

theorem Frame.start (h : Frame R F) : Keeps R F Parser.start := h.inherited.start

/-- **Reading a statement** keeps to the frame. -/
theorem Frame.statement (h : Frame R F) (depth : Nat) : Keeps R F (Parser.statement depth) :=
  h.inherited.statement depth

/-- **Reading a program** keeps to the frame. -/
theorem Frame.program (h : Frame R F) (depth : Nat) : Keeps R F (Parser.program depth) :=
  h.inherited.program (h.note _) depth

/-- **Each call of a parser** keeps to the frame. -/
theorem Frame.call (h : Frame R F) (depth : Nat) (call : Call) : Keeps R F (call.run depth) :=
  h.inherited.call (h.note _) depth call

end Parser

end FrontEnd
