import FrontEnd.Proofs.Node.Equality
import Mathlib

/-!
# Comparing trees in any order

A node says what it is by its class and its fields (`Node.fields`). To compare two nodes, their fields
are paired up and put aside, plain values together with nodes, and then any pair is taken up next
(`Step`). A comparison with a stack takes the pair that was put aside last (`compareAll`). The answer
is the same each time: whether the trees are equal.

* `eq_iff_of_pair?`: the pairs of fields stand for the pair that they were made of.
* `exists_step`, `wellFounded_step`: any pair can be taken up, and no comparison goes on for ever.
* `Answers.iff`: the answer of each comparison, whichever pairs it takes up.
* `same_decides`: all of it for two trees.
-/

namespace FrontEnd.Node

/-! ## Fields -/

/-- What is compared at once: a node, or a plain value. -/
inductive Item
  | node (n : Node)
  | text (s : String)
  | number (v : Int)

/-- A field of a node: one item, or a list of nodes. -/
inductive Field
  | one (x : Item)
  | many (ns : List Node)

/-- **The fields of a node** with their names, in order. -/
def fields : Node → List (String × Field)
  | program statements => [("statements", .many statements)]
  | letStmt name value => [("name", .one (.node name)), ("value", .one (.node value))]
  | returnStmt value => [("return_value", .one (.node value))]
  | exprStmt expression => [("expression", .one (.node expression))]
  | identifier name => [("value", .one (.text name))]
  | integer value => [("value", .one (.number value))]
  | string value => [("value", .one (.text value))]
  | unary operator right => [("operator", .one (.text operator)), ("right", .one (.node right))]
  | binary left operator right =>
    [("left", .one (.node left)), ("operator", .one (.text operator)), ("right", .one (.node right))]
  | blank | bare _ => []

theorem name_injective {base base' : Bare} (h : base.name = base'.name) : base = base' := by
  cases base <;> cases base' <;> simp_all [Bare.name]

/-- **Two nodes of one class**, whatever their fields hold. -/
inductive OneClass : Node → Node → Prop
  | program {xs ys : List Node} : OneClass (.program xs) (.program ys)
  | blank : OneClass .blank .blank
  | letStmt {m n v w : Node} : OneClass (.letStmt m v) (.letStmt n w)
  | returnStmt {v w : Node} : OneClass (.returnStmt v) (.returnStmt w)
  | exprStmt {v w : Node} : OneClass (.exprStmt v) (.exprStmt w)
  | identifier {s t : String} : OneClass (.identifier s) (.identifier t)
  | integer {v w : Int} : OneClass (.integer v) (.integer w)
  | string {s t : String} : OneClass (.string s) (.string t)
  | unary {s t : String} {v w : Node} : OneClass (.unary s v) (.unary t w)
  | binary {l m v w : Node} {s t : String} : OneClass (.binary l s v) (.binary m t w)
  | bare {base : Bare} : OneClass (.bare base) (.bare base)

/-- The names of the classes tell them apart. -/
theorem oneClass_of_typeName {a b : Node} (h : a.typeName = b.typeName) : OneClass a b := by
  cases a with
  | bare base =>
    cases b with
    | bare base' => exact name_injective h ▸ .bare
    | _ => cases base <;> simp [typeName, Bare.name] at h
  | _ =>
    cases b with
    | bare base => cases base <;> simp [typeName, Bare.name] at h
    | _ => first | constructor | simp [typeName] at h

/-- **A node is its class and its fields.** -/
theorem eq_iff_fields (a b : Node) : a = b ↔ a.typeName = b.typeName ∧ a.fields = b.fields := by
  constructor
  · rintro rfl
    exact ⟨rfl, rfl⟩
  · rintro ⟨hclass, hfields⟩
    cases oneClass_of_typeName hclass <;> simp_all [fields]

/-! ## One pair -/

/-- The pairs that two fields stand for. Lists are paired item by item if they are of one length. -/
def pairField? : Field → Field → Option (List (Item × Item))
  | .one x, .one y => some [(x, y)]
  | .many ms, .many ns =>
    if ms.length = ns.length then some ((ms.zip ns).map fun q => (.node q.1, .node q.2)) else none
  | _, _ => none

/-- The pairs that the fields of two nodes stand for, if the fields have the same names. -/
def pairFields? : List (String × Field) → List (String × Field) → Option (List (Item × Item))
  | [], [] => some []
  | (k, f) :: fs, (l, g) :: gs =>
    if k = l then do
      let first ← pairField? f g
      let later ← pairFields? fs gs
      return first ++ later
    else none
  | _, _ => none

/-- **What comes of a pair**: nothing if its items differ at once, and otherwise the pairs that are
still to be compared, which are none for plain values. -/
def pair? : Item × Item → Option (List (Item × Item))
  | (.node a, .node b) => if a.typeName = b.typeName then pairFields? a.fields b.fields else none
  | (.text s, .text t) => if s = t then some [] else none
  | (.number v, .number w) => if v = w then some [] else none
  | _ => none

variable {f g : Field} {fs gs : List (String × Field)} {p : Item × Item}
  {ps pending later : List (Item × Item)}

theorem eq_iff_of_pairField? (h : pairField? f g = some ps) : f = g ↔ ∀ q ∈ ps, q.1 = q.2 := by
  unfold pairField? at h
  split at h
  · cases h
    simp
  · rename_i ms ns
    split at h
    · rename_i hlen
      cases h
      rw [Field.many.injEq, eq_iff_forall_zip hlen, List.forall_mem_map]
      simp
    · cases h
  · cases h

theorem ne_of_pairField?_eq_none (h : pairField? f g = none) : f ≠ g := by
  rintro rfl
  cases f <;> simp [pairField?] at h

/-- Fields that are paired up are equal exactly if all their pairs are. -/
theorem eq_iff_of_pairFields? (h : pairFields? fs gs = some ps) :
    fs = gs ↔ ∀ q ∈ ps, q.1 = q.2 := by
  fun_induction pairFields? fs gs generalizing ps with
  | case1 => simp_all
  | case2 f fs l g gs ih =>
    obtain ⟨first, hfirst, h⟩ := Option.bind_eq_some_iff.mp h
    obtain ⟨others, hothers, h⟩ := Option.bind_eq_some_iff.mp h
    cases h
    rw [List.forall_mem_append, ← eq_iff_of_pairField? hfirst, ← ih hothers]
    simp
  | case3 => cases h
  | case4 => cases h

/-- Fields that cannot be paired up differ. -/
theorem ne_of_pairFields?_eq_none (h : pairFields? fs gs = none) : fs ≠ gs := by
  fun_induction pairFields? fs gs with
  | case1 => cases h
  | case2 f fs l g gs ih =>
    rintro heq
    cases heq
    cases hfirst : pairField? f f with
    | none => exact ne_of_pairField?_eq_none hfirst rfl
    | some first =>
      cases hothers : pairFields? fs fs with
      | none => exact ih hothers rfl
      | some others => simp [hfirst, hothers] at h
  | case3 k f fs l g gs hkl =>
    intro heq
    cases heq
    exact hkl rfl
  | case4 fs gs hnil hcons =>
    rintro rfl
    cases fs with
    | nil => exact hnil rfl rfl
    | cons f fs => exact hcons f.1 f.2 fs f.1 f.2 fs rfl rfl

/-- **A pair is equal** exactly if all that comes of it is. -/
theorem eq_iff_of_pair? (h : pair? p = some ps) : p.1 = p.2 ↔ ∀ q ∈ ps, q.1 = q.2 := by
  unfold pair? at h
  split at h
  · rename_i a b
    split at h
    · rename_i hclass
      rw [Item.node.injEq, eq_iff_fields, eq_iff_of_pairFields? h]
      exact and_iff_right hclass
    · cases h
  · split at h
    · rename_i hst
      cases h
      simp [hst]
    · cases h
  · split at h
    · rename_i hvw
      cases h
      simp [hvw]
    · cases h
  · cases h

/-- A pair of which nothing can come differs. -/
theorem ne_of_pair?_eq_none (h : pair? p = none) : p.1 ≠ p.2 := by
  obtain ⟨x, y⟩ := p
  intro heq
  obtain rfl : x = y := heq
  cases x with
  | node a =>
    simp only [pair?] at h
    exact ne_of_pairFields?_eq_none h rfl
  | text s => simp [pair?] at h
  | number v => simp [pair?] at h

/-! ## How much is left -/

/-- A node counts twice for each node in it, so that it outweighs its plain values too. -/
def Item.weight : Item → Nat
  | .node n => 2 * n.size
  | .text _ | .number _ => 1

/-- The weight of the items in a field. -/
def Field.weight : Field → Nat
  | .one x => x.weight
  | .many ns => 2 * sizeList ns

/-- The weight of all that is still to be compared. -/
def weight (pending : List (Item × Item)) : Nat := (pending.map fun q => q.1.weight).sum

theorem weight_append (ps qs : List (Item × Item)) : weight (ps ++ qs) = weight ps + weight qs := by
  simp [weight]

theorem weight_perm (h : ps.Perm pending) : weight ps = weight pending :=
  (h.map _).sum_nat

theorem weight_cons (p : Item × Item) (ps : List (Item × Item)) :
    weight (p :: ps) = p.1.weight + weight ps := by
  simp [weight]

theorem two_mul_sizeList (ns : List Node) : 2 * sizeList ns = (ns.map fun n => 2 * n.size).sum := by
  induction ns with
  | nil => rfl
  | cons n ns ih =>
    rw [sizeList, Nat.mul_add, ih, List.map_cons, List.sum_cons]

theorem weight_fields (n : Node) : (n.fields.map fun f => f.2.weight).sum < 2 * n.size := by
  cases n <;> simp [fields, Field.weight, Item.weight, size] <;> omega

theorem weight_pairField? (h : pairField? f g = some ps) : weight ps = f.weight := by
  unfold pairField? at h
  split at h
  · cases h
    simp [weight, Field.weight]
  · rename_i ms ns
    split at h
    · rename_i hlen
      cases h
      have hfirst : ((ms.zip ns).map fun q => 2 * q.1.size).sum = 2 * sizeList ms := by
        rw [← sizeList_zip_fst hlen, two_mul_sizeList, List.map_map]
        rfl
      simpa [weight, Field.weight, Item.weight, Function.comp_def] using hfirst
    · cases h
  · cases h

theorem weight_pairFields? (h : pairFields? fs gs = some ps) :
    weight ps = (fs.map fun f => f.2.weight).sum := by
  fun_induction pairFields? fs gs generalizing ps with
  | case1 => cases h; rfl
  | case2 f fs l g gs ih =>
    obtain ⟨first, hfirst, h⟩ := Option.bind_eq_some_iff.mp h
    obtain ⟨others, hothers, h⟩ := Option.bind_eq_some_iff.mp h
    cases h
    rw [weight_append, weight_pairField? hfirst, ih hothers, List.map_cons, List.sum_cons]
  | case3 => cases h
  | case4 => cases h

/-- **What comes of a pair weighs less** than the pair. -/
theorem weight_pair? (h : pair? p = some ps) : weight ps < p.1.weight := by
  unfold pair? at h
  split at h
  · rename_i a b
    split at h
    · have hfields := weight_pairFields? h
      have hnode := weight_fields a
      rw [hfields]
      exact hnode
    · cases h
  · split at h
    · cases h
      simp [weight, Item.weight]
    · cases h
  · split at h
    · cases h
      simp [weight, Item.weight]
    · cases h
  · cases h

/-! ## Comparisons -/

/-- **The comparison with a stack**: the pair on top is taken up, and what comes of it is put aside
one by one. -/
def compareAll (pending : List (Item × Item)) : Bool :=
  match pending with
  | [] => true
  | p :: rest =>
    match _h : pair? p with
    | some ps => compareAll (ps.reverse ++ rest)
    | none => false
termination_by weight pending
decreasing_by
  have hless := weight_pair? _h
  rw [weight_append, weight_perm (List.reverse_perm ps), weight_cons]
  omega

/-- **One step of a comparison.** A pair is taken up, wherever it lies, and what comes of it is put
among the others in any order. A pair that differs ends the comparison. -/
inductive Step (p : Item × Item) (pending : List (Item × Item)) :
    Option (List (Item × Item)) → Prop
  | agree {rest ps later : List (Item × Item)} :
      pending.Perm (p :: rest) → pair? p = some ps → later.Perm (ps ++ rest) →
      Step p pending (some later)
  | differ : p ∈ pending → pair? p = none → Step p pending none

/-- **A comparison** from the pairs that are put aside to its answer. -/
inductive Answers : List (Item × Item) → Bool → Prop
  | equal : Answers [] true
  | differ {p : Item × Item} {pending : List (Item × Item)} :
      Step p pending none → Answers pending false
  | step {p : Item × Item} {pending later : List (Item × Item)} {answer : Bool} :
      Step p pending (some later) → Answers later answer → Answers pending answer

/-- **Any pair can be taken up next.** -/
theorem exists_step (h : p ∈ pending) : ∃ next, Step p pending next := by
  cases hp : pair? p with
  | none => exact ⟨none, .differ h hp⟩
  | some ps =>
    obtain ⟨before, after, rfl⟩ := List.append_of_mem h
    exact ⟨some (ps ++ (before ++ after)), .agree List.perm_middle hp (.refl _)⟩

/-- A step leaves less to be compared. -/
theorem Step.weight_lt (h : Step p pending (some later)) : weight later < weight pending := by
  cases h with
  | agree hpending hp hlater =>
    have hless := weight_pair? hp
    rw [weight_perm hpending, weight_perm hlater, weight_append, weight_cons]
    omega

/-- **No comparison goes on for ever.** -/
theorem wellFounded_step : WellFounded fun later pending => ∃ p, Step p pending (some later) :=
  Subrelation.wf (fun ⟨_, h⟩ => h.weight_lt) (measure weight).wf

/-- All pairs are equal exactly if all pairs after a step are. -/
theorem Step.forall_iff (h : Step p pending (some later)) :
    (∀ q ∈ pending, q.1 = q.2) ↔ ∀ q ∈ later, q.1 = q.2 := by
  cases h with
  | agree hpending hp hlater =>
    simp only [hpending.mem_iff, hlater.mem_iff]
    rw [List.forall_mem_cons, List.forall_mem_append, eq_iff_of_pair? hp]

theorem Step.not_forall (h : Step p pending none) : ¬∀ q ∈ pending, q.1 = q.2 := by
  cases h with
  | differ hmem hp =>
    intro hall
    exact ne_of_pair?_eq_none hp (hall p hmem)

/-- **The answer of a comparison** is whether all pairs are equal. -/
theorem Answers.iff {answer : Bool} (h : Answers pending answer) :
    answer = true ↔ ∀ q ∈ pending, q.1 = q.2 := by
  induction h with
  | equal => simp
  | differ hstep =>
    -- some pair differs, whatever the others that are left
    constructor
    · intro hanswer
      cases hanswer
    · intro hall
      exact absurd hall hstep.not_forall
  | step hstep _ ih => rw [ih, hstep.forall_iff]

/-- The stack is one way to compare. -/
theorem answers_compareAll (pending : List (Item × Item)) :
    Answers pending (compareAll pending) := by
  fun_induction compareAll pending with
  | case1 => exact .equal
  | case2 p rest ps hps ih =>
    have hlater : (ps.reverse ++ rest).Perm (ps ++ rest) :=
      (List.reverse_perm ps).append_right rest
    exact .step (.agree (List.Perm.refl _) hps hlater) ih
  | case3 p rest hnone => exact .differ (.differ List.mem_cons_self hnone)

/-! ## Two trees -/

/-- The pair of two trees is equal exactly if the trees are. -/
theorem Answers.eq_same {a b : Node} {answer : Bool}
    (h : Answers [(.node a, .node b)] answer) : answer = a.same b := by
  rw [Bool.eq_iff_iff, h.iff, List.forall_mem_singleton, same_iff, Item.node.injEq]

/-- Fields that say the same: plain values that are equal, nodes that are the same, and lists of one
length whose nodes are the same one by one. -/
def Field.Agree : Field → Field → Prop
  | .one (.node m), .one (.node n) => m.same n = true
  | .one (.text s), .one (.text t) => s = t
  | .one (.number v), .one (.number w) => v = w
  | .many ms, .many ns => List.Forall₂ (fun m n : Node => m.same n = true) ms ns
  | _, _ => False

theorem Field.agree_iff (f g : Field) : f.Agree g ↔ f = g := by
  unfold Agree
  split
  · simp [same_iff]
  · simp
  · simp
  · simp [same_iff]
  · -- fields of different kinds, so they cannot be equal either
    rename_i hnode htext hnumber hmany
    constructor
    · exact False.elim
    · rintro rfl
      cases f with
      | one x =>
        cases x with
        | node n => exact hnode n n rfl rfl
        | text s => exact htext s s rfl rfl
        | number v => exact hnumber v v rfl rfl
      | many ns => exact hmany ns ns rfl rfl

/-- **The comparison of two trees** answers whether they are of one class and have the same fields
under the same names: the same plain values and the same nodes, lists in order and of one length. So
it answers whether they are one tree. The stack gives this answer, and so does every comparison,
whichever pair it takes up next: any pair can be taken up, and no comparison goes on for ever. Being
the same is an equivalence. -/
theorem same_decides (a b : Node) :
    (a.same b = true ↔ a.typeName = b.typeName ∧
      List.Forall₂ (fun f g => f.1 = g.1 ∧ f.2.Agree g.2) a.fields b.fields) ∧
    (a.same b = true ↔ a = b) ∧
    compareAll [(.node a, .node b)] = a.same b ∧
    (∀ answer, Answers [(.node a, .node b)] answer ↔ answer = a.same b) ∧
    (∀ (pending : List (Item × Item)) (p : Item × Item),
      p ∈ pending → ∃ next, Step p pending next) ∧
    (WellFounded fun later pending => ∃ p, Step p pending (some later)) ∧
    Equivalence fun m n : Node => m.same n = true := by
  have hstack : compareAll [(.node a, .node b)] = a.same b :=
    (answers_compareAll _).eq_same
  refine ⟨?_, same_iff a b, hstack, ?_, fun _ _ => exists_step, wellFounded_step, ?_⟩
  · have hfield : ∀ f g : String × Field, (f.1 = g.1 ∧ f.2.Agree g.2) ↔ f = g := by
      intro f g
      rw [Field.agree_iff, Prod.ext_iff]
    simp only [hfield, List.forall₂_eq_eq_eq]
    rw [same_iff, eq_iff_fields]
  · intro answer
    constructor
    · exact Answers.eq_same
    · rintro rfl
      rw [← hstack]
      exact answers_compareAll _
  · simp only [same_iff]
    exact eq_equivalence

end FrontEnd.Node
