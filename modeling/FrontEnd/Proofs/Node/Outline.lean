import FrontEnd.Proofs.Node.Comparison
import FrontEnd.Proofs.Node.Tree
import FrontEnd.Proofs.Text.Markup
import FrontEnd.Proofs.Text.Quoted

/-!
# The outline of a tree is complete and tells the tree

An outline grows by rounds. Each takes the node that was put aside last, adds its branches below the
place that was kept for it, and puts the nodes that they name aside. The nodes put aside wait at
leaves, each for all that belongs below it, and none is in the way of another (`Completes`): so
nothing is lost or misplaced, though the branches are not filled in the order in which they stand.

* `growRound_iterate`: there are as many rounds as nodes.
* `Completes.round`: what is still to grow stays the same from round to round.
* `growAll_eq`: the outline has below each branch what belongs there.
* `eq_of_branches`: the branches below a node tell the node, if its class is known.
* `outline_complete`: all of it for one tree, and two programs.
-/

namespace FrontEnd

namespace Outline

/-- The address of a leaf. -/
inductive LeafAt : List Nat → Outline → Prop
  | here {label : String} : LeafAt [] (.leaf label)
  | inside {label : String} {address : List Nat} {before later : List Outline} {o : Outline} :
      LeafAt address o → LeafAt (before.length :: address) (.node label (before ++ o :: later))

theorem addAt_leaf (added : List Outline) (label : String) :
    (leaf label).addAt added [] = .node label added := rfl

/-- What is added below a branch changes this branch. -/
theorem addAt_inside (added : List Outline) (address : List Nat) (label : String)
    (before later : List Outline) (o : Outline) :
    (node label (before ++ o :: later)).addAt added (before.length :: address) =
      .node label (before ++ o.addAt added address :: later) := by
  rw [addAt, List.modify_eq_take_cons_drop (by simp)]
  simp

end Outline

namespace Node

open Outline (LeafAt addAt_inside)

variable {n : Node} {label : String} {address : List Nat} {before later : List Outline}
  {o o' o'' : Outline} {pending ps qs : List (Node × List Nat)}

/-! ## The branches below a node -/

mutual

/-- **The branches below a node**, each with all that is below it. -/
def branches : Node → List Outline
  | program statements => [.node "[cyan]statements[/cyan]" (itemBranches statements)]
  | letStmt name value =>
    [.node s!"[cyan]name[/cyan]: {name.typeName}" (branches name),
      .node s!"[cyan]value[/cyan]: {value.typeName}" (branches value)]
  | returnStmt value => [.node s!"[cyan]return_value[/cyan]: {value.typeName}" (branches value)]
  | exprStmt expression =>
    [.node s!"[cyan]expression[/cyan]: {expression.typeName}" (branches expression)]
  | identifier name => [.leaf s!"[cyan]value[/cyan]: {markedValue (Text.quote name)}"]
  | integer value => [.leaf s!"[cyan]value[/cyan]: {markedValue (toString value)}"]
  | string value => [.leaf s!"[cyan]value[/cyan]: {markedValue (Text.quote value)}"]
  | unary operator right =>
    [.leaf s!"[cyan]operator[/cyan]: {markedValue (Text.quote operator)}",
      .node s!"[cyan]right[/cyan]: {right.typeName}" (branches right)]
  | binary left operator right =>
    [.node s!"[cyan]left[/cyan]: {left.typeName}" (branches left),
      .leaf s!"[cyan]operator[/cyan]: {markedValue (Text.quote operator)}",
      .node s!"[cyan]right[/cyan]: {right.typeName}" (branches right)]
  | blank | bare _ => []

/-- The branches of the items of a list. -/
def itemBranches : List Node → List Outline
  | [] => []
  | n :: ns => .node n.typeName (branches n) :: itemBranches ns

end

theorem itemBranches_eq (ns : List Node) :
    itemBranches ns = ns.map fun n => .node n.typeName n.branches := by
  induction ns with
  | nil => rfl
  | cons n ns ih => rw [itemBranches, ih, List.map_cons]

/-- What stands on the branch of an item: the class of a node, and a plain value itself. -/
def Item.shown : Item → String
  | .node n => n.typeName
  | .text s => markedValue (Text.quote s)
  | .number v => markedValue (toString v)

/-- What is below the branch of an item. -/
def Item.below : Item → List Outline
  | .node n => n.branches
  | .text _ | .number _ => []

/-- The branch of a field, with all that is below it. -/
def fieldBranch : String × Field → Outline
  | (name, .one x) => .node s!"[cyan]{name}[/cyan]: {x.shown}" x.below
  | (name, .many ns) =>
    .node s!"[cyan]{name}[/cyan]" (ns.map fun n => .node n.typeName n.branches)

/-- **A node has a branch for each field**, in order. -/
theorem branches_eq (n : Node) : n.branches = n.fields.map fieldBranch := by
  cases n with
  | program statements => rw [branches, itemBranches_eq]; rfl
  | _ => rfl

/-- A field as a part. -/
def Field.part : Field → Part
  | .one (.node n) => .node n
  | .one (.text s) => .value (Text.quote s)
  | .one (.number v) => .value (toString v)
  | .many ns => .nodes ns

theorem parts_eq (n : Node) : n.parts = n.fields.map fun f => (f.1, f.2.part) := by
  cases n <;> rfl

/-! ## Rounds -/

/-- One round of growth. -/
def growRound : List (Node × List Nat) × Outline → List (Node × List Nat) × Outline
  | ([], outline) => ([], outline)
  | ((n, address) :: rest, outline) =>
    ((n.addressedParts address).reverse ++ rest,
      outline.addAt (n.parts.map fun part => branch part.1 part.2) address)

/-- **There are as many rounds as nodes**, and nothing is left aside. -/
theorem growRound_iterate (pending : List (Node × List Nat)) (o : Outline) :
    growRound^[sizeList (pending.map Prod.fst)] (pending, o) = ([], growAll pending o) := by
  fun_induction growAll pending o with
  | case1 o => rfl
  | case2 o n address rest ih =>
    have hsize := size_parts n
    rw [← fst_addressedParts address n, ← sizeList_reverse, ← List.map_reverse] at hsize
    rw [List.map_append, sizeList_append] at ih
    rw [List.map_cons, sizeList, ← hsize, Nat.add_right_comm, Function.iterate_succ_apply]
    exact ih

/-! ## What is still to grow -/

/-- **What the nodes put aside still have to add**: each waits at a leaf, and gets its branches with
all that is below them. -/
inductive Completes : List (Node × List Nat) → Outline → Outline → Prop
  | done {o : Outline} : Completes [] o o
  | next {n : Node} {address : List Nat} {qs : List (Node × List Nat)} {o o' : Outline} :
      LeafAt address o → Completes qs (o.addAt n.branches address) o' →
      Completes ((n, address) :: qs) o o'

theorem Completes.append (h : Completes ps o o') (h' : Completes qs o' o'') :
    Completes (ps ++ qs) o o'' := by
  induction h with
  | done => exact h'
  | next hleaf _ ih => exact .next hleaf (ih h')

/-- A node that was put aside, seen from above the branch. -/
def under (i : Nat) (p : Node × List Nat) : Node × List Nat := (p.1, i :: p.2)

/-- What grows in a branch grows in the outline. -/
theorem Completes.inside (h : Completes ps o o') (label : String) (before later : List Outline) :
    Completes (ps.map (under before.length)) (.node label (before ++ o :: later))
      (.node label (before ++ o' :: later)) := by
  induction h with
  | done => exact .done
  | next hleaf _ ih =>
    refine .next (.inside hleaf) ?_
    rw [addAt_inside]
    exact ih

/-- **Branches side by side** grow one after the other, the last one first. -/
theorem Completes.each {α : Type} {brief full : α → Outline} (held : α → List (Node × List Nat))
    (xs : List α) (h : ∀ x ∈ xs, Completes (held x).reverse (brief x) (full x)) (label : String)
    (before : List Outline) :
    Completes ((xs.zipIdx before.length).flatMap fun e => (held e.1).map (under e.2)).reverse
      (.node label (before ++ xs.map brief)) (.node label (before ++ xs.map full)) := by
  induction xs generalizing before with
  | nil => exact .done
  | cons x xs ih =>
    -- what was put aside last is taken first, so the branches behind this one are filled before it
    rw [List.zipIdx_cons, List.flatMap_cons, List.reverse_append, ← List.map_reverse]
    have hlater := ih (fun y hy => h y (List.mem_cons_of_mem _ hy)) (before ++ [brief x])
    simp only [List.length_append, List.length_singleton, List.append_assoc,
      List.singleton_append] at hlater
    exact hlater.append ((h x List.mem_cons_self).inside label before (xs.map full))

theorem addressed_cons (i : Nat) (address : List Nat) (part : Part) :
    part.addressed (i :: address) = (part.addressed address).map (under i) := by
  cases part <;> simp [Part.addressed, under]

theorem addressedParts_cons (i : Nat) (address : List Nat) (n : Node) :
    n.addressedParts (i :: address) = (n.addressedParts address).map (under i) := by
  simp only [addressedParts, List.cons_append, addressed_cons, List.map_flatMap]

/-- The branch of a field is complete when all nodes that it names are. -/
theorem completes_field (f : String × Field) :
    Completes (f.2.part.addressed []).reverse (branch f.1 f.2.part) (fieldBranch f) := by
  obtain ⟨name, f⟩ := f
  cases f with
  | one x =>
    cases x with
    | node n => exact .next .here .done
    | text | number => exact .done
  | many ns =>
    have hitem : ∀ n ∈ ns, Completes [(n, [])] (.leaf n.typeName) (.node n.typeName n.branches) :=
      fun n _ => .next .here .done
    have heach := Completes.each (fun n => [(n, [])]) ns hitem s!"[cyan]{name}[/cyan]" []
    simpa [under, ← List.map_eq_flatMap, Field.part, Part.addressed, branch, fieldBranch]
      using heach

/-- **A node is complete** when all nodes that its parts name are. -/
theorem completes_parts (n : Node) (h : LeafAt address o) :
    Completes (n.addressedParts address).reverse
      (o.addAt (n.parts.map fun part => branch part.1 part.2) address)
      (o.addAt n.branches address) := by
  induction h with
  | @here label =>
    have heach := Completes.each _ n.fields (fun f _ => completes_field f) label []
    rw [← branches_eq] at heach
    simpa [addressedParts, addressed_cons, parts_eq, List.zipIdx_map, List.flatMap_map,
      Outline.addAt_leaf, Function.comp_def] using heach
  | inside _ ih =>
    rw [addressedParts_cons, ← List.map_reverse, addAt_inside, addAt_inside]
    exact ih.inside _ _ _

/-- **What is still to grow** stays the same from round to round. -/
theorem Completes.round (h : Completes pending o o') :
    Completes (growRound (pending, o)).1 (growRound (pending, o)).2 o' := by
  cases h with
  | done => exact .done
  | next hleaf hlater => exact (completes_parts _ hleaf).append hlater

/-- **The outline** at the end is the one that the nodes put aside complete. -/
theorem growAll_of_completes (h : Completes pending o o') : growAll pending o = o' := by
  fun_induction growAll pending o with
  | case1 o =>
    cases h
    rfl
  | case2 o n address rest ih => exact ih h.round

/-- **The outline of a tree** has below each branch what belongs there. -/
theorem outline_eq (label : String) (n : Node) : n.outline label = .node label n.branches :=
  growAll_of_completes (.next .here .done)

/-! ## What branches tell -/

theorem markedValue_injective : Function.Injective markedValue := by
  intro s t h
  have hescape := (String.append_right_inj _).mp ((String.append_left_inj _).mp h)
  exact String.toList_inj.mp (Text.Markup.escape_injective (String.ofList_injective hescape))

/-- The branches below `a` tell `a` among the nodes of its class. -/
def Known (a : Node) : Prop :=
  ∀ ⦃b : Node⦄, a.typeName = b.typeName → a.branches = b.branches → a = b

/-- Two fields of one kind. -/
inductive Field.Alike : Field → Field → Prop
  | node {m n : Node} : Alike (.one (.node m)) (.one (.node n))
  | text {s t : String} : Alike (.one (.text s)) (.one (.text t))
  | number {v w : Int} : Alike (.one (.number v)) (.one (.number w))
  | many {ms ns : List Node} : Alike (.many ms) (.many ns)

theorem OneClass.alike {a b : Node} (h : OneClass a b) :
    List.Forall₂ (fun f g => f.1 = g.1 ∧ f.2.Alike g.2) a.fields b.fields := by
  cases h <;>
    simp [fields, Field.Alike.node, Field.Alike.text, Field.Alike.number, Field.Alike.many]

/-- Branches of items tell them, if each of the items is known. -/
theorem eq_of_itemBranches {ms ns : List Node} (hms : ∀ m ∈ ms, Known m)
    (h : (ms.map fun n => Outline.node n.typeName n.branches) =
      ns.map fun n => .node n.typeName n.branches) : ms = ns := by
  induction ms generalizing ns with
  | nil => exact (List.map_eq_nil_iff.mp h.symm).symm
  | cons m ms ih =>
    cases ns with
    | nil => cases h
    | cons n ns =>
      obtain ⟨hfirst, hlater⟩ := List.cons.inj h
      obtain ⟨hclass, hbranches⟩ := Outline.node.inj hfirst
      rw [hms m List.mem_cons_self hclass hbranches,
        ih (fun x hx => hms x (List.mem_cons_of_mem _ hx)) hlater]

/-- **The branch of a field** tells the field, if the nodes in it are known. -/
theorem eq_of_fieldBranch {name : String} {f g : Field} (hkind : f.Alike g)
    (hf : ∀ n ∈ f.part.nodesIn, Known n) (h : fieldBranch (name, f) = fieldBranch (name, g)) :
    f = g := by
  cases hkind with
  | @node m n =>
    obtain ⟨hlabel, hbelow⟩ := Outline.node.inj h
    have hclass : m.typeName = n.typeName := (String.append_right_inj _).mp hlabel
    rw [hf m List.mem_cons_self hclass hbelow]
  | text =>
    have hvalue := (String.append_right_inj _).mp (Outline.node.inj h).1
    rw [Text.quote_injective (markedValue_injective hvalue)]
  | number =>
    have hvalue := (String.append_right_inj _).mp (Outline.node.inj h).1
    rw [Int.repr_inj.mp (markedValue_injective hvalue)]
  | @many ms ns =>
    have hsame : ms = ns := eq_of_itemBranches hf (Outline.node.inj h).2
    rw [hsame]

/-- The branches of fields tell them, if the kind of each is known too. -/
theorem eq_of_fieldBranches {fs gs : List (String × Field)}
    (hkind : List.Forall₂ (fun f g => f.1 = g.1 ∧ f.2.Alike g.2) fs gs)
    (hfs : ∀ f ∈ fs, ∀ n ∈ f.2.part.nodesIn, Known n)
    (h : fs.map fieldBranch = gs.map fieldBranch) : fs = gs := by
  induction hkind with
  | nil => rfl
  | @cons f g fs gs hfg _ ih =>
    obtain ⟨name, f⟩ := f
    obtain ⟨name', g⟩ := g
    obtain ⟨rfl, hkind⟩ := hfg
    obtain ⟨hfirst, hlater⟩ := List.cons.inj h
    obtain rfl : f = g := eq_of_fieldBranch hkind (hfs _ List.mem_cons_self) hfirst
    rw [ih (fun f hf => hfs f (List.mem_cons_of_mem _ hf)) hlater]

/-- **The branches below a node tell the node** if those below its children do. -/
theorem known_of_children (a : Node) (ha : ∀ c ∈ a.children, Known c) : Known a := by
  intro b hclass hbranches
  rw [branches_eq, branches_eq] at hbranches
  rw [children, parts_eq, List.flatMap_map] at ha
  refine (eq_iff_fields a b).mpr ⟨hclass, ?_⟩
  refine eq_of_fieldBranches (oneClass_of_typeName hclass).alike (fun f hf n hn => ?_) hbranches
  exact ha n (List.mem_flatMap.mpr ⟨f, hf, hn⟩)

/-- **Branches tell their node**, if its class is known. -/
theorem eq_of_branches {a b : Node} (hclass : a.typeName = b.typeName)
    (h : a.branches = b.branches) : a = b :=
  children_induction (P := Known) known_of_children a hclass h

/-- Nodes of one class have one outline exactly if they are the same. The class has to be given, as
the root does not show it: an identifier and a string of one text have one outline too. -/
theorem outline_eq_iff {a b : Node} (hclass : a.typeName = b.typeName) (label : String) :
    a.outline label = b.outline label ↔ a.same b = true := by
  rw [same_iff, outline_eq, outline_eq]
  constructor
  · intro h
    exact eq_of_branches hclass (Outline.node.inj h).2
  · rintro rfl
    rfl

/-- **The outline of a tree is complete.** It is done after as many rounds as the tree has nodes. It
then has below its label, and below the branch of each node in the tree, a branch for each field of
the node, in order: a node hangs below the branch that names it, and the items of a list each below
a branch of their own, in order. Two programs have one outline exactly if they are the same. -/
theorem outline_complete (label : String) (n : Node) :
    growRound^[n.size] ([(n, [])], .leaf label) = ([], n.outline label) ∧
    n.outline label = .node label n.branches ∧
    (∀ m : Node, m.branches = m.fields.map fieldBranch) ∧
    ∀ ps qs : List Node,
      (program ps).outline label = (program qs).outline label ↔
        (program ps).same (program qs) = true := by
  refine ⟨growRound_iterate [(n, [])] (.leaf label), outline_eq label n, branches_eq, ?_⟩
  intro ps qs
  have hclass : (program ps).typeName = (program qs).typeName := rfl
  exact outline_eq_iff hclass label

end Node

end FrontEnd
