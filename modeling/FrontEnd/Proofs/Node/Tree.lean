import FrontEnd.Node.Outline

/-!
# The nodes of a tree

The parts of a node that are nodes are its children, in order. A tree holds itself and what its
children hold (`Node.Holds`), and these nodes can be listed from the top down (`Node.preorder`).

* `preorder_eq`: a node comes before its children and what they hold.
* `children_induction`: what passes from the children to a node holds of each tree.
* `mem_preorder_iff`: the list has the nodes that the tree holds, and no others.
-/

namespace FrontEnd.Node

/-- The nodes among the parts of a node. -/
def children (n : Node) : List Node := n.parts.flatMap fun part => part.2.nodesIn

section

variable (n m : Node) (ns : List Node) (operator : String)

@[simp] theorem children_program : (program ns).children = ns := by
  simp [children, parts, Part.nodesIn]

@[simp] theorem children_letStmt : (letStmt n m).children = [n, m] := rfl

@[simp] theorem children_returnStmt : (returnStmt n).children = [n] := rfl

@[simp] theorem children_exprStmt : (exprStmt n).children = [n] := rfl

@[simp] theorem children_unary : (unary operator n).children = [n] := rfl

@[simp] theorem children_binary : (binary n operator m).children = [n, m] := rfl

@[simp] theorem children_blank : blank.children = [] := rfl

@[simp] theorem children_identifier (name : String) : (identifier name).children = [] := rfl

@[simp] theorem children_integer (value : Int) : (integer value).children = [] := rfl

@[simp] theorem children_string (value : String) : (string value).children = [] := rfl

@[simp] theorem children_bare (base : Bare) : (bare base).children = [] := rfl

end

/-- The second tree is the first one, or stands somewhere in it. -/
inductive Holds : Node → Node → Prop
  | self {n : Node} : Holds n n
  | child {n c m : Node} : c ∈ n.children → Holds c m → Holds n m

theorem Holds.trans {n m c : Node} (h : n.Holds m) (hm : m.Holds c) : n.Holds c := by
  induction h with
  | self => exact hm
  | child hc _ ih => exact .child hc (ih hm)

mutual

/-- The nodes of a tree from the top down, each before its children and these in order. -/
def preorder : Node → List Node
  | program statements => program statements :: preorderList statements
  | letStmt name value => letStmt name value :: (preorder name ++ preorder value)
  | returnStmt value => returnStmt value :: preorder value
  | exprStmt expression => exprStmt expression :: preorder expression
  | unary operator right => unary operator right :: preorder right
  | binary left operator right =>
    binary left operator right :: (preorder left ++ preorder right)
  | blank => [blank]
  | identifier name => [identifier name]
  | integer value => [integer value]
  | string value => [string value]
  | bare base => [bare base]

/-- The nodes in the trees of a list, one tree after the other. -/
def preorderList : List Node → List Node
  | [] => []
  | n :: ns => preorder n ++ preorderList ns

end

variable {n m c : Node} {ns : List Node}

theorem preorderList_append (xs ys : List Node) :
    preorderList (xs ++ ys) = preorderList xs ++ preorderList ys := by
  induction xs with
  | nil => rfl
  | cons x xs ih => rw [List.cons_append, preorderList, preorderList, ih, List.append_assoc]

theorem mem_preorderList : m ∈ preorderList ns ↔ ∃ c ∈ ns, m ∈ c.preorder := by
  induction ns with
  | nil => simp [preorderList]
  | cons n ns ih => simp [preorderList, ih]

/-- **A node comes first**, and behind it what its children hold. -/
theorem preorder_eq (n : Node) : n.preorder = n :: preorderList n.children := by
  cases n <;> simp [preorder, preorderList]

/-- A child is smaller than its node. -/
theorem size_lt_of_mem_children (h : c ∈ n.children) : c.size < n.size := by
  have hsize := size_parts n
  have hle : ∀ ns, c ∈ ns → c.size ≤ sizeList ns := by
    intro ns hc
    induction ns with
    | nil => cases hc
    | cons x xs ih =>
      rw [sizeList]
      rcases List.mem_cons.mp hc with rfl | hc
      · omega
      · have := ih hc
        omega
  have := hle n.children h
  unfold children at this
  omega

/-- **Induction from the children up.** -/
theorem children_induction {P : Node → Prop} (h : ∀ n, (∀ c ∈ n.children, P c) → P n) (n : Node) :
    P n := by
  induction hk : n.size using Nat.strongRecOn generalizing n with
  | ind k ih =>
    refine h n fun c hc => ?_
    have hlt := size_lt_of_mem_children hc
    exact ih c.size (hk ▸ hlt) c rfl

/-- **The list has the nodes that the tree holds**, and no others. -/
theorem mem_preorder_iff : m ∈ n.preorder ↔ n.Holds m := by
  constructor
  · intro h
    induction n using children_induction with
    | h n ih =>
      rw [preorder_eq] at h
      rcases List.mem_cons.mp h with rfl | h
      · exact .self
      · obtain ⟨c, hc, hm⟩ := mem_preorderList.mp h
        exact .child hc (ih c hc hm)
  · intro h
    induction h with
    | self =>
      rw [preorder_eq]
      exact List.mem_cons_self
    | @child n c m hc _ ih =>
      rw [preorder_eq]
      exact List.mem_cons_of_mem _ (mem_preorderList.mpr ⟨c, hc, ih⟩)

end FrontEnd.Node
