import FrontEnd.Node.Basic

/-!
# The strings in a tree

The contents of the string literals of a tree can be listed from left to right (`Node.strings`), and
each of them can be replaced while all else stays as it is (`Node.mapStrings`).

* `mapStrings_congr`: what a tree becomes depends on the strings in it only.
* `mapStrings_id`: a tree whose strings are kept is kept.
-/

namespace FrontEnd.Node

mutual

/-- The contents of the string literals of a tree, from left to right. -/
def strings : Node → List String
  | program statements => stringsList statements
  | letStmt name value => strings name ++ strings value
  | returnStmt value => strings value
  | exprStmt expression => strings expression
  | string value => [value]
  | unary _ right => strings right
  | binary left _ right => strings left ++ strings right
  | blank | identifier _ | integer _ | bare _ => []

/-- The strings in the trees of a list, one tree after the other. -/
def stringsList : List Node → List String
  | [] => []
  | n :: ns => strings n ++ stringsList ns

end

mutual

/-- The tree with other contents of its string literals. -/
def mapStrings (g : String → String) : Node → Node
  | program statements => program (mapStringsList g statements)
  | letStmt name value => letStmt (mapStrings g name) (mapStrings g value)
  | returnStmt value => returnStmt (mapStrings g value)
  | exprStmt expression => exprStmt (mapStrings g expression)
  | string value => string (g value)
  | unary operator right => unary operator (mapStrings g right)
  | binary left operator right => binary (mapStrings g left) operator (mapStrings g right)
  | blank => blank
  | identifier name => identifier name
  | integer value => integer value
  | bare base => bare base

/-- The trees of a list, each with other contents of its string literals. -/
def mapStringsList (g : String → String) : List Node → List Node
  | [] => []
  | n :: ns => mapStrings g n :: mapStringsList g ns

end

variable {g h : String → String}

theorem mapStringsList_eq_map (g : String → String) (ns : List Node) :
    mapStringsList g ns = ns.map (mapStrings g) := by
  induction ns with
  | nil => rfl
  | cons n ns ih => rw [mapStringsList, List.map_cons, ih]

mutual

/-- **What a tree becomes** depends on the strings in it only. -/
theorem mapStrings_congr (n : Node) (hgh : ∀ s ∈ n.strings, g s = h s) :
    n.mapStrings g = n.mapStrings h := by
  cases n with
  | program statements => rw [mapStrings, mapStrings, mapStringsList_congr statements hgh]
  | letStmt name value =>
    obtain ⟨h1, h2⟩ := List.forall_mem_append.mp hgh
    rw [mapStrings, mapStrings, mapStrings_congr name h1, mapStrings_congr value h2]
  | returnStmt value => rw [mapStrings, mapStrings, mapStrings_congr value hgh]
  | exprStmt expression => rw [mapStrings, mapStrings, mapStrings_congr expression hgh]
  | string value => rw [mapStrings, mapStrings, hgh value List.mem_cons_self]
  | unary operator right => rw [mapStrings, mapStrings, mapStrings_congr right hgh]
  | binary left operator right =>
    obtain ⟨h1, h2⟩ := List.forall_mem_append.mp hgh
    rw [mapStrings, mapStrings, mapStrings_congr left h1, mapStrings_congr right h2]
  | blank | identifier | integer | bare => rfl

theorem mapStringsList_congr (ns : List Node) (hgh : ∀ s ∈ stringsList ns, g s = h s) :
    mapStringsList g ns = mapStringsList h ns := by
  cases ns with
  | nil => rfl
  | cons n ns =>
    obtain ⟨h1, h2⟩ := List.forall_mem_append.mp hgh
    rw [mapStringsList, mapStringsList, mapStrings_congr n h1, mapStringsList_congr ns h2]

end

mutual

/-- **A tree whose strings are kept** is kept. -/
theorem mapStrings_id (n : Node) : n.mapStrings id = n := by
  cases n with
  | program statements => rw [mapStrings, mapStringsList_id]
  | letStmt name value => rw [mapStrings, mapStrings_id, mapStrings_id]
  | returnStmt value => rw [mapStrings, mapStrings_id]
  | exprStmt expression => rw [mapStrings, mapStrings_id]
  | unary operator right => rw [mapStrings, mapStrings_id]
  | binary left operator right => rw [mapStrings, mapStrings_id, mapStrings_id]
  | string | blank | identifier | integer | bare => rfl

theorem mapStringsList_id (ns : List Node) : mapStringsList id ns = ns := by
  cases ns with
  | nil => rfl
  | cons n ns => rw [mapStringsList, mapStrings_id, mapStringsList_id]

end

theorem mapStrings_id_eq : mapStrings id = id := funext mapStrings_id

end FrontEnd.Node
