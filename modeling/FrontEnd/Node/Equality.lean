import FrontEnd.Node.Basic

/-!
# Comparing trees

Two trees are the same when their nodes are of one class, say the same and have the same parts,
all the way down. The comparison keeps a list of the pairs that are still to be compared
(`sameAll`), so the depth of the trees does not matter.
-/

namespace FrontEnd.Node

/-- Compares two nodes without their parts, and pairs up the parts. -/
def pairs? : Node → Node → Option (List (Node × Node))
  | .program xs, .program ys => if xs.length = ys.length then some (xs.zip ys) else none
  | .blank, .blank => some []
  | .letStmt m v, .letStmt n w => some [(m, n), (v, w)]
  | .returnStmt v, .returnStmt w => some [(v, w)]
  | .exprStmt v, .exprStmt w => some [(v, w)]
  | .identifier a, .identifier b => if a = b then some [] else none
  | .integer a, .integer b => if a = b then some [] else none
  | .string a, .string b => if a = b then some [] else none
  | .unary a r, .unary b s => if a = b then some [(r, s)] else none
  | .binary l a r, .binary m b s => if a = b then some [(l, m), (r, s)] else none
  | .bare a, .bare b => if a = b then some [] else none
  | _, _ => none

theorem sizeList_zip_fst {xs ys : List Node} (h : xs.length = ys.length) :
    sizeList ((xs.zip ys).map Prod.fst) = sizeList xs := by
  rw [List.map_fst_zip (by omega)]

/-- **Pairing up goes on with smaller trees.** -/
theorem size_pairs? {a b : Node} {ps : List (Node × Node)} (h : pairs? a b = some ps) :
    sizeList (ps.map Prod.fst) + 1 = a.size := by
  unfold pairs? at h
  split at h
  case h_1 =>
    split at h
    · rename_i hl
      cases h
      simp [sizeList_zip_fst hl, size]
    · cases h
  all_goals
    try split at h
    all_goals first
      | cases h; simp [sizeList, size]
      | cases h

/-- All pairs are of trees that are the same. -/
def sameAll (pending : List (Node × Node)) : Bool :=
  match pending with
  | [] => true
  | (a, b) :: rest =>
    match _h : pairs? a b with
    | some ps => sameAll (ps ++ rest)
    | none => false
termination_by sizeList (pending.map Prod.fst)
decreasing_by
  have := size_pairs? _h
  simp only [List.map_append, List.map_cons, sizeList_append, sizeList]
  omega

/-- **The two trees are the same.** -/
def same (a b : Node) : Bool := sameAll [(a, b)]

end FrontEnd.Node
