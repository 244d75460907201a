import FrontEnd.Node.Equality

/-!
# Comparing trees decides their equality

The comparison takes the pairs on its list one after the other, and puts the pairs of parts in front
of the others. At each point the trees that it began with are equal exactly if all pairs still on
the list are.

* `eq_iff_of_pairs?`: nodes that can be paired up are equal if their parts are.
* `sameAll_iff`: the comparison of all pairs on a list.
* `same_iff`: the comparison of two trees.
-/

namespace FrontEnd.Node

variable {a b : Node} {ps : List (Node × Node)}

theorem eq_iff_forall_zip {xs ys : List Node} (h : xs.length = ys.length) :
    xs = ys ↔ ∀ q ∈ xs.zip ys, q.1 = q.2 := by
  induction xs generalizing ys with
  | nil =>
    obtain rfl := List.length_eq_zero_iff.mp h.symm
    simp
  | cons x xs ih =>
    obtain ⟨y, ys, rfl⟩ := List.exists_cons_of_length_eq_add_one h.symm
    have hlen : xs.length = ys.length := by simpa using h
    rw [List.cons.injEq, ih hlen, List.zip_cons_cons, List.forall_mem_cons]

/-- **Nodes that are paired up** are equal exactly if all pairs of their parts are. -/
theorem eq_iff_of_pairs? (h : pairs? a b = some ps) : a = b ↔ ∀ q ∈ ps, q.1 = q.2 := by
  unfold pairs? at h
  split at h
  case h_1 =>
    split at h
    · rename_i hlen
      cases h
      rw [program.injEq, eq_iff_forall_zip hlen]
    · cases h
  all_goals
    try split at h
    all_goals first
      | cases h; simp_all
      | cases h

/-- Nodes that cannot be paired up differ. -/
theorem ne_of_pairs?_eq_none (h : pairs? a b = none) : a ≠ b := by
  rintro rfl
  cases a <;> simp [pairs?] at h

/-- **The comparison** finds all pairs equal exactly if they are. -/
theorem sameAll_iff (pending : List (Node × Node)) :
    sameAll pending = true ↔ ∀ q ∈ pending, q.1 = q.2 := by
  fun_induction sameAll pending with
  | case1 => simp
  | case2 a b rest ps hps ih =>
    rw [ih, List.forall_mem_append, List.forall_mem_cons, ← eq_iff_of_pairs? hps]
  | case3 a b rest hnone =>
    have hne := ne_of_pairs?_eq_none hnone
    simp [hne]

/-- **Trees are the same** exactly if they are equal. -/
theorem same_iff (a b : Node) : a.same b = true ↔ a = b := by
  rw [same, sameAll_iff, List.forall_mem_singleton]

end FrontEnd.Node
