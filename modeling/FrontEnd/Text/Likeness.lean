/-!
# Likeness of words

Two words are alike when much of one stands in the other in the same order. What agrees
(`agreement`) is the longest run of characters that stands in both, and what agrees in the parts
before it and behind it. Words are alike when at least three in five of all their characters
agree (`alike`).
-/

namespace FrontEnd.Text.Likeness

/-- The number of characters that two words begin with alike. -/
def commonHead : List Char → List Char → Nat
  | c :: r, d :: s => if c = d then commonHead r s + 1 else 0
  | _, _ => 0

theorem commonHead_le (a b : List Char) : commonHead a b ≤ a.length := by
  fun_induction commonHead a b with
  | case1 c r _ ih => simpa using ih
  | case2 => exact Nat.zero_le _
  | case3 => exact Nat.zero_le _

/-- A run that stands in two words: where it begins in each, and its length. -/
structure Run where
  left : Nat
  right : Nat
  length : Nat
  deriving DecidableEq, Repr

/-- The common run of two words at every pair of places, the first place of the first word
first. -/
def runs (a b : List Char) : List Run :=
  (List.range a.length).flatMap fun i => (List.range b.length).map fun j =>
    ⟨i, j, commonHead (a.drop i) (b.drop j)⟩

/-- The longer of two runs, the first of equally long ones. -/
def Run.longer (r s : Run) : Run := if r.length < s.length then s else r

/-- **The longest run that stands in both words.** -/
def longestRun (a b : List Char) : Run := (runs a b).foldl Run.longer ⟨0, 0, 0⟩

theorem foldl_longer_mem (r : Run) (rs : List Run) : rs.foldl Run.longer r ∈ r :: rs := by
  induction rs generalizing r with
  | nil => simp
  | cons s rs ih =>
    rcases List.mem_cons.1 (ih (r.longer s)) with h | h
    · rw [List.foldl_cons, h, Run.longer]
      split <;> simp
    · simp [h]

/-- The longest run lies within the first word. -/
theorem longestRun_le (a b : List Char) :
    (longestRun a b).left + (longestRun a b).length ≤ a.length := by
  rcases List.mem_cons.1 (foldl_longer_mem ⟨0, 0, 0⟩ (runs a b)) with h | h
  · rw [longestRun, h]
    simp
  · obtain ⟨i, hi, h⟩ := List.mem_flatMap.1 h
    obtain ⟨j, -, h⟩ := List.mem_map.1 h
    have h1 := commonHead_le (a.drop i) (b.drop j)
    rw [List.mem_range] at hi
    rw [longestRun, ← h]
    simp only [List.length_drop] at h1 ⊢
    omega

/-- **The number of characters that agree.** -/
def agreement (a b : List Char) : Nat :=
  let run := longestRun a b
  if _h : run.length = 0 then 0
  else
    agreement (a.take run.left) (b.take run.right) + run.length +
      agreement (a.drop (run.left + run.length)) (b.drop (run.right + run.length))
termination_by a.length
decreasing_by
  all_goals
    have := longestRun_le a b
    simp only [run, List.length_take, List.length_drop] at *
    omega

/-- At least three in five of the characters of two words agree. -/
def alike (a b : String) : Bool :=
  3 * (a.length + b.length) ≤ 10 * agreement a.toList b.toList

end FrontEnd.Text.Likeness
