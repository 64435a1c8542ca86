import Mathlib.Data.List.Basic

/-!
# Pieces of a fixed length

A list is cut into pieces of `n + 1` elements, the last with what is left.  Nothing is lost or
repeated (`flatten_chunks`), and every piece but the last is full.

Pieces written one to a line are read back by `splitOn_lines`, as long as no piece holds the
line break.
-/

namespace Chunks

variable {α : Type*}

/-- The pieces of `n + 1` elements. -/
def chunks (n : ℕ) : List α → List (List α)
  | [] => []
  | x :: xs => (x :: xs.take n) :: chunks n (xs.drop n)
termination_by xs => xs.length
decreasing_by simp only [List.length_drop, List.length_cons]; omega

variable {n : ℕ} {xs : List α}

@[simp] lemma chunks_nil (n : ℕ) : chunks n ([] : List α) = [] := by rw [chunks]

lemma chunks_cons (n : ℕ) (x : α) (xs : List α) :
    chunks n (x :: xs) = (x :: xs.take n) :: chunks n (xs.drop n) := by rw [chunks]

lemma chunks_eq_nil : chunks n xs = [] ↔ xs = [] := by
  cases xs with
  | nil => simp
  | cons x xs => simp [chunks_cons]

/-- The pieces put together are the list. -/
lemma flatten_chunks (n : ℕ) (xs : List α) : (chunks n xs).flatten = xs := by
  induction xs using chunks.induct (n := n) with
  | case1 => rw [chunks_nil, List.flatten_nil]
  | case2 x xs ih =>
      rw [chunks_cons, List.flatten_cons, ih, List.cons_append, List.take_append_drop]

lemma mem_of_mem_chunks {piece : List α} (hpiece : piece ∈ chunks n xs) {x : α}
    (hx : x ∈ piece) : x ∈ xs := by
  rw [← flatten_chunks n xs]
  exact List.mem_flatten.2 ⟨piece, hpiece, hx⟩

lemma length_of_mem_chunks {piece : List α} (hpiece : piece ∈ chunks n xs) :
    1 ≤ piece.length ∧ piece.length ≤ n + 1 := by
  induction xs using chunks.induct (n := n) with
  | case1 => exact absurd hpiece (by simp)
  | case2 x xs ih =>
      rw [chunks_cons] at hpiece
      rcases List.mem_cons.1 hpiece with rfl | hrest
      · have htake : (xs.take n).length ≤ n := List.length_take_le n xs
        exact ⟨by simp, by rw [List.length_cons]; omega⟩
      · exact ih hrest

/-- A piece that another one follows is full. -/
lemma length_of_mem_dropLast_chunks {piece : List α}
    (hpiece : piece ∈ (chunks n xs).dropLast) : piece.length = n + 1 := by
  induction xs using chunks.induct (n := n) with
  | case1 => exact absurd hpiece (by simp)
  | case2 x xs ih =>
      rw [chunks_cons] at hpiece
      by_cases hrest : chunks n (xs.drop n) = []
      · exact absurd hpiece (by simp [hrest])
      · rw [List.dropLast_cons_of_ne_nil hrest] at hpiece
        rcases List.mem_cons.1 hpiece with rfl | hmem
        · have hlong : n < xs.length := by
            by_contra hshort
            exact hrest (chunks_eq_nil.2 (List.drop_eq_nil_of_le (by omega)))
          rw [List.length_cons, List.length_take, Nat.min_eq_left (Nat.le_of_lt hlong)]
        · exact ih hmem

/-! ## One to a line -/

variable [DecidableEq α] {brk : α}

/-- What is split at the line breaks is what was written, and the empty text after the last. -/
lemma splitOn_lines {ls : List (List α)} (hls : ∀ l ∈ ls, brk ∉ l) :
    (ls.flatMap fun l => l ++ [brk]).splitOn brk = ls ++ [[]] := by
  induction ls with
  | nil => rfl
  | cons l ls ih =>
      have hline : (l ++ [brk]) ++ (ls.flatMap fun l => l ++ [brk]) =
          l ++ brk :: (ls.flatMap fun l => l ++ [brk]) := by
        rw [List.append_assoc, List.singleton_append]
      rw [List.flatMap_cons, hline, List.splitOn_append_cons_self,
        List.splitOn_eq_singleton (hls l List.mem_cons_self),
        ih fun l' hl' => hls l' (List.mem_cons_of_mem l hl')]
      rfl

end Chunks
