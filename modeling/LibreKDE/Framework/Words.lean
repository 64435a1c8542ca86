import Mathlib.Data.List.Basic

/-!
# The words of a text

The words are what stands between separators, the empty pieces left out.  They add up where a
text is put together at a separator (`words_append`), and words joined by single separators read
back (`words_intercalate`), so a joined text says which words it was joined from.
-/

namespace Words

variable {α : Type*} [DecidableEq α] {sep : α}

/-- The pieces between separators, without the empty ones. -/
def words (sep : α) (s : List α) : List (List α) := (s.splitOn sep).filter fun w => w ≠ []

@[simp] lemma words_nil : words sep [] = [] := by simp [words]

lemma notMem_of_mem_splitOn {s w : List α} (hw : w ∈ s.splitOn sep) : sep ∉ w := by
  induction s generalizing w with
  | nil =>
      rw [List.splitOn_nil, List.mem_singleton] at hw
      rw [hw]
      exact List.not_mem_nil
  | cons c s ih =>
      rw [List.splitOn_cons_eq_if_modifyHead] at hw
      split_ifs at hw with hc
      · rcases List.mem_cons.1 hw with rfl | hrest
        · exact List.not_mem_nil
        · exact ih hrest
      · obtain ⟨first, rest, hs⟩ := List.exists_cons_of_ne_nil (List.splitOn_ne_nil sep s)
        rw [hs, List.modifyHead_cons] at hw
        rcases List.mem_cons.1 hw with rfl | hrest
        · have hfirst : sep ∉ first := ih (hs ▸ List.mem_cons_self)
          simpa [hfirst] using fun h => hc (by simp [h])
        · exact ih (hs ▸ List.mem_cons_of_mem first hrest)

/-- A word is not empty and holds no separator. -/
lemma mem_words {s w : List α} (hw : w ∈ words sep s) : w ≠ [] ∧ sep ∉ w := by
  obtain ⟨hmem, hne⟩ := List.mem_filter.1 hw
  exact ⟨by simpa using hne, notMem_of_mem_splitOn hmem⟩

lemma words_append (s s' : List α) : words sep (s ++ sep :: s') = words sep s ++ words sep s' := by
  rw [words, List.splitOn_append_cons_self, List.filter_append]
  rfl

lemma words_cons (s : List α) : words sep (sep :: s) = words sep s := by
  simpa using words_append [] s

lemma words_of_notMem {w : List α} (hne : w ≠ []) (hw : sep ∉ w) : words sep w = [w] := by
  rw [words, List.splitOn_eq_singleton hw, List.filter_singleton]
  simp [hne]

/-- Words joined by separators are the words of what was joined. -/
lemma words_intercalate {ws : List (List α)} (hws : ∀ w ∈ ws, w ≠ [] ∧ sep ∉ w) :
    words sep ([sep].intercalate ws) = ws := by
  cases ws with
  | nil => simp
  | cons w ws =>
      rw [words, List.splitOn_intercalate sep (fun w' hw' => (hws w' hw').2) (by simp)]
      exact List.filter_eq_self.2 fun w' hw' => by simpa using (hws w' hw').1

/-- The words of a text, joined, tell which they were. -/
lemma intercalate_words_inj {s s' : List α} :
    [sep].intercalate (words sep s) = [sep].intercalate (words sep s') ↔
      words sep s = words sep s' := by
  constructor
  · intro heq
    have hread := congrArg (words sep) heq
    rwa [words_intercalate fun _ => mem_words, words_intercalate fun _ => mem_words] at hread
  · exact congrArg _

end Words
