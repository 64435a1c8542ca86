import Mathlib.Data.List.Basic

/-!
# Texts of labelled lines

A *form* is a list of parts, each fixed text or a value behind its label, and each ended by a line
break.  What a program reads back from the text is the *head* of every line: what stands before
the mark that ends a label, or the whole line where there is none.

The values of two forms of one shape may differ in any way.  `heads_eq_iff` says when the heads of
the lines do not show it: when no value holds a line break.
-/

namespace LineForms

variable {α : Type*} [DecidableEq α]

/-- What stands before the mark, and the whole line where it has none. -/
def headOf (mark : List α) : List α → List α
  | [] => []
  | c :: s => if mark <+: c :: s then [] else c :: headOf mark s

/-- The head of each line. -/
def heads (brk : α) (mark text : List α) : List (List α) := (text.splitOn brk).map (headOf mark)

/-- A part of a form. -/
inductive FormPart (α : Type*)
  | fixed (text : List α)
  | entry (label value : List α)

/-- What is written for a part, up to its line break. -/
def FormPart.body (mark : List α) : FormPart α → List α
  | .fixed text => text
  | .entry label value => label ++ mark ++ value

/-- The text that is put in, of an entry. -/
def FormPart.value : FormPart α → List α
  | .fixed _ => []
  | .entry _ value => value

/-- The part without its value. -/
def FormPart.blank : FormPart α → FormPart α
  | .fixed text => .fixed text
  | .entry label _ => .entry label []

/-- The form written out, a break behind each part. -/
def text (brk : α) (mark : List α) (form : List (FormPart α)) : List α :=
  form.flatMap fun part => part.body mark ++ [brk]

/-- Two forms differ in their values only: the same lines, with the same labels, in the same
order. -/
def SameShape (form form' : List (FormPart α)) : Prop :=
  form.map FormPart.blank = form'.map FormPart.blank

/-- No value holds a line break. -/
def Clean (brk : α) (form : List (FormPart α)) : Prop := ∀ part ∈ form, brk ∉ part.value

/-- How many line breaks the values hold. -/
def breaks (brk : α) (form : List (FormPart α)) : ℕ := (form.flatMap FormPart.value).count brk

variable {brk : α} {mark : List α}

omit [DecidableEq α] in
lemma SameShape.append {first first' rest rest' : List (FormPart α)}
    (hfirst : SameShape first first') (hrest : SameShape rest rest') :
    SameShape (first ++ rest) (first' ++ rest') := by
  unfold SameShape at *
  rw [List.map_append, List.map_append, hfirst, hrest]

omit [DecidableEq α] in
lemma clean_append {first rest : List (FormPart α)} :
    Clean brk (first ++ rest) ↔ Clean brk first ∧ Clean brk rest := List.forall_mem_append

lemma breaks_eq_zero {form : List (FormPart α)} : breaks brk form = 0 ↔ Clean brk form := by
  simp [breaks, Clean, List.count_eq_zero]

/-! ## Lines -/

lemma length_splitOn (s : List α) : (s.splitOn brk).length = s.count brk + 1 := by
  induction s with
  | nil => rfl
  | cons c s ih =>
      rw [List.splitOn_cons_eq_if_modifyHead]
      by_cases hc : c = brk
      · simp [hc, ih]
      · simp [hc, ih]

/-- A text has a last line. -/
lemma exists_last_line (brk : α) (s : List α) :
    brk ∉ s ∨ ∃ before last, s = before ++ brk :: last ∧ brk ∉ last := by
  induction s with
  | nil => exact .inl List.not_mem_nil
  | cons c s ih =>
      rcases ih with hs | ⟨before, last, rfl, hlast⟩
      · by_cases hc : c = brk
        · exact .inr ⟨[], s, by rw [hc, List.nil_append], hs⟩
        · exact .inl (by simp [hs, Ne.symm hc])
      · exact .inr ⟨c :: before, last, rfl, hlast⟩

lemma heads_append (s s' : List α) :
    heads brk mark (s ++ brk :: s') = heads brk mark s ++ heads brk mark s' := by
  rw [heads, List.splitOn_append_cons_self, List.map_append]
  rfl

lemma heads_of_notMem {s : List α} (hs : brk ∉ s) : heads brk mark s = [headOf mark s] := by
  rw [heads, List.splitOn_eq_singleton hs]
  rfl

lemma headOf_mark (mark s : List α) : headOf mark (mark ++ s) = [] := by
  cases mark with
  | nil => cases s <;> simp [headOf]
  | cons m mark => rw [List.cons_append, headOf, if_pos ⟨s, rfl⟩]

/-- What stands behind a mark is not of the head. -/
lemma headOf_append (label value : List α) :
    headOf mark (label ++ mark ++ value) = headOf mark (label ++ mark) := by
  induction label with
  | nil =>
      have hmark := headOf_mark mark []
      rw [List.append_nil] at hmark
      rw [List.nil_append, headOf_mark, hmark]
  | cons c label ih =>
      have hprefix : mark <+: c :: (label ++ mark ++ value) ↔ mark <+: c :: (label ++ mark) := by
        have hlong : c :: (label ++ mark) <+: c :: (label ++ mark ++ value) :=
          List.prefix_append (c :: (label ++ mark)) value
        constructor
        · intro h
          apply List.prefix_of_prefix_length_le h hlong
          simp only [List.length_cons, List.length_append]
          omega
        · exact fun h => h.trans hlong
      simp only [List.cons_append, headOf, hprefix, ih]

/-- Nor of any head, where it stays on its line. -/
lemma heads_append_value (hmark : brk ∉ mark) {value : List α} (hvalue : brk ∉ value)
    (label : List α) :
    heads brk mark (label ++ mark ++ value) = heads brk mark (label ++ mark) := by
  have honeline : ∀ {last : List α}, brk ∉ last →
      heads brk mark (last ++ mark ++ value) = heads brk mark (last ++ mark) := by
    intro last hlast
    have hshort : brk ∉ last ++ mark := by simp [hlast, hmark]
    have hlong : brk ∉ last ++ mark ++ value := by simp [hlast, hmark, hvalue]
    rw [heads_of_notMem hlong, heads_of_notMem hshort, headOf_append]
  rcases exists_last_line brk label with hlabel | ⟨before, last, rfl, hlast⟩
  · exact honeline hlabel
  · have hsplit : ∀ s : List α, before ++ brk :: last ++ s = before ++ brk :: (last ++ s) :=
      fun s => by simp
    rw [List.append_assoc, hsplit, hsplit, heads_append, heads_append, ← List.append_assoc,
      honeline hlast]

/-! ## Forms -/

omit [DecidableEq α] in
lemma text_cons (part : FormPart α) (form : List (FormPart α)) :
    text brk mark (part :: form) = part.body mark ++ brk :: text brk mark form := by
  simp [text]

/-- Values without line breaks show in no head. -/
lemma heads_text_blank (hmark : brk ∉ mark) {form : List (FormPart α)} (hclean : Clean brk form) :
    heads brk mark (text brk mark form) =
      heads brk mark (text brk mark (form.map FormPart.blank)) := by
  induction form with
  | nil => rfl
  | cons part form ih =>
      obtain ⟨hpart, hform⟩ := List.forall_mem_cons.mp hclean
      rw [List.map_cons, text_cons, text_cons, heads_append, heads_append, ih hform]
      congr 1
      cases part with
      | fixed text => rfl
      | entry label value =>
          rw [FormPart.blank, FormPart.body, FormPart.body, List.append_nil]
          exact heads_append_value hmark hpart label

/-- Each line break of a value is a line more. -/
lemma length_heads_text (form : List (FormPart α)) :
    (heads brk mark (text brk mark form)).length =
      (heads brk mark (text brk mark (form.map FormPart.blank))).length + breaks brk form := by
  simp only [heads, List.length_map, length_splitOn]
  induction form with
  | nil => rfl
  | cons part form ih =>
      have hcount : (part.body mark).count brk =
          (part.blank.body mark).count brk + part.value.count brk := by
        cases part <;> simp [FormPart.body, FormPart.blank, FormPart.value, Nat.add_assoc]
      have hbreaks : breaks brk (part :: form) = part.value.count brk + breaks brk form := by
        simp [breaks]
      rw [List.map_cons, text_cons, text_cons, hbreaks]
      simp only [List.count_append, List.count_cons_self, hcount] at ih ⊢
      omega

/-- Of two forms of one shape, one of which has no line break in its values, the lines have the
same heads exactly if the other has none either. -/
theorem heads_eq_iff (hmark : brk ∉ mark) {form form' : List (FormPart α)}
    (hshape : SameShape form form') (hone : Clean brk form ∨ Clean brk form') :
    heads brk mark (text brk mark form) = heads brk mark (text brk mark form') ↔
      Clean brk form ∧ Clean brk form' := by
  constructor
  · intro heq
    have hlength := congrArg List.length heq
    rw [length_heads_text form, length_heads_text form', hshape] at hlength
    have hbreaks : breaks brk form = breaks brk form' := by omega
    simp only [← breaks_eq_zero] at hone ⊢
    omega
  · rintro ⟨hclean, hclean'⟩
    rw [heads_text_blank hmark hclean, heads_text_blank hmark hclean', hshape]

end LineForms
