import Mathlib.Tactic.Common

/-!
# Two cells that follow each other

A form shows a value in one cell and holds it in another: what is *shown* is read into what is
*held*, and what is held is rendered back.  Each cell tells of its changes only, and the one that
hears writes the other at once, so that one write may set off several more.  The way back may be
shut, as while somebody is typing.

`writeShown` and `writeHeld` follow such a cascade call by call, to a given depth.  They come to
rest when rendering is *steady*: rendering what was read from a rendering shows it again.  Then
`writeShown_eq` and `writeHeld_eq` say where they come to rest.
-/

namespace Reactive

universe u v

/-- How the two cells are told from each other. -/
structure Link (α : Type u) (β : Type v) where
  read : α → β
  render : β → α

/-- The two cells: what is shown, and what is held. -/
structure Cells (α : Type u) (β : Type v) where
  shown : α
  held : β
  deriving DecidableEq, Repr

namespace Link

variable {α : Type u} {β : Type v} (l : Link α β)

/-- What was read from a rendering is rendered as it was. -/
def Steady : Prop := ∀ b, l.render (l.read (l.render b)) = l.render b

/-- The value survives being shown: it is read back from what it was rendered as. -/
def Survives (b : β) : Prop := l.read (l.render b) = b

/-- What a value becomes once it was shown: a steady rendering changes it once at most. -/
def settled (b : β) : β := l.read (l.render b)

variable {l}

lemma Steady.render_settled (h : l.Steady) (b : β) : l.render (l.settled b) = l.render b := h b

variable [DecidableEq α] [DecidableEq β]

variable (l) (back : Bool)

mutual

/-- The shown cell is written; `none` when the calls nest deeper than that. -/
def writeShown : ℕ → Cells α β → α → Option (Cells α β)
  | 0, _, _ => none
  | depth + 1, p, a =>
      if a = p.shown then some p
      else writeHeld depth { p with shown := a } (l.read a)

/-- The held cell is written, and is rendered again if the way back is open. -/
def writeHeld : ℕ → Cells α β → β → Option (Cells α β)
  | 0, _, _ => none
  | depth + 1, p, b =>
      if b = p.held then some p
      else if back then writeShown depth { p with held := b } (l.render b)
      else some { p with held := b }

end

/-- Where the cells come to rest after a write of what is shown. -/
def afterShown (p : Cells α β) (a : α) : Cells α β :=
  if a = p.shown then p
  else if l.read a = p.held ∨ back = false then ⟨a, l.read a⟩
  else ⟨l.render (l.read a), l.settled (l.read a)⟩

/-- Where the cells come to rest after a write of what is held. -/
def afterHeld (p : Cells α β) (b : β) : Cells α β :=
  if b = p.held then p
  else if back = false then ⟨p.shown, b⟩
  else if l.render b = p.shown then ⟨p.shown, b⟩
  else ⟨l.render b, l.settled b⟩

section Rest

variable {l} {back} {depth : ℕ} {p : Cells α β} {a : α} {b : β}

/-- With the way back shut nothing nests. -/
lemma writeHeld_shut : writeHeld l false (depth + 1) p b = some ⟨p.shown, b⟩ := by
  rw [writeHeld]
  by_cases hb : b = p.held
  · rw [if_pos hb, hb]
  · rw [if_neg hb, if_neg Bool.false_ne_true]

lemma writeShown_same : writeShown l back (depth + 1) p p.shown = some p := by
  rw [writeShown, if_pos rfl]

/-- A write of what is held comes to rest four calls deep. -/
theorem writeHeld_eq (h : l.Steady) :
    writeHeld l back (depth + 4) p b = some (l.afterHeld back p b) := by
  cases back with
  | false =>
      rw [writeHeld_shut, afterHeld]
      by_cases hb : b = p.held
      · rw [if_pos hb, hb]
      · rw [if_neg hb, if_pos rfl]
  | true =>
      rw [writeHeld, afterHeld]
      by_cases hb : b = p.held
      · rw [if_pos hb, if_pos hb]
      · rw [if_neg hb, if_neg hb, if_pos rfl, if_neg Bool.noConfusion, writeShown]
        by_cases hshown : l.render b = p.shown
        · rw [if_pos hshown, if_pos hshown]
        · -- The rendering is read again, which changes the value once more at most.
          rw [if_neg hshown, if_neg hshown, writeHeld]
          by_cases hread : l.read (l.render b) = b
          · rw [if_pos hread, settled, hread]
          · rw [if_neg hread, if_pos rfl, h b]
            exact writeShown_same

/-- A write of what is shown comes to rest five calls deep. -/
theorem writeShown_eq (h : l.Steady) :
    writeShown l back (depth + 5) p a = some (l.afterShown back p a) := by
  rw [writeShown, afterShown]
  by_cases ha : a = p.shown
  · rw [if_pos ha, if_pos ha]
  · rw [if_neg ha, if_neg ha, writeHeld_eq h, afterHeld]
    by_cases hread : l.read a = p.held
    · rw [if_pos hread, if_pos (.inl hread), hread]
    · rw [if_neg hread]
      cases back with
      | false => rw [if_pos rfl, if_pos (.inr rfl)]
      | true =>
          have hnew : ¬ (l.read a = p.held ∨ true = false) := by simpa using hread
          rw [if_neg Bool.noConfusion, if_neg hnew]
          by_cases hshown : l.render (l.read a) = a
          · -- The text is the value's own rendering, and is left alone.
            rw [if_pos hshown, hshown, settled, hshown]
          · rw [if_neg hshown]

end Rest

/-! ## What the cells say of each other -/

section Rest

variable {l} {back : Bool} {p : Cells α β} {a : α} {b : β}

@[simp] lemma afterShown_same : l.afterShown back p p.shown = p := if_pos rfl

@[simp] lemma afterHeld_same : l.afterHeld back p p.held = p := if_pos rfl

/-- With the way back shut the new text stays, and is read. -/
lemma afterShown_shut (ha : a ≠ p.shown) : l.afterShown false p a = ⟨a, l.read a⟩ := by
  rw [afterShown, if_neg ha, if_pos (.inr rfl)]

lemma afterHeld_shut : l.afterHeld false p b = ⟨p.shown, b⟩ := by
  rw [afterHeld]
  by_cases hb : b = p.held
  · rw [if_pos hb, hb]
  · rw [if_neg hb, if_pos rfl]

/-- A text that is the rendering of what it reads as is read, and left alone. -/
lemma afterShown_label (ha : a ≠ p.shown) (hlabel : l.render (l.read a) = a) :
    l.afterShown back p a = ⟨a, l.read a⟩ := by
  rw [afterShown, if_neg ha]
  split_ifs
  · rfl
  · rw [settled, hlabel]

/-- With the way back open, a new value is held exactly when it survives being shown or is shown
already. -/
lemma held_afterHeld_iff (hb : b ≠ p.held) :
    (l.afterHeld true p b).held = b ↔ l.render b = p.shown ∨ l.Survives b := by
  rw [afterHeld, if_neg hb, if_neg Bool.noConfusion]
  by_cases hshown : l.render b = p.shown
  · simp [hshown]
  · rw [if_neg hshown]
    exact (or_iff_right hshown).symm

/-- With the way back open, a new value is rendered. -/
lemma shown_afterHeld (h : l.Steady) (hb : b ≠ p.held) :
    (l.afterHeld true p b).shown = l.render (l.afterHeld true p b).held := by
  rw [afterHeld, if_neg hb, if_neg Bool.noConfusion]
  by_cases hshown : l.render b = p.shown
  · rw [if_pos hshown, hshown]
  · rw [if_neg hshown]
    exact (h.render_settled b).symm

/-- **Writing the rendering of a value and then the value.**  Whatever the cells held, the value
is held and shown. -/
theorem afterHeld_afterShown (h : l.Steady) :
    l.afterHeld true (l.afterShown true p (l.render b)) b = ⟨l.render b, b⟩ := by
  generalize hq : l.afterShown true p (l.render b) = q
  have hshown : q.shown = l.render b := by
    rw [← hq, afterShown]
    split_ifs with ha
    · exact ha.symm
    · rfl
    · exact h b
  by_cases hb : b = q.held
  · rw [afterHeld, if_pos hb, ← hshown, hb]
  · rw [afterHeld, if_neg hb, if_neg Bool.noConfusion, if_pos hshown.symm, hshown]

end Rest

end Link

end Reactive
