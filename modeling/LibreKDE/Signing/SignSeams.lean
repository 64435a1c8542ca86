import LibreKDE.Signing.CardSelection
import LibreKDE.Signing.Slots

/-!
# The dialogs of a share

A share may ask which card signs and which of its certificates, in a dialog that lists a label for
each.  Labels may repeat: two identical readers, or two certificates issued together.  Both
choosers therefore read the position in the list back, and never the text, so that what the user
points at is what is used.
-/

namespace LibreKDE.Signing

/-- What the dialogs draw on from outside this repository. -/
structure SeamHost extends SignHost where
  /-- `QLocale().toString(stamp.toLocalTime(), QLocale::ShortFormat)`. -/
  shortDate : ValidityStamp → QString

/-- What the user does with a list of labels: the row that is current when the dialog is
accepted. -/
abbrev Dialog := List QString → Option ℕ

/-- The row the user accepts, if it is one of the labels. -/
def chooseByIndex (labels : List QString) (dialog : Dialog) : Option ℕ :=
  match dialog labels with
  | none => none
  | some idx => if labels.length ≤ idx then none else some idx

/-- The id of the row that is chosen, from a list with a label for each. -/
def chooseFrom {α : Type*} (label id : α → QString) (dialog : Dialog) (cands : List α) :
    Option QString :=
  match chooseByIndex (cands.map label) dialog with
  | none => none
  | some idx => (cands[idx]?).map id

/-- A certificate's row. -/
def certLabel (h : SeamHost) (c : CertificateInfo) : QString :=
  let label := if c.subject = [] then c.id else c.subject
  if c.notAfter = .invalid then label else label ++ qs " — " ++ h.shortDate c.notAfter

/-- A certificate chooser over a dialog: the id of the row that was accepted. -/
def widgetCertChooser (h : SeamHost) (dialog : Dialog) : List CertificateInfo → Option QString :=
  chooseFrom (certLabel h) CertificateInfo.id dialog

/-- A card's row. -/
def cardLabel (c : CardChoice) : QString :=
  let label := if c.readerName = [] then c.cardId else c.readerName
  if c.cardType = [] then label else label ++ qs " — " ++ c.cardType

/-- The dialog runs until it is answered, and leaves the desk `after`. -/
def widgetCardChooser (dialog : Dialog) (after : Desk) : CardChooser := fun cands _ =>
  (chooseFrom cardLabel CardChoice.cardId dialog cands, after)

/-! ## Rows -/

/-- A row that is accepted is in the list. -/
lemma chooseByIndex_eq_some {labels : List QString} {dialog : Dialog} {idx : ℕ} :
    chooseByIndex labels dialog = some idx ↔ dialog labels = some idx ∧ idx < labels.length := by
  unfold chooseByIndex
  cases hd : dialog labels with
  | none => simp
  | some row =>
      by_cases hrow : labels.length ≤ row
      · simp only [if_pos hrow, reduceCtorEq, Option.some.injEq, false_iff, not_and, not_lt]
        rintro rfl
        exact hrow
      · simp only [if_neg hrow, Option.some.injEq, iff_self_and]
        rintro rfl
        omega

/-- What is used is what is in the row pointed at, whatever the rows read. -/
lemma chooseFrom_eq_some {α : Type*} {label id : α → QString} {dialog : Dialog} {cands : List α}
    {chosen : QString} : chooseFrom label id dialog cands = some chosen ↔
      ∃ idx c, dialog (cands.map label) = some idx ∧ cands[idx]? = some c ∧ id c = chosen := by
  unfold chooseFrom
  split
  · next hnone =>
      simp only [reduceCtorEq, false_iff, not_exists, not_and]
      intro idx c hd hc
      have hlt := (List.getElem?_eq_some_iff.1 hc).1
      have hsome := chooseByIndex_eq_some.2 ⟨hd, by simpa using hlt⟩
      cases hnone.symm.trans hsome
  · next idx hsome =>
      obtain ⟨hd, -⟩ := chooseByIndex_eq_some.1 hsome
      simp [hd]

/-- Nothing is used when no row is accepted, and only then. -/
lemma chooseFrom_eq_none {α : Type*} {label id : α → QString} {dialog : Dialog} {cands : List α} :
    chooseFrom label id dialog cands = none ↔ chooseByIndex (cands.map label) dialog = none := by
  unfold chooseFrom
  cases hrow : chooseByIndex (cands.map label) dialog with
  | none => simp
  | some idx =>
      have hlt := (chooseByIndex_eq_some.1 hrow).2
      rw [List.length_map] at hlt
      simp [hlt]

end LibreKDE.Signing
