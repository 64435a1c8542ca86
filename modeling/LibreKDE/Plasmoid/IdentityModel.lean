import LibreKDE.AgentClient.Text
import Mathlib.Data.List.Sort

/-!
# The identity a widget shows

An identity read's groups become a flat list of rows (`flatten`), of which a short *summary* is
always shown and the rest, the *details*, on demand.  The details are put into each group's
reading order and stamped with the groups' headings.

`IdentityModel` holds the three lists.  They are rebuilt together and cleared together, and
`tied` says what clearing them relies on.
-/

namespace LibreKDE.Plasmoid

/-! ## Rows -/

/-- A row as the client library assembles it. -/
structure IdentityRow where
  groupKey : QString
  fieldKey : QString
  labelKey : QString := []
  labelFallback : QString := []
  value : QString := []
  deriving DecidableEq, Repr

/-- A row of the model, with its texts in the session's language. -/
structure IdentityField where
  groupKey : QString
  fieldKey : QString
  label : QString := []
  value : QString := []
  deriving DecidableEq, Repr

/-- A row of the details, with the heading it stands under where it is the first of its group. -/
structure DetailRow extends IdentityField where
  /-- The heading of its group, on the group's first row. -/
  groupHeading : QString
  deriving DecidableEq, Repr

/-- What the surfaces' shared rules draw on: the client library, and the tables of copy. -/
structure IdentityRules where
  identityRows : List FieldGroup → List IdentityRow
  /-- `labelTable`, in the session's language. -/
  labelTable : QString → Option QString
  localizedFieldValue : IdentityRow → QString
  localizedGroupLabel : QString → QString
  fieldOrderForGroup : QString → List QString

/-- Rules without tables, over a library that flattens each group as it is. -/
def IdentityRules.plain : IdentityRules where
  identityRows groups := groups.flatMap fun g => g.fields.map fun f =>
    ⟨g.key, f.key, f.labelKey, f.labelFallback, f.value⟩
  labelTable _ := none
  localizedFieldValue row := row.value
  localizedGroupLabel _ := []
  fieldOrderForGroup _ := []

/-- The label of a row: the table's, the agent's, or the bare key. -/
def localizedFieldLabel (r : IdentityRules) (row : IdentityRow) : QString :=
  match r.labelTable row.labelKey with
  | some label => label
  | none => if row.labelFallback ≠ [] then row.labelFallback else row.fieldKey

/-- Three verification outcomes that the plugin reports as ordinary fields.  They are a diagnostic
of its own, and neither surface shows them; the set is one of exact keys. -/
def isHiddenIdentityRow (row : IdentityRow) : Bool :=
  row.labelKey = qs "field.card_verification" ∨ row.labelKey = qs "field.fixed_verification" ∨
    row.labelKey = qs "field.variable_verification"

/-- The rows of an identity read that have a value and are not hidden, with their labels and values
in the session's language. -/
def flatten (r : IdentityRules) (groups : List FieldGroup) : List IdentityField :=
  ((r.identityRows groups).filter fun row => ¬ (row.value = [] ∨ isHiddenIdentityRow row)).map
    fun row => ⟨row.groupKey, row.fieldKey, localizedFieldLabel r row, r.localizedFieldValue row⟩

/-! ## Summary and details -/

/-- A row's identity: its group and its field. -/
abbrev FieldIdentity := QString × QString

/-- By group and field, since two groups may use one key. -/
def IdentityField.identity (row : IdentityField) : FieldIdentity := (row.groupKey, row.fieldKey)

/-- There is more than blanks in it. -/
def IdentityField.hasText (t : CharClasses) (row : IdentityField) : Bool :=
  QString.trimmed t row.value ≠ []

/-- The keys that stand for a part of a name; where one of them has text the full name is not shown
beside it. -/
def nameComponentKeys : List QString :=
  ["surname", "family_name", "given_name", "given_names"].map qs

/-- The identifying fields, in the order they are shown in. -/
def summaryKeys : List QString :=
  ["surname", "family_name", "given_name", "given_names", "personal_number", "document_number",
    "document_serial_number", "doc_reg_no", "card_id", "document_type", "card_type",
    "date_of_expiry", "expiry_date", "valid_until"].map qs

/-- The first `n` rows of different identities, none of them in `seen`. -/
def fallbackRows : ℕ → List FieldIdentity → List IdentityField → List IdentityField
  | 0, _, _ => []
  | _, _, [] => []
  | n + 1, seen, row :: rows =>
      if row.identity ∈ seen then fallbackRows (n + 1) seen rows
      else row :: fallbackRows n (row.identity :: seen) rows

/-- The summary: for every curated key the first row with text, in the order of the keys.  A card
that has none of them shows its first four rows instead, and there a row may be empty. -/
def curateIdentitySummary (t : CharClasses) (fields : List IdentityField) : List IdentityField :=
  let hasNameComponent := fields.any fun row => row.fieldKey ∈ nameComponentKeys ∧ row.hasText t
  let effectiveKeys := if hasNameComponent then summaryKeys else qs "full_name" :: summaryKeys
  let summary := effectiveKeys.filterMap fun key =>
    fields.find? fun row => row.fieldKey = key ∧ row.hasText t
  if summary = [] then fallbackRows 4 [] fields else summary

/-- The rows of other identities than the `summarised`, each of which is dropped once. -/
def dropSummarised : List FieldIdentity → List IdentityField → List IdentityField
  | _, [] => []
  | summarised, row :: rows =>
      if row.identity ∈ summarised then
        dropSummarised (summarised.filter fun i => i ≠ row.identity) rows
      else row :: dropSummarised summarised rows

/-- What the summary does not show, in the order of the rows. -/
def curateIdentityDetails (fields summary : List IdentityField) : List IdentityField :=
  dropSummarised (summary.map IdentityField.identity) fields

/-! ## Groups -/

/-- The keys, each where it first appears. -/
def firstAppearances (keys : List QString) : List QString :=
  keys.foldl (fun seen key => if key ∈ seen then seen else seen ++ [key]) []

/-- The groups of the details, each where it first appears. -/
def groupKeys (details : List IdentityField) : List QString :=
  firstAppearances (details.map fun row => row.groupKey)

/-- Write rows back into the slots a group occupies. -/
def refill (group : QString) : List IdentityField → List IdentityField → List IdentityField
  | [], details => details
  | _, [] => []
  | row :: rows, d :: details =>
      if d.groupKey = group then row :: refill group rows details
      else d :: refill group (row :: rows) details

/-- A stable sort of one group's rows by their place in a declared order; rows it does not name
come last. -/
def reorderGroup (order : List QString) (group : QString) (details : List IdentityField) :
    List IdentityField :=
  if order = [] then details
  else
    let rows := (details.filter fun row => row.groupKey = group).insertionSort fun a b =>
      order.idxOf a.fieldKey ≤ order.idxOf b.fieldKey
    refill group rows details

/-- Every group's rows are put into the order declared for it; rows of other groups stay where they
are. -/
def applyFieldOrder (r : IdentityRules) (details : List IdentityField) : List IdentityField :=
  (groupKeys details).foldl
    (fun details group => reorderGroup (r.fieldOrderForGroup group) group details) details

/-- The rows of one group, the first under the group's heading. -/
def headed (heading : QString) : List IdentityField → List DetailRow
  | [] => []
  | row :: rows => ⟨row, heading⟩ :: rows.map fun row => ⟨row, []⟩

/-- The rows gathered by group, the first of each under its heading. -/
def applyGroupHeadings (r : IdentityRules) (details : List IdentityField) : List DetailRow :=
  (groupKeys details).flatMap fun key =>
    headed (r.localizedGroupLabel key) (details.filter fun row => row.groupKey = key)

/-! ## The model -/

/-- What a card's identity comes to: all rows, the ones of the summary, and the rest under
headings. -/
structure IdentityModel where
  identityFields : List IdentityField
  identitySummary : List IdentityField
  identityDetails : List DetailRow
  /-- There are no details of nothing. -/
  tied : identityFields = [] → identitySummary = [] → identityDetails = []
  deriving DecidableEq

namespace IdentityModel

/-- Nothing read. -/
def empty : IdentityModel := ⟨[], [], [], fun _ _ => rfl⟩

/-- Something of an identity is held. -/
def Shows (m : IdentityModel) : Prop :=
  m.identityFields ≠ [] ∨ m.identitySummary ≠ [] ∨ m.identityDetails ≠ []

/-- `rebuildIdentityModel`: the rows, the summary curated of them, and the rest ordered and put
under headings. -/
def rebuild (r : IdentityRules) (t : CharClasses) (groups : List FieldGroup) : IdentityModel where
  identityFields := flatten r groups
  identitySummary := curateIdentitySummary t (flatten r groups)
  identityDetails :=
    applyGroupHeadings r (applyFieldOrder r
      (curateIdentityDetails (flatten r groups) (curateIdentitySummary t (flatten r groups))))
  tied := by
    intro hfields _
    rw [hfields]
    rfl

/-- `clearIdentity`: it looks at two of the lists only. -/
def clear (m : IdentityModel) : IdentityModel :=
  if m.identityFields = [] ∧ m.identitySummary = [] then m else empty

/-- Clearing leaves nothing, also behind its early return. -/
@[simp] lemma clear_eq (m : IdentityModel) : m.clear = empty := by
  unfold clear
  split_ifs with h
  · obtain ⟨fields, summary, details, tied⟩ := m
    obtain ⟨rfl, rfl⟩ := h
    have hdetails : details = [] := tied rfl rfl
    subst hdetails
    rfl
  · rfl

lemma not_shows_empty : ¬ empty.Shows := by simp [Shows, empty]

end IdentityModel

end LibreKDE.Plasmoid
