import LibreKDE.Framework.Groups
import LibreKDE.Kio.CardRenderers

/-!
# The identity as a text

`renderIdentityTxt` walks the fields once, adding each to the text of its group, and then writes
the groups out in the order it first met them.  `identityText` is what the file is for: a stable
group-by of the fields, each group a header and its lines.

`renderIdentityTxt_eq` says that they are the same text, whatever the strings and however the
groups are interleaved.
-/

namespace LibreKDE.Kio

open Groups

variable {q : Session}

/-! ## A line and a header -/

/-- What a line's format is made of. -/
def linePieces : List (PlaceMarkers.Piece QChar) :=
  [.marker 1 false (qs "%1"), .char (qc ':'), .char (qc ' '), .marker 2 false (qs "%2"),
    .char (qc '\n')]

lemma line_eq (key value : QString) :
    line q key value = key ++ qs ": " ++ value ++ [qc '\n'] := by
  have hpieces : q.digits.markers.pieces (qs "%1: %2\n") = linePieces := by
    rw [pieces_ascii _ (by decide)]
    decide
  -- arg() numbers the markers by rank: `%1` takes the key and `%2` the value.
  have hkey : PlaceMarkers.Syntax.argOf [key, value] linePieces 1 = some key := by
    have hbefore : ((linePieces.filterMap PlaceMarkers.Piece.number?).dedup.filter
        (· < 1)).length = 0 := by decide
    rw [PlaceMarkers.Syntax.argOf, hbefore]
    rfl
  have hvalue : PlaceMarkers.Syntax.argOf [key, value] linePieces 2 = some value := by
    have hbefore : ((linePieces.filterMap PlaceMarkers.Piece.number?).dedup.filter
        (· < 2)).length = 1 := by decide
    rw [PlaceMarkers.Syntax.argOf, hbefore]
    rfl
  rw [line, QString.args, PlaceMarkers.Syntax.args, hpieces]
  simp only [linePieces, List.flatMap_cons, List.flatMap_nil] at hkey hvalue ⊢
  have hmark : qs ": " = [qc ':', qc ' '] := by decide
  rw [hkey, hvalue, hmark]
  simp

lemma header_eq (group : QString) :
    (qs "[%1]\n").arg q.digits group = qs "[" ++ group ++ qs "]\n" := by
  have hpieces : q.digits.markers.pieces (qs "[%1]\n") =
      [.char (qc '['), .marker 1 false (qs "%1"), .char (qc ']'), .char (qc '\n')] := by
    rw [pieces_ascii _ (by decide)]
    decide
  rw [QString.arg, PlaceMarkers.Syntax.arg, hpieces]
  rfl

/-! ## The text as a group-by -/

/-- A field's label, which falls back to its key. -/
def identityLabel (f : IdentityFieldView) : QString :=
  if f.labelFallback = [] then f.fieldKey else f.labelFallback

/-- A field's line: its label, or its key where it has none, and its value. -/
def identityLine (f : IdentityFieldView) : QString :=
  identityLabel f ++ qs ": " ++ f.value ++ [qc '\n']

/-- The group a field is filed under. -/
abbrev groupOf : IdentityFieldView → QString := fun f => f.group

/-- A group's header and its lines. -/
def identitySection (fields : List IdentityFieldView) (group : QString) : QString :=
  qs "[" ++ group ++ qs "]\n" ++ (rowsOf groupOf group fields).flatMap identityLine

/-- The groups in the order they first appear in, with a blank line between two of them. -/
def identityText (fields : List IdentityFieldView) : QString :=
  List.intercalate [qc '\n'] ((groupsOf groupOf fields).map (identitySection fields))

/-- What is gathered of the fields: the groups they name, and each group's lines. -/
lemma groupedRows_eq (fields : List IdentityFieldView) :
    (fields.foldl (GroupedRows.add q) {}).groupOrder = groupsOf groupOf fields ∧
      ∀ group, (fields.foldl (GroupedRows.add q) {}).rowsByGroup group =
        if group ∈ groupsOf groupOf fields then
          some ((rowsOf groupOf group fields).flatMap identityLine)
        else none := by
  induction fields using List.reverseRecOn with
  | nil => exact ⟨rfl, fun _ => rfl⟩
  | append_singleton fields f ih =>
      obtain ⟨horder, hrows⟩ := ih
      have hgroups : groupsOf groupOf (fields ++ [f]) =
          if f.group ∈ groupsOf groupOf fields then groupsOf groupOf fields
          else groupsOf groupOf fields ++ [f.group] := by
        simp [groupsOf, eraseDups_concat]
      have hline : line q (if f.labelFallback = [] then f.fieldKey else f.labelFallback) f.value =
          identityLine f := line_eq _ _
      -- A group has rows exactly when it has been met; its first field sets its place.
      have hnew : (fields.foldl (GroupedRows.add q) {}).rowsByGroup f.group = none ↔
          f.group ∉ groupsOf groupOf fields := by
        rw [hrows]
        split_ifs with hmem <;> simp [hmem]
      have hlines : ((fields.foldl (GroupedRows.add q) {}).rowsByGroup f.group).getD [] =
          (rowsOf groupOf f.group fields).flatMap identityLine := by
        rw [hrows]
        split_ifs with hmem
        · rfl
        · rw [rowsOf_eq_nil hmem]
          rfl
      rw [List.foldl_append, List.foldl_cons, List.foldl_nil, hgroups]
      constructor
      · simp only [GroupedRows.add, hnew, horder, ite_not]
      · intro group
        by_cases hgroup : group = f.group
        · subst hgroup
          have hmem : f.group ∈ groupsOf groupOf (fields ++ [f]) := by simp [groupsOf]
          rw [← hgroups, if_pos hmem]
          simp [GroupedRows.add, hlines, hline, rowsOf]
        · have hmem : group ∈ groupsOf groupOf (fields ++ [f]) ↔
              group ∈ groupsOf groupOf fields := by simp [groupsOf, hgroup]
          rw [← hgroups]
          simp [GroupedRows.add, hrows, hmem, hgroup, Ne.symm hgroup, rowsOf]

lemma foldl_sections_of_ne_nil (body : QString → QString) {out : QString} (hout : out ≠ [])
    (groups : List QString) :
    groups.foldl (fun out group => (if out = [] then out else out ++ [qc '\n']) ++ body group) out =
      out ++ groups.flatMap fun group => qc '\n' :: body group := by
  induction groups generalizing out with
  | nil => simp
  | cons group groups ih =>
      rw [List.foldl_cons, if_neg hout, ih (by simp [hout])]
      simp

lemma intercalate_cons (sep first : QString) (rest : List QString) :
    List.intercalate sep (first :: rest) = first ++ rest.flatMap fun s => sep ++ s := by
  induction rest generalizing first with
  | nil => simp
  | cons s rest ih =>
      rw [List.intercalate_cons_cons, ih, List.flatMap_cons]
      simp

/-- Writing the sections one behind another, with a blank line before each but the first. -/
lemma foldl_sections (body : QString → QString) (hbody : ∀ group, body group ≠ [])
    (groups : List QString) :
    groups.foldl (fun out group => (if out = [] then out else out ++ [qc '\n']) ++ body group) [] =
      List.intercalate [qc '\n'] (groups.map body) := by
  cases groups with
  | nil => rfl
  | cons group groups =>
      rw [List.foldl_cons, if_pos rfl, List.nil_append,
        foldl_sections_of_ne_nil body (hbody group), List.map_cons, intercalate_cons,
        List.flatMap_map]
      rfl

lemma identitySection_ne_nil (fields : List IdentityFieldView) (group : QString) :
    identitySection fields group ≠ [] := by
  have hopen : qs "[" ≠ [] := by decide
  simp [identitySection, hopen]

lemma renderIdentityTxt_eq (fields : List IdentityFieldView) :
    renderIdentityTxt q fields = identityText fields := by
  obtain ⟨horder, hrows⟩ := groupedRows_eq (q := q) fields
  have hsections : (groupsOf groupOf fields).foldl
      (fun out group =>
        (if out = [] then out else out ++ [qc '\n']) ++ (qs "[%1]\n").arg q.digits group ++
          ((fields.foldl (GroupedRows.add q) {}).rowsByGroup group).getD []) [] =
      (groupsOf groupOf fields).foldl
        (fun out group =>
          (if out = [] then out else out ++ [qc '\n']) ++ identitySection fields group) [] := by
    apply List.foldl_ext
    intro out group hgroup
    rw [hrows, if_pos hgroup, header_eq, List.append_assoc]
    rfl
  rw [renderIdentityTxt, horder, hsections, foldl_sections _ (identitySection_ne_nil fields)]
  rfl

/-- The text is the group-by of the fields, in which each group stands once and each field once
under its group, and only the order inside the groups and that of the groups matter to it. -/
theorem renderIdentityTxt_groups (q : Session) (fields : List IdentityFieldView) :
    renderIdentityTxt q fields = identityText fields ∧
      (groupsOf groupOf fields).Nodup ∧
      ((groupsOf groupOf fields).flatMap fun group => rowsOf groupOf group fields).Perm fields ∧
      ∀ permuted : List IdentityFieldView,
        (∀ group, rowsOf groupOf group permuted = rowsOf groupOf group fields) →
        groupsOf groupOf permuted = groupsOf groupOf fields →
        renderIdentityTxt q permuted = renderIdentityTxt q fields := by
  refine ⟨renderIdentityTxt_eq fields, nodup_groupsOf groupOf fields, regroup_perm groupOf fields,
    ?_⟩
  intro permuted hrows hgroups
  have hsection : identitySection permuted = identitySection fields := by
    funext group
    rw [identitySection, identitySection, hrows]
  rw [renderIdentityTxt_eq, renderIdentityTxt_eq, identityText, identityText, hgroups, hsection]

end LibreKDE.Kio
