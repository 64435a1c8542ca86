import LibreKDE.Plasmoid.IdentitySummary

/-!
# How the details are laid out

Two passes lay out the rows below a summary.  `applyFieldOrder` sorts each group's rows inside the
slots the group has, and `applyGroupHeadings` puts the groups together and stamps a heading on the
first row of each.  In terms of a list's column and its groups the first changes the groups only
and the second the column only, which is why they commute.

`shown_perm` puts the passes after the subtraction of the summary: what a popup shows is the rows
it was given.
-/

namespace LibreKDE.Plasmoid

open Groups

variable {r : IdentityRules} {details : List IdentityField}

/-- A row's group. -/
abbrev groupOf : IdentityField → QString := fun row => row.groupKey

lemma groupKeys_eq (details : List IdentityField) :
    groupKeys details = groupsOf groupOf details := by
  rw [groupsOf, ← foldl_eq_eraseDups, groupKeys, firstAppearances]
  congr!

/-! ## Slots -/

lemma column_refill {group : QString} {rows details : List IdentityField}
    (hrows : ∀ row ∈ rows, row.groupKey = group)
    (hlength : rows.length = (rowsOf groupOf group details).length) :
    (refill group rows details).map groupOf = details.map groupOf := by
  fun_induction refill group rows details with
  | case1 => rfl
  | case2 => rfl
  | case3 row rows d details hd ih =>
      simp only [List.forall_mem_cons] at hrows
      simp only [rowsOf, groupOf, List.filter_cons, hd, decide_true, if_true, List.length_cons,
        Nat.add_right_cancel_iff] at hlength
      simp [ih hrows.2 hlength, hrows.1, hd]
  | case4 row rows d details hd ih =>
      simp only [rowsOf, groupOf, List.filter_cons, hd, decide_false, Bool.false_eq_true,
        if_false] at hlength
      simp [ih hrows hlength]

lemma rowsOf_refill {group : QString} {rows details : List IdentityField}
    (hrows : ∀ row ∈ rows, row.groupKey = group)
    (hlength : rows.length = (rowsOf groupOf group details).length) (k : QString) :
    rowsOf groupOf k (refill group rows details) =
      if k = group then rows else rowsOf groupOf k details := by
  fun_induction refill group rows details with
  | case1 details =>
      split_ifs with hk
      · subst hk
        exact List.length_eq_zero_iff.mp hlength.symm
      · rfl
  | case2 rows hrows' =>
      simp only [rowsOf, List.filter_nil, List.length_nil, List.length_eq_zero_iff] at hlength
      exact absurd hlength hrows'
  | case3 row rows d details hd ih =>
      simp only [List.forall_mem_cons] at hrows
      simp only [rowsOf, groupOf, List.filter_cons, hd, decide_true, if_true, List.length_cons,
        Nat.add_right_cancel_iff] at hlength
      have htail := ih hrows.2 hlength
      by_cases hk : k = group
      · subst hk
        simpa [rowsOf, hrows.1] using htail
      · simpa [rowsOf, hk, hrows.1, hd, Ne.symm hk] using htail
  | case4 row rows d details hd ih =>
      simp only [rowsOf, groupOf, List.filter_cons, hd, decide_false, Bool.false_eq_true,
        if_false] at hlength
      have htail := ih hrows hlength
      by_cases hk : k = group
      · subst hk
        simpa [rowsOf, hd] using htail
      · by_cases hdk : d.groupKey = k <;> simpa [rowsOf, hk, hdk] using htail

/-! ## The field order -/

/-- A group's rows in a declared order: a key that it does not name ranks behind all it does. -/
def inFieldOrder (order : List QString) : List IdentityField → List IdentityField :=
  sortBy fun row => order.idxOf row.fieldKey

lemma inFieldOrder_nil (rows : List IdentityField) : inFieldOrder [] rows = rows := by
  have hall : ∀ rows : List IdentityField,
      rowsOf (fun row => ([] : List QString).idxOf row.fieldKey) 0 rows = rows := by simp [rowsOf]
  have hstable := rowsOf_sortBy (fun row : IdentityField => ([] : List QString).idxOf row.fieldKey)
    0 rows
  rwa [hall, hall] at hstable

lemma column_reorderGroup (order : List QString) (group : QString)
    (details : List IdentityField) :
    (reorderGroup order group details).map groupOf = details.map groupOf ∧
      ∀ k, rowsOf groupOf k (reorderGroup order group details) =
        if k = group then inFieldOrder order (rowsOf groupOf k details)
        else rowsOf groupOf k details := by
  by_cases horder : order = []
  · subst horder
    simp [reorderGroup, inFieldOrder_nil]
  · have hreorder : reorderGroup order group details =
        refill group (inFieldOrder order (rowsOf groupOf group details)) details := by
      rw [reorderGroup, if_neg horder]
      rfl
    have hperm := sortBy_perm (fun row => order.idxOf row.fieldKey) (rowsOf groupOf group details)
    have hrows : ∀ row ∈ inFieldOrder order (rowsOf groupOf group details),
        row.groupKey = group := fun row hrow => (mem_rowsOf.mp (hperm.mem_iff.mp hrow)).2
    rw [hreorder]
    refine ⟨column_refill hrows hperm.length_eq, fun k => ?_⟩
    rw [rowsOf_refill hrows hperm.length_eq]
    split_ifs with hk
    · rw [hk]
    · rfl

/-- `applyFieldOrder`, with the groups in the order the hash has them in. -/
def applyFieldOrderIn (r : IdentityRules) (groups : List QString)
    (details : List IdentityField) : List IdentityField :=
  groups.foldl (fun details group => reorderGroup (r.fieldOrderForGroup group) group details)
    details

lemma column_applyFieldOrderIn (r : IdentityRules) (groups : List QString)
    (details : List IdentityField) :
    (applyFieldOrderIn r groups details).map groupOf = details.map groupOf := by
  induction groups generalizing details with
  | nil => rfl
  | cons group groups ih => exact (ih _).trans (column_reorderGroup _ _ _).1

lemma rowsOf_applyFieldOrderIn {groups : List QString} (hgroups : groups.Nodup)
    (details : List IdentityField) (k : QString) :
    rowsOf groupOf k (applyFieldOrderIn r groups details) =
      if k ∈ groups then inFieldOrder (r.fieldOrderForGroup k) (rowsOf groupOf k details)
      else rowsOf groupOf k details := by
  induction groups generalizing details with
  | nil => rfl
  | cons group groups ih =>
      rw [List.nodup_cons] at hgroups
      have htail : rowsOf groupOf k (applyFieldOrderIn r (group :: groups) details) = _ :=
        ih hgroups.2 (reorderGroup (r.fieldOrderForGroup group) group details)
      rw [(column_reorderGroup _ _ _).2] at htail
      by_cases hk : k = group
      · subst hk
        simpa [hgroups.1] using htail
      · simpa [hk] using htail

lemma column_applyFieldOrder (r : IdentityRules) (details : List IdentityField) :
    (applyFieldOrder r details).map groupOf = details.map groupOf :=
  column_applyFieldOrderIn r _ details

/-- Whatever order the hash has the groups in, each is in the order declared for it. -/
lemma rowsOf_applyFieldOrderIn_of_perm {groups : List QString}
    (hgroups : groups.Perm (groupKeys details)) (k : QString) :
    rowsOf groupOf k (applyFieldOrderIn r groups details) =
      inFieldOrder (r.fieldOrderForGroup k) (rowsOf groupOf k details) := by
  rw [groupKeys_eq] at hgroups
  rw [rowsOf_applyFieldOrderIn (hgroups.nodup_iff.mpr (nodup_groupsOf groupOf details))]
  split_ifs with hk
  · rfl
  · rw [rowsOf_eq_nil (hgroups.mem_iff.not.mp hk)]
    rfl

lemma rowsOf_applyFieldOrder (r : IdentityRules) (details : List IdentityField) (k : QString) :
    rowsOf groupOf k (applyFieldOrder r details) =
      inFieldOrder (r.fieldOrderForGroup k) (rowsOf groupOf k details) :=
  rowsOf_applyFieldOrderIn_of_perm (List.Perm.refl _) k

lemma applyFieldOrderIn_eq {groups : List QString} (hgroups : groups.Perm (groupKeys details)) :
    applyFieldOrderIn r groups details = applyFieldOrder r details := by
  apply eq_of_column groupOf
  · rw [column_applyFieldOrderIn, column_applyFieldOrder]
  · intro k
    rw [rowsOf_applyFieldOrderIn_of_perm hgroups, rowsOf_applyFieldOrder]

lemma applyFieldOrder_perm (r : IdentityRules) (details : List IdentityField) :
    (applyFieldOrder r details).Perm details := by
  apply perm_of_rowsOf groupOf
  intro k
  rw [rowsOf_applyFieldOrder]
  exact sortBy_perm _ _

/-! ## The headings -/

/-- The rows without their headings. -/
def unheaded (rows : List DetailRow) : List IdentityField := rows.map (·.toIdentityField)

@[simp] lemma unheaded_headed (heading : QString) (rows : List IdentityField) :
    unheaded (headed heading rows) = rows := by
  cases rows with
  | nil => rfl
  | cons row rows => simp [unheaded, headed, Function.comp_def]

lemma unheaded_applyGroupHeadings (r : IdentityRules) (details : List IdentityField) :
    unheaded (applyGroupHeadings r details) = regroup groupOf details := by
  have hblocks : ∀ keys : List QString,
      unheaded (keys.flatMap fun key =>
        headed (r.localizedGroupLabel key) (rowsOf groupOf key details)) =
      keys.flatMap fun key => rowsOf groupOf key details := by
    intro keys
    induction keys with
    | nil => rfl
    | cons key keys ih =>
        rw [List.flatMap_cons, List.flatMap_cons, ← ih, unheaded, List.map_append]
        congr 1
        exact unheaded_headed _ _
  rw [regroup, ← groupKeys_eq]
  exact hblocks (groupKeys details)

/-- Each row that is the first of its group, and of none of the groups `seen` before, has the
group's heading, and every other row has none. -/
def HeadedFrom (heading : QString → QString) : List QString → List DetailRow → Prop
  | _, [] => True
  | seen, row :: rows =>
      row.groupHeading = (if row.groupKey ∈ seen then [] else heading row.groupKey) ∧
        HeadedFrom heading (seen ++ [row.groupKey]) rows

variable {heading : QString → QString}

lemma headedFrom_append {seen : List QString} {rows rows' : List DetailRow} :
    HeadedFrom heading seen (rows ++ rows') ↔
      HeadedFrom heading seen rows ∧
        HeadedFrom heading (seen ++ (unheaded rows).map groupOf) rows' := by
  induction rows generalizing seen with
  | nil => simp [HeadedFrom, unheaded]
  | cons row rows ih =>
      rw [List.cons_append, HeadedFrom, HeadedFrom, ih, and_assoc]
      simp [unheaded, groupOf]

/-- The rows behind a group's first row have no heading. -/
lemma headedFrom_rest {seen : List QString} {rows : List IdentityField}
    (hrows : ∀ row ∈ rows, row.groupKey ∈ seen) :
    HeadedFrom heading seen (rows.map fun row => ⟨row, []⟩) := by
  induction rows generalizing seen with
  | nil => trivial
  | cons row rows ih =>
      rw [List.forall_mem_cons] at hrows
      refine ⟨by simp [hrows.1], ih ?_⟩
      intro other hother
      exact List.mem_append_left _ (hrows.2 other hother)

lemma headedFrom_headed {seen : List QString} {key : QString} {rows : List IdentityField}
    (hkey : key ∉ seen) (hrows : ∀ row ∈ rows, row.groupKey = key) :
    HeadedFrom heading seen (headed (heading key) rows) := by
  cases rows with
  | nil => trivial
  | cons row rows =>
      obtain ⟨rfl, hrest⟩ := List.forall_mem_cons.mp hrows
      refine ⟨by simp [hkey], headedFrom_rest ?_⟩
      intro other hother
      simp [hrest other hother]

lemma headedFrom_blocks {seen keys : List QString} (hkeys : keys.Nodup)
    (hseen : ∀ key ∈ keys, key ∉ seen) (details : List IdentityField) :
    HeadedFrom heading seen
      (keys.flatMap fun key => headed (heading key) (rowsOf groupOf key details)) := by
  induction keys generalizing seen with
  | nil => trivial
  | cons key keys ih =>
      rw [List.nodup_cons] at hkeys
      rw [List.forall_mem_cons] at hseen
      rw [List.flatMap_cons, headedFrom_append]
      refine ⟨headedFrom_headed hseen.1 fun row hrow => (mem_rowsOf.mp hrow).2, ih hkeys.2 ?_⟩
      intro other hother hmem
      rcases List.mem_append.mp hmem with hmem | hmem
      · exact hseen.2 other hother hmem
      · obtain ⟨row, hrow, rfl⟩ := List.mem_map.mp hmem
        rw [unheaded_headed, mem_rowsOf] at hrow
        exact hkeys.1 (hrow.2 ▸ hother)

lemma headedFrom_applyGroupHeadings (r : IdentityRules) (details : List IdentityField) :
    HeadedFrom r.localizedGroupLabel [] (applyGroupHeadings r details) := by
  have hkeys : (groupKeys details).Nodup := by
    rw [groupKeys_eq]
    exact nodup_groupsOf groupOf details
  exact headedFrom_blocks hkeys (fun _ _ => List.not_mem_nil) details

/-! ## The two passes -/

/-- The rows in the field order of their groups. -/
structure FieldOrdered (order : QString → List QString) (details out : List IdentityField) :
    Prop where
  perm : out.Perm details
  /-- Every position keeps its group. -/
  slots : out.map groupOf = details.map groupOf
  /-- The keys of a declared order come first, in that order. -/
  declared : ∀ group, (rowsOf groupOf group out).Pairwise fun a b => b.fieldKey ∈ order group →
    a.fieldKey ∈ order group ∧ (order group).idxOf a.fieldKey ≤ (order group).idxOf b.fieldKey
  ties : ∀ group field, ((rowsOf groupOf group out).filter fun row => row.fieldKey = field) =
    (rowsOf groupOf group details).filter fun row => row.fieldKey = field
  undeclared : ∀ group, ((rowsOf groupOf group out).filter fun row => row.fieldKey ∉ order group) =
    (rowsOf groupOf group details).filter fun row => row.fieldKey ∉ order group
  unordered : ∀ group, order group = [] → rowsOf groupOf group out = rowsOf groupOf group details

/-- The rows in groups, with a heading on the first row of each. -/
structure GroupHeaded (heading : QString → QString) (details : List IdentityField)
    (out : List DetailRow) : Prop where
  perm : (unheaded out).Perm details
  contiguous : ∀ group, rowsOf groupOf group (unheaded out) <:+: unheaded out
  groups : groupsOf groupOf (unheaded out) = groupsOf groupOf details
  stable : ∀ group, rowsOf groupOf group (unheaded out) = rowsOf groupOf group details
  headings : ∀ before row after, out = before ++ row :: after →
    row.groupHeading =
      if row.groupKey ∈ (unheaded before).map groupOf then [] else heading row.groupKey

lemma applyFieldOrder_ordered (r : IdentityRules) (details : List IdentityField) :
    FieldOrdered r.fieldOrderForGroup details (applyFieldOrder r details) where
  perm := applyFieldOrder_perm r details
  slots := column_applyFieldOrder r details
  declared := by
    intro group
    rw [rowsOf_applyFieldOrder]
    apply (sortBy_pairwise _ _).imp
    intro a b hrank hb
    rw [← List.idxOf_lt_length_iff] at hb ⊢
    exact ⟨hrank.trans_lt hb, hrank⟩
  ties := by
    intro group field
    rw [rowsOf_applyFieldOrder]
    apply filter_sortBy _ (n := (r.fieldOrderForGroup group).idxOf field)
    intro row hrow
    rw [of_decide_eq_true hrow]
  undeclared := by
    intro group
    rw [rowsOf_applyFieldOrder]
    apply filter_sortBy _ (n := (r.fieldOrderForGroup group).length)
    intro row hrow
    exact List.idxOf_eq_length_iff.mpr (of_decide_eq_true hrow)
  unordered := by
    intro group hgroup
    rw [rowsOf_applyFieldOrder, hgroup, inFieldOrder_nil]

lemma applyGroupHeadings_headed (r : IdentityRules) (details : List IdentityField) :
    GroupHeaded r.localizedGroupLabel details (applyGroupHeadings r details) where
  perm := by
    rw [unheaded_applyGroupHeadings]
    exact regroup_perm groupOf details
  contiguous := by
    intro group
    rw [unheaded_applyGroupHeadings, rowsOf_regroup]
    exact rowsOf_infix_regroup groupOf details group
  groups := by rw [unheaded_applyGroupHeadings, groupsOf_regroup]
  stable := by
    intro group
    rw [unheaded_applyGroupHeadings, rowsOf_regroup]
  headings := by
    intro before row after hsplit
    have hheaded := headedFrom_applyGroupHeadings r details
    rw [hsplit, headedFrom_append] at hheaded
    exact hheaded.2.1

/-- Regrouping the rows in their field order is putting the regrouped rows in it. -/
lemma regroup_applyFieldOrder (r : IdentityRules) (details : List IdentityField) :
    regroup groupOf (applyFieldOrder r details) =
      applyFieldOrder r (regroup groupOf details) := by
  apply eq_of_column groupOf
  · rw [column_regroup, column_applyFieldOrder, column_applyFieldOrder, column_regroup]
  · intro k
    rw [rowsOf_regroup, rowsOf_applyFieldOrder, rowsOf_applyFieldOrder, rowsOf_regroup]

/-- What each of the two passes does, whatever order the hash has the groups in, and that they
commute up to the headings. -/
theorem details_layout (r : IdentityRules) (details : List IdentityField) :
    FieldOrdered r.fieldOrderForGroup details (applyFieldOrder r details) ∧
      (∀ groups, groups.Perm (groupKeys details) →
        applyFieldOrderIn r groups details = applyFieldOrder r details) ∧
      GroupHeaded r.localizedGroupLabel details (applyGroupHeadings r details) ∧
      unheaded (applyGroupHeadings r (applyFieldOrder r details)) =
        applyFieldOrder r (unheaded (applyGroupHeadings r details)) := by
  refine ⟨applyFieldOrder_ordered r details, fun _ => applyFieldOrderIn_eq,
    applyGroupHeadings_headed r details, ?_⟩
  rw [unheaded_applyGroupHeadings, unheaded_applyGroupHeadings, regroup_applyFieldOrder]

/-! ## What is shown -/

lemma dropSummarised_eq {rows : List IdentityField} (summarised : List FieldIdentity)
    (hrows : (rows.map IdentityField.identity).Nodup) :
    dropSummarised summarised rows = rows.filter fun row => row.identity ∉ summarised := by
  induction rows generalizing summarised with
  | nil => rfl
  | cons row rows ih =>
      rw [List.map_cons, List.nodup_cons] at hrows
      rw [dropSummarised]
      split_ifs with hrow
      · -- The identity is taken off the list, but no later row has it.
        rw [ih _ hrows.2, List.filter_cons_of_neg (by simpa using hrow)]
        apply List.filter_congr
        intro other hother
        have hne : other.identity ≠ row.identity := by
          intro heq
          exact hrows.1 (heq ▸ List.mem_map_of_mem hother)
        simp [hne]
      · rw [ih _ hrows.2, List.filter_cons_of_pos (by simpa using hrow)]

/-- A summary and the rows of other identities are all the rows. -/
lemma append_details_perm {rows summary : List IdentityField}
    (hrows : (rows.map IdentityField.identity).Nodup)
    (hsummary : (summary.map IdentityField.identity).Nodup) (hdrawn : summary ⊆ rows) :
    (summary ++ curateIdentityDetails rows summary).Perm rows := by
  have htaken : summary.Perm
      (rows.filter fun row => row.identity ∈ summary.map IdentityField.identity) := by
    rw [List.perm_ext_iff_of_nodup hsummary.of_map (hrows.of_map.filter _)]
    intro row
    simp only [List.mem_filter, decide_eq_true_eq]
    constructor
    · exact fun hrow => ⟨hdrawn hrow, List.mem_map_of_mem hrow⟩
    · rintro ⟨hrow, hmem⟩
      obtain ⟨taken, htaken, heq⟩ := List.mem_map.mp hmem
      rwa [← List.inj_on_of_nodup_map hrows (hdrawn htaken) hrow heq]
  rw [curateIdentityDetails, dropSummarised_eq _ hrows]
  refine (htaken.append_right _).trans ?_
  simpa only [decide_not] using List.filter_append_perm
    (fun row => decide (row.identity ∈ summary.map IdentityField.identity)) rows

/-- Laying the details out loses none of them. -/
lemma append_layout_perm (r : IdentityRules) {rows summary : List IdentityField}
    (hrows : (rows.map IdentityField.identity).Nodup)
    (hsummary : (summary.map IdentityField.identity).Nodup) (hdrawn : summary ⊆ rows) :
    (summary ++ unheaded (applyGroupHeadings r
      (applyFieldOrder r (curateIdentityDetails rows summary)))).Perm rows := by
  have hlayout : (unheaded (applyGroupHeadings r
      (applyFieldOrder r (curateIdentityDetails rows summary)))).Perm
      (curateIdentityDetails rows summary) :=
    (applyGroupHeadings_headed r _).perm.trans (applyFieldOrder_perm r _)
  exact (hlayout.append_left summary).trans (append_details_perm hrows hsummary hdrawn)

/-- **Nothing is lost between summary and details.**  The rows of the summary and those of the
details together are the rows of the model, each of them once, provided that the rows have different
identities. -/
theorem shown_perm (r : IdentityRules) (t : CharClasses) (rows : List IdentityField)
    (hrows : (rows.map IdentityField.identity).Nodup) :
    (curateIdentitySummary t rows ++ unheaded (applyGroupHeadings r
      (applyFieldOrder r (curateIdentityDetails rows (curateIdentitySummary t rows))))).Perm
      rows :=
  append_layout_perm r hrows (nodup_curateIdentitySummary t rows)
    fun _ => curateIdentitySummary_subset

/-- Two interleaved groups that share a field. -/
def twoSurnames : List IdentityField :=
  [⟨qs "personal", qs "surname", qs "Surname", qs "PERIC"⟩,
    ⟨qs "issuer", qs "country", qs "Country", qs "SRB"⟩,
    ⟨qs "personal", qs "parent", qs "Parent", qs "MILAN"⟩,
    ⟨qs "issuer", qs "surname", qs "Surname", qs "PERIC"⟩]

/-- The summary takes one of the surnames, and the details keep the other. -/
theorem shown_perm_twoSurnames :
    (curateIdentitySummary .plain twoSurnames ++
        unheaded (applyGroupHeadings .plain (applyFieldOrder .plain
          (curateIdentityDetails twoSurnames (curateIdentitySummary .plain twoSurnames))))).Perm
      twoSurnames :=
  shown_perm .plain .plain twoSurnames (by decide)

end LibreKDE.Plasmoid
