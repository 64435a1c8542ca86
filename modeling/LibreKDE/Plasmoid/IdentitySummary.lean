import LibreKDE.Framework.Groups
import LibreKDE.Plasmoid.IdentityModel

/-!
# Which rows head an identity

`curateIdentitySummary` has three ways to a summary: the curated keys, the same keys after a
`full_name`, and the first rows of the model.  Each scans the rows under its own rule.

`SummarySpec` is what a summary is for.  Its last clause is the emptiness rule of the curated
branches, that a blank row does not stand where a row with text could.  The fallback takes the
first rows as they come, and `summarySpec_iff` says which models show it.
-/

namespace LibreKDE.Plasmoid

variable {t : CharClasses} {fields : List IdentityField} {row : IdentityField}

/-! ## What a summary is for -/

/-- Some row of the key has text. -/
def Texted (t : CharClasses) (fields : List IdentityField) (key : QString) : Prop :=
  ∃ row ∈ fields, row.fieldKey = key ∧ row.hasText t

instance (key : QString) : Decidable (Texted t fields key) := by unfold Texted; infer_instance

/-- The row is the first of its key to have text. -/
def FirstTexted (t : CharClasses) (fields : List IdentityField) (row : IdentityField) : Prop :=
  row.hasText t ∧ ∃ before after, fields = before ++ row :: after ∧
    ∀ other ∈ before, other.fieldKey = row.fieldKey → ¬ other.hasText t

/-- The curated keys in the order of preference: a full name first, where no component of a name
has text. -/
def preference (t : CharClasses) (fields : List IdentityField) : List QString :=
  if ∃ key ∈ nameComponentKeys, Texted t fields key then summaryKeys
  else qs "full_name" :: summaryKeys

/-- A summary of the rows. -/
structure SummarySpec (t : CharClasses) (fields summary : List IdentityField) : Prop where
  populated : summary ≠ [] ↔ fields ≠ []
  distinct : (summary.map IdentityField.identity).Nodup
  drawn : ∀ row ∈ summary, row ∈ fields
  curated : (∃ key ∈ preference t fields, Texted t fields key) →
    summary.map (·.fieldKey) = (preference t fields).filter (Texted t fields ·) ∧
      ∀ row ∈ summary, FirstTexted t fields row
  texted : (∃ row ∈ fields, row.hasText t) → ∀ row ∈ summary, row.hasText t

/-! ## The curated rows -/

/-- The first row with text of each key. -/
def curatedRows (t : CharClasses) (fields : List IdentityField) (keys : List QString) :
    List IdentityField :=
  keys.filterMap fun key => fields.find? fun row => row.fieldKey = key ∧ row.hasText t

lemma firstTexted_of_find {key : QString}
    (h : (fields.find? fun row => row.fieldKey = key ∧ row.hasText t) = some row) :
    row.fieldKey = key ∧ FirstTexted t fields row := by
  rw [List.find?_eq_some_iff_append] at h
  obtain ⟨hrow, before, after, hsplit, hbefore⟩ := h
  simp only [decide_eq_true_eq] at hrow
  refine ⟨hrow.1, hrow.2, before, after, hsplit, ?_⟩
  intro other hother hkey
  have hnot := hbefore other hother
  simp only [Bool.not_eq_true', decide_eq_false_iff_not, not_and] at hnot
  exact hnot (hkey.trans hrow.1)

lemma find_isSome {key : QString} :
    (fields.find? fun row => row.fieldKey = key ∧ row.hasText t).isSome ↔ Texted t fields key := by
  simp [Texted]

lemma curatedRows_firstTexted {keys : List QString} (hrow : row ∈ curatedRows t fields keys) :
    FirstTexted t fields row := by
  rw [curatedRows, List.mem_filterMap] at hrow
  obtain ⟨key, -, hfind⟩ := hrow
  exact (firstTexted_of_find hfind).2

lemma curatedRows_map (t : CharClasses) (fields : List IdentityField) (keys : List QString) :
    (curatedRows t fields keys).map (·.fieldKey) = keys.filter (Texted t fields ·) := by
  unfold curatedRows
  induction keys with
  | nil => rfl
  | cons key keys ih =>
      rw [List.filterMap_cons, List.filter_cons]
      cases hfind : fields.find? fun row => row.fieldKey = key ∧ row.hasText t with
      | none =>
          have hkey : ¬ Texted t fields key := by rw [← find_isSome, hfind]; simp
          simpa [hkey] using ih
      | some row =>
          have hkey : Texted t fields key := by rw [← find_isSome, hfind]; rfl
          simpa [hkey, (firstTexted_of_find hfind).1] using ih

lemma curatedRows_eq_nil {keys : List QString} :
    curatedRows t fields keys = [] ↔ ¬ ∃ key ∈ keys, Texted t fields key := by
  rw [← List.map_eq_nil_iff, curatedRows_map]
  simp

/-- Rows of different keys are different rows. -/
lemma nodup_identity_of_fieldKey {rows : List IdentityField}
    (h : (rows.map (·.fieldKey)).Nodup) : (rows.map IdentityField.identity).Nodup := by
  have hkeys : rows.map (·.fieldKey) = (rows.map IdentityField.identity).map Prod.snd := by
    rw [List.map_map]
    rfl
  rw [hkeys] at h
  exact List.Nodup.of_map _ h

/-! ## The fallback -/

/-- How many identities of the rows are not among the `seen`. -/
def unseen (seen : List FieldIdentity) (rows : List IdentityField) : ℕ :=
  ((rows.map IdentityField.identity).filter fun i => !seen.contains i).eraseDups.length

lemma unseen_cons_mem {seen : List FieldIdentity} (hrow : row.identity ∈ seen)
    (rows : List IdentityField) : unseen seen (row :: rows) = unseen seen rows := by
  simp [unseen, hrow]

lemma unseen_cons_notMem {seen : List FieldIdentity} (hrow : row.identity ∉ seen)
    (rows : List IdentityField) :
    unseen seen (row :: rows) = unseen (row.identity :: seen) rows + 1 := by
  have hrest : ((rows.map IdentityField.identity).filter
        fun i => !(row.identity :: seen).contains i) =
      ((rows.map IdentityField.identity).filter fun i => !seen.contains i).filter
        fun i => !i == row.identity := by
    rw [List.filter_filter]
    apply List.filter_congr
    intro i _
    rw [List.contains_cons, Bool.not_or]
  rw [unseen, unseen, hrest, List.map_cons, List.filter_cons_of_pos (by simpa using hrow),
    List.eraseDups_cons, List.length_cons]

/-- A row of a longer list: its first, or one of the others with one more row before it. -/
lemma exists_split_cons {P : List IdentityField → Prop} {first : IdentityField}
    {rows : List IdentityField} :
    (∃ before after, first :: rows = before ++ row :: after ∧ P before) ↔
      row = first ∧ P [] ∨ ∃ before after, rows = before ++ row :: after ∧ P (first :: before) := by
  constructor
  · rintro ⟨before, after, hsplit, hP⟩
    cases before with
    | nil =>
        simp only [List.nil_append, List.cons.injEq] at hsplit
        exact .inl ⟨hsplit.1.symm, hP⟩
    | cons other before =>
        simp only [List.cons_append, List.cons.injEq] at hsplit
        obtain ⟨rfl, hsplit⟩ := hsplit
        exact .inr ⟨before, after, hsplit, hP⟩
  · rintro (⟨rfl, hP⟩ | ⟨before, after, rfl, hP⟩)
    · exact ⟨[], rows, rfl, hP⟩
    · exact ⟨first :: before, after, rfl, hP⟩

lemma mem_fallbackRows {n : ℕ} {seen : List FieldIdentity} {rows : List IdentityField} :
    row ∈ fallbackRows n seen rows ↔
      ∃ before after, rows = before ++ row :: after ∧ row.identity ∉ seen ∧
        row.identity ∉ before.map IdentityField.identity ∧ unseen seen before < n := by
  induction rows generalizing n seen with
  | nil => cases n <;> simp [fallbackRows]
  | cons first rows ih =>
      rw [exists_split_cons]
      cases n with
      | zero => simp [fallbackRows]
      | succ n =>
          rw [fallbackRows]
          by_cases hfirst : first.identity ∈ seen
          · rw [if_pos hfirst, ih]
            simp only [unseen_cons_mem hfirst, List.map_cons, List.mem_cons, not_or]
            grind
          · rw [if_neg hfirst, List.mem_cons, ih]
            simp only [unseen_cons_notMem hfirst, List.map_cons, List.mem_cons, not_or]
            have hzero : unseen seen [] = 0 := rfl
            grind

lemma nodup_fallbackRows (n : ℕ) (seen : List FieldIdentity) (rows : List IdentityField) :
    ((fallbackRows n seen rows).map IdentityField.identity).Nodup := by
  fun_induction fallbackRows n seen rows with
  | case1 => exact List.nodup_nil
  | case2 => exact List.nodup_nil
  | case3 seen n row rows hrow ih => exact ih
  | case4 seen n row rows hrow ih =>
      rw [List.map_cons, List.nodup_cons]
      refine ⟨?_, ih⟩
      intro hmem
      obtain ⟨other, hother, heq⟩ := List.mem_map.mp hmem
      obtain ⟨-, -, -, hseen, -⟩ := mem_fallbackRows.mp hother
      exact hseen (heq ▸ List.mem_cons_self)

/-! ## The summary -/

lemma nodup_preference (t : CharClasses) (fields : List IdentityField) :
    (preference t fields).Nodup := by
  unfold preference
  split_ifs <;> decide +kernel

lemma preferred_iff :
    (∃ key ∈ preference t fields, Texted t fields key) ↔
      ∃ key ∈ qs "full_name" :: summaryKeys, Texted t fields key := by
  unfold preference
  split_ifs with hname
  · have hsubset : ∀ key ∈ nameComponentKeys, key ∈ summaryKeys := by decide +kernel
    obtain ⟨key, hkey, htext⟩ := hname
    exact ⟨fun ⟨k, hk, h⟩ => ⟨k, List.mem_cons_of_mem _ hk, h⟩,
      fun _ => ⟨key, hsubset key hkey, htext⟩⟩
  · rfl

lemma curateIdentitySummary_eq (t : CharClasses) (fields : List IdentityField) :
    curateIdentitySummary t fields =
      if curatedRows t fields (preference t fields) = [] then fallbackRows 4 [] fields
      else curatedRows t fields (preference t fields) := by
  have hname : (fields.any fun row => row.fieldKey ∈ nameComponentKeys ∧ row.hasText t) =
      decide (∃ key ∈ nameComponentKeys, Texted t fields key) := by
    rw [Bool.eq_iff_iff]
    simp only [List.any_eq_true, Texted, decide_eq_true_eq]
    grind
  simp only [curateIdentitySummary, hname, preference, curatedRows, decide_eq_true_eq]
  congr

lemma curateIdentitySummary_curated
    (hcurated : ∃ key ∈ preference t fields, Texted t fields key) :
    curateIdentitySummary t fields = curatedRows t fields (preference t fields) := by
  rw [curateIdentitySummary_eq, if_neg]
  rwa [curatedRows_eq_nil, not_not]

lemma curateIdentitySummary_fallback
    (hnone : ¬ ∃ key ∈ preference t fields, Texted t fields key) :
    curateIdentitySummary t fields = fallbackRows 4 [] fields := by
  rw [curateIdentitySummary_eq, if_pos (curatedRows_eq_nil.mpr hnone)]

lemma curateIdentitySummary_subset (hrow : row ∈ curateIdentitySummary t fields) :
    row ∈ fields := by
  rw [curateIdentitySummary_eq] at hrow
  split_ifs at hrow
  · obtain ⟨before, after, rfl, -⟩ := mem_fallbackRows.mp hrow
    simp
  · obtain ⟨-, before, after, rfl, -⟩ := curatedRows_firstTexted hrow
    simp

lemma nodup_curateIdentitySummary (t : CharClasses) (fields : List IdentityField) :
    ((curateIdentitySummary t fields).map IdentityField.identity).Nodup := by
  rw [curateIdentitySummary_eq]
  split_ifs
  · exact nodup_fallbackRows 4 [] fields
  · apply nodup_identity_of_fieldKey
    rw [curatedRows_map]
    exact (nodup_preference t fields).filter _

lemma curateIdentitySummary_ne_nil :
    curateIdentitySummary t fields ≠ [] ↔ fields ≠ [] := by
  rw [curateIdentitySummary_eq]
  split_ifs with hnone
  · cases fields <;> simp [fallbackRows]
  · refine iff_of_true hnone ?_
    rintro rfl
    obtain ⟨key, -, row, hrow, -⟩ := not_not.mp (curatedRows_eq_nil.not.mp hnone)
    exact List.not_mem_nil hrow

/-- A blank row is one of the first four identities. -/
def BlankLeads (t : CharClasses) (fields : List IdentityField) : Prop :=
  ∃ before row after, fields = before ++ row :: after ∧ ¬ row.hasText t ∧
    row.identity ∉ before.map IdentityField.identity ∧ unseen [] before < 4

lemma fallbackRows_texted :
    (∀ row ∈ fallbackRows 4 [] fields, row.hasText t) ↔ ¬ BlankLeads t fields := by
  simp only [mem_fallbackRows, BlankLeads]
  grind

/-- What is specified of a summary but its rows' having text holds of every one. -/
lemma summarySpec_iff_texted :
    SummarySpec t fields (curateIdentitySummary t fields) ↔
      ((∃ row ∈ fields, row.hasText t) →
        ∀ row ∈ curateIdentitySummary t fields, row.hasText t) := by
  refine ⟨SummarySpec.texted, fun htexted => ?_⟩
  exact {
    populated := curateIdentitySummary_ne_nil
    distinct := nodup_curateIdentitySummary t fields
    drawn := fun _ => curateIdentitySummary_subset
    curated := by
      intro hcurated
      rw [curateIdentitySummary_curated hcurated]
      exact ⟨curatedRows_map t fields _, fun _ => curatedRows_firstTexted⟩
    texted := htexted }

/-- A summary is as specified if some row with text is of a curated key, or no row has text, or
text is what the first four identities have. -/
theorem summarySpec_iff (t : CharClasses) (fields : List IdentityField) :
    SummarySpec t fields (curateIdentitySummary t fields) ↔
      (∃ key ∈ qs "full_name" :: summaryKeys, Texted t fields key) ∨
        (∀ row ∈ fields, ¬ row.hasText t) ∨ ¬ BlankLeads t fields := by
  rw [← preferred_iff, summarySpec_iff_texted]
  by_cases hcurated : ∃ key ∈ preference t fields, Texted t fields key
  · refine iff_of_true (fun _ row hrow => ?_) (.inl hcurated)
    rw [curateIdentitySummary_curated hcurated] at hrow
    exact (curatedRows_firstTexted hrow).1
  · rw [curateIdentitySummary_fallback hcurated, fallbackRows_texted, or_iff_right hcurated]
    by_cases htext : ∃ row ∈ fields, row.hasText t
    · have hsome : ¬ ∀ row ∈ fields, ¬ row.hasText t := by
        obtain ⟨row, hrow, hrowText⟩ := htext
        exact fun hblank => hblank row hrow hrowText
      rw [or_iff_right hsome]
      exact ⟨fun h => h htext, fun h _ => h⟩
    · have hblank : ∀ row ∈ fields, ¬ row.hasText t :=
        fun row hrow hrowText => htext ⟨row, hrow, hrowText⟩
      exact iff_of_true (fun h => absurd h htext) (.inl hblank)

/-- A vehicle card's rows without a number or a date, the first of them blank. -/
def blankFirst : List IdentityField :=
  [⟨qs "vehicle", qs "make", qs "Make", qs " "⟩,
    ⟨qs "vehicle", qs "colour", qs "Colour", qs "RED"⟩]

/-- The blank row heads the summary. -/
theorem blank_heads_summary :
    ¬ SummarySpec .plain blankFirst (curateIdentitySummary .plain blankFirst) := by
  intro h
  have htext : ∃ row ∈ blankFirst, row.hasText .plain := by decide
  have hmake := h.texted htext ⟨qs "vehicle", qs "make", qs "Make", qs " "⟩ (by decide)
  exact absurd hmake (by decide)

end LibreKDE.Plasmoid
