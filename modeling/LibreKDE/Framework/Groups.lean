import Mathlib.Data.List.Induction
import Mathlib.Data.List.Perm.Basic
import Mathlib.Data.List.Sort

/-!
# Rows in groups

Every row belongs to the group its key names, and the rows of different groups may be
interleaved in any way.  A list of rows is then two things: the *column* of the keys, which says
whose slot each position is, and each group's own sequence of rows.  `eq_of_column` says that the
two determine the list, so a pass over the rows is described by what it does to either.

`regroup` is the stable group-by: the groups in the order they first appear in, each with its
rows in the order they had.  `regroup_congr` is its invariance: nothing else of the list matters.
-/

namespace Groups

variable {α κ : Type*} [DecidableEq κ]

/-- The rows of one group, in their order. -/
def rowsOf (key : α → κ) (k : κ) (rows : List α) : List α := rows.filter fun row => key row = k

/-- The groups, in the order they first appear in. -/
def groupsOf (key : α → κ) (rows : List α) : List κ := (rows.map key).eraseDups

/-- Each group's rows together, the groups in the order in which they first appear and the rows of a
group in their own. -/
def regroup (key : α → κ) (rows : List α) : List α :=
  (groupsOf key rows).flatMap fun k => rowsOf key k rows

/-! ## First appearances -/

lemma eraseDups_concat (keys : List κ) (k : κ) :
    (keys ++ [k]).eraseDups = if k ∈ keys then keys.eraseDups else keys.eraseDups ++ [k] := by
  rw [List.eraseDups_append]
  by_cases hk : k ∈ keys <;> simp [hk, List.removeAll, List.eraseDups_cons]

lemma nodup_eraseDups (keys : List κ) : keys.eraseDups.Nodup := by
  induction keys using List.reverseRecOn with
  | nil => exact List.nodup_nil
  | append_singleton keys k ih =>
      rw [eraseDups_concat]
      split_ifs with hk
      · exact ih
      · rw [List.nodup_append]
        refine ⟨ih, by simp, ?_⟩
        intro l hl j hj
        rw [List.mem_singleton.mp hj]
        rintro rfl
        exact hk (List.mem_eraseDups.mp hl)

/-- A pass that keeps each key where it first sees it. -/
lemma foldl_eq_eraseDups (keys : List κ) :
    keys.foldl (fun seen k => if k ∈ seen then seen else seen ++ [k]) [] = keys.eraseDups := by
  induction keys using List.reverseRecOn with
  | nil => rfl
  | append_singleton keys k ih => simp [ih, eraseDups_concat]

/-- What follows a run of one key counts without that key. -/
lemma eraseDups_run {k : κ} {run rest : List κ} (hrun : ∀ j ∈ run, j = k) (hne : run ≠ [])
    (hrest : k ∉ rest) : (run ++ rest).eraseDups = k :: rest.eraseDups := by
  have hk : run.eraseDups = [k] := by
    cases run with
    | nil => exact absurd rfl hne
    | cons j run =>
        obtain ⟨rfl, hrun⟩ := List.forall_mem_cons.mp hrun
        have hnone : (run.filter fun i => !i == j) = [] := by simpa using hrun
        rw [List.eraseDups_cons, hnone, List.eraseDups_nil]
  have hrest : rest.removeAll run = rest := by
    rw [List.removeAll, List.filter_eq_self]
    intro j hj
    simp only [List.elem_eq_mem, Bool.not_eq_true', decide_eq_false_iff_not]
    intro hmem
    exact hrest (hrun j hmem ▸ hj)
  rw [List.eraseDups_append, hk, hrest, List.singleton_append]

variable {key : α → κ} {rows rows' : List α}

lemma mem_groupsOf {k : κ} : k ∈ groupsOf key rows ↔ ∃ row ∈ rows, key row = k := by
  simp [groupsOf]

lemma nodup_groupsOf (key : α → κ) (rows : List α) : (groupsOf key rows).Nodup :=
  nodup_eraseDups _

lemma mem_rowsOf {k : κ} {row : α} : row ∈ rowsOf key k rows ↔ row ∈ rows ∧ key row = k := by
  simp [rowsOf]

lemma rowsOf_eq_nil {k : κ} (hk : k ∉ groupsOf key rows) : rowsOf key k rows = [] := by
  rw [List.eq_nil_iff_forall_not_mem]
  intro row hrow
  rw [mem_rowsOf] at hrow
  exact hk (mem_groupsOf.mpr ⟨row, hrow⟩)

/-! ## Column and groups -/

/-- A list of rows is its column and its groups. -/
theorem eq_of_column (key : α → κ) (hcolumn : rows.map key = rows'.map key)
    (hgroups : ∀ k, rowsOf key k rows = rowsOf key k rows') : rows = rows' := by
  induction rows generalizing rows' with
  | nil => simpa using hcolumn.symm
  | cons row rows ih =>
      cases rows' with
      | nil => simp at hcolumn
      | cons row' rows' =>
          simp only [List.map_cons, List.cons.injEq] at hcolumn
          obtain ⟨hkey, hcolumn⟩ := hcolumn
          have hhead := hgroups (key row)
          simp only [rowsOf, List.filter_cons, hkey, decide_true, if_true,
            List.cons.injEq] at hhead
          obtain ⟨rfl, -⟩ := hhead
          rw [ih hcolumn fun k => ?_]
          have hk := hgroups k
          by_cases hrow : key row = k <;> simpa [rowsOf, hrow] using hk

/-- Rows permuted inside their groups are permuted. -/
theorem perm_of_rowsOf (key : α → κ)
    (h : ∀ k, (rowsOf key k rows).Perm (rowsOf key k rows')) :
    rows.Perm rows' := by
  classical
  rw [List.perm_iff_count]
  intro row
  have hcount := (h (key row)).count_eq row
  simpa [rowsOf, List.count_filter] using hcount

/-! ## The stable group-by -/

lemma rowsOf_flatMap {ks : List κ} (hks : ks.Nodup) (k : κ) :
    rowsOf key k (ks.flatMap fun j => rowsOf key j rows) =
      if k ∈ ks then rowsOf key k rows else [] := by
  induction ks with
  | nil => rfl
  | cons j ks ih =>
      rw [List.nodup_cons] at hks
      have hhead : rowsOf key k (rowsOf key j rows) = if k = j then rowsOf key k rows else [] := by
        split_ifs with hkj
        · simp [rowsOf, hkj]
        · rw [List.eq_nil_iff_forall_not_mem]
          intro row hrow
          rw [mem_rowsOf, mem_rowsOf] at hrow
          exact hkj (hrow.2 ▸ hrow.1.2)
      have happend : rowsOf key k ((j :: ks).flatMap fun j => rowsOf key j rows) =
          rowsOf key k (rowsOf key j rows) ++
            rowsOf key k (ks.flatMap fun j => rowsOf key j rows) := by
        simp [rowsOf]
      rw [happend, hhead, ih hks.2]
      by_cases hkj : k = j
      · subst hkj
        simp [hks.1]
      · simp [hkj]

/-- Relative order inside a group is kept. -/
@[simp] theorem rowsOf_regroup (key : α → κ) (rows : List α) (k : κ) :
    rowsOf key k (regroup key rows) = rowsOf key k rows := by
  rw [regroup, rowsOf_flatMap (nodup_groupsOf key rows)]
  split_ifs with hk
  · rfl
  · exact (rowsOf_eq_nil hk).symm

theorem regroup_perm (key : α → κ) (rows : List α) : (regroup key rows).Perm rows :=
  perm_of_rowsOf key fun k => by rw [rowsOf_regroup]

/-- Each group is contiguous. -/
theorem rowsOf_infix_regroup (key : α → κ) (rows : List α) (k : κ) :
    rowsOf key k rows <:+: regroup key rows := by
  by_cases hk : k ∈ groupsOf key rows
  · obtain ⟨before, after, hsplit⟩ := List.append_of_mem hk
    refine ⟨before.flatMap fun j => rowsOf key j rows, after.flatMap fun j => rowsOf key j rows, ?_⟩
    simp [regroup, hsplit]
  · rw [rowsOf_eq_nil hk]
    exact List.nil_infix

lemma eraseDups_flatMap {ks : List κ} (hks : ks.Nodup) (hne : ∀ k ∈ ks, rowsOf key k rows ≠ []) :
    ((ks.flatMap fun k => rowsOf key k rows).map key).eraseDups = ks := by
  induction ks with
  | nil => rfl
  | cons k ks ih =>
      rw [List.nodup_cons] at hks
      simp only [List.mem_cons, forall_eq_or_imp] at hne
      have hrun : ∀ j ∈ (rowsOf key k rows).map key, j = k := by
        simp only [List.mem_map, mem_rowsOf]
        rintro j ⟨row, ⟨-, rfl⟩, rfl⟩
        rfl
      have hrest : k ∉ (ks.flatMap fun k => rowsOf key k rows).map key := by
        simp only [List.mem_map, List.mem_flatMap, mem_rowsOf, not_exists, not_and]
        rintro row ⟨j, hj, -, rfl⟩ rfl
        exact hks.1 hj
      rw [List.flatMap_cons, List.map_append,
        eraseDups_run hrun (by simpa using hne.1) hrest, ih hks.2 hne.2]

/-- Regrouping changes no first appearance. -/
@[simp] theorem groupsOf_regroup (key : α → κ) (rows : List α) :
    groupsOf key (regroup key rows) = groupsOf key rows := by
  apply eraseDups_flatMap (nodup_groupsOf key rows)
  intro k hk hnil
  obtain ⟨row, hrow⟩ := mem_groupsOf.mp hk
  rw [← mem_rowsOf, hnil] at hrow
  exact List.not_mem_nil hrow

/-- The regrouped column is the column regrouped. -/
lemma column_regroup (key : α → κ) (rows : List α) :
    (regroup key rows).map key = regroup id (rows.map key) := by
  have hrows : ∀ k, (rowsOf key k rows).map key = rowsOf id k (rows.map key) := by
    intro k
    simp [rowsOf, List.filter_map, Function.comp_def]
  simp [regroup, groupsOf, List.map_flatMap, hrows]

/-- Nothing but the groups and their order matters. -/
theorem regroup_congr (hgroups : groupsOf key rows = groupsOf key rows')
    (hrows : ∀ k, rowsOf key k rows = rowsOf key k rows') :
    regroup key rows = regroup key rows' := by
  simp only [regroup, hgroups, hrows]

/-! ## A stable sort -/

section Ranks

variable {ρ : Type*} [LinearOrder ρ] (rank : α → ρ)

/-- A sort by rank, rows of one rank as they were. -/
def sortBy (rows : List α) : List α := rows.insertionSort fun a b => rank a ≤ rank b

lemma sortBy_perm (rows : List α) : (sortBy rank rows).Perm rows := List.perm_insertionSort _ rows

lemma sortBy_pairwise (rows : List α) :
    (sortBy rank rows).Pairwise fun a b => rank a ≤ rank b := by
  have : IsTrans α fun a b => rank a ≤ rank b := ⟨fun _ _ _ => le_trans⟩
  have : Std.Total fun a b => rank a ≤ rank b := ⟨fun a b => le_total (rank a) (rank b)⟩
  exact List.pairwise_insertionSort _ rows

lemma rowsOf_orderedInsert (row : α) (n : ρ) (rows : List α) :
    rowsOf rank n (rows.orderedInsert (fun a b => rank a ≤ rank b) row) =
      rowsOf rank n (row :: rows) := by
  induction rows with
  | nil => rfl
  | cons other rows ih =>
      rw [List.orderedInsert]
      split_ifs with hle
      · rfl
      · -- The row goes behind a smaller one, which is not of its rank.
        rw [not_le] at hle
        by_cases hrow : rank row = n
        · have hother : rank other ≠ n := fun h => (h.trans hrow.symm).not_lt hle
          simpa [rowsOf, hrow, hother] using ih
        · by_cases hother : rank other = n <;> simpa [rowsOf, hrow, hother] using ih

/-- The sort is stable. -/
@[simp] theorem rowsOf_sortBy (n : ρ) (rows : List α) :
    rowsOf rank n (sortBy rank rows) = rowsOf rank n rows := by
  induction rows with
  | nil => rfl
  | cons row rows ih =>
      have hcons : sortBy rank (row :: rows) =
          (sortBy rank rows).orderedInsert (fun a b => rank a ≤ rank b) row := rfl
      rw [hcons, rowsOf_orderedInsert]
      by_cases hrow : rank row = n <;> simpa [rowsOf, hrow] using ih

/-- Rows picked out of one rank stay as they were. -/
lemma filter_sortBy {p : α → Bool} {n : ρ} (hp : ∀ row, p row → rank row = n) (rows : List α) :
    (sortBy rank rows).filter p = rows.filter p := by
  have hrank : ∀ rows : List α, (rowsOf rank n rows).filter p = rows.filter p := by
    intro rows
    rw [rowsOf, List.filter_filter]
    apply List.filter_congr
    intro row _
    cases hrow : p row with
    | false => rfl
    | true => simp [hp row hrow]
  rw [← hrank, rowsOf_sortBy, hrank]

end Ranks

end Groups
