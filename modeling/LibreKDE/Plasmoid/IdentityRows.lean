import LibreKDE.Plasmoid.IdentityDetails

/-!
# The rows of an identity read

`identityRows` turns the groups of a read into the rows a surface draws.  What a security check
looks like on the wire, and how a field is flattened, is the client library's business
(`IdentityLibrary`); the surfaces add one row for each check, named by the check's id or, where it
has none, by its ordinal.

The wire is a map of maps, so no group and no field of a group repeats.  That a row's identity
does not repeat either is what the subtraction of a summary relies on, and `identityRows_nodup_iff`
says when it holds: the names of a group's checks come from inside the checks.
-/

namespace LibreKDE.Plasmoid

/-- By group and field, as for the rows of the model. -/
def IdentityRow.identity (row : IdentityRow) : FieldIdentity := (row.groupKey, row.fieldKey)

/-! ## The client library -/

/-- One separated security check: its ordinal in the group, and what its several fields say. -/
structure SecurityCheckEntry where
  ordinal : QString
  id : QString := []
  label : QString := []
  status : QString := []
  reason : QString := []
  detail : QString := []
  deriving DecidableEq, Repr

/-- A group's checks, and the fields that are of none. -/
structure SecurityVerdict where
  checks : List SecurityCheckEntry
  aggregates : List Field
  deriving DecidableEq, Repr

/-- The value of a group's field. -/
def fieldValue (group : FieldGroup) (key : QString) : QString :=
  ((group.fields.find? fun f => f.key = key).map Field.value).getD []

/-- The value of one of the wire fields of a check. -/
def checkField (group : FieldGroup) (ordinal suffix : QString) : QString :=
  fieldValue group (qs "check_" ++ ordinal ++ suffix)

/-- The client library's structural half of the row assembly. -/
structure IdentityLibrary where
  separateSecurityChecks : FieldGroup → SecurityVerdict
  flattenIdentityFields : List FieldGroup → List IdentityRow
  /-- A check's id is the value of its id field. -/
  check_id : ∀ group, ∀ check ∈ (separateSecurityChecks group).checks,
    check.id = checkField group check.ordinal (qs "_id")
  /-- The fields of no check are returned as they came. -/
  aggregates_sublist : ∀ group, (separateSecurityChecks group).aggregates.Sublist group.fields
  /-- A field has at most one row, under its key. -/
  flatten_sublist : ∀ group,
    ((flattenIdentityFields [group]).map IdentityRow.identity).Sublist
      (group.fields.map fun f => (group.key, f.key))

/-! ## The rows -/

/-- The sentences of the reasons this build knows. -/
def checkReasonTable (loc : Locale) : List (QString × QString) :=
  let text := fun msgid =>
    i18nc loc (qs "@item:intable why a security check came out as it did") msgid []
  [(qs "csca.not-configured",
      text (qs "No CSCA certificates have been imported. Import an ICAO master list in " ++
        qs "LibreCelik, under Settings → Trust, so this document's signer can be checked.")),
    (qs "csca.anchors-unreadable",
      text (qs "The CSCA trust store could not be read. Check that its directory exists and " ++
        qs "that its permissions allow reading.")),
    (qs "csca.anchors-undecodable",
      text (qs "The CSCA trust store holds no usable certificate. Import an ICAO master list " ++
        qs "again in LibreCelik, under Settings → Trust.")),
    (qs "csca.no-anchor-for-issuer",
      text (qs "No imported CSCA certificate belongs to this document's issuer. In LibreCelik, " ++
        qs "under Settings → Trust, import a master list that covers the issuing country.")),
    (qs "csca.chain-failed",
      text (qs "This document's signer does not chain to any imported CSCA certificate. Do not " ++
        qs "rely on this document; check it with the issuing authority."))]

/-- The sentence for a check's reason; where the table has none, the detail the agent gave, or the
bare key. -/
def localizedCheckReason (loc : Locale) (reasonKey detail : QString) : QString :=
  match (checkReasonTable loc).lookup reasonKey with
  | some text => text
  | none => if detail ≠ [] then detail else reasonKey

/-- The row of a check.  A reason replaces the detail. -/
def checkRow (loc : Locale) (groupKey : QString) (check : SecurityCheckEntry) : IdentityRow :=
  let fieldKey := if check.id = [] then qs "check_" ++ check.ordinal else check.id
  let explanation :=
    if check.reason = [] then check.detail
    else localizedCheckReason loc check.reason check.detail
  { groupKey := groupKey
    fieldKey := fieldKey
    labelFallback := if check.label = [] then fieldKey else check.label
    value :=
      if explanation ≠ [] then check.status ++ qs " (" ++ explanation ++ [qc ')']
      else check.status }

variable (lib : IdentityLibrary) (loc : Locale)

/-- The rows of the fields that are of no check. -/
def carriedRows (group : FieldGroup) : List IdentityRow :=
  lib.flattenIdentityFields [⟨group.key, (lib.separateSecurityChecks group).aggregates⟩]

/-- The rows of a read, group by group: first those of the checks, which take several fields each,
and then those of all other fields. -/
def identityRows (groups : List FieldGroup) : List IdentityRow :=
  groups.flatMap fun group =>
    (lib.separateSecurityChecks group).checks.map (checkRow loc group.key) ++
      carriedRows lib group

/-- The surfaces' rules, with the rows of the library. -/
def rulesOf (r : IdentityRules) : IdentityRules :=
  { r with identityRows := identityRows lib loc }

/-! ## Identities -/

/-- The name of a check: the text of its id field, or `check_` and its ordinal. -/
def checkName (group : FieldGroup) (ordinal : QString) : QString :=
  let id := checkField group ordinal (qs "_id")
  if id = [] then qs "check_" ++ ordinal else id

/-- The names of a group's checks, in order. -/
def checkNames (group : FieldGroup) : List QString :=
  (lib.separateSecurityChecks group).checks.map fun check => checkName group check.ordinal

/-- The checks of a group have different names, and none the key of a field that has a row. -/
structure DistinctNames (group : FieldGroup) : Prop where
  checks : (checkNames lib group).Nodup
  carried : ∀ row ∈ carriedRows lib group, row.fieldKey ∉ checkNames lib group

variable {lib loc}

lemma map_identity_checks (group : FieldGroup) :
    ((lib.separateSecurityChecks group).checks.map (checkRow loc group.key)).map
        IdentityRow.identity =
      (checkNames lib group).map fun name => (group.key, name) := by
  rw [checkNames, List.map_map, List.map_map]
  apply List.map_congr_left
  intro check hcheck
  simp only [Function.comp, IdentityRow.identity, checkRow, checkName,
    lib.check_id group check hcheck]

lemma carriedRows_sublist (group : FieldGroup) :
    ((carriedRows lib group).map IdentityRow.identity).Sublist
      (group.fields.map fun f => (group.key, f.key)) :=
  (lib.flatten_sublist _).trans ((lib.aggregates_sublist group).map _)

lemma groupKey_of_mem_identityRows {group : FieldGroup} {i : FieldIdentity}
    (hi : i ∈ ((lib.separateSecurityChecks group).checks.map (checkRow loc group.key) ++
      carriedRows lib group).map IdentityRow.identity) : i.1 = group.key := by
  rw [List.map_append, map_identity_checks, List.mem_append] at hi
  rcases hi with hi | hi
  · obtain ⟨name, -, rfl⟩ := List.mem_map.mp hi
    rfl
  · obtain ⟨f, -, rfl⟩ := List.mem_map.mp ((carriedRows_sublist group).subset hi)
    rfl

/-- One group's rows have different identities exactly if its checks have names of their own. -/
lemma group_nodup_iff {group : FieldGroup} (hfields : (group.fields.map Field.key).Nodup) :
    (((lib.separateSecurityChecks group).checks.map (checkRow loc group.key) ++
        carriedRows lib group).map IdentityRow.identity).Nodup ↔ DistinctNames lib group := by
  have hpair : Function.Injective fun name : QString => (group.key, name) :=
    Prod.mk_right_injective group.key
  have hcarried : ((carriedRows lib group).map IdentityRow.identity).Nodup := by
    apply (carriedRows_sublist group).nodup
    simpa [List.map_map, Function.comp_def] using hfields.map hpair
  have hgroup : ∀ row ∈ carriedRows lib group, row.groupKey = group.key := by
    intro row hrow
    obtain ⟨f, -, hf⟩ := List.mem_map.mp
      ((carriedRows_sublist group).subset (List.mem_map_of_mem hrow))
    exact (congrArg Prod.fst hf).symm
  rw [List.map_append, map_identity_checks, List.nodup_append, List.nodup_map_iff hpair]
  constructor
  · rintro ⟨hnames, -, hdisjoint⟩
    refine ⟨hnames, fun row hrow hmem => ?_⟩
    apply hdisjoint _ (List.mem_map_of_mem hmem) _ (List.mem_map_of_mem hrow)
    rw [IdentityRow.identity, hgroup row hrow]
  · rintro ⟨hnames, hdisjoint⟩
    refine ⟨hnames, hcarried, ?_⟩
    rintro i hi j hj rfl
    obtain ⟨name, hname, rfl⟩ := List.mem_map.mp hi
    obtain ⟨row, hrow, heq⟩ := List.mem_map.mp hj
    have hkey : row.fieldKey = name := congrArg Prod.snd heq
    exact hdisjoint row hrow (hkey ▸ hname)

/-- Rows of different groups have different identities. -/
lemma nodup_identityRows {groups : List FieldGroup}
    (hgroups : (groups.map FieldGroup.key).Nodup)
    (hfields : ∀ group ∈ groups, (group.fields.map Field.key).Nodup)
    (hnames : ∀ group ∈ groups, DistinctNames lib group) :
    ((identityRows lib loc groups).map IdentityRow.identity).Nodup := by
  rw [identityRows, List.map_flatMap, List.nodup_flatMap]
  refine ⟨fun group hgroup => (group_nodup_iff (hfields group hgroup)).mpr (hnames group hgroup),
    ?_⟩
  apply (List.pairwise_map.mp hgroups).imp
  intro group other hne i hi hj
  exact hne ((groupKey_of_mem_identityRows hi).symm.trans (groupKey_of_mem_identityRows hj))

lemma flatten_sublist (r : IdentityRules) (groups : List FieldGroup) :
    ((flatten r groups).map IdentityField.identity).Sublist
      ((r.identityRows groups).map IdentityRow.identity) := by
  rw [flatten, List.map_map]
  exact List.filter_sublist.map _

/-- Where the checks have names of their own, a widget shows every row it keeps once. -/
theorem rebuild_shown (lib : IdentityLibrary) (loc : Locale) (r : IdentityRules) (t : CharClasses)
    {groups : List FieldGroup} (hgroups : (groups.map FieldGroup.key).Nodup)
    (hfields : ∀ group ∈ groups, (group.fields.map Field.key).Nodup)
    (hnames : ∀ group ∈ groups, DistinctNames lib group) :
    ((IdentityModel.rebuild (rulesOf lib loc r) t groups).identitySummary ++
        unheaded (IdentityModel.rebuild (rulesOf lib loc r) t groups).identityDetails).Perm
      (IdentityModel.rebuild (rulesOf lib loc r) t groups).identityFields := by
  have hrows : ((identityRows lib loc groups).map IdentityRow.identity).Nodup :=
    nodup_identityRows hgroups hfields hnames
  exact append_layout_perm (rulesOf lib loc r)
    ((flatten_sublist (rulesOf lib loc r) groups).nodup hrows)
    (nodup_curateIdentitySummary t _) fun _ => curateIdentitySummary_subset

/-- The identities of the rows are different exactly if in every group the checks have names of
their own. -/
theorem identityRows_nodup_iff (lib : IdentityLibrary) (loc : Locale) (groups : List FieldGroup)
    (hgroups : (groups.map FieldGroup.key).Nodup)
    (hfields : ∀ group ∈ groups, (group.fields.map Field.key).Nodup) :
    ((identityRows lib loc groups).map IdentityRow.identity).Nodup ↔
      ∀ group ∈ groups, DistinctNames lib group := by
  refine ⟨fun hrows group hgroup => ?_, nodup_identityRows hgroups hfields⟩
  rw [identityRows, List.map_flatMap, List.nodup_flatMap] at hrows
  exact (group_nodup_iff (hfields group hgroup)).mp (hrows.1 group hgroup)

/-! ## A document with checks -/

/-- The ordinal of a key that is of a check. -/
def checkOrdinal (key : QString) : Option QString :=
  if (qs "check_").isPrefixOf key then
    let ordinal := (key.drop 6).takeWhile fun c => qc '0' ≤ c ∧ c ≤ qc '9'
    if ordinal ≠ [] ∧ ((key.drop 6).drop ordinal.length).head? = some (qc '_') then some ordinal
    else none
  else none

/-- One of a group's checks. -/
def checkEntry (group : FieldGroup) (ordinal : QString) : SecurityCheckEntry where
  ordinal := ordinal
  id := checkField group ordinal (qs "_id")
  label := checkField group ordinal (qs "_label")
  status := checkField group ordinal (qs "_status")
  reason := checkField group ordinal (qs "_reason")
  detail := checkField group ordinal (qs "_detail")

/-- The checks of `security_status`, by the ordinals of its fields, and what is left of it; in any
other group there is no check. -/
def verdictOf (group : FieldGroup) : SecurityVerdict :=
  if group.key = qs "security_status" then
    { checks :=
        (firstAppearances (group.fields.filterMap fun f => checkOrdinal f.key)).map
          (checkEntry group)
      aggregates := group.fields.filter fun f => checkOrdinal f.key = none }
  else ⟨[], group.fields⟩

/-- A library that reads the checks of `security_status` in the order they are met in. -/
def IdentityLibrary.plain : IdentityLibrary where
  separateSecurityChecks := verdictOf
  flattenIdentityFields groups := groups.flatMap fun g => g.fields.map fun f =>
    ⟨g.key, f.key, f.labelKey, f.labelFallback, f.value⟩
  check_id := by
    intro group check hcheck
    unfold verdictOf at hcheck
    split_ifs at hcheck
    · obtain ⟨ordinal, -, rfl⟩ := List.mem_map.mp hcheck
      rfl
    · simp at hcheck
  aggregates_sublist := by
    intro group
    unfold verdictOf
    split_ifs
    · exact List.filter_sublist
    · exact List.Sublist.refl _
  flatten_sublist := by
    intro group
    simp [IdentityRow.identity, Function.comp_def]

/-- A field without a label. -/
def bareField (key value : String) : Field := { key := qs key, value := qs value }

/-- Two checks, each under its own id, beside a roll-up. -/
def twoChecks : FieldGroup where
  key := qs "security_status"
  fields := [bareField "check_0_id" "pa_chain", bareField "check_0_status" "PASSED",
    bareField "check_1_id" "pa_hash", bareField "check_1_status" "PASSED",
    bareField "overall" "PASSED"]

theorem identityRows_nodup_twoChecks :
    ((identityRows .plain .untranslated [twoChecks]).map IdentityRow.identity).Nodup ↔
      ∀ group ∈ [twoChecks], DistinctNames .plain group :=
  identityRows_nodup_iff .plain .untranslated [twoChecks] (by decide) (by decide)

/-- Two checks whose ids are the same text. -/
def sameIds : FieldGroup where
  key := qs "security_status"
  fields := [bareField "check_0_id" "pa_hash", bareField "check_0_status" "PASSED",
    bareField "check_1_id" "pa_hash", bareField "check_1_status" "FAILED"]

/-- No field of the group repeats, and the row of the one check has the identity of the
other's. -/
theorem sameIds_repeat :
    (sameIds.fields.map Field.key).Nodup ∧
      ¬ ((identityRows .plain .untranslated [sameIds]).map IdentityRow.identity).Nodup := by
  decide +kernel

end LibreKDE.Plasmoid
