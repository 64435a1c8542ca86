import LibreKDE.Kio.FolderNames
import LibreKDE.Kio.ReadBudget

/-!
# Certificate folders identify certificates

A folder's name is the key a later `get` is resolved by, so each of a card's signing-capable
certificates needs a name of its own (`FoldersIdentify`).

Names are told apart by purpose, short id and ordinal, and this goes wrong in one way
only: the ordinal is substituted into the finished name, and an id may itself hold the text
of a place marker.  Two repeated names then meet when their short ids, different to begin
with, become the same once each one's ordinal is filled in (`MarkerClash`).
`folders_identify_iff` says that this is the exact condition.
-/

namespace LibreKDE.Kio

open CardWorkerLogic Stateful PlaceMarkers

section Statement

variable (q : Session) (certs : List CertificateInfo)

/-- The certificates that get a folder, in the card's order. -/
def signingCapable : List CertificateInfo := certs.filter fun c => c.signingCapable

/-- The folders' names. -/
def folderNames : List QString := (buildCertFolders q { certs := certs }).map CertFolder.name

/-- How many signing-capable certificates before the `i`-th have its base name. -/
def earlier (i : ℕ) (c : CertificateInfo) : ℕ :=
  (((signingCapable certs).take i).map (stableCertFolderName q)).count (stableCertFolderName q c)

/-- Whichever source hands out this list, a `get` below the named folder is answered from the
certificate `c`. -/
def Resolves (name : QString) (c : CertificateInfo) : Prop :=
  ∀ (σ : Type) (d : CardDataSource σ) (w : Worker σ) (url : QUrl) (node : CardNode)
    (message : QString),
    node.certFolder = name →
    (d.readCertificates node.presence.cardId w.source).1 =
      { status := .ok, certs := certs, message := message } →
    (resolveCertId d q node.presence.cardId name w).1.1 = c.id ∧
    (node.kind = .certInfoLeaf → (getNode d q url node w).2.emitted = w.emitted ++
      [.mimeType (qs "text/plain"),
        .data (toUtf8 (renderCertInfoTxt q c (workerRenderLabels q))), .data []]) ∧
    (node.kind = .certDerLeaf ∨ node.kind = .certPemLeaf →
      (getNode d q url node w).2.reads = w.reads ++
        [.readCertificates node.presence.cardId, .getCertificateDer node.presence.cardId c.id])

/-- Each signing-capable certificate has a folder of its own, named the same in every
language, and its folder resolves to it. -/
structure FoldersIdentify : Prop where
  distinct : (folderNames q certs).Nodup
  inOrder : (buildCertFolders q { certs := certs }).map CertFolder.certId =
    (signingCapable certs).map CertificateInfo.id
  localeFree : ∀ loc : Locale, folderNames { q with locale := loc } certs = folderNames q certs
  resolves : ∀ (i : ℕ) (c : CertificateInfo) (f : CertFolder),
    (signingCapable certs)[i]? = some c →
    (buildCertFolders q { certs := certs })[i]? = some f → Resolves q certs f.name c

/-- Two repeated certificates of one purpose, whose short ids differ but are the same once
their ordinals are filled in. -/
structure MarkerClash (c c' : CertificateInfo) (n n' : ℕ) : Prop where
  repeated : n ≠ 0 ∧ n' ≠ 0
  purpose : namePrefix c = namePrefix c'
  differ : shortId c ≠ shortId c'
  filled : fillShort q (shortId c) (n + 1) = fillShort q (shortId c') (n' + 1)
  ordinal : ordinalText q (shortId c) (n + 1) = ordinalText q (shortId c') (n' + 1)

/-- No two of the certificates clash: of no two that are repeated do the ordinals, filled into the
ids, make the same text. -/
def NoMarkerClash : Prop :=
  ∀ (i j : ℕ) (c c' : CertificateInfo), (signingCapable certs)[i]? = some c →
    (signingCapable certs)[j]? = some c' →
    ¬ MarkerClash q c c' (earlier q certs i c) (earlier q certs j c')

end Statement

/-! ## The names -/

section Names

variable {q : Session} {certs : List CertificateInfo} {c c' : CertificateInfo} {i j : ℕ}

lemma buildFolders_name (seen : QString → ℕ) (certs : List CertificateInfo) (i : ℕ) :
    ((buildFolders q seen certs).map CertFolder.name)[i]? =
      (signingCapable certs)[i]?.map fun c =>
        suffixedName q (stableCertFolderName q c)
          (seen (stableCertFolderName q c) + earlier q certs i c) := by
  induction certs generalizing seen i with
  | nil => simp [buildFolders, signingCapable]
  | cons c certs ih =>
      by_cases hc : c.signingCapable = true
      · have hsign : signingCapable (c :: certs) = c :: signingCapable certs := by
          simp [signingCapable, hc]
        simp only [buildFolders, hc, if_true, List.map_cons, hsign]
        -- The head takes the count of its base name as it stands; the rest see it one higher.
        cases i with
        | zero => simp [earlier]
        | succ i =>
            simp only [List.getElem?_cons_succ, ih]
            cases (signingCapable certs)[i]? with
            | none => rfl
            | some d =>
                simp only [Option.map_some, earlier, hsign, List.take_succ_cons, List.map_cons,
                  List.count_cons]
                by_cases hbase : stableCertFolderName q d = stableCertFolderName q c
                · simp only [hbase, Function.update_self, beq_self_eq_true, if_true]
                  rw [Nat.add_assoc, Nat.add_comm 1]
                · simp [Function.update_of_ne hbase, Ne.symm hbase]
      · have hsign : signingCapable (c :: certs) = signingCapable certs := by
          simp [signingCapable, hc]
        have hearlier : ∀ d, earlier q (c :: certs) i d = earlier q certs i d := by
          intro d
          simp only [earlier, hsign]
        simp only [buildFolders, hc, Bool.false_eq_true, if_false, hsign, ih, hearlier]

lemma folderNames_getElem? (hc : (signingCapable certs)[i]? = some c) :
    (folderNames q certs)[i]? =
      some (suffixedName q (stableCertFolderName q c) (earlier q certs i c)) := by
  apply (buildFolders_name (fun _ => 0) certs i).trans
  simp [hc]

lemma length_folderNames : (folderNames q certs).length = (signingCapable certs).length := by
  have h := congrArg List.length (certId_buildFolders q (fun _ => 0) certs)
  simpa [folderNames, buildCertFolders, signingCapable] using h

/-- Of two certificates with one base name, the later one has the greater ordinal. -/
lemma earlier_lt (hij : i < j) (hi : (signingCapable certs)[i]? = some c)
    (hbase : stableCertFolderName q c = stableCertFolderName q c') :
    earlier q certs i c < earlier q certs j c' := by
  have hsucc : ((signingCapable certs).take (i + 1)).map (stableCertFolderName q) =
      ((signingCapable certs).take i).map (stableCertFolderName q) ++
        [stableCertFolderName q c] := by
    simp [List.take_add_one, hi]
  have hsub : (((signingCapable certs).take (i + 1)).map (stableCertFolderName q)).Sublist
      (((signingCapable certs).take j).map (stableCertFolderName q)) :=
    ((List.take_prefix_take_left (by omega)).sublist).map _
  have hle := hsub.count_le (stableCertFolderName q c)
  rw [hsucc, List.count_append, List.count_singleton_self] at hle
  unfold earlier
  rw [← hbase]
  omega

/-- Two names are the same only where the ordinals make them so. -/
lemma clash_of_names_eq (hij : i < j) (hi : (signingCapable certs)[i]? = some c)
    (h : suffixedName q (stableCertFolderName q c) (earlier q certs i c) =
      suffixedName q (stableCertFolderName q c') (earlier q certs j c')) :
    MarkerClash q c c' (earlier q certs i c) (earlier q certs j c') := by
  by_cases hbase : stableCertFolderName q c = stableCertFolderName q c'
  · -- One base name: the ordinals differ, and so do the names.
    have hlt := earlier_lt hij hi hbase
    have hj0 : earlier q certs j c' ≠ 0 := by omega
    by_cases hi0 : earlier q certs i c = 0
    · rw [hi0, suffixedName_zero] at h
      exact absurd h.symm (suffixedName_ne_base q c' c hj0)
    · rw [hbase] at h
      have heq := suffixedName_injective q c' hi0 hj0 h
      omega
  -- Different base names: both names carry an ordinal, or one of them would be a base name.
  · by_cases hi0 : earlier q certs i c = 0
    · rw [hi0, suffixedName_zero] at h
      by_cases hj0 : earlier q certs j c' = 0
      · rw [hj0, suffixedName_zero] at h
        exact absurd h hbase
      · exact absurd h.symm (suffixedName_ne_base q c' c hj0)
    · by_cases hj0 : earlier q certs j c' = 0
      · rw [hj0, suffixedName_zero] at h
        exact absurd h (suffixedName_ne_base q c c' hi0)
      · obtain ⟨hp, hx, ht⟩ := (suffixedName_inj q hi0 hj0).1 h
        refine ⟨⟨hi0, hj0⟩, hp, fun hshort => hbase ?_, hx, ht⟩
        exact (stableCertFolderName_inj q).2 ⟨hp, hshort⟩

/-- The names are distinct exactly when no two certificates clash. -/
lemma nodup_folderNames_iff : (folderNames q certs).Nodup ↔ NoMarkerClash q certs := by
  constructor
  · intro hnodup i j c c' hi hj hclash
    have hij : i ≠ j := by
      rintro rfl
      obtain rfl : c = c' := by simpa [hi] using hj
      exact hclash.differ rfl
    -- A clash makes two names the same text, at different places of the list.
    have hname : (folderNames q certs)[i]? = (folderNames q certs)[j]? := by
      rw [folderNames_getElem? hi, folderNames_getElem? hj]
      exact congrArg some ((suffixedName_inj q hclash.repeated.1 hclash.repeated.2).2
        ⟨hclash.purpose, hclash.filled, hclash.ordinal⟩)
    have hlt : i < (folderNames q certs).length := by
      rw [length_folderNames]
      exact (List.getElem?_eq_some_iff.1 hi).1
    exact hij ((List.getElem?_inj hlt hnodup).1 hname)
  · intro hclash
    rw [List.nodup_iff_getElem?_ne_getElem?]
    intro i j hij hj heq
    rw [length_folderNames] at hj
    have hi := List.getElem?_eq_getElem (show i < (signingCapable certs).length by omega)
    have hj' := List.getElem?_eq_getElem hj
    rw [folderNames_getElem? hi, folderNames_getElem? hj', Option.some.injEq] at heq
    exact hclash i j _ _ hi hj' (clash_of_names_eq hij hi heq)

/-- No name depends on the catalogue. -/
lemma folderNames_locale (loc : Locale) :
    folderNames { q with locale := loc } certs = folderNames q certs := by
  apply List.ext_getElem?
  intro i
  have hleft := buildFolders_name (q := { q with locale := loc }) (fun _ => 0) certs i
  have hright := buildFolders_name (q := q) (fun _ => 0) certs i
  exact hleft.trans hright.symm

end Names

/-! ## Resolution -/

section Resolution

variable {q : Session} {certs : List CertificateInfo} {c : CertificateInfo} {f : CertFolder}
  {i : ℕ}

/-- In a list with distinct keys a key finds its own entry. -/
lemma find?_eq_of_nodup {α κ : Type} [DecidableEq κ] {key : α → κ} {l : List α} {a : α}
    (hnodup : (l.map key).Nodup) (ha : a ∈ l) : l.find? (fun b => key b = key a) = some a := by
  cases hfind : l.find? fun b => key b = key a with
  | none => exact absurd (List.find?_eq_none.1 hfind a ha) (by simp)
  | some b =>
      have hkey : key b = key a := by simpa using List.find?_some hfind
      rw [List.inj_on_of_nodup_map hnodup (List.mem_of_find?_eq_some hfind) ha hkey]

/-- The folder's certificate, at the same place of the list. -/
lemma certId_of_getElem? (hc : (signingCapable certs)[i]? = some c)
    (hf : (buildCertFolders q { certs := certs })[i]? = some f) : f.certId = c.id := by
  have h := congrArg (fun ids => ids[i]?) (certId_buildFolders q (fun _ => 0) certs)
  have hleft : ((buildCertFolders q { certs := certs }).map CertFolder.certId)[i]? =
      some f.certId := by
    simp [hf]
  have hright : ((signingCapable certs).map CertificateInfo.id)[i]? = some c.id := by
    simp [hc]
  exact Option.some.inj (hleft.symm.trans (h.trans hright))

/-- With distinct names a folder resolves to its certificate. -/
lemma resolves_of_nodup (hids : (certs.map CertificateInfo.id).Nodup)
    (hne : ∀ c ∈ certs, c.id ≠ []) (hnames : (folderNames q certs).Nodup)
    (hc : (signingCapable certs)[i]? = some c)
    (hf : (buildCertFolders q { certs := certs })[i]? = some f) :
    Resolves q certs f.name c := by
  have hid := certId_of_getElem? hc hf
  have hmem : c ∈ certs := (List.mem_filter.1 (List.mem_of_getElem? hc)).1
  have hfolder : (buildCertFolders q { certs := certs }).find? (fun g => g.name = f.name) =
      some f := find?_eq_of_nodup hnames (List.mem_of_getElem? hf)
  have hcert : certs.find? (fun e => e.id = c.id) = some c := find?_eq_of_nodup hids hmem
  intro σ d w url node message hname hread
  obtain ⟨w', hw', hreads, hemitted⟩ : ∃ w', readCertificates d node.presence.cardId w =
      ({ status := .ok, certs := certs, message := message }, w') ∧
      w'.reads = w.reads ++ [.readCertificates node.presence.cardId] ∧
      w'.emitted = w.emitted :=
    ⟨(readCertificates d node.presence.cardId w).2, Prod.ext hread rfl, rfl, rfl⟩
  have hresolve : resolveCertId d q node.presence.cardId f.name w =
      ((c.id, { status := .ok, certs := certs, message := message }), w') := by
    unfold resolveCertId
    rw [run_bind, hw']
    simp only [ne_eq, not_true_eq_false, if_false]
    rw [show buildCertFolders q { status := .ok, certs := certs, message := message } =
      buildCertFolders q { certs := certs } from rfl, hfolder, ← hid]
    rfl
  refine ⟨by rw [hresolve], fun hkind => ?_, fun hkind => ?_⟩
  · simp only [getNode, hkind, getCertInfo]
    rw [run_bind, hname, hresolve]
    simp only [ne_eq, not_true_eq_false, if_false, if_neg (hne c hmem), hcert]
    simp [emitFile, run_bind, run_map, emitMimeType, emitData, emit, hemitted]
  · have hexport : getNode d q url node w = getCertExport d q url node w := by
      rcases hkind with hkind | hkind <;> simp only [getNode, hkind]
    rw [hexport, getCertExport, run_bind, hname, hresolve]
    simp only [ne_eq, not_true_eq_false, if_false, if_neg (hne c hmem)]
    have hder : (getCertificateDer d node.presence.cardId c.id w').2.reads = w.reads ++
        [.readCertificates node.presence.cardId,
          .getCertificateDer node.presence.cardId c.id] := by
      simp [getCertificateDer, hreads]
    refine (Keeps.after (fun der => ?_) _ _).trans hder
    split
    · exact .pure _
    · split <;> exact keeps_emitFile _ _

end Resolution

/-- **Certificate folders identify certificates**, for lists of non-empty, pairwise distinct
ids, exactly when no two repeated certificates clash. -/
theorem folders_identify_iff (q : Session) {certs : List CertificateInfo}
    (hne : ∀ c ∈ certs, c.id ≠ []) (hids : (certs.map CertificateInfo.id).Nodup) :
    FoldersIdentify q certs ↔ NoMarkerClash q certs := by
  constructor
  · intro h
    exact nodup_folderNames_iff.1 h.distinct
  · intro h
    have hnames := nodup_folderNames_iff.2 h
    exact ⟨hnames, certId_buildFolders q _ certs, fun loc => folderNames_locale loc,
      fun i c f hc hf => resolves_of_nodup hids hne hnames hc hf⟩

/-- Two certificates of one purpose whose ids start alike. -/
def alikeIds : List CertificateInfo :=
  [{ id := qs "abcdefgh-1", keyUsageBits := 2, signingCapable := true },
    { id := qs "abcdefgh-2", keyUsageBits := 2, signingCapable := true }]

/-- Two pairs of such certificates, whose ids hold the text of a place marker. -/
def markerIds : List CertificateInfo :=
  [{ id := qs "%1x2yyyyA", keyUsageBits := 2, signingCapable := true },
    { id := qs "%1x2yyyyB", keyUsageBits := 2, signingCapable := true },
    { id := qs "2x%1yyyyA", keyUsageBits := 2, signingCapable := true },
    { id := qs "2x%1yyyyB", keyUsageBits := 2, signingCapable := true }]

theorem folders_identify_alikeIds :
    FoldersIdentify .plain alikeIds ↔ NoMarkerClash .plain alikeIds :=
  folders_identify_iff .plain (by decide) (by decide)

/-- The second and the fourth certificate share a folder name. -/
theorem folders_confused :
    ∃ certs : List CertificateInfo, (∀ c ∈ certs, c.id ≠ []) ∧
      (certs.map CertificateInfo.id).Nodup ∧ ¬ FoldersIdentify .plain certs := by
  refine ⟨markerIds, by decide, by decide, fun h => ?_⟩
  have hsame : (folderNames .plain markerIds)[1]? = (folderNames .plain markerIds)[3]? := by
    decide +kernel
  have hlength : (folderNames .plain markerIds).length = 4 := length_folderNames
  exact absurd ((List.getElem?_inj (by omega) h.distinct).1 hsame) (by decide)

end LibreKDE.Kio
