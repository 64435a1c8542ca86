import LibreKDE.Kio.IdentityText
import LibreKDE.Kio.Listing

/-!
# What `get` hands to KIO

KIO takes a file as one MIME type, then chunks of bytes, and an empty chunk that says there are no
more.  `GetProtocol` is that law.  `rendered` is what a node shows, worked out from what the source
answers and from nothing else; `getNode_rendered` says that `get` emits it in one chunk between its
type and the empty one, or fails and emits nothing.

An empty payload makes that one chunk look like the end.  `rendered_eq_nil` says when it happens:
the texts and the PEM block are never empty but for the identity of a card that shows no field.
-/

namespace LibreKDE.Kio

open Stateful CardWorkerLogic Groups

variable {σ : Type} (d : CardDataSource σ) (q : Session)

/-! ## What a node shows -/

/-- The certificate a folder stands for, as the leaves in it look it up. -/
def wantedCert (node : CardNode) (s : σ) : Option QString :=
  let certs := (d.readCertificates node.presence.cardId s).1
  if certs.status = .ok then
    (((buildCertFolders q certs).find? fun f => f.name = node.certFolder).map
      CertFolder.certId).filter fun id => id ≠ []
  else none

/-- The source's answer for a certificate's bytes, after it was asked for the list. -/
def derAnswer (node : CardNode) (s : σ) (certId : QString) : CertDerResult :=
  (d.getCertificateDer node.presence.cardId certId
    (d.readCertificates node.presence.cardId s).2).1

/-- The bytes of the certificate a folder stands for. -/
def derOf (node : CardNode) (s : σ) : Option QByteArray :=
  (wantedCert d q node s).bind fun id =>
    if (derAnswer d node s id).status = .ok then some (derAnswer d node s id).der else none

/-- The payload of a node over the source's answers; `none` for a directory, and where a read
fails or finds nothing. -/
def rendered (node : CardNode) (s : σ) : Option QByteArray :=
  match node.kind with
  | .infoLeaf => some (toUtf8 (renderInfoTxt q node.presence (workerRenderLabels q)))
  | .identityLeaf =>
      let id := (d.readIdentity node.presence.cardId s).1
      if id.status = .ok then some (toUtf8 (renderIdentityTxt q id.fields)) else none
  | .photoLeaf =>
      let photo := (d.getPhoto node.presence.cardId s).1
      if photo.status = .ok then some photo.bytes else none
  | .certInfoLeaf =>
      ((wantedCert d q node s).bind fun id =>
        (d.readCertificates node.presence.cardId s).1.certs.find? fun c => c.id = id).map
          fun c => toUtf8 (renderCertInfoTxt q c (workerRenderLabels q))
  | .certDerLeaf => derOf d q node s
  | .certPemLeaf => (derOf d q node s).map derToPem
  | .root | .reader | .identityDir | .pkiDir | .certDir | .invalid => none

/-! ## The protocol -/

/-- What a `get` may end as and emit where its node's payload is `payload`: it fails and emits
nothing, or it succeeds with one type, the payload in chunks, and the empty chunk, which no other
one looks like. -/
def GetProtocol (payload : Option QByteArray) (result : WorkerResult) (emitted : List Emission) :
    Prop :=
  (result ≠ .pass ∧ emitted = []) ∨
    (result = .pass ∧ ∃ (mime : QString) (chunks : List QByteArray), [] ∉ chunks ∧
      payload = some chunks.flatten ∧ emitted = .mimeType mime :: chunks.map .data ++ [.data []])

/-- `get` of a URL keeps to the protocol. -/
def GetKeeps (w : Worker σ) (url : QUrl) : Prop :=
  ∃ emitted, (doGet d q url w).2.emitted = w.emitted ++ emitted ∧
    GetProtocol (rendered d q (nodeAt d w url) (CardTree.resolve d url w).2.source)
      (doGet d q url w).1 emitted

/-- What `get` of a node ends as and emits, by what the node shows. -/
def Emits (payload : Option QByteArray) (w : Worker σ) (r : WorkerResult × Worker σ) : Prop :=
  match payload with
  | some content => r.1 = .pass ∧
      ∃ mime, r.2.emitted = w.emitted ++ [.mimeType mime, .data content, .data []]
  | none => r.1 ≠ .pass ∧ r.2.emitted = w.emitted

variable {d q} {w : Worker σ} {url : QUrl} {node : CardNode}

lemma emits_emitFile {w' : Worker σ} (mime : QString) (content : QByteArray)
    (hw : w'.emitted = w.emitted) : Emits (some content) w (emitFile mime content w') := by
  refine ⟨rfl, mime, ?_⟩
  show w'.emitted ++ [.mimeType mime] ++ [.data content] ++ [.data []] = _
  rw [hw]
  simp

lemma emits_failure {w' : Worker σ} {r : WorkerResult} (hr : r ≠ .pass)
    (hw : w'.emitted = w.emitted) : Emits none w (r, w') :=
  ⟨hr, hw⟩

/-- A read that ends well is served, and any other one reported. -/
lemma emits_read {w' : Worker σ} {status : ReadStatus} {message mime : QString}
    {content : QByteArray} (hw : w'.emitted = w.emitted) :
    Emits (if status = .ok then some content else none) w
      ((if status ≠ .ok then Pure.pure (failForRead q status false message)
        else emitFile mime content : WorkerM σ WorkerResult) w') := by
  by_cases hok : status = .ok
  · rw [if_pos hok, if_neg (not_not.2 hok)]
    exact emits_emitFile mime content hw
  · rw [if_neg hok, if_pos hok]
    exact emits_failure (failForRead_ne_pass _ _ _) hw

lemma wantedCert_ne_nil {id : QString} {s : σ} (hid : wantedCert d q node s = some id) :
    id ≠ [] := by
  unfold wantedCert at hid
  dsimp only at hid
  split_ifs at hid
  simpa using (Option.filter_eq_some_iff.1 hid).2

/-- The folder is looked up in the list the source hands out. -/
lemma resolveCertId_wanted
    (hok : (d.readCertificates node.presence.cardId w.source).1.status = .ok) :
    resolveCertId d q node.presence.cardId node.certFolder w =
      (((wantedCert d q node w.source).getD [],
        (d.readCertificates node.presence.cardId w.source).1),
          (readCertificates d node.presence.cardId w).2) := by
  have hread : (readCertificates d node.presence.cardId w).1 =
      (d.readCertificates node.presence.cardId w.source).1 := rfl
  unfold resolveCertId wantedCert
  rw [run_bind, hread]
  simp only [hok, ne_eq, not_true_eq_false, if_false, if_true]
  cases (buildCertFolders q (d.readCertificates node.presence.cardId w.source).1).find?
      fun f => f.name = node.certFolder with
  | none => rfl
  | some f =>
      have hfilter : ((some f.certId).filter fun id => id ≠ []).getD [] = f.certId := by
        rw [Option.filter_some]
        split_ifs with hid
        · rfl
        · have hempty : f.certId = [] := by simpa using hid
          rw [hempty]
          rfl
      simp only [Option.map_some, hfilter]
      rfl

/-- A list that cannot be read is reported. -/
lemma resolveCertId_failed
    (hfail : (d.readCertificates node.presence.cardId w.source).1.status ≠ .ok) :
    wantedCert d q node w.source = none ∧
      resolveCertId d q node.presence.cardId node.certFolder w =
        (([], (d.readCertificates node.presence.cardId w.source).1),
          (readCertificates d node.presence.cardId w).2) := by
  have hread : (readCertificates d node.presence.cardId w).1 =
      (d.readCertificates node.presence.cardId w.source).1 := rfl
  constructor
  · exact if_neg hfail
  · unfold resolveCertId
    rw [run_bind, hread, if_pos hfail]
    rfl

/-- Where the folder's certificate is resolved first, what follows decides, for no certificate and
for the one that was found. -/
lemma emits_resolved {k : QString × CertListResult → WorkerM σ WorkerResult}
    {payload : QString → Option QByteArray}
    (hnone : Emits none w (k ([], (d.readCertificates node.presence.cardId w.source).1)
      (readCertificates d node.presence.cardId w).2))
    (hsome : ∀ id, (d.readCertificates node.presence.cardId w.source).1.status = .ok → id ≠ [] →
      Emits (payload id) w (k (id, (d.readCertificates node.presence.cardId w.source).1)
        (readCertificates d node.presence.cardId w).2)) :
    Emits ((wantedCert d q node w.source).bind payload) w
      ((resolveCertId d q node.presence.cardId node.certFolder >>= k) w) := by
  rw [run_bind]
  by_cases hok : (d.readCertificates node.presence.cardId w.source).1.status = .ok
  · rw [resolveCertId_wanted hok]
    cases hid : wantedCert d q node w.source with
    | none => exact hnone
    | some id => exact hsome id hok (wantedCert_ne_nil hid)
  · obtain ⟨hunread, hrun⟩ := resolveCertId_failed (q := q) hok
    rw [hrun, hunread]
    exact hnone

lemma emits_getCertInfo (hkind : node.kind = .certInfoLeaf) :
    Emits (rendered d q node w.source) w (getCertInfo d q url node w) := by
  unfold getCertInfo rendered
  rw [hkind]
  dsimp only
  rw [Option.map_bind]
  refine emits_resolved ?_ fun id hok hid => ?_
  · dsimp only
    rw [if_pos rfl]
    split_ifs
    · exact emits_failure (failForRead_ne_pass _ _ _) rfl
    · exact emits_failure (by simp) rfl
  · dsimp only [Function.comp]
    rw [if_neg (not_not.2 hok), if_neg hid]
    cases (d.readCertificates node.presence.cardId w.source).1.certs.find?
        fun c => c.id = id with
    | none => exact emits_failure (by simp) rfl
    | some c => exact emits_emitFile _ _ rfl

lemma emits_getCertExport (hkind : node.kind = .certDerLeaf ∨ node.kind = .certPemLeaf) :
    Emits (rendered d q node w.source) w (getCertExport d q url node w) := by
  have hrendered : rendered d q node w.source =
      (derOf d q node w.source).map fun der =>
        if node.kind = .certPemLeaf then derToPem der else der := by
    unfold rendered
    rcases hkind with hkind | hkind
    · simp [hkind]
    · simp [hkind]
  rw [hrendered]
  unfold getCertExport derOf
  rw [Option.map_bind]
  refine emits_resolved ?_ fun id hok hid => ?_
  · dsimp only
    rw [if_pos rfl]
    split_ifs
    · exact emits_failure (failForRead_ne_pass _ _ _) rfl
    · exact emits_failure (by simp) rfl
  · have hread : (getCertificateDer d node.presence.cardId id
        (readCertificates d node.presence.cardId w).2).1 = derAnswer d node w.source id := rfl
    dsimp only [Function.comp]
    rw [if_neg (not_not.2 hok), if_neg hid, run_bind, hread]
    by_cases hder : (derAnswer d node w.source id).status = .ok
    · rw [if_neg (not_not.2 hder), if_pos hder]
      by_cases hpem : node.kind = .certPemLeaf
      · simp only [hpem, if_true, Option.map_some]
        exact emits_emitFile _ _ rfl
      · simp only [hpem, if_false, Option.map_some]
        exact emits_emitFile _ _ rfl
    · rw [if_pos hder, if_neg hder]
      exact emits_failure (failForRead_ne_pass _ _ _) rfl

/-- **What `get` emits is what the node shows**, or nothing. -/
lemma getNode_rendered (d : CardDataSource σ) (q : Session) (w : Worker σ) (url : QUrl)
    (node : CardNode) : Emits (rendered d q node w.source) w (getNode d q url node w) := by
  cases hkind : node.kind with
  | infoLeaf =>
      simp only [getNode, rendered, hkind]
      exact emits_emitFile _ _ rfl
  | identityLeaf =>
      simp only [getNode, rendered, hkind]
      exact emits_read rfl
  | photoLeaf =>
      simp only [getNode, rendered, hkind]
      exact emits_read rfl
  | certInfoLeaf =>
      simp only [getNode, hkind]
      exact emits_getCertInfo hkind
  | certDerLeaf =>
      simp only [getNode, hkind]
      exact emits_getCertExport (.inl hkind)
  | certPemLeaf =>
      simp only [getNode, hkind]
      exact emits_getCertExport (.inr hkind)
  | root | reader | identityDir | pkiDir | certDir | invalid =>
      simp only [getNode, rendered, hkind]
      exact emits_failure (by simp) rfl

/-! ## What is never empty -/

section Texts

variable {q : Session}

lemma line_ne_nil (key value : QString) : line q key value ≠ [] := by
  rw [line_eq]
  simp

lemma renderInfoTxt_ne_nil (p : CardPresence) (labels : RenderLabels) :
    renderInfoTxt q p labels ≠ [] := by
  intro hnil
  unfold renderInfoTxt at hnil
  exact line_ne_nil _ _ (List.append_eq_nil_iff.1 hnil).2

lemma renderCertInfoTxt_ne_nil (c : CertificateInfo) (labels : RenderLabels) :
    renderCertInfoTxt q c labels ≠ [] := by
  intro hnil
  unfold renderCertInfoTxt at hnil
  exact line_ne_nil _ _ (List.append_eq_nil_iff.1 (List.append_eq_nil_iff.1 hnil).1).2

lemma derToPem_ne_nil (der : QByteArray) : derToPem der ≠ [] := by
  intro hnil
  have hend := (List.append_eq_nil_iff.1 hnil).2
  revert hend
  decide

/-- Only a card that shows no field has an empty identity. -/
lemma renderIdentityTxt_eq_nil {fields : List IdentityFieldView} :
    renderIdentityTxt q fields = [] ↔ fields = [] := by
  constructor
  · intro hnil
    by_contra hsome
    obtain ⟨f, hf⟩ := List.exists_mem_of_ne_nil fields hsome
    have hmem : f.group ∈ groupsOf groupOf fields := mem_groupsOf.mpr ⟨f, hf, rfl⟩
    rw [renderIdentityTxt_eq, identityText] at hnil
    cases hgroups : groupsOf groupOf fields with
    | nil =>
        rw [hgroups] at hmem
        cases hmem
    | cons group groups =>
        rw [hgroups, List.map_cons, intercalate_cons] at hnil
        exact identitySection_ne_nil fields group (List.append_eq_nil_iff.1 hnil).1
  · rintro rfl
    rfl

end Texts

/-! ## When an empty payload is emitted -/

/-- The source answers a leaf's read `Ok` and with nothing: an identity without fields, a photo or a
certificate without bytes. -/
def AnswersNothing (d : CardDataSource σ) (q : Session) (node : CardNode) (s : σ) : Prop :=
  match node.kind with
  | .identityLeaf =>
      (d.readIdentity node.presence.cardId s).1.status = .ok ∧
        (d.readIdentity node.presence.cardId s).1.fields = []
  | .photoLeaf =>
      (d.getPhoto node.presence.cardId s).1.status = .ok ∧
        (d.getPhoto node.presence.cardId s).1.bytes = []
  | .certDerLeaf =>
      ∃ id, wantedCert d q node s = some id ∧ (derAnswer d node s id).status = .ok ∧
        (derAnswer d node s id).der = []
  | _ => False

lemma rendered_eq_nil (d : CardDataSource σ) (q : Session) (node : CardNode) (s : σ) :
    rendered d q node s = some [] ↔ AnswersNothing d q node s := by
  cases hkind : node.kind with
  | infoLeaf =>
      simp only [rendered, AnswersNothing, hkind, Option.some.injEq, toUtf8_eq_nil, iff_false]
      exact renderInfoTxt_ne_nil _ _
  | identityLeaf =>
      simp only [rendered, AnswersNothing, hkind, Option.ite_none_right_eq_some, Option.some.injEq,
        toUtf8_eq_nil, renderIdentityTxt_eq_nil]
  | photoLeaf =>
      simp only [rendered, AnswersNothing, hkind, Option.ite_none_right_eq_some, Option.some.injEq]
  | certInfoLeaf =>
      simp only [rendered, AnswersNothing, hkind, Option.map_eq_some_iff, toUtf8_eq_nil, iff_false]
      rintro ⟨c, -, hnil⟩
      exact renderCertInfoTxt_ne_nil _ _ hnil
  | certDerLeaf =>
      simp only [rendered, AnswersNothing, hkind, derOf, Option.bind_eq_some_iff,
        Option.ite_none_right_eq_some, Option.some.injEq]
  | certPemLeaf =>
      simp only [rendered, AnswersNothing, hkind, Option.map_eq_some_iff, iff_false]
      rintro ⟨der, -, hnil⟩
      exact derToPem_ne_nil der hnil
  | root | reader | identityDir | pkiDir | certDir | invalid =>
      simp only [rendered, AnswersNothing, hkind, reduceCtorEq]

lemma getKeeps_iff_rendered (d : CardDataSource σ) (q : Session) (w : Worker σ) (url : QUrl) :
    GetKeeps d q w url ↔
      rendered d q (nodeAt d w url) (CardTree.resolve d url w).2.source ≠ some [] := by
  have hrun : doGet d q url w =
      getNode d q url (nodeAt d w url) (CardTree.resolve d url w).2 := rfl
  have hemits := getNode_rendered d q (CardTree.resolve d url w).2 url (nodeAt d w url)
  have hemitted := emitted_resolve (d := d) w url
  unfold GetKeeps GetProtocol
  rw [hrun]
  cases hpayload : rendered d q (nodeAt d w url) (CardTree.resolve d url w).2.source with
  | none =>
      rw [hpayload] at hemits
      obtain ⟨hfail, hsame⟩ := hemits
      refine iff_of_true ⟨[], ?_, .inl ⟨hfail, rfl⟩⟩ (by simp)
      rw [hsame, hemitted, List.append_nil]
  | some content =>
      rw [hpayload] at hemits
      obtain ⟨hpass, mime, hchunks⟩ := hemits
      rw [hemitted] at hchunks
      constructor
      · rintro ⟨emitted, heq, ⟨hfail, -⟩ | ⟨-, mime', chunks, hne, hflat, hout⟩⟩
        · exact absurd hpass hfail
        · rintro hnil
          have hempty : content = [] := Option.some.inj hnil
          rw [hempty] at hflat hchunks
          -- An empty payload has no chunk of its own, so the two empty ones are one too many.
          have hnochunk : chunks = [] := by
            rw [List.eq_nil_iff_forall_not_mem]
            intro c hc
            have hall := List.flatten_eq_nil_iff.1 (Option.some.inj hflat).symm
            exact hne (hall c hc ▸ hc)
          have hemit := List.append_cancel_left (hchunks.symm.trans heq)
          rw [hout, hnochunk] at hemit
          have hlength := congrArg List.length hemit
          simp at hlength
      · intro hne
        have hcontent : content ≠ [] := fun hnil => hne (congrArg some hnil)
        refine ⟨[.mimeType mime, .data content, .data []], hchunks,
          .inr ⟨hpass, mime, [content], ?_, ?_, rfl⟩⟩
        · rw [List.mem_singleton]
          exact hcontent.symm
        · simp

/-- A card that shows no field. -/
def blankCard : CardDataSource Unit where
  listReadersWithCards s :=
    ([{ readerName := qs "r"
        capabilities :=
          { identityData := true, pki := false, emrtdCrypto := false, pinManagement := false,
            other := 0 } }],
      s)
  readIdentity _ s := ({ status := .ok }, s)
  readCertificates _ s := ({}, s)
  getPhoto _ s := ({}, s)
  getCertificateDer _ _ s := ({}, s)
  agentState _ := .ready

end LibreKDE.Kio
