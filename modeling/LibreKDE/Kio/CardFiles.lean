import LibreKDE.Framework.FileTree
import LibreKDE.Kio.Emission
import LibreKDE.Kio.Reachable

/-!
# The files of `card:/`

What the cards hold is a tree of files: `cardTree` says which, from what the agent answers about
the cards (`Holdings`) and from nothing else.  The worker keeps no such tree.  It takes each URL
apart anew, asks the agent for the cards, and for a certificate reads the whole list again to find
the folder's.

`Stands` says which of the resolver's nodes a path of the tree leads to.  From it, and with an agent
whose answers do not change, each call of such a path is answered as the tree would answer it:
`Stands.answers`.
-/

namespace LibreKDE.Kio

open CardWorkerLogic CardTree Stateful Files

/-! ## The tree -/

/-- What the agent answers about the cards, one answer to each question. -/
structure Holdings where
  present : List CardPresence := []
  identity : QString → IdentityResult := fun _ => {}
  certificates : QString → CertListResult := fun _ => {}
  photo : QString → PhotoResult := fun _ => {}
  der : QString → QString → CertDerResult := fun _ _ => {}

/-- The agent is there, and answers the same whenever it is asked. -/
structure Steady {σ : Type} (d : CardDataSource σ) (H : Holdings) : Prop where
  ready : ∀ s, d.agentState s = .ready
  presents : Presents d H.present
  identity : ∀ cardId s, (d.readIdentity cardId s).1 = H.identity cardId
  certificates : ∀ cardId s, (d.readCertificates cardId s).1 = H.certificates cardId
  photo : ∀ cardId s, (d.getPhoto cardId s).1 = H.photo cardId
  der : ∀ cardId certId s, (d.getCertificateDer cardId certId s).1 = H.der cardId certId

/-- A file: the type its entry announces, and what is in it: a type and bytes, or why not. -/
structure CardFile where
  announced : QString
  content : Except WorkerResult (QString × QByteArray)

/-- A tree of files and directories whose nodes may refuse, as KIO sees the worker's. -/
abbrev CardFiles := FileTree QString CardFile WorkerResult

section Tree

variable (q : Session) (H : Holdings) (p : CardPresence)

/-- The outcome of a read, as the content of a file. -/
def served (status : ReadStatus) (message mime : QString) (bytes : QByteArray) :
    Except WorkerResult (QString × QByteArray) :=
  if status = .ok then .ok (mime, bytes) else .error (failForRead q status false message)

/-- `info.txt`: the reader and its card, from the presence alone; nothing is read for it. -/
def infoFile : CardFiles :=
  .file ⟨qs "text/plain",
    .ok (qs "text/plain", toUtf8 (renderInfoTxt q p (workerRenderLabels q)))⟩

/-- `identity.txt`: the identity fields the agent reads from the card. -/
def identityFile : CardFiles :=
  let id := H.identity p.cardId
  .file ⟨qs "text/plain",
    served q id.status id.message (qs "text/plain") (toUtf8 (renderIdentityTxt q id.fields))⟩

/-- The holder's photo.  Its entry announces the type its name stands for; its content has the type
the bytes look like. -/
def photoFile : CardFiles :=
  let photo := H.photo p.cardId
  .file ⟨photoMimeForName (photoLeafName p.capabilities),
    served q photo.status photo.message (sniffImageMime photo.bytes) photo.bytes⟩

/-- `info.txt` of a certificate's folder: the entry of the list, and no read of the certificate. -/
def certInfoFile (c : CertificateInfo) : CardFiles :=
  .file ⟨qs "text/plain",
    .ok (qs "text/plain", toUtf8 (renderCertInfoTxt q c (workerRenderLabels q)))⟩

/-- A certificate's bytes, as one of its two exports has them: as the card holds them, or as PEM. -/
def exportFile (mime : QString) (encode : QByteArray → QByteArray) (c : CertificateInfo) :
    CardFiles :=
  let der := H.der p.cardId c.id
  .file ⟨mime, served q der.status der.message mime (encode der.der)⟩

/-- A certificate's folder: its description and its two exports. -/
def certTree (c : CertificateInfo) : CardFiles :=
  .folder (.ok [(certInfoTxt, certInfoFile q c),
    (certDerName, exportFile q H p certDerMime id c),
    (certPemName, exportFile q H p certPemMime derToPem c)])

/-- The `Identity` folder of a card with identity data. -/
def identityTree : CardFiles :=
  .folder (.ok [(identityTxt, identityFile q H p),
    (photoLeafName p.capabilities, photoFile q H p)])

/-- The `PKI` folder: one folder for each certificate that can sign, named by its purpose and its
id.  It cannot be listed while the agent does not hand out the certificates. -/
def pkiTree : CardFiles :=
  let certs := H.certificates p.cardId
  .folder (if certs.status = .ok then
      .ok ((folderNames q certs.certs).zip ((signingCapable certs.certs).map (certTree q H p)))
    else .error (failForRead q certs.status true certs.message))

/-- A reader's folder: the card's description, and a folder for each capability that has one. -/
def readerTree : CardFiles :=
  .folder (.ok ((infoTxt, infoFile q p) ::
    ((if p.capabilities.identityData then [(identityDirName, identityTree q H p)] else []) ++
      (if p.capabilities.pki then [(pkiDirName, pkiTree q H p)] else []))))

/-- `card:/` itself: a folder for each reader with a card. -/
def cardTree : CardFiles :=
  .folder (.ok (H.present.map fun p => (p.readerName, readerTree q H p)))

/-- The names in the tree can be segments of a URL, and the certificates can be told apart. -/
structure Orderly : Prop where
  /-- The readers have distinct names, and each can be a segment. -/
  readers : RootNames H.present
  /-- Each certificate has an id of its own. -/
  ids : ∀ p ∈ H.present, ((H.certificates p.cardId).certs.map CertificateInfo.id).Nodup
  nonempty : ∀ p ∈ H.present, ∀ c ∈ (H.certificates p.cardId).certs, c.id ≠ []
  folders : ∀ p ∈ H.present, FolderIds q (H.certificates p.cardId).certs

end Tree

/-! ## The tree's answers -/

/-- The entry of a node of the tree, as `stat` and the listing of its folder report it. -/
def entryOf (name : QString) : CardFiles → UDSEntry
  | .file file => fileEntry name file.announced
  | .folder _ => dirEntry name

/-- The type of a node of the tree, as `mimetype` reports it. -/
def typeOf : CardFiles → QString
  | .file file => file.announced
  | .folder _ => qs "inode/directory"

/-- The name a URL's node is told under. -/
def toldName (url : QUrl) : QString := if segments url = [] then qs "card" else url.fileName

/-- The URL a call is of. -/
def Call.url : Call → QUrl
  | .listDir url | .stat url | .mimetype url | .get url => url

/-- What a file system that holds `t` answers to a call of it, and emits.  The entries of a listing
are compared by what names and types them; `displayName` is a second name only a certificate's
folder has. -/
def TreeAnswers (t : CardFiles) (c : Call) (r : WorkerResult) (emitted : List Emission) : Prop :=
  match c, t with
  | .stat url, t => r = .pass ∧ emitted = [.statEntry (entryOf (toldName url) t)]
  | .mimetype _, t => r = .pass ∧ emitted = [.mimeType (typeOf t)]
  | .listDir _, .folder (.ok entries) => r = .pass ∧ ∃ es : List UDSEntry,
      emitted = es.map .listEntry ∧
        es.map (fun e => { e with displayName := none }) =
          dirEntry (qs ".") :: entries.map fun x => entryOf x.1 x.2
  | .listDir _, .folder (.error why) => r = why ∧ emitted = [.listEntry (dirEntry (qs "."))]
  | .listDir url, .file _ => r = .fail .isDirectory url.toDisplayString ∧ emitted = []
  | .get url, .folder _ => r = .fail .isDirectory url.toDisplayString ∧ emitted = []
  | .get _, .file file => match file.content with
      | .ok (mime, bytes) => r = .pass ∧ emitted = [.mimeType mime, .data bytes, .data []]
      | .error why => r = why ∧ emitted = []

/-! ## Where the tree's nodes are -/

/-- The folder `f` is the certificate `c`'s, among those of the card. -/
def Certifies (q : Session) (H : Holdings) (p : CardPresence) (f : QString)
    (c : CertificateInfo) : Prop :=
  (H.certificates p.cardId).status = .ok ∧
    ∃ i : ℕ, (signingCapable (H.certificates p.cardId).certs)[i]? = some c ∧
      (folderNames q (H.certificates p.cardId).certs)[i]? = some f

/-- What a path of the tree leads to: for the worker a node, which is computed from the cards
present alone, and in the tree a file or a folder. -/
inductive Stands (q : Session) (H : Holdings) : List QString → CardNode → CardFiles → Prop
  | root : Stands q H [] { kind := .root } (cardTree q H)
  | reader {p : CardPresence} : p ∈ H.present →
      Stands q H [p.readerName] (nodeOn p .reader []) (readerTree q H p)
  | info {p : CardPresence} : p ∈ H.present →
      Stands q H [p.readerName, infoTxt] (nodeOn p .infoLeaf []) (infoFile q p)
  | identityDir {p : CardPresence} : p ∈ H.present → p.capabilities.identityData = true →
      Stands q H [p.readerName, identityDirName] (nodeOn p .identityDir []) (identityTree q H p)
  | identity {p : CardPresence} : p ∈ H.present → p.capabilities.identityData = true →
      Stands q H [p.readerName, identityDirName, identityTxt] (nodeOn p .identityLeaf [])
        (identityFile q H p)
  | photo {p : CardPresence} : p ∈ H.present → p.capabilities.identityData = true →
      Stands q H [p.readerName, identityDirName, photoLeafName p.capabilities]
        (nodeOn p .photoLeaf []) (photoFile q H p)
  | pkiDir {p : CardPresence} : p ∈ H.present → p.capabilities.pki = true →
      Stands q H [p.readerName, pkiDirName] (nodeOn p .pkiDir []) (pkiTree q H p)
  | certDir {p : CardPresence} {f : QString} {c : CertificateInfo} : p ∈ H.present →
      p.capabilities.pki = true → Certifies q H p f c →
      Stands q H [p.readerName, pkiDirName, f] (nodeOn p .certDir f) (certTree q H p c)
  | certInfo {p : CardPresence} {f : QString} {c : CertificateInfo} : p ∈ H.present →
      p.capabilities.pki = true → Certifies q H p f c →
      Stands q H [p.readerName, pkiDirName, f, certInfoTxt] (nodeOn p .certInfoLeaf f)
        (certInfoFile q c)
  | certDer {p : CardPresence} {f : QString} {c : CertificateInfo} : p ∈ H.present →
      p.capabilities.pki = true → Certifies q H p f c →
      Stands q H [p.readerName, pkiDirName, f, certDerName] (nodeOn p .certDerLeaf f)
        (exportFile q H p certDerMime id c)
  | certPem {p : CardPresence} {f : QString} {c : CertificateInfo} : p ∈ H.present →
      p.capabilities.pki = true → Certifies q H p f c →
      Stands q H [p.readerName, pkiDirName, f, certPemName] (nodeOn p .certPemLeaf f)
        (exportFile q H p certPemMime derToPem c)

section Stands

variable {q : Session} {H : Holdings} {path : List QString} {node : CardNode}
  {t t' : CardFiles} {n : QString} {p : CardPresence} {url : QUrl}

/-- The entries of a `PKI` folder. -/
lemma mem_pkiTree (h : (n, t) ∈ (pkiTree q H p).entries) :
    ∃ c, Certifies q H p n c ∧ t = certTree q H p c := by
  unfold pkiTree at h
  by_cases hok : (H.certificates p.cardId).status = .ok
  · simp only [hok, if_true, FileTree.entries] at h
    obtain ⟨i, hi⟩ := List.mem_iff_getElem?.1 h
    rw [List.getElem?_zip_eq_some] at hi
    obtain ⟨hname, htree⟩ := hi
    rw [List.getElem?_map, Option.map_eq_some_iff] at htree
    obtain ⟨c, hc, htree⟩ := htree
    exact ⟨c, ⟨hok, i, hc, hname⟩, htree.symm⟩
  · simp only [hok, if_false, FileTree.entries] at h
    cases h

/-- A node's entries stand one name below it. -/
lemma Stands.child (hs : Stands q H path node t) (h : (n, t') ∈ t.entries) :
    ∃ node', Stands q H (path ++ [n]) node' t' := by
  cases hs with
  | root =>
      obtain ⟨p, hp, heq⟩ := List.mem_map.1 h
      obtain ⟨rfl, rfl⟩ := Prod.mk.inj heq
      exact ⟨_, .reader hp⟩
  | @reader p hp =>
      simp only [readerTree, FileTree.entries, List.mem_cons, List.mem_append] at h
      rcases h with heq | h | h
      · obtain ⟨rfl, rfl⟩ := Prod.mk.inj heq
        exact ⟨_, .info hp⟩
      · obtain ⟨hid, h⟩ := List.mem_ite_nil_right.1 h
        obtain ⟨rfl, rfl⟩ := Prod.mk.inj (List.mem_singleton.1 h)
        exact ⟨_, .identityDir hp hid⟩
      · obtain ⟨hpki, h⟩ := List.mem_ite_nil_right.1 h
        obtain ⟨rfl, rfl⟩ := Prod.mk.inj (List.mem_singleton.1 h)
        exact ⟨_, .pkiDir hp hpki⟩
  | identityDir hp hid =>
      simp only [identityTree, FileTree.entries, List.mem_cons, List.not_mem_nil, or_false] at h
      rcases h with heq | heq
      · obtain ⟨rfl, rfl⟩ := Prod.mk.inj heq
        exact ⟨_, .identity hp hid⟩
      · obtain ⟨rfl, rfl⟩ := Prod.mk.inj heq
        exact ⟨_, .photo hp hid⟩
  | pkiDir hp hpki =>
      obtain ⟨c, hc, rfl⟩ := mem_pkiTree h
      exact ⟨_, .certDir hp hpki hc⟩
  | certDir hp hpki hc =>
      simp only [certTree, FileTree.entries, List.mem_cons, List.not_mem_nil, or_false] at h
      rcases h with heq | heq | heq
      · obtain ⟨rfl, rfl⟩ := Prod.mk.inj heq
        exact ⟨_, .certInfo hp hpki hc⟩
      · obtain ⟨rfl, rfl⟩ := Prod.mk.inj heq
        exact ⟨_, .certDer hp hpki hc⟩
      · obtain ⟨rfl, rfl⟩ := Prod.mk.inj heq
        exact ⟨_, .certPem hp hpki hc⟩
  | info | identity | photo | certInfo | certDer | certPem => cases h

/-- Every path of the tree stands for something. -/
lemma stands_of_descend (h : (cardTree q H).descend path = some t) :
    ∃ node, Stands q H path node t := by
  induction path using List.reverseRecOn generalizing t with
  | nil =>
      obtain rfl := Option.some.inj h
      exact ⟨_, .root⟩
  | append_singleton path n ih =>
      obtain ⟨x, hx, hchild⟩ := FileTree.descend_concat_eq_some.1 h
      obtain ⟨node, hs⟩ := ih hx
      exact hs.child (FileTree.mem_of_child hchild)

/-- The worker resolves the path to the node. -/
lemma Stands.resolves (hnodup : (H.present.map CardPresence.readerName).Nodup)
    (hs : Stands q H path node t) (hseg : segments url = path) :
    nodeOf H.present url = node := by
  have hbelow : ∀ p ∈ H.present, ∀ below, path = p.readerName :: below →
      nodeOf H.present url = resolveBelow p below := by
    intro p hp below hpath
    unfold nodeOf
    rw [hseg, hpath]
    simp [find?_eq_of_nodup hnodup hp]
  cases hs with
  | root =>
      unfold nodeOf
      rw [hseg]
  | reader hp => exact hbelow _ hp _ rfl
  | info hp => exact (hbelow _ hp _ rfl).trans resolveBelow_info
  | identityDir hp hid => exact (hbelow _ hp _ rfl).trans (resolveBelow_identity hid)
  | identity hp hid => exact (hbelow _ hp _ rfl).trans (resolveBelow_identityTxt hid)
  | photo hp hid => exact (hbelow _ hp _ rfl).trans (resolveBelow_photo hid)
  | pkiDir hp hpki => exact (hbelow _ hp _ rfl).trans (resolveBelow_pki hpki)
  | certDir hp hpki hc => exact (hbelow _ hp _ rfl).trans (resolveBelow_cert hpki)
  | certInfo hp hpki hc => exact (hbelow _ hp _ rfl).trans (resolveBelow_certInfo hpki)
  | certDer hp hpki hc => exact (hbelow _ hp _ rfl).trans (resolveBelow_certDer hpki)
  | certPem hp hpki hc => exact (hbelow _ hp _ rfl).trans (resolveBelow_certPem hpki)

end Stands

/-! ## The worker's answers -/

/-- From `w` the worker answers the call, and emits, as the tree says. -/
def Answers {σ : Type} (t : CardFiles) (c : Call) (w : Worker σ) (r : WorkerResult × Worker σ) :
    Prop :=
  ∃ emitted, r.2.emitted = w.emitted ++ emitted ∧ TreeAnswers t c r.1 emitted

/-- The file name of a URL that was built from names is the last of them. -/
def Built (url : QUrl) : Prop := url.fileName = (segments url).getLastD []

section Answers

variable {σ : Type} {d : CardDataSource σ} {q : Session} {H : Holdings} {path : List QString}
  {node : CardNode} {t : CardFiles} {p : CardPresence} {f : QString} {c : CertificateInfo}
  {url : QUrl} {w w' : Worker σ}

lemma Stands.stat (hs : Stands q H path node t) (hseg : segments url = path)
    (hbuilt : Built url) : statOf url node = some (entryOf (toldName url) t) := by
  unfold Built at hbuilt
  rw [toldName, hbuilt, hseg]
  cases hs <;> simp [statOf, nodeOn, entryOf, cardTree, readerTree, infoFile, identityTree,
    identityFile, photoFile, pkiTree, certTree, certInfoFile, exportFile, hbuilt, hseg]

lemma Stands.mimetype (hs : Stands q H path node t) (hseg : segments url = path)
    (hbuilt : Built url) : mimeOf url node = some (typeOf t) := by
  unfold Built at hbuilt
  cases hs with
  | photo hp hid =>
      rw [hseg] at hbuilt
      exact congrArg (fun n => some (photoMimeForName n)) hbuilt
  | _ => rfl

lemma answers_emitFile {announced mime : QString} {bytes : QByteArray}
    (hw : w'.emitted = w.emitted) :
    Answers (.file ⟨announced, .ok (mime, bytes)⟩) (.get url) w (emitFile mime bytes w') := by
  refine ⟨[.mimeType mime, .data bytes, .data []], ?_, rfl, rfl⟩
  show w'.emitted ++ [.mimeType mime] ++ [.data bytes] ++ [.data []] = _
  rw [hw]
  simp

/-- A read that ends well is served, and any other one reported. -/
lemma answers_read {announced mime message : QString} {status : ReadStatus} {bytes : QByteArray}
    (hw : w'.emitted = w.emitted) :
    Answers (.file ⟨announced, served q status message mime bytes⟩) (.get url) w
      ((if status ≠ .ok then Pure.pure (failForRead q status false message)
        else emitFile mime bytes : WorkerM σ WorkerResult) w') := by
  unfold served
  by_cases hok : status = .ok
  · rw [if_pos hok, if_neg (not_not.2 hok)]
    exact answers_emitFile hw
  · rw [if_neg hok, if_pos hok]
    exact ⟨[], by rw [run_pure, hw, List.append_nil], rfl, rfl⟩

/-- The worker finds a folder's certificate again. -/
lemma resolveCertId_certifies (hd : Steady d H) (ho : Orderly q H) (hp : p ∈ H.present)
    (hc : Certifies q H p f c) (w : Worker σ) :
    resolveCertId d q p.cardId f w =
      ((c.id, H.certificates p.cardId), (readCertificates d p.cardId w).2) := by
  obtain ⟨hok, i, hcert, hname⟩ := hc
  have hread : (readCertificates d p.cardId w).1 = H.certificates p.cardId := hd.certificates _ _
  obtain ⟨folder, hfolder, rfl⟩ : ∃ folder,
      (buildCertFolders q (H.certificates p.cardId))[i]? = some folder ∧ folder.name = f := by
    rw [folderNames, List.getElem?_map] at hname
    exact Option.map_eq_some_iff.1 hname
  have hfind : (buildCertFolders q (H.certificates p.cardId)).find?
      (fun g => g.name = folder.name) = some folder :=
    find?_eq_of_nodup (nodup_folderNames_iff.2 (ho.folders p hp).distinct)
      (List.mem_of_getElem? hfolder)
  have hid : folder.certId = c.id := certId_of_getElem? hcert hfolder
  unfold resolveCertId
  rw [run_bind, hread, if_neg (not_not.2 hok), hfind, ← hid]
  rfl

/-- The certificate is in the list under its id, which can be asked for. -/
lemma Certifies.listed (hc : Certifies q H p f c) (ho : Orderly q H) (hp : p ∈ H.present) :
    c.id ≠ [] ∧ (H.certificates p.cardId).certs.find? (fun e => e.id = c.id) = some c := by
  obtain ⟨-, i, hcert, -⟩ := hc
  have hmem := (List.mem_filter.1 (List.mem_of_getElem? hcert)).1
  exact ⟨ho.nonempty p hp c hmem, find?_eq_of_nodup (ho.ids p hp) hmem⟩

lemma answers_certInfo (hd : Steady d H) (ho : Orderly q H) (hp : p ∈ H.present)
    (hc : Certifies q H p f c) (w : Worker σ) (url : QUrl) :
    Answers (certInfoFile q c) (.get url) w
      (getCertInfo d q url (nodeOn p .certInfoLeaf f) w) := by
  obtain ⟨hne, hfind⟩ := hc.listed ho hp
  have hresolve : resolveCertId d q (nodeOn p .certInfoLeaf f).presence.cardId
      (nodeOn p .certInfoLeaf f).certFolder w = _ := resolveCertId_certifies hd ho hp hc w
  unfold getCertInfo
  rw [run_bind, hresolve]
  dsimp only
  rw [if_neg (not_not.2 hc.1), if_neg hne, hfind]
  exact answers_emitFile rfl

lemma answers_export (hd : Steady d H) (ho : Orderly q H) (hp : p ∈ H.present)
    (hc : Certifies q H p f c) (w : Worker σ) (url : QUrl) {kind : NodeKind} {mime : QString}
    {encode : QByteArray → QByteArray}
    (hkind : kind = .certDerLeaf ∧ mime = certDerMime ∧ encode = id ∨
      kind = .certPemLeaf ∧ mime = certPemMime ∧ encode = derToPem) :
    Answers (exportFile q H p mime encode c) (.get url) w
      (getCertExport d q url (nodeOn p kind f) w) := by
  have hresolve : resolveCertId d q (nodeOn p kind f).presence.cardId
      (nodeOn p kind f).certFolder w = _ := resolveCertId_certifies hd ho hp hc w
  have hder : (getCertificateDer d p.cardId c.id (readCertificates d p.cardId w).2).1 =
      H.der p.cardId c.id := hd.der _ _ _
  unfold getCertExport
  rw [run_bind, hresolve]
  dsimp only
  rw [if_neg (not_not.2 hc.1), if_neg (hc.listed ho hp).1, run_bind]
  simp only [nodeOn, hder]
  rcases hkind with ⟨rfl, rfl, rfl⟩ | ⟨rfl, rfl, rfl⟩
  · exact answers_read rfl
  · exact answers_read rfl

/-- `get` hands over the tree's file, or says why not. -/
lemma Stands.get (hd : Steady d H) (ho : Orderly q H) (hs : Stands q H path node t)
    (w : Worker σ) (url : QUrl) : Answers t (.get url) w (getNode d q url node w) := by
  cases hs with
  | root | reader | identityDir | pkiDir | certDir =>
      exact ⟨[], (List.append_nil _).symm, rfl, rfl⟩
  | info hp => exact answers_emitFile rfl
  | @identity p hp hid =>
      have hread : (d.readIdentity p.cardId w.source).1 = H.identity p.cardId := hd.identity _ _
      unfold identityFile
      rw [← hread]
      exact answers_read rfl
  | @photo p hp hid =>
      have hread : (d.getPhoto p.cardId w.source).1 = H.photo p.cardId := hd.photo _ _
      unfold photoFile
      rw [← hread]
      exact answers_read rfl
  | certInfo hp hpki hc => exact answers_certInfo hd ho hp hc w url
  | certDer hp hpki hc => exact answers_export hd ho hp hc w url (.inl ⟨rfl, rfl, rfl⟩)
  | certPem hp hpki hc => exact answers_export hd ho hp hc w url (.inr ⟨rfl, rfl, rfl⟩)

/-- With the agent there, nothing stands in the way of a listing. -/
lemma doListDir_steady (hd : Steady d H) (w : Worker σ) (url : QUrl) :
    doListDir d q url w =
      listEntries d q url (nodeOf H.present url)
        (emitSelf (nodeOf H.present url).kind (CardTree.resolve d url w).2).2 := by
  have hrun : doListDir d q url w =
      listNode d q url (nodeOf H.present url) (CardTree.resolve d url w).2 := by
    rw [← nodeAt_eq hd.presents w url]
    rfl
  have hready : refuseListing d q (nodeOf H.present url).kind (CardTree.resolve d url w).2 =
      (none, (CardTree.resolve d url w).2) := by
    rw [refuseListing_run, hd.ready]
    simp [rootRefusal]
  rw [hrun, listNode, run_bind, hready]
  rfl

/-- A `PKI` folder lists the folders of the certificates, or says why it cannot. -/
lemma listEntries_pkiDir (hd : Steady d H) (url : QUrl) (w : Worker σ) :
    (listEntries d q url (nodeOn p .pkiDir []) w).1 =
        (if (H.certificates p.cardId).status = .ok then .pass
          else failForRead q (H.certificates p.cardId).status true
            (H.certificates p.cardId).message) ∧
      ((H.certificates p.cardId).status ≠ .ok →
        (listEntries d q url (nodeOn p .pkiDir []) w).2.emitted = w.emitted) := by
  have hread : (readCertificates d p.cardId w).1 = H.certificates p.cardId := hd.certificates _ _
  rw [listEntries_pki_run, hread]
  split_ifs with hok
  · exact ⟨rfl, fun hfail => absurd hok hfail⟩
  · exact ⟨rfl, fun _ => rfl⟩

/-- The entries of a `PKI` folder are its certificates' folders, under their names. -/
lemma pkiTree_entries (certs : List CertificateInfo) :
    ((folderNames q certs).zip ((signingCapable certs).map (certTree q H p))).map
        (fun x => entryOf x.1 x.2) = (folderNames q certs).map dirEntry := by
  have hlength : (folderNames q certs).length ≤
      ((signingCapable certs).map (certTree q H p)).length := by
    rw [length_folderNames, List.length_map]
  have hfolder : ∀ x ∈ (folderNames q certs).zip ((signingCapable certs).map (certTree q H p)),
      entryOf x.1 x.2 = dirEntry x.1 := by
    rintro ⟨n, t⟩ hx
    obtain ⟨c, -, rfl⟩ := List.mem_map.1 (List.of_mem_zip hx).2
    rfl
  rw [List.map_congr_left hfolder]
  conv_rhs => rw [← List.map_fst_zip hlength]
  rw [List.map_map]
  rfl

/-- The entries of a folder that can be listed are the tree's. -/
lemma Stands.childEntries (hs : Stands q H path node t) (hdir : node.kind.isDir = true)
    (hok : node.kind = .pkiDir → (H.certificates node.presence.cardId).status = .ok) :
    ∃ entries, t = .folder (.ok entries) ∧
      (childEntries q H.present (H.certificates node.presence.cardId) node).map
        (fun e => { e with displayName := none }) = entries.map fun x => entryOf x.1 x.2 := by
  cases hs with
  | root =>
      refine ⟨_, rfl, ?_⟩
      simp only [Kio.childEntries, List.map_map]
      rfl
  -- The folders there are depend on the card's capabilities, here and in the tree alike.
  | @reader p hp =>
      refine ⟨_, rfl, ?_⟩
      simp only [Kio.childEntries, nodeOn]
      by_cases hid : p.capabilities.identityData = true <;>
        by_cases hpki : p.capabilities.pki = true <;> simp only [hid, hpki] <;> rfl
  | @identityDir p hp hid =>
      refine ⟨_, rfl, ?_⟩
      simp only [Kio.childEntries, nodeOn, List.map_cons, List.map_nil]
      rfl
  | @pkiDir p hp hpki =>
      have hread : (H.certificates p.cardId).status = .ok := hok rfl
      refine ⟨_, congrArg FileTree.folder (if_pos hread), ?_⟩
      rw [pkiTree_entries]
      simp only [Kio.childEntries, nodeOn, folderNames, List.map_map]
      rfl
  | certDir hp hpki hc => exact ⟨_, rfl, rfl⟩
  | info | identity | photo | certInfo | certDer | certPem => cases hdir

/-- A listing tells the tree's entries, or why it cannot. -/
lemma Stands.listDir (hd : Steady d H) (ho : Orderly q H) (hs : Stands q H path node t)
    (hseg : segments url = path) (w : Worker σ) :
    Answers t (.listDir url) w (doListDir d q url w) := by
  have hnode := hs.resolves ho.readers.distinct hseg
  have hemitted := emitted_resolve (d := d) w url
  have hrun := doListDir_steady (q := q) hd w url
  rw [hnode] at hrun
  -- What can be listed passes, and emits its entry and the tree's.
  have hlists : node.kind.isDir = true →
      (node.kind = .pkiDir → (H.certificates node.presence.cardId).status = .ok) →
      (listEntries d q url node (emitSelf node.kind (CardTree.resolve d url w).2).2).1 = .pass →
      Answers t (.listDir url) w (doListDir d q url w) := by
    intro hdir hok hpass
    obtain ⟨entries, rfl, hentries⟩ := hs.childEntries hdir hok
    rw [← hrun] at hpass
    obtain ⟨-, hlisted⟩ := doListDir_run hd.presents hpass
    refine ⟨_, hlisted, hpass, _, rfl, ?_⟩
    rw [hnode, certsAt, hd.certificates, List.map_cons, hentries]
    rfl
  generalize hw : (emitSelf node.kind (CardTree.resolve d url w).2).2 = w' at hrun hlists
  cases hs with
  | root =>
      exact hlists rfl (fun hkind => by cases hkind)
        (congrArg Prod.fst (emitEach_run (CardTree.list d url w').1 dirEntry
          (CardTree.list d url w').2))
  | reader hp =>
      exact hlists rfl (fun hkind => by cases hkind)
        (congrArg Prod.fst (emitEach_run (CardTree.list d url w').1
          (fun child =>
            if child = infoTxt then fileEntry child (qs "text/plain") else dirEntry child)
          (CardTree.list d url w').2))
  | identityDir hp hid =>
      exact hlists rfl (fun hkind => by cases hkind)
        (congrArg Prod.fst (emitEach_run (CardTree.list d url w').1
          (fun child =>
            if child = identityTxt then fileEntry child (qs "text/plain")
            else fileEntry child (photoMimeForName child))
          (CardTree.list d url w').2))
  | certDir hp hpki hc => exact hlists rfl (fun hkind => by cases hkind) rfl
  | @pkiDir p hp hpki =>
      obtain ⟨hresult, hsilent⟩ := listEntries_pkiDir (q := q) (p := p) hd url w'
      by_cases hok : (H.certificates p.cardId).status = .ok
      · exact hlists rfl (fun _ => hok) (hresult.trans (if_pos hok))
      · have hself : w'.emitted = w.emitted ++ [.listEntry (dirEntry (qs "."))] := by
          rw [← hw, ← hemitted]
          rfl
        unfold pkiTree
        rw [hrun]
        dsimp only
        rw [if_neg hok]
        exact ⟨_, (hsilent hok).trans hself, hresult.trans (if_neg hok), rfl⟩
  | info | identity | photo | certInfo | certDer | certPem =>
      rw [hrun, ← hw]
      exact ⟨[], by rw [← hemitted, List.append_nil]; rfl, rfl, rfl⟩

/-- **Every call of a path of the tree is answered as the tree would.** -/
lemma Stands.answers (hd : Steady d H) (ho : Orderly q H) (hs : Stands q H path node t)
    (c : Call) (hseg : segments c.url = path) (hbuilt : Built c.url) (w : Worker σ) :
    Answers t c w (c.run d q w) := by
  have hnode : nodeOf H.present c.url = node := hs.resolves ho.readers.distinct hseg
  have hemitted : (CardTree.resolve d c.url w).2.emitted = w.emitted := emitted_resolve w c.url
  -- `listDir` reads the card anew; the other calls take what the path resolved to.
  cases c with
  | listDir url => exact hs.listDir hd ho hseg w
  | stat url =>
      have hstat := hs.stat hseg hbuilt
      dsimp only [Call.url] at hnode hstat
      show Answers t (.stat url) w (doStat d url w)
      rw [doStat_eq hd.presents, hnode, hstat]
      exact ⟨_, congrArg (· ++ [_]) hemitted, rfl, rfl⟩
  | mimetype url =>
      have hmime := hs.mimetype hseg hbuilt
      dsimp only [Call.url] at hnode hmime
      show Answers t (.mimetype url) w (doMimetype d url w)
      rw [doMimetype_eq hd.presents, hnode, hmime]
      exact ⟨_, congrArg (· ++ [_]) hemitted, rfl, rfl⟩
  | get url =>
      have hrun : doGet d q url w = getNode d q url node (CardTree.resolve d url w).2 := by
        dsimp only [Call.url] at hnode
        rw [← hnode, ← nodeAt_eq hd.presents w url]
        rfl
      obtain ⟨emitted, hout, htree⟩ := hs.get hd ho (CardTree.resolve d url w).2 url
      show Answers t (.get url) w (doGet d q url w)
      rw [hrun]
      exact ⟨emitted, hout.trans (congrArg (· ++ emitted) hemitted), htree⟩

end Answers

end LibreKDE.Kio
